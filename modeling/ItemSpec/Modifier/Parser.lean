import ItemSpec.Matcher
import ItemSpec.Traced
set_option autoImplicit false

/-! Modifier parsers. Each parser sees every modifier token of a spec and the metadata of the
representative, which it may edit; it answers with a test of its own or with none. The parsers of an
engine run in order on one and the same metadata, so what a parser wrote stays written even when it,
or a later one, gives up. -/

namespace ItemSpec.Modifier

inductive Reply where
  /-- No token was meant for this parser. -/
  | nothing
  /-- The test that every stack passes. -/
  | anything
  | test (test : Test)
  | invalid (kind : Text)

/-- What a parser was given to edit, as the parser left it, and what came of the parsing. -/
structure Reading (Edited Result : Type) where
  data : Edited
  result : Traced Result

structure Parser where
  name : Text
  part : DataPart
  read : List Text → Meta → Reading Meta Reply

def Reply.test? (parser : Text) : Reply → Except Fault (Option Test)
  | .nothing => .ok none
  | .anything => .ok none
  | .test added => .ok (some added)
  | .invalid kind => .error (.notTest parser kind)

/-- Holds a parser to its contract. -/
def Parser.settle {Edited : Type} (parser : Parser) (reading : Reading Edited Reply) :
    Reading Edited (Option Test) :=
  ⟨reading.data, reading.result >>= fun reply => .lift (reply.test? parser.name)⟩

def Parser.apply (parser : Parser) (tokens : List Text) (data : Meta) :
    Reading Meta (Option Test) :=
  parser.settle (parser.read tokens data)

/-- Runs the parsers in order, each on what the one before it left, up to the first that gives up. The
result is the tests that were added, in order. -/
def inTurn {Edited : Type} (run : Parser → Edited → Reading Edited (Option Test)) :
    List Parser → Edited → Reading Edited (List Test)
  | [], edited => ⟨edited, pure []⟩
  | parser :: others, edited =>
    let first := run parser edited
    match first.result.outcome with
    | .error fault => ⟨first.data, first.result.events, .error fault⟩
    | .ok test? =>
      let later := inTurn run others first.data
      ⟨later.data, first.result >>= fun _ => later.result >>= fun tests =>
        pure (test?.toList ++ tests)⟩

def readAll (parsers : List Parser) (tokens : List Text) (data : Meta) : Reading Meta (List Test) :=
  inTurn (fun parser edited => parser.apply tokens edited) parsers data

inductive Offer where
  | parser (parser : Parser)
  | other (value : Json)

def Offer.apply : Offer → List Text → Meta → Reading Meta (Option Test)
  | .parser offered, tokens, data => offered.apply tokens data
  | .other value, _, data => ⟨data, .fail (.lacks value.kind "apply".toList)⟩

end ItemSpec.Modifier
