import ItemSpec.Modifier.Parser
set_option autoImplicit false

/-! Rules: parsers that look for a request in the tokens, write it into the metadata and test for it.
Every parser of the library is of this form. -/

namespace ItemSpec.Modifier

structure Rule (Request : Type) where
  name : Text
  part : DataPart
  request : List Text → Traced (Option Request)
  write : Request → Meta → Meta
  holds : Request → Meta → Bool

namespace Rule

variable {Request : Type}

def test (rule : Rule Request) (request : Request) : Test :=
  .ofData rule.part (rule.holds request)

/-- The parser of a rule. Where looking for the request is given up, nothing has been written. -/
def parser (rule : Rule Request) : Parser where
  name := rule.name
  part := rule.part
  read tokens data :=
    let requested := rule.request tokens
    match requested.outcome with
    | .error fault => ⟨data, requested.events, .error fault⟩
    | .ok none => ⟨data, requested.events, .ok .nothing⟩
    | .ok (some request) =>
      ⟨rule.write request data, requested.events, .ok (.test (rule.test request))⟩

end Rule

end ItemSpec.Modifier
