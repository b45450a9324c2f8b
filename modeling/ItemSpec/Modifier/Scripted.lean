import ItemSpec.Json
import ItemSpec.Modifier.Parser
set_option autoImplicit false

/-! Parsers of a host, described as data: to watch what parsers are given, to add conditions of the
host's own, and to see what becomes of a lookup whose parsers fail. -/

namespace ItemSpec.Modifier

inductive Scripted where
  | recorder (label : Text)
  | failing (message : Text)
  /-- Answers with a value in place of a test; `null` is the answer that no token was meant for it. -/
  | answering (value : Json)
  | loreLine (token line : Text)
  | undemanding
  | demanding (condition : Condition)

namespace Scripted

def name : Scripted → Text
  | .recorder _ => "RecordingParser".toList
  | .failing _ => "ExplodingParser".toList
  | .answering _ => "BrokenParser".toList
  | .loreLine .. => "LoreParser".toList
  | .undemanding => "TrueParser".toList
  | .demanding _ => "PredicateParser".toList

def read : Scripted → List Text → Meta → Reading Meta Reply
  | .recorder label, tokens, data => ⟨data, ⟨[.given label tokens (some data)], .ok .nothing⟩⟩
  | .failing message, _, data => ⟨data, .fail (.raised message)⟩
  | .answering .null, _, data => ⟨data, pure .nothing⟩
  | .answering value, _, data => ⟨data, pure (.invalid value.kind)⟩
  | .loreLine token line, tokens, data =>
    ⟨if token ∈ tokens then { data with lore := data.lore ++ [line] } else data, pure .nothing⟩
  | .undemanding, _, data => ⟨data, pure .anything⟩
  | .demanding condition, _, data => ⟨data, pure (.test condition.test)⟩

def parser (scripted : Scripted) : Parser :=
  ⟨scripted.name, .lore, scripted.read⟩

end Scripted

end ItemSpec.Modifier
