import ItemSpec.Modifier.Rule
import ItemSpec.Text.Blank
set_option autoImplicit false

/-! `name:Excalibur` or `name:"Holy Sword"`: the stack has this display name. The tokens are joined by
single spaces, so a quoted name keeps the spaces that cut it into tokens. The first quoted name counts;
where there is none, the first bare one does. -/

namespace ItemSpec.Modifier.DisplayName

def quoteMark : Char := Char.ofNat 0x22

def opening : Text := "name:".toList

/-- The text behind the opening, whatever the case of the opening's ASCII letters. -/
def behindOpening? (text : Text) : Option Text :=
  if (text.take opening.length).map Char.toLower = opening then some (text.drop opening.length)
  else none

def quoted? (text : Text) : Option Text :=
  match behindOpening? text with
  | some (mark :: rest) =>
    if mark = quoteMark ∧ quoteMark ∈ rest then some (rest.takeWhile (· ≠ quoteMark)) else none
  | _ => none

/-- The bare name that a text begins with: it ends at a blank or a quote and is not empty. -/
def bare? (text : Text) : Option Text :=
  match behindOpening? text with
  | some rest =>
    match rest.takeWhile fun letter => !Text.isBlank letter && letter ≠ quoteMark with
    | [] => none
    | name => some name
  | none => none

def afterBlank? (name? : Text → Option Text) : Text → Option Text
  | [] => none
  | head :: rest =>
    if Text.isBlank head then (name? rest).or (afterBlank? name? rest) else afterBlank? name? rest

/-- The first name that begins the text or begins behind a blank. -/
def first? (name? : Text → Option Text) (text : Text) : Option Text :=
  (name? text).or (afterBlank? name? text)

def wanted? (joined : Text) : Option Text :=
  (first? quoted? joined).or (first? bare? joined)

def rule : Rule Text where
  name := "NameArgParser".toList
  part := .displayName
  request tokens := pure (wanted? (Text.join [' '] tokens))
  write name data := { data with displayName := some name }
  holds name data := decide (data.displayName = some name)

end ItemSpec.Modifier.DisplayName
