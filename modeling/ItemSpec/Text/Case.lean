import ItemSpec.Text.CaseTable
import ItemSpec.Text.Basic
set_option autoImplicit false

/-! Full case mapping of Unicode. A letter may become several letters, and a capital sigma has two
lower-case forms: the final one stands where a cased letter comes before it and none comes after it,
case-ignorable letters being passed over on both sides. -/

namespace ItemSpec.Text

/-- Letters that are passed over when the neighbours of a sigma are looked for. -/
def isCaseIgnorable (letter : Char) : Bool :=
  CodeSpan.covers CaseTable.ignorable letter.toNat

def isCased (letter : Char) : Bool :=
  CodeSpan.covers CaseTable.cased letter.toNat

def lowerLetter (letter : Char) : Text :=
  if letter = 'İ' then ['i', Char.ofNat 0x307]
  else [Char.ofNat (CodeRun.apply CaseTable.lower letter.toNat)]

def upperLetter (letter : Char) : Text :=
  match CaseTable.upperExpansions.lookup letter.toNat with
  | some codes => codes.map Char.ofNat
  | none => [Char.ofNat (CodeRun.apply CaseTable.upper letter.toNat)]

/-- Whether the last letter that counts is cased, once one more letter has been read. -/
def casedAfter (casedBefore : Bool) (letter : Char) : Bool :=
  if isCaseIgnorable letter then casedBefore else isCased letter

def startsCased : Text → Bool
  | [] => false
  | head :: rest => if isCaseIgnorable head then startsCased rest else isCased head

/-- Lower case of what follows a beginning that ended cased or not. -/
def lowerAfter (casedBefore : Bool) : Text → Text
  | [] => []
  | head :: rest =>
    (if head = 'Σ' then [if casedBefore && !startsCased rest then 'ς' else 'σ']
      else lowerLetter head) ++ lowerAfter (casedAfter casedBefore head) rest

def lower (text : Text) : Text :=
  lowerAfter false text

def upper (text : Text) : Text :=
  text.flatMap upperLetter

end ItemSpec.Text
