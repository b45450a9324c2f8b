import ItemSpec.Item.Slot
set_option autoImplicit false

/-! Tests of what stands in the place of a stack. A test is any function to a verdict or a fault;
`Condition` is a small language of tests for hosts that describe them as data. Matchers that a lookup
gives are asked about stacks; a host may ask about nothing, and about objects of other sorts, too. -/

namespace ItemSpec

abbrev Verdict := Except Fault Bool

/-- A test of what stands in the place of a stack. Of a stack it sees the contents alone, so it answers
alike for equal stacks. -/
abbrev Test := Slot → Verdict

namespace Verdict

/-- Both verdicts hold. The second is asked for only if the first holds. -/
def both (first second : Verdict) : Verdict :=
  match first with
  | .ok true => second
  | settled => settled

def either (first second : Verdict) : Verdict :=
  match first with
  | .ok false => second
  | settled => settled

def negate : Verdict → Verdict :=
  Except.map (!·)

end Verdict

namespace Test

/-- The test of one part of the metadata; a stack without metadata does not pass it. -/
def ofData (part : DataPart) (holds : Meta → Bool) : Test := fun slot =>
  slot.data >>= fun
    | .nothing => .ok false
    | data => (data.read part).map holds

theorem ofData_stack (part : DataPart) (holds : Meta → Bool) (stack : Stack) :
    ofData part holds (.stack stack) = .ok (stack.meta?.any holds) := by
  unfold ofData
  rw [Slot.data_stack]
  cases stack.meta? <;> rfl

/-- Every test holds, asked in order up to the first that does not. -/
def all : List Test → Test
  | [], _ => .ok true
  | test :: others, slot => Verdict.both (test slot) (all others slot)

end Test

inductive Condition where
  | always (verdict : Bool)
  | material (wanted : Named Material)
  | tag (key : Text) (value? : Option Text)
  | displayName (name? : Option Text)
  | leastAmount (amount : Int)
  | both (first second : Condition)
  | either (first second : Condition)
  | not (condition : Condition)
  | fail (message : Text)
deriving DecidableEq

namespace Condition

def test : Condition → Test
  | .always verdict, _ => .ok verdict
  | .material wanted, slot =>
    slot.material >>= fun material => wanted.map fun sought => decide (material = sought)
  | .tag key value?, slot =>
    Test.ofData .tags (fun data => decide (data.tags.find? key = value?)) slot
  | .displayName name?, slot =>
    Test.ofData .displayName (fun data => decide (data.displayName = name?)) slot
  | .leastAmount least, slot => slot.amount.map fun amount => decide (least ≤ amount)
  | .both first second, slot => Verdict.both (first.test slot) (second.test slot)
  | .either first second, slot => Verdict.either (first.test slot) (second.test slot)
  | .not condition, slot => Verdict.negate (condition.test slot)
  | .fail message, _ => .error (.raised message)

def all (conditions : List Condition) : Condition :=
  conditions.foldr both (.always true)

def any (conditions : List Condition) : Condition :=
  conditions.foldr either (.always false)

end Condition

end ItemSpec
