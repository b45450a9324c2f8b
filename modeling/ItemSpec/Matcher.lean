import ItemSpec.Item.Test
set_option autoImplicit false

/-! Matchers: what a spec stands for. A matcher decides which stacks are the item it names, and it
has a representative, a stack to show for it. Matchers are trees; every one of them is a value that
no later operation can change. -/

namespace ItemSpec

/-- A matcher. Custom items come in two forms, one with a test of the host and one defined by another
matcher; both carry the serial number that tells custom items with equal contents apart. -/
inductive Matcher where
  | empty
  | material (material : Material)
  | custom (serial : Nat) (key : Key) (test : Test) (item : Stack)
  | composed (serial : Nat) (key : Key) (definition : Matcher) (item : Stack)
  | modified (base : Matcher) (test : Test) (shown : Stack)
  | counted (base : Matcher) (amount : Int) (policy : StackPolicy)

namespace Matcher

def judge : Matcher → Test
  | .empty, _ => .ok false
  | .material wanted, slot => slot.material.map fun material => decide (material = wanted)
  | .custom _ _ test _, slot => test slot
  | .composed _ _ definition _, slot => definition.judge slot
  | .modified base test _, slot => Verdict.both (base.judge slot) (test slot)
  | .counted base amount policy, slot =>
    Verdict.both (base.judge slot) (slot.amount.map fun held => policy.accepts held amount)

def accepts (matcher : Matcher) (stack : Stack) : Verdict :=
  matcher.judge (.stack stack)

/-- The verdict on whatever stands in the place of a stack; nothing is never matched. -/
def matchesSlot (matcher : Matcher) : Test
  | .nothing => .ok false
  | slot => matcher.judge slot

/-- The stack that is shown for a matcher. Stored stacks are copied, and a copy is settled. -/
def representative : Matcher → Stack
  | .empty => .of .air
  | .material wanted => .of wanted
  | .custom _ _ _ item => item.settle
  | .composed _ _ _ item => item.settle
  | .modified _ _ shown => shown.settle
  | .counted base amount _ => { base.representative with amount }

def children : Matcher → List Matcher
  | .empty => []
  | .material _ => []
  | .custom .. => []
  | .composed _ _ definition _ => [definition]
  | .modified base _ _ => [base]
  | .counted base _ _ => [base]

/-- The matcher and everything below it, the root first. -/
def tree : Matcher → List Matcher
  | .empty => [.empty]
  | .material wanted => [.material wanted]
  | .custom serial key test item => [.custom serial key test item]
  | .composed serial key definition item => .composed serial key definition item :: definition.tree
  | .modified base test shown => .modified base test shown :: base.tree
  | .counted base amount policy => .counted base amount policy :: base.tree

def descendants (matcher : Matcher) : List Matcher :=
  matcher.tree.tail

def key? : Matcher → Option Key
  | .custom _ key _ _ => some key
  | .composed _ key _ _ => some key
  | _ => none

def isEmpty : Matcher → Bool
  | .empty => true
  | _ => false

def kind : Matcher → Text
  | .empty => "empty".toList
  | .material _ => "material".toList
  | .custom .. => "custom".toList
  | .composed .. => "custom".toList
  | .modified .. => "modified".toList
  | .counted .. => "stack".toList

def modifiedText (base : Text) : Text :=
  "ModifiedTestableItem(".toList ++ base ++ [')']

def countedText (base : Text) (amount : Int) (policy : StackPolicy) : Text :=
  "TestableStack(".toList ++ base ++ ", amount=".toList ++ Decimal.render amount ++
    ", policy=".toList ++ policy.name ++ [')']

def text : Matcher → Text
  | .empty => "EmptyTestableItem()".toList
  | .material wanted => "MaterialTestableItem(".toList ++ wanted.name ++ [')']
  | .custom _ key _ _ => "CustomItem(".toList ++ key.text ++ [')']
  | .composed _ key _ _ => "CustomItem(".toList ++ key.text ++ [')']
  | .modified base _ _ => modifiedText base.text
  | .counted base amount policy => countedText base.text amount policy

/-- The name of the form of a matcher: its written form up to the bracket. -/
def form (matcher : Matcher) : Text :=
  matcher.text.takeWhile (· ≠ '(')

/-! ### Verdicts on stacks -/

@[simp] theorem matchesSlot_nothing (matcher : Matcher) :
    matcher.matchesSlot .nothing = .ok false := rfl

@[simp] theorem matchesSlot_stack (matcher : Matcher) (stack : Stack) :
    matcher.matchesSlot (.stack stack) = matcher.accepts stack := rfl

@[simp] theorem accepts_empty (stack : Stack) : empty.accepts stack = .ok false := rfl

@[simp] theorem accepts_material (wanted : Material) (stack : Stack) :
    (material wanted).accepts stack = .ok (decide (stack.material = wanted)) := rfl

@[simp] theorem accepts_custom (serial : Nat) (key : Key) (test : Test) (item stack : Stack) :
    (custom serial key test item).accepts stack = test (.stack stack) := rfl

@[simp] theorem accepts_composed (serial : Nat) (key : Key) (definition : Matcher)
    (item stack : Stack) :
    (composed serial key definition item).accepts stack = definition.accepts stack := rfl

@[simp] theorem accepts_modified (base : Matcher) (test : Test) (shown stack : Stack) :
    (modified base test shown).accepts stack =
      Verdict.both (base.accepts stack) (test (.stack stack)) := rfl

@[simp] theorem accepts_counted (base : Matcher) (amount : Int) (policy : StackPolicy)
    (stack : Stack) :
    (counted base amount policy).accepts stack =
      Verdict.both (base.accepts stack) (.ok (policy.accepts stack.amount amount)) := rfl

end Matcher

end ItemSpec
