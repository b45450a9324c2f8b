import ItemSpec.Matcher
set_option autoImplicit false

/-! Hollow matchers: modifiers and amounts around something that is no matcher, where a host wraps what
a key is bound to and the key is not bound. A hollow matcher can be made and shown in part; what needs
the matcher at its bottom is a fault. -/

namespace ItemSpec

inductive Hollow where
  | other (form text : Text)
  | modified (base : Hollow) (shown : Stack)
  | counted (base : Hollow) (amount : Int) (policy : StackPolicy)

namespace Hollow

def nothing : Hollow := .other Fault.noForm "None".toList

def text : Hollow → Text
  | .other _ written => written
  | .modified base _ => Matcher.modifiedText base.text
  | .counted base amount policy => Matcher.countedText base.text amount policy

def form : Hollow → Text
  | .other named _ => named
  | wrapper => wrapper.text.takeWhile (· ≠ '(')

def bottomForm : Hollow → Text
  | .other named _ => named
  | .modified base _ => base.bottomForm
  | .counted base _ _ => base.bottomForm

def kind : Hollow → Except Fault Text
  | .other named _ => .error (.lacks named "kind".toList)
  | .modified .. => .ok "modified".toList
  | .counted .. => .ok "stack".toList

def childKinds : Hollow → Except Fault (List Text)
  | .other .. => .ok []
  | .modified base _ => base.kind.map List.singleton
  | .counted base _ _ => base.kind.map List.singleton

/-- The verdict on whatever stands in the place of a stack. A wrapper refuses nothing at once; anything
else is a matter for the bottom. -/
def verdict : Hollow → Test
  | .other named _, _ => .error (.lacks named "matches".toList)
  | _, .nothing => .ok false
  | wrapper, _ => .error (.lacks wrapper.bottomForm "matches".toList)

/-- The stack that is shown. Modifiers show a stack of their own, so it can be told above them. -/
def representative : Hollow → Except Fault Stack
  | .other named _ => .error (.lacks named "get_item".toList)
  | .modified _ shown => .ok shown.settle
  | .counted base amount _ => base.representative.map fun stack => { stack with amount }

def treeFault (wrapper : Hollow) : Fault :=
  .lacks wrapper.bottomForm "iter_tree".toList

end Hollow

end ItemSpec
