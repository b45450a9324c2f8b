import ItemSpec.Key
import ItemSpec.Text.Decimal
import ItemSpec.Text.Quoted
set_option autoImplicit false

/-! What can go wrong, by cause, and the message that reports each cause. -/

namespace ItemSpec

inductive Fault where
  | digitLimit (digits : Nat)
  | malformedKey (written : Text)
  /-- Something that names nothing of a list of the catalogue was offered as a name from it. -/
  | unlisted (written list : Text)
  | unreadableItem (key : Key)
  | unmatchedItem (key : Key)
  | selfReference (key : Key)
  | notParser (written : Text)
  | notTest (parser : Text) (kind : Text)
  /-- Something of this form stands where one that has this part is needed. -/
  | lacks (form part : Text)
  /-- A part of something of this form can be seen and cannot be put in place. -/
  | fixed (form part : Text)
  | notCallable (form : Text)
  /-- Stacks carry one another in a circle, and what was done for this purpose has no end. -/
  | endless (purpose : Text)
  | raised (message : Text)
deriving DecidableEq

namespace Fault

def noForm : Text := "NoneType".toList

/-- Nothing stands where something that has this part is needed. -/
def absent (part : String) : Fault := .lacks noForm part.toList

def digitCapacity : Nat := 4300

def message : Fault → Text
  | .digitLimit digits =>
    "Exceeds the limit (".toList ++ Decimal.digits digitCapacity ++
      " digits) for integer string conversion: value has ".toList ++ Decimal.digits digits ++
      " digits; use sys.set_int_max_str_digits() to increase the limit".toList
  | .malformedKey written => "Invalid registry key: ".toList ++ Text.quote written
  | .unlisted written list => written ++ " is not a valid ".toList ++ list
  | .unreadableItem key =>
    "Custom item ".toList ++ key.text ++ " must have readable item meta".toList
  | .unmatchedItem key =>
    "The item of custom item ".toList ++ key.text ++ " must match its test".toList
  | .selfReference key =>
    "Custom item ".toList ++ key.text ++ " must not reference its own key".toList
  | .notParser written => "Not a LookupArgParser: ".toList ++ written
  | .notTest parser kind =>
    parser ++ ".parse_arguments must return a predicate or None, got ".toList ++ kind
  | .lacks form part =>
    Text.quote form ++ " object has no attribute ".toList ++ Text.quote part
  | .fixed form part =>
    "property ".toList ++ Text.quote part ++ " of ".toList ++ Text.quote form ++
      " object has no setter".toList
  | .notCallable form => Text.quote form ++ " object is not callable".toList
  | .endless purpose => "maximum recursion depth exceeded".toList ++ purpose
  | .raised message => message

end Fault

instance decideOutcome {Result : Type} [DecidableEq Result] : DecidableEq (Except Fault Result)
  | .ok result, .ok other =>
    if same : result = other then .isTrue (congrArg Except.ok same)
    else .isFalse fun equal => same (Except.ok.inj equal)
  | .error fault, .error other =>
    if same : fault = other then .isTrue (congrArg Except.error same)
    else .isFalse fun equal => same (Except.error.inj equal)
  | .ok _, .error _ => .isFalse fun equal => nomatch equal
  | .error _, .ok _ => .isFalse fun equal => nomatch equal

namespace Fault

variable {Result Later : Type}

@[simp] theorem ok_bind (result : Result) (next : Result → Except Fault Later) :
    (Except.ok result >>= next) = next result := rfl

@[simp] theorem error_bind (fault : Fault) (next : Result → Except Fault Later) :
    (Except.error fault >>= next) = .error fault := rfl

@[simp] theorem ok_map (result : Result) (change : Result → Later) :
    (Except.ok result : Except Fault Result).map change = .ok (change result) := rfl

@[simp] theorem error_map (fault : Fault) (change : Result → Later) :
    (Except.error fault : Except Fault Result).map change = .error fault := rfl

end Fault

def Key.parse (written : Text) : Except Fault Key :=
  match Key.parse? written with
  | some key => .ok key
  | none => .error (.malformedKey written)

end ItemSpec
