import ItemSpec.Item.Meta
set_option autoImplicit false

/-! Computations that leave events behind. An event is a notice for the log or a record of what a
parser was given. Events survive a fault: what happened before it has happened. -/

namespace ItemSpec

inductive Severity where
  | debug | info | warning | error
deriving DecidableEq

namespace Severity

def name : Severity → Text
  | .debug => "DEBUG".toList
  | .info => "INFO".toList
  | .warning => "WARNING".toList
  | .error => "ERROR".toList

end Severity

inductive Notice where
  | unresolved (alternative : Text)
  | parserFailed (modifiers : List Text) (target : Text)
  /-- A token names an enchantment and no level that can be asked for. -/
  | malformedLevel (token : Text)
  | parserAdded (name : Text)
  | unreadableItem (key : Key)
  | unmatchedItem (key : Key)
  | selfReference (key : Key)
  | overwritten (key : Key)
  | registered (key : Key)
  | removed (key : Key)
  | unknownLogLevel (name : Text)
deriving DecidableEq

namespace Notice

def severity : Notice → Severity
  | .unresolved _ => .debug
  | .parserFailed .. => .error
  | .malformedLevel _ => .debug
  | .parserAdded _ => .info
  | .unreadableItem _ => .error
  | .unmatchedItem _ => .error
  | .selfReference _ => .error
  | .overwritten _ => .warning
  | .registered _ => .debug
  | .removed _ => .debug
  | .unknownLogLevel _ => .warning

def message : Notice → Text
  | .unresolved alternative => "Unresolved item lookup: ".toList ++ Text.quote alternative
  | .parserFailed modifiers target =>
    "Arg parser failed for modifiers ".toList ++ Text.quoteList modifiers ++ " on ".toList ++ target
  | .malformedLevel token => "Ignoring malformed enchantment level: ".toList ++ token
  | .parserAdded name => "Registered arg parser: ".toList ++ name
  | .unreadableItem key =>
    "Custom item ".toList ++ key.text ++ " has no readable item meta".toList
  | .unmatchedItem key =>
    "Custom item ".toList ++ key.text ++ " does not match its own item".toList
  | .selfReference key =>
    "Custom item ".toList ++ key.text ++ " references its own key".toList
  | .overwritten key => "Overwriting existing custom item: ".toList ++ key.text
  | .registered key => "Registered custom item: ".toList ++ key.text
  | .removed key => "Removed custom item: ".toList ++ key.text
  | .unknownLogLevel name =>
    "Unknown log level ".toList ++ Text.quote name ++ ", falling back to INFO".toList

end Notice

inductive Event where
  | notice (notice : Notice)
  /-- A parser with this label was given these tokens, and this metadata if there was any. -/
  | given (label : Text) (tokens : List Text) (data? : Option Meta)
deriving DecidableEq

structure Traced (Result : Type) where
  events : List Event
  outcome : Except Fault Result

namespace Traced

instance : Monad Traced where
  pure result := ⟨[], .ok result⟩
  bind first next :=
    match first.outcome with
    | .error fault => ⟨first.events, .error fault⟩
    | .ok result => ⟨first.events ++ (next result).events, (next result).outcome⟩

instance : LawfulMonad Traced := LawfulMonad.mk' _
  (fun traced => by
    cases traced with
    | mk events outcome => cases outcome <;> simp [Functor.map])
  (fun _ _ => rfl)
  (fun first second third => by
    cases first with
    | mk events outcome =>
      cases outcome with
      | error fault => rfl
      | ok result =>
        cases following : second result with
        | mk laterEvents laterOutcome =>
          cases laterOutcome <;> simp [bind, following])

def note (notice : Notice) : Traced Unit :=
  ⟨[.notice notice], .ok ()⟩

def fail {Result : Type} (fault : Fault) : Traced Result :=
  ⟨[], .error fault⟩

def lift {Result : Type} (outcome : Except Fault Result) : Traced Result :=
  ⟨[], outcome⟩

/-! ### What is left of a computation without its events -/

variable {Result Later : Type}

@[simp] theorem outcome_pure (result : Result) :
    (pure result : Traced Result).outcome = .ok result := rfl

@[simp] theorem outcome_note (notice : Notice) : (note notice).outcome = .ok () := rfl

@[simp] theorem outcome_fail (fault : Fault) :
    (fail fault : Traced Result).outcome = .error fault := rfl

@[simp] theorem outcome_lift (outcome : Except Fault Result) :
    (lift outcome).outcome = outcome := rfl

@[simp] theorem outcome_bind (first : Traced Result) (next : Result → Traced Later) :
    (first >>= next).outcome = first.outcome >>= fun result => (next result).outcome := by
  cases first with
  | mk events outcome => cases outcome <;> rfl

theorem lift_ok_bind (result : Result) (next : Result → Traced Later) :
    (lift (.ok result) >>= next) = next result := rfl

/-! ### Computations in sequence -/

theorem bind_of_ok {first : Traced Result} {result : Result} (finished : first.outcome = .ok result)
    (next : Result → Traced Later) :
    (first >>= next) = ⟨first.events ++ (next result).events, (next result).outcome⟩ := by
  simp only [bind, finished]

theorem bind_of_error {first : Traced Result} {fault : Fault} (failed : first.outcome = .error fault)
    (next : Result → Traced Later) : (first >>= next) = ⟨first.events, .error fault⟩ := by
  simp only [bind, failed]

theorem map_eq (change : Result → Later) (traced : Traced Result) :
    change <$> traced = ⟨traced.events, traced.outcome.map change⟩ := by
  rw [map_eq_pure_bind]
  cases finished : traced.outcome with
  | error fault => exact bind_of_error finished _
  | ok result =>
    rw [bind_of_ok finished]
    simp [pure]

end Traced

end ItemSpec
