import ItemSpec.Modifier.Elsewhere
import ItemSpec.Session.Basic
set_option autoImplicit false

/-! Lookup as a host sees it: what is found is an object, and the metadata that the parsers read the
modifiers on is an object too, which they edit in place. Matchers that a lookup makes keep copies, so
neither that metadata nor anything else that a host can reach is part of them. -/

namespace ItemSpec.Action

def nothingFound : Entity := .matcher .sharedEmpty

def readModifiers (tokens : List Text) (object : Entity) : Action (Traced (List Test)) := do
  let session ← get
  let reading := Modifier.readAllSlot session.engine.parsers tokens (session.dataSlot object)
  putDataSlot object reading.data
  pure reading.result

def named : Base → Action Entity
  | .material material => newMatcher (.material material)
  | .item handle => pure (.matcher handle)

/-- What was found, with the modifiers applied; nothing if a parser gives up. The parsers work on a copy
of a copy of the metadata, and the first copy is what the outcome is compared with. -/
def modified (base : Entity) (modifiers : List Text) : Action (Option Entity) := do
  if (← get).engine.parsers.isEmpty then pure (some base)
  else
    match ← representative base with
    | .stack shown =>
      match ← readMeta shown with
      | .nothing => pure (some base)
      | original =>
        let snapshot ← copy original
        let read ← readModifiers modifiers snapshot
        match read.outcome with
        | .error _ =>
          record (read.events ++ [.notice (.parserFailed modifiers ((← get).text base))])
          pure none
        | .ok tests =>
          record read.events
          if ← unchanged tests snapshot original then pure (some base)
          else
            writeMeta shown snapshot
            some <$> newModified base (Test.all tests) (.stack shown)
    | other => failLacking other "get_item_meta"
where
  unchanged (tests : List Test) (snapshot original : Entity) : Action Bool := do
    if tests.isEmpty then settle ((← get).equal snapshot original) else pure false

/-- What was found, in an amount; one of a thing is the thing itself. -/
def counted (base : Entity) (amount : Int) : Action Entity := do
  if amount = 1 then pure base else newCounted base amount (← get).engine.policy

def lookupAlternative (alternative : Text) : Action Entity :=
  match Text.cut ' ' (Text.dropTrailing ' ' alternative) with
  | [] => pure nothingFound
  | token :: others =>
    if token = [] then pure nothingFound
    else do
      match ← settle ((← get).engine.identify token) with
      | none =>
        record [.notice (.unresolved alternative)]
        pure nothingFound
      | some (base, amount) =>
        let (amount, modifiers) ← settle (Engine.takeAmount amount others)
        match ← modified (← named base) modifiers with
        | none => pure nothingFound
        | some found => counted found amount

def lookupFirst : List Text → Action Entity
  | [] => pure nothingFound
  | alternative :: others => do
    let found ← lookupAlternative alternative
    if found.isEmpty then lookupFirst others else pure found

def lookup (spec : Text) : Action Entity :=
  match Text.cut '?' spec with
  | [alternative] => lookupAlternative alternative
  | alternatives => lookupFirst alternatives

end ItemSpec.Action
