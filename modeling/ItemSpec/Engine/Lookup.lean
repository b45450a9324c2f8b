import ItemSpec.Engine.Basic
import ItemSpec.Number
set_option autoImplicit false

/-! Lookup of a spec. A spec is a list of alternatives with question marks between them; an
alternative is a token that names an item, then possibly an amount, then modifier tokens, with single
spaces between them. The answer is the matcher of the first alternative that names an item, and the
empty matcher if none does.

The naming token is one of
* `material`,
* `scope:name` of a custom item, or else `material:amount`,
* `scope:name:amount` of a custom item. -/

namespace ItemSpec

inductive Found where
  | object (handle : Handle)
  | new (matcher : Matcher)

namespace Found

def matcher : Found → Matcher
  | .object handle => handle.matcher
  | .new matcher => matcher

def nothing : Found := .object .sharedEmpty

end Found

inductive Base where
  | material (material : Material)
  | item (item : Handle)

namespace Base

def found : Base → Found
  | .material named => .new (.material named)
  | .item handle => .object handle

end Base

namespace Engine

/-- The material of a name; air names no item, whoever resolves it. -/
def material? (engine : Engine) (name : Text) : Option Material :=
  (engine.resolve name).filter fun material => decide (material ≠ .air)

def identify (engine : Engine) (token : Text) : Except Fault (Option (Base × Int)) :=
  match Text.cut ':' (Text.lower token) with
  | [_] => .ok ((engine.material? token).map fun material => (.material material, 1))
  | [first, second] =>
    match engine.registry.get? (Key.of first second) with
    | some item => .ok (some (.item item, 1))
    | none =>
      (Number.read second).map fun amount? => do
        let material ← engine.material? first
        let amount ← amount?
        some (.material material, amount)
  | [first, second, third] =>
    (Number.read third).map fun amount? => do
      let item ← engine.registry.get? (Key.of first second)
      let amount ← amount?
      some (.item item, amount)
  | _ => .ok none

/-- The amount of an alternative and its modifiers: the token behind the naming token is the amount
if it is a number, and stands above the amount that is part of the naming token. -/
def takeAmount (named : Int) : List Text → Except Fault (Int × List Text)
  | [] => .ok (named, [])
  | token :: others =>
    (Number.read token).map fun
      | some amount => (amount, others)
      | none => (named, token :: others)

/-- What was found, with the modifiers applied. The parsers read the modifiers on a copy of the
representative's metadata; if they add no test and leave the copy as it was, or if there is no metadata,
what was found stays as it is. There is no answer if a parser gives up. -/
def modify (engine : Engine) (base : Found) (modifiers : List Text) : Traced (Option Found) :=
  let shown := base.matcher.representative
  if engine.parsers.isEmpty then pure (some base)
  else
    match shown.meta? with
    | none => pure (some base)
    | some before =>
      let reading := Modifier.readAll engine.parsers modifiers before
      match reading.result.outcome with
      | .error _ =>
        ⟨reading.result.events ++ [.notice (.parserFailed modifiers base.matcher.text)], .ok none⟩
      | .ok tests =>
        ⟨reading.result.events, .ok (some (
          if tests.isEmpty && decide (reading.data = before) then base
          else .new (.modified base.matcher (Test.all tests) (shown.setMeta (some reading.data)))))⟩

/-- What was found, in an amount; one of a thing is the thing itself. -/
def count (engine : Engine) (base : Found) (amount : Int) : Found :=
  if amount = 1 then base else .new (.counted base.matcher amount engine.policy)

def lookupAlternative (engine : Engine) (alternative : Text) : Traced Found :=
  match Text.cut ' ' (Text.dropTrailing ' ' alternative) with
  | [] => pure .nothing
  | token :: others =>
    if token = [] then pure .nothing
    else do
      match ← Traced.lift (engine.identify token) with
      | none =>
        Traced.note (.unresolved alternative)
        pure .nothing
      | some (base, named) =>
        let (amount, modifiers) ← Traced.lift (takeAmount named others)
        match ← engine.modify base.found modifiers with
        | none => pure .nothing
        | some found => pure (engine.count found amount)

/-- What the first of several alternatives names whose matcher is not empty. The alternatives behind it
are not looked at. -/
def lookupFirst (engine : Engine) : List Text → Traced Found
  | [] => pure .nothing
  | alternative :: others => do
    let found ← engine.lookupAlternative alternative
    if found.matcher.isEmpty then engine.lookupFirst others else pure found

/-- What a spec stands for. A spec of one alternative stands for what that names, even if it is an item
of the registry that matches nothing. -/
def lookup (engine : Engine) (spec : Text) : Traced Found :=
  match Text.cut '?' spec with
  | [alternative] => engine.lookupAlternative alternative
  | alternatives => engine.lookupFirst alternatives

end Engine

end ItemSpec
