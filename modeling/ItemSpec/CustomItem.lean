import ItemSpec.Matcher
import ItemSpec.Traced
set_option autoImplicit false

/-! Custom items: matchers that a host defines under a key. A custom item has a stack of its own, with
metadata, that its definition accepts; that is checked once, on the stored copy, when it is made. -/

namespace ItemSpec

inductive Definition where
  | test (test : Test)
  | matcher (matcher : Matcher)

namespace Definition

def judge : Definition → Test
  | .test definingTest => definingTest
  | .matcher definingMatcher => definingMatcher.judge

def accepts (definition : Definition) (stack : Stack) : Verdict :=
  definition.judge (.stack stack)

def toMatcher (definition : Definition) (serial : Nat) (key : Key) (item : Stack) : Matcher :=
  match definition with
  | .test definingTest => .custom serial key definingTest item
  | .matcher definingMatcher => .composed serial key definingMatcher item

end Definition

structure CustomItem where
  serial : Nat
  key : Key
  definition : Definition
  item : Stack
  settled : item.Settled
  readable : item.meta?.isSome
  accepted : definition.accepts item = .ok true

namespace CustomItem

/-- Makes a custom item of a copy of the given stack, or reports which check it fails. -/
def create (serial : Nat) (key : Key) (definition : Definition) (item : Stack) :
    Traced CustomItem :=
  if readable : item.settle.meta?.isSome then
    match accepted : definition.accepts item.settle with
    | .ok true =>
      pure { serial, key, definition, item := item.settle, settled := item.settle_settled,
             readable, accepted }
    | .ok false => do
      Traced.note (.unmatchedItem key)
      Traced.fail (.unmatchedItem key)
    | .error fault => Traced.fail fault
  else do
    Traced.note (.unreadableItem key)
    Traced.fail (.unreadableItem key)

def ofMatcher (serial : Nat) (key : Key) (matcher : Matcher) : Traced CustomItem :=
  create serial key (.matcher matcher) matcher.representative

def toMatcher (custom : CustomItem) : Matcher :=
  custom.definition.toMatcher custom.serial custom.key custom.item

theorem accepts_toMatcher (custom : CustomItem) :
    custom.toMatcher.accepts = custom.definition.accepts := by
  unfold toMatcher
  cases custom.definition with
  | test test => rfl
  | matcher definition => rfl

theorem representative_toMatcher (custom : CustomItem) :
    custom.toMatcher.representative = custom.item := by
  have same := Stack.settle_of_settled custom.settled
  unfold toMatcher
  cases custom.definition with
  | test test => exact same
  | matcher definition => exact same

end CustomItem

end ItemSpec
