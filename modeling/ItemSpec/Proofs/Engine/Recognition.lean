import ItemSpec.Proofs.Engine.Genuine
import ItemSpec.Proofs.Registry.OrderedMap
set_option autoImplicit false

/-! Recognition. A stack that is matched for the sake of a custom item is recognised as a custom item: perhaps
as another one, which then matches it too and has its place no later in the order of the keys. -/

namespace ItemSpec

namespace Registry

def rank (registry : Registry) (item : Handle) : Nat :=
  registry.keys.findIdx fun key => (registry.get? key).any fun bound => bound.serial == item.serial

/-- A stack is recognised as a custom item, and what it is taken for comes no later than this item. -/
structure Recognises (registry : Registry) (stack : Stack) (item : Handle) : Prop where
  contains : registry.contains (.stack stack) = .ok true
  found : ∃ holder key, registry.find? (.stack stack) = .ok (some holder) ∧
    registry.get? key = some holder ∧ holder.matcher.matchesSlot (.stack stack) = .ok true ∧
    registry.rank holder ≤ registry.rank item

variable {objects : Nat → Matcher} {changes : List Change} {registry : Registry}

private theorem Stands.registered {key : Key} {serial : Nat} (stands : Stands objects changes key serial) :
    .register key serial ∈ changes := by
  obtain ⟨before, made, after, rfl, ⟨rfl, _⟩, _⟩ := stands
  exact List.mem_append_right before List.mem_cons_self

private theorem Answers.genuine (answers : Answers objects changes registry)
    (customs : ∀ key serial, .register key serial ∈ changes →
      ∃ item : CustomItem, object objects serial = item.handle) : registry.Genuine := by
  intro key handle bound
  obtain ⟨serial, isObject, stands⟩ := (answers key handle).1 bound
  obtain ⟨item, isItem⟩ := customs key serial stands.registered
  exact ⟨item, isObject.trans isItem⟩

private theorem rank_le_of_bound {before after : List Key} {key : Key} {item : Handle}
    (split : registry.keys = before ++ key :: after) (bound : registry.get? key = some item) :
    registry.rank item ≤ before.length := by
  have atKey : ((registry.get? key).any fun held => held.serial == item.serial) = true := by
    rw [bound]
    exact beq_self_eq_true item.serial
  unfold rank
  rw [split, List.findIdx_append]
  split
  · rename_i earlier
    exact Nat.le_of_lt earlier
  · rw [List.findIdx_cons, atKey, cond_true, Nat.zero_add]

private theorem le_rank_of_unbound {before after : List Key} {item : Handle}
    (split : registry.keys = before ++ after)
    (unbound : ∀ earlier ∈ before, ∀ held, registry.get? earlier = some held → held.serial ≠ item.serial) :
    before.length ≤ registry.rank item := by
  have none : before.findIdx (fun key => (registry.get? key).any fun held => held.serial == item.serial) =
      before.length := by
    apply List.findIdx_eq_length_of_false
    intro earlier member
    cases current : registry.get? earlier with
    | none => rfl
    | some held => exact beq_eq_false_iff_ne.2 (unbound earlier member held current)
  unfold rank
  rw [split, List.findIdx_append, none, if_neg (Nat.lt_irrefl _)]
  exact Nat.le_add_left _ _

/-- Of two items that match a stack, the search comes to the one whose place is first. -/
theorem Holds.rank_le (answers : Answers objects changes registry) {slot : Slot} {holder item : Handle}
    (holds : registry.Holds slot holder) (accepted : item.matcher.matchesSlot slot = .ok true)
    {key : Key} (bound : registry.get? key = some item) : registry.rank holder ≤ registry.rank item := by
  obtain ⟨before, atHolder, after, split, boundHolder, _, passed⟩ := holds
  refine Nat.le_trans (rank_le_of_bound split boundHolder) (le_rank_of_unbound split ?_)
  intro earlier member held current sameObject
  obtain ⟨skipped, currentToo, rejected⟩ := passed earlier member
  have same : held = item := by
    rw [answers.known held current, sameObject, ← answers.known item bound]
  rw [current, Option.some.injEq] at currentToo
  rw [← currentToo, same, accepted] at rejected
  cases rejected

private theorem Answers.recognises (answers : Answers objects changes registry) {stack : Stack}
    (judged : ∀ key item, registry.get? key = some item → ∃ verdict, item.matcher.accepts stack = .ok verdict)
    {key : Key} {item : Handle} (bound : registry.get? key = some item)
    (accepted : item.matcher.accepts stack = .ok true) : registry.Recognises stack item := by
  cases search : registry.find? (.stack stack) with
  | error fault =>
      obtain ⟨_, faulty, boundFaulty, gaveUp⟩ := registry.exists_of_find?_eq_error search
      obtain ⟨verdict, answered⟩ := judged _ faulty boundFaulty
      cases gaveUp.symm.trans answered
  | ok holder? =>
      cases holder? with
      | none =>
          cases ((registry.find?_eq_none_iff _).1 search key item bound).symm.trans accepted
      | some holder =>
          have holds := (registry.find?_eq_some_iff _ holder).1 search
          obtain ⟨_, place, _, _, boundHolder, acceptedHolder, _⟩ := id holds
          refine ⟨?_, holder, place, search, boundHolder, acceptedHolder, holds.rank_le answers accepted bound⟩
          rw [contains, search]
          rfl

end Registry

namespace Engine

open Modifier (BuiltIn)
open Registry (Change object ofChanges)

variable {engine : Engine}

private theorem accepts_base_of_modify {base dressed : Found} {modifiers : List Text} {stack : Stack}
    (modified : (engine.modify base modifiers).outcome = .ok (some dressed))
    (accepted : dressed.matcher.accepts stack = .ok true) : base.matcher.accepts stack = .ok true := by
  cases readable : base.matcher.representative.meta? with
  | none =>
      rw [engine.modify_of_unreadable base modifiers readable, Except.ok.injEq, Option.some.injEq] at modified
      rw [modified]
      exact accepted
  | some before =>
      obtain ⟨replies, after, answers, rfl⟩ := (engine.modify_eq_some_iff base modifiers readable dressed).1 modified
      exact ((accepts_dress_iff base answers stack).1 accepted).1

private theorem Orders.accepts_base {spec : Text} {found : Found} {order : Order} {stack : Stack}
    (orders : engine.Orders spec found order) (accepted : found.matcher.accepts stack = .ok true) :
    order.base.found.matcher.accepts stack = .ok true := by
  obtain ⟨_, looked, reads⟩ := orders
  obtain ⟨dressed?, modified⟩ := engine.modify_outcome order.base.found order.modifiers
  rw [lookupAlternative_of_reads reads, fill, Traced.outcome_bind, modified, Fault.ok_bind] at looked
  cases dressed? with
  | none =>
      cases looked
      cases accepted
  | some dressed =>
      cases looked
      exact accepts_base_of_modify modified ((engine.accepts_count_iff dressed order.amount stack).1 accepted).1

private theorem Orders.bound {spec : Text} {found : Found} {order : Order} {item : Handle}
    (orders : engine.Orders spec found order) (isItem : order.base = .item item) :
    ∃ key, engine.registry.get? key = some item := by
  obtain ⟨_, _, reads⟩ := orders
  exact reads.bound isItem

/-- In a registry of custom items that answer, whatever was done to it, a stack that a lookup's matcher accepts
for the sake of a custom item is recognised as that item or as one before it; and so is the stack of every
item that is bound. -/
theorem lookup_recognised {objects : Nat → Matcher} {changes : List Change}
    (reached : engine.registry = ofChanges objects changes)
    (customs : ∀ key serial, .register key serial ∈ changes →
      ∃ item : CustomItem, object objects serial = item.handle)
    (judged : ∀ key item, engine.registry.get? key = some item →
      ∀ stack, ∃ verdict, item.matcher.accepts stack = .ok verdict) :
    (∀ spec found stack, (engine.lookup spec).outcome = .ok found → found.matcher.accepts stack = .ok true →
      ∃ order, (∀ other, engine.Orders spec found other ↔ other = order) ∧
        ∀ item, order.base = .item item → engine.registry.Recognises stack item) ∧
    ∀ key item, engine.registry.get? key = some item →
      engine.registry.Recognises item.matcher.representative item := by
  have answers : Registry.Answers objects changes engine.registry := by
    rw [reached]
    exact (Registry.ofChanges_answers objects changes).1
  constructor
  · intro spec found stack looked accepted
    have notEmpty := Matcher.notEmpty_of_accepts accepted
    obtain ⟨order, _, orders, _, _⟩ := lookup_orders looked notEmpty
    refine ⟨order, orders.iff_eq notEmpty, ?_⟩
    intro item isItem
    obtain ⟨key, bound⟩ := orders.bound isItem
    have acceptedBase := orders.accepts_base accepted
    rw [isItem] at acceptedBase
    exact answers.recognises (fun key item bound => judged key item bound stack) bound acceptedBase
  · intro key item bound
    obtain ⟨custom, rfl⟩ := answers.genuine customs key item bound
    exact answers.recognises (fun key item bound => judged key item bound _) bound custom.accepts_own

/-- Gems are also among things of any kind, whose key lost its place to that of the gems. -/
theorem lookup_recognised_gems :
    let gems := CustomItem.gems
    let thing : CustomItem :=
      ⟨2, ⟨"vault".toList, "thing".toList⟩, .test (Condition.always true).test, .of .paper,
        Stack.settle_settled _, rfl, rfl⟩
    let objects := fun serial => if serial = 1 then gems.toMatcher else thing.toMatcher
    let changes : List Change :=
      [.register thing.key 2, .register gems.key 1, .remove thing.key, .register thing.key 2]
    let engine := { offering gems BuiltIn.all with registry := ofChanges objects changes }
    let spec := "vault:coins?Vault:Thing:7 unbreakable".toList
    let stack : Stack := { material := .stick, amount := 9, meta? := some { unbreakable := true } }
    (∀ key serial, .register key serial ∈ changes → ∃ item : CustomItem, object objects serial = item.handle) ∧
      (∀ key item, engine.registry.get? key = some item →
        ∀ stack, ∃ verdict, item.matcher.accepts stack = .ok verdict) ∧
      engine.registry.keys = [gems.key, thing.key] ∧
      (∃ found, (engine.lookup spec).outcome = .ok found ∧ found.matcher.accepts stack = .ok true ∧
        ∃ order, (∀ other, engine.Orders spec found other ↔ other = order) ∧
          ∀ item, order.base = .item item → engine.registry.Recognises stack item) ∧
      engine.registry.Recognises gems.item gems.handle := by
  intro gems thing objects changes engine spec stack
  have customs : ∀ key serial, .register key serial ∈ changes →
      ∃ item : CustomItem, object objects serial = item.handle := by
    intro key serial registered
    by_cases one : serial = 1
    · rw [one]
      exact ⟨gems, rfl⟩
    · obtain ⟨_, two⟩ : key = thing.key ∧ serial = 2 := by simpa [changes, one] using registered
      rw [two]
      exact ⟨thing, rfl⟩
  have judged : ∀ key item, engine.registry.get? key = some item →
      ∀ stack, ∃ verdict, item.matcher.accepts stack = .ok verdict := by
    intro key item bound stack
    obtain ⟨serial, rfl, _⟩ := ((Registry.ofChanges_answers objects changes).1 key item).1 bound
    by_cases one : serial = 1
    · exact ⟨decide (5 ≤ stack.amount), by simp only [object, objects, if_pos one]; rfl⟩
    · exact ⟨true, by simp only [object, objects, if_neg one]; rfl⟩
  have finds : engine.finds spec (fun matcher => decide (matcher.accepts stack = .ok true)) = true := by
    decide +kernel
  obtain ⟨found, looked, _, decided⟩ := (finds_eq_true_iff spec _).1 finds
  have accepted := of_decide_eq_true decided
  have reached : engine.registry = ofChanges objects changes := rfl
  obtain ⟨recognised, shown⟩ := lookup_recognised reached customs judged
  exact ⟨customs, judged, by decide, ⟨found, looked, accepted, recognised spec found stack looked accepted⟩,
    shown gems.key gems.handle (by rfl)⟩

end Engine

end ItemSpec
