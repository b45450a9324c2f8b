import ItemSpec.Proofs.Engine.Genuine
import ItemSpec.Proofs.Registry.OrderedMap
set_option autoImplicit false

/-! Definitions that come back to a key. An item is refused under a key exactly where a custom item of that key
occurs below its root, through wrappers and definitions of any depth. What is registered, and the key that the
item itself carries, play no part. So no key is ever bound to an item that contains a custom item of the key. -/

namespace ItemSpec

namespace Matcher

/-- A matcher occurs in a tree: it is the root, or it occurs in a child of the root. -/
inductive Occurs (part : Matcher) : Matcher → Prop where
  | root : Occurs part part
  | child {whole child : Matcher} (member : child ∈ whole.children) (inside : Occurs part child) :
      Occurs part whole

/-- A custom item of this key occurs strictly below the root. -/
def Cites (whole : Matcher) (key : Key) : Prop :=
  ∃ child ∈ whole.children, ∃ part : Matcher, part.Occurs child ∧ part.key? = some key

@[elab_as_elim] theorem childwise {motive : Matcher → Prop}
    (step : ∀ whole, (∀ child ∈ whole.children, motive child) → motive whole) (matcher : Matcher) :
    motive matcher := by
  induction matcher with
  | empty => exact step _ nofun
  | material wanted => exact step _ nofun
  | custom serial key test item => exact step _ nofun
  | composed serial key definition item ih => exact step _ (List.forall_mem_singleton.2 ih)
  | modified base test shown ih => exact step _ (List.forall_mem_singleton.2 ih)
  | counted base amount policy ih => exact step _ (List.forall_mem_singleton.2 ih)

private theorem tree_eq (matcher : Matcher) : matcher.tree = matcher :: matcher.children.flatMap tree := by
  cases matcher <;> simp [tree, children]

private theorem mem_tree_iff (part whole : Matcher) : part ∈ whole.tree ↔ part.Occurs whole := by
  constructor
  · intro member
    induction whole using childwise with
    | step whole ih =>
        rw [tree_eq, List.mem_cons, List.mem_flatMap] at member
        rcases member with here | ⟨child, isChild, inside⟩
        · rw [here]
          exact .root
        · exact .child isChild (ih child isChild inside)
  · intro occurs
    induction occurs with
    | root =>
        rw [tree_eq]
        exact List.mem_cons_self
    | child isChild _ ih =>
        rw [tree_eq]
        exact List.mem_cons_of_mem _ (List.mem_flatMap.2 ⟨_, isChild, ih⟩)

end Matcher

namespace Registry

private theorem refersTo_iff (item : Handle) (key : Key) :
    refersTo item key = true ↔ item.matcher.Cites key := by
  unfold refersTo Matcher.descendants
  rw [List.any_eq_true, Matcher.tree_eq, List.tail_cons]
  constructor
  · intro ⟨part, below, named⟩
    obtain ⟨child, isChild, inside⟩ := List.mem_flatMap.1 below
    exact ⟨child, isChild, part, (Matcher.mem_tree_iff part child).1 inside, of_decide_eq_true named⟩
  · intro ⟨child, isChild, part, inside, named⟩
    have member := (Matcher.mem_tree_iff part child).2 inside
    exact ⟨part, List.mem_flatMap.2 ⟨child, isChild, member⟩, decide_eq_true named⟩

private theorem refersTo_eq_false_iff (item : Handle) (key : Key) :
    refersTo item key = false ↔ ¬item.matcher.Cites key := by
  rw [Bool.eq_false_iff, Ne, refersTo_iff]

def Uncited (registry : Registry) : Prop :=
  ∀ key item, registry.get? key = some item → ¬item.matcher.Cites key

/-- What comes of registering an object under a key: it is refused where it cites the key, and then nothing has
changed; otherwise it is what the key is bound to, and no other key is touched. -/
structure Guards (objects : Nat → Matcher) (registry : Registry) (key : Key) (serial : Nat) : Prop where
  refused : ∀ fault, (registry.change objects (.register key serial)).outcome = .error fault ↔
    (objects serial).Cites key ∧ fault = .selfReference key
  unchanged : (objects serial).Cites key → after objects registry (.register key serial) = registry
  bound : ¬(objects serial).Cites key → ∃ held, held.serial = serial ∧
    (after objects registry (.register key serial)).get? key = some held
  others : ∀ other, other ≠ key →
    (after objects registry (.register key serial)).get? other = registry.get? other

variable {objects : Nat → Matcher} {registry : Registry} {key : Key} {serial : Nat}

/-! ### One change -/

private theorem get?_after_register (registry : Registry)
    (taken : refersTo (object objects serial) key = false) :
    ∃ held, held.serial = serial ∧ (held = object objects serial ∨ registry.get? key = some held) ∧
      ∀ sought, (after objects registry (.register key serial)).get? sought =
        if sought = key then some held else registry.get? sought := by
  simp only [after, change_of_taken taken]
  cases current : registry.get? key with
  | none => exact ⟨_, rfl, .inl rfl, fun sought => get?_insert registry key sought _⟩
  | some bound =>
      by_cases same : bound.serial = serial
      · refine ⟨bound, same, .inr rfl, fun sought => ?_⟩
        simp only [if_pos same]
        by_cases atKey : sought = key
        · rw [if_pos atKey, atKey, current]
        · rw [if_neg atKey]
      · refine ⟨_, rfl, .inl rfl, fun sought => ?_⟩
        simp only [if_neg same]
        exact get?_insert registry key sought _

private theorem register_guards (objects : Nat → Matcher) (registry : Registry) (key : Key) (serial : Nat) :
    Guards objects registry key serial := by
  by_cases cites : (objects serial).Cites key
  · have refused := (refersTo_iff (object objects serial) key).2 cites
    have unchanged : after objects registry (.register key serial) = registry := after_register_of_refused refused
    refine ⟨fun fault => ?_, fun _ => unchanged, fun free => absurd cites free, fun other _ => ?_⟩
    · rw [change_of_refused refused, Except.error.injEq, eq_comm]
      exact (and_iff_right cites).symm
    · rw [unchanged]
  · have taken := (refersTo_eq_false_iff (object objects serial) key).2 cites
    obtain ⟨held, isObject, _, found⟩ := get?_after_register registry taken
    refine ⟨fun fault => ?_, fun impossible => absurd impossible cites, fun _ => ⟨held, isObject, ?_⟩, ?_⟩
    · rw [change_error_iff]
      constructor
      · intro ⟨_, _, same, refused, _⟩
        cases same
        cases taken.symm.trans refused
      · intro ⟨impossible, _⟩
        exact absurd impossible cites
    · rw [found, if_pos rfl]
    · intro other apart
      rw [found, if_neg apart]

private theorem Uncited.after (uncited : registry.Uncited) (made : Change) :
    (after objects registry made).Uncited := by
  intro sought item bound
  cases made with
  | register key serial =>
      cases refused : refersTo (object objects serial) key with
      | true =>
          rw [after_register_of_refused refused] at bound
          exact uncited sought item bound
      | false =>
          obtain ⟨held, _, origin, found⟩ := get?_after_register registry refused
          rw [found] at bound
          by_cases atKey : sought = key
          · rw [if_pos atKey, Option.some.injEq] at bound
            rw [← bound, atKey]
            rcases origin with new | old
            · rw [new]
              exact (refersTo_eq_false_iff _ key).1 refused
            · exact uncited key held old
          · rw [if_neg atKey] at bound
            exact uncited sought item bound
  | remove key =>
      rw [after_remove, get?_erase] at bound
      by_cases atKey : sought = key
      · rw [if_pos atKey] at bound
        cases bound
      · rw [if_neg atKey] at bound
        exact uncited sought item bound
  | clear => cases bound

/-! ### Whole runs -/

private theorem ofChanges_uncited (objects : Nat → Matcher) (changes : List Change) :
    (ofChanges objects changes).Uncited := by
  induction changes using List.reverseRecOn with
  | nil =>
      intro key item bound
      cases bound
  | append_singleton changes made ih =>
      rw [ofChanges_concat]
      exact ih.after made

/-- Whatever is registered, an item is refused under exactly those keys that it cites, and no run of changes
leads to a key that is bound to an item which cites it. -/
theorem register_refuses_self_reference (objects : Nat → Matcher) :
    (∀ registry key serial, Guards objects registry key serial) ∧
      ∀ changes, (ofChanges objects changes).Uncited :=
  ⟨register_guards objects, ofChanges_uncited objects⟩

/-- A hoard is nine of the gems in a dress of their own. It may have its own key and not that of the gems. -/
theorem register_refuses_self_reference_hoard :
    let gems := CustomItem.gems
    let hoard : Key := ⟨"vault".toList, "hoard".toList⟩
    let pile := Matcher.counted (.modified gems.toMatcher (Test.all []) gems.item) 9 .atLeast
    let objects := fun serial => if serial = 1 then gems.toMatcher else .composed 2 hoard pile (.of .diamond 9)
    let registry := ofChanges objects [.register gems.key 1, .register hoard 2]
    (objects 2).Cites gems.key ∧ ¬(objects 2).Cites hoard ∧
      (registry.change objects (.register gems.key 2)).outcome = .error (.selfReference gems.key) ∧
      after objects registry (.register gems.key 2) = registry ∧
      (∃ held, held.serial = 2 ∧ (after objects registry (.register hoard 2)).get? hoard = some held) ∧
      registry.Uncited := by
  intro gems hoard pile objects registry
  obtain ⟨guards, uncited⟩ := register_refuses_self_reference objects
  have insidePile : gems.toMatcher.Occurs pile :=
    .child (List.mem_singleton_self _) (.child (List.mem_singleton_self _) .root)
  have cites : (objects 2).Cites gems.key := ⟨pile, List.mem_singleton_self _, gems.toMatcher, insidePile, rfl⟩
  have free : ¬(objects 2).Cites hoard := (refersTo_eq_false_iff (object objects 2) hoard).1 (by decide)
  have refused := guards registry gems.key 2
  exact ⟨cites, free, (refused.refused _).2 ⟨cites, rfl⟩, refused.unchanged cites,
    (guards registry hoard 2).bound free, uncited _⟩

end Registry

end ItemSpec
