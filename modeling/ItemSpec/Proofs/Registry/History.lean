import ItemSpec.Registry
import Mathlib.Data.List.Induction
set_option autoImplicit false

/-! What a host does to a registry, change by change, and what a history of changes says about a key: the
object that it was last bound to, and the moment since when it has been bound. -/

namespace ItemSpec.Registry

/-- What a host does to a registry. An item is given by its serial number. -/
inductive Change where
  | register (key : Key) (serial : Nat)
  | remove (key : Key)
  | clear

variable (objects : Nat → Matcher)

def object (serial : Nat) : Handle := ⟨serial, objects serial⟩

def change (registry : Registry) : Change → Traced Registry
  | .register key serial => registry.register key (object objects serial)
  | .remove key => registry.remove key
  | .clear => pure .empty

def after (registry : Registry) (made : Change) : Registry :=
  match (registry.change objects made).outcome with
  | .ok changed => changed
  | .error _ => registry

def ofChanges (changes : List Change) : Registry :=
  changes.foldl (after objects) .empty

namespace Change

def Binds (key : Key) (serial : Nat) (made : Change) : Prop :=
  made = .register key serial ∧ refersTo (object objects serial) key = false

def Unbinds (key : Key) (made : Change) : Prop :=
  made = .remove key ∨ made = .clear

end Change

/-- The key was bound to the object and nothing has been done to the binding since. -/
def Stands (changes : List Change) (key : Key) (serial : Nat) : Prop :=
  ∃ before made after, changes = before ++ made :: after ∧ made.Binds objects key serial ∧
    ∀ later ∈ after, ¬later.Unbinds key ∧ ∀ other, ¬later.Binds objects key other

/-- The key became bound when so many changes had been made, and has been bound ever since. -/
def BoundSince (changes : List Change) (key : Key) (moment : Nat) : Prop :=
  ∃ before made after, changes = before ++ made :: after ∧ before.length = moment ∧
    (∀ serial, ¬Stands objects before key serial) ∧ (∃ serial, made.Binds objects key serial) ∧
    ∀ later ∈ after, ¬later.Unbinds key

variable {objects} {changes : List Change} {made : Change} {key : Key} {serial : Nat}

/-! ### A history and one more change -/

private theorem concat_eq_iff {before after : List Change} {middle : Change} :
    changes ++ [made] = before ++ middle :: after ↔
      (before = changes ∧ middle = made ∧ after = []) ∨
        ∃ rest, after = rest ++ [made] ∧ changes = before ++ middle :: rest := by
  constructor
  · intro split
    rcases List.eq_nil_or_concat after with rfl | ⟨rest, last, rfl⟩
    · obtain ⟨sameChanges, sameLast⟩ := List.append_inj' split rfl
      exact .inl ⟨sameChanges.symm, (List.cons.inj sameLast).1.symm, rfl⟩
    · rw [List.concat_eq_append, ← List.cons_append, ← List.append_assoc] at split
      obtain ⟨sameChanges, sameLast⟩ := List.append_inj' split rfl
      obtain rfl := (List.cons.inj sameLast).1
      exact .inr ⟨rest, List.concat_eq_append, sameChanges⟩
  · rintro (⟨rfl, rfl, rfl⟩ | ⟨rest, rfl, rfl⟩)
    · rfl
    · simp

namespace Change

@[simp] theorem binds_register_iff (registered : Key) (item : Nat) :
    (Change.register registered item).Binds objects key serial ↔
      (registered = key ∧ item = serial) ∧ refersTo (object objects serial) key = false := by
  simp [Binds]

@[simp] theorem not_binds_remove (removed : Key) : ¬(Change.remove removed).Binds objects key serial := by
  simp [Binds]

@[simp] theorem not_binds_clear : ¬Change.clear.Binds objects key serial := by
  simp [Binds]

@[simp] theorem not_unbinds_register (registered : Key) (item : Nat) :
    ¬(Change.register registered item).Unbinds key := by
  simp [Unbinds]

@[simp] theorem unbinds_remove_iff (removed : Key) : (Change.remove removed).Unbinds key ↔ removed = key := by
  simp [Unbinds]

@[simp] theorem unbinds_clear : Change.clear.Unbinds key := .inr rfl

end Change

private theorem Change.Binds.not_unbinds (binds : made.Binds objects key serial) (other : Key) :
    ¬made.Unbinds other := by
  obtain ⟨rfl, _⟩ := binds
  rintro (impossible | impossible) <;> cases impossible

theorem stands_concat_iff :
    Stands objects (changes ++ [made]) key serial ↔ made.Binds objects key serial ∨
      Stands objects changes key serial ∧ ¬made.Unbinds key ∧ ∀ other, ¬made.Binds objects key other := by
  constructor
  · intro ⟨before, middle, after, split, binds, kept⟩
    rcases concat_eq_iff.1 split with ⟨_, rfl, _⟩ | ⟨rest, rfl, earlier⟩
    · exact .inl binds
    · obtain ⟨keptRest, keptLast⟩ := List.forall_mem_append.1 kept
      exact .inr ⟨⟨before, middle, rest, earlier, binds, keptRest⟩, keptLast made List.mem_cons_self⟩
  · rintro (binds | ⟨⟨before, middle, rest, earlier, binds, kept⟩, keeps⟩)
    · exact ⟨changes, made, [], rfl, binds, fun _ member => absurd member List.not_mem_nil⟩
    · refine ⟨before, middle, rest ++ [made], concat_eq_iff.2 (.inr ⟨rest, rfl, earlier⟩), binds, ?_⟩
      exact List.forall_mem_append.2 ⟨kept, List.forall_mem_singleton.2 keeps⟩

theorem boundSince_concat_iff {moment : Nat} :
    BoundSince objects (changes ++ [made]) key moment ↔
      (moment = changes.length ∧ (∀ serial, ¬Stands objects changes key serial) ∧
        ∃ serial, made.Binds objects key serial) ∨
      BoundSince objects changes key moment ∧ ¬made.Unbinds key := by
  constructor
  · intro ⟨before, middle, after, split, length, unbound, binds, kept⟩
    rcases concat_eq_iff.1 split with ⟨rfl, rfl, _⟩ | ⟨rest, rfl, earlier⟩
    · exact .inl ⟨length.symm, unbound, binds⟩
    · obtain ⟨keptRest, keptLast⟩ := List.forall_mem_append.1 kept
      exact .inr ⟨⟨before, middle, rest, earlier, length, unbound, binds, keptRest⟩,
        keptLast made List.mem_cons_self⟩
  · rintro (⟨length, unbound, binds⟩ | ⟨⟨before, middle, rest, earlier, length, unbound, binds, kept⟩, keeps⟩)
    · exact ⟨changes, made, [], rfl, length.symm, unbound, binds,
        fun _ member => absurd member List.not_mem_nil⟩
    · refine ⟨before, middle, rest ++ [made], concat_eq_iff.2 (.inr ⟨rest, rfl, earlier⟩), length,
        unbound, binds, ?_⟩
      exact List.forall_mem_append.2 ⟨kept, List.forall_mem_singleton.2 keeps⟩

theorem not_stands_nil : ¬Stands objects [] key serial := by
  rintro ⟨before, made, after, split, _⟩
  exact absurd split.symm (List.append_ne_nil_of_right_ne_nil before (List.cons_ne_nil _ _))

private theorem not_boundSince_nil {moment : Nat} : ¬BoundSince objects [] key moment := by
  rintro ⟨before, made, after, split, _⟩
  exact absurd split.symm (List.append_ne_nil_of_right_ne_nil before (List.cons_ne_nil _ _))

theorem BoundSince.lt_length {moment : Nat} (since : BoundSince objects changes key moment) :
    moment < changes.length := by
  obtain ⟨before, made, after, rfl, rfl, _⟩ := since
  rw [List.length_append, List.length_cons]
  omega

/-- A key is bound exactly if it has been so since some moment, and then that moment is the only one. -/
theorem stands_iff_boundSince :
    ((∃ serial, Stands objects changes key serial) ↔ ∃ moment, BoundSince objects changes key moment) ∧
      ∀ moment other, BoundSince objects changes key moment → BoundSince objects changes key other →
        moment = other := by
  induction changes using List.reverseRecOn with
  | nil =>
      refine ⟨⟨fun ⟨_, stands⟩ => absurd stands not_stands_nil, fun ⟨_, since⟩ => absurd since
        not_boundSince_nil⟩, fun _ _ since => absurd since not_boundSince_nil⟩
  | append_singleton changes made ih =>
      obtain ⟨boundIff, unique⟩ := ih
      simp only [stands_concat_iff, boundSince_concat_iff]
      refine ⟨⟨?_, ?_⟩, ?_⟩
      · rintro ⟨serial, binds | ⟨stands, keeps, _⟩⟩
        · by_cases before : ∃ moment, BoundSince objects changes key moment
          · obtain ⟨moment, since⟩ := before
            exact ⟨moment, .inr ⟨since, binds.not_unbinds key⟩⟩
          · rw [← boundIff, not_exists] at before
            exact ⟨_, .inl ⟨rfl, before, serial, binds⟩⟩
        · obtain ⟨moment, since⟩ := boundIff.1 ⟨serial, stands⟩
          exact ⟨moment, .inr ⟨since, keeps⟩⟩
      · rintro ⟨moment, ⟨_, _, serial, binds⟩ | ⟨since, keeps⟩⟩
        · exact ⟨serial, .inl binds⟩
        · by_cases rebound : ∃ other, made.Binds objects key other
          · obtain ⟨other, binds⟩ := rebound
            exact ⟨other, .inl binds⟩
          · obtain ⟨serial, stands⟩ := boundIff.2 ⟨moment, since⟩
            exact ⟨serial, .inr ⟨stands, keeps, not_exists.1 rebound⟩⟩
      · rintro moment other (⟨rfl, unbound, _⟩ | ⟨since, _⟩) (⟨rfl, unboundOther, _⟩ | ⟨sinceOther, _⟩)
        · rfl
        · obtain ⟨serial, stands⟩ := boundIff.2 ⟨other, sinceOther⟩
          exact absurd stands (unbound serial)
        · obtain ⟨serial, stands⟩ := boundIff.2 ⟨moment, since⟩
          exact absurd stands (unboundOther serial)
        · exact unique moment other since sinceOther

end ItemSpec.Registry
