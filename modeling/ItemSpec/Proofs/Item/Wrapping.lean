import ItemSpec.Proofs.Engine.Unwrapping
set_option autoImplicit false

/-! Matchers wrapped as custom items. A matcher can be wrapped if it accepts what it shows and that is not air;
the custom item then shows the same stack and matches the same, however many layers there are. -/

namespace ItemSpec

open CustomItem (ofMatcher)

def Test.Calm (test : Test) : Prop :=
  ∀ stack, ∃ verdict, test (.stack stack) = .ok verdict

private theorem settles {Result : Type} {outcome : Except Fault Result} {fault : Fault} {holds : Prop}
    {spec : Result → Prop} (succeeds : holds → ∃ result, outcome = .ok result ∧ spec result)
    (fails : ¬holds → outcome = .error fault) :
    ((∃ result, outcome = .ok result) ↔ holds) ∧ (¬holds → outcome = .error fault) ∧
      ∀ result, outcome = .ok result → spec result := by
  by_cases held : holds
  · obtain ⟨result, finished, proper⟩ := succeeds held
    refine ⟨⟨fun _ => held, fun _ => ⟨result, finished⟩⟩, fails, ?_⟩
    intro other finishedOther
    rw [finished, Except.ok.injEq] at finishedOther
    rw [← finishedOther]
    exact proper
  · have never : ∀ result, outcome ≠ .ok result := by
      intro result finished
      rw [fails held] at finished
      cases finished
    refine ⟨⟨?_, fun impossible => absurd impossible held⟩, fails, ?_⟩
    · intro ⟨result, finished⟩
      exact absurd finished (never result)
    · intro result finished
      exact absurd finished (never result)

namespace CustomItem

variable {definition : Definition} {item : Stack}

private theorem create_of_accepted (serial : Nat) (key : Key) (readable : item.settle.meta?.isSome)
    (accepted : definition.accepts item.settle = .ok true) :
    (create serial key definition item).outcome =
      .ok ⟨serial, key, definition, item.settle, item.settle_settled, readable, accepted⟩ := by
  unfold create
  rw [dif_pos readable]
  split
  · rfl
  · rename_i rejected
    cases rejected.symm.trans accepted
  · rename_i fault gaveUp
    cases gaveUp.symm.trans accepted

private theorem create_of_rejected (serial : Nat) (key : Key) (readable : item.settle.meta?.isSome)
    (rejected : definition.accepts item.settle = .ok false) :
    (create serial key definition item).outcome = .error (.unmatchedItem key) := by
  unfold create
  rw [dif_pos readable]
  split
  · rename_i accepted
    cases accepted.symm.trans rejected
  · rfl
  · rename_i fault gaveUp
    cases gaveUp.symm.trans rejected

private theorem create_of_unreadable (serial : Nat) (key : Key) (unreadable : ¬item.settle.meta?.isSome) :
    (create serial key definition item).outcome = .error (.unreadableItem key) := by
  unfold create
  rw [dif_neg unreadable]
  rfl

end CustomItem

namespace Matcher

def Calm : Matcher → Prop
  | .empty => True
  | .material _ => True
  | .custom _ _ test _ => test.Calm
  | .composed _ _ definition _ => definition.Calm
  | .modified base test _ => base.Calm ∧ test.Calm
  | .counted base _ _ => base.Calm

/-- A matcher shows a stack that is not air, and accepts it. -/
def Sound (matcher : Matcher) : Prop :=
  matcher.representative.material ≠ .air ∧ matcher.accepts matcher.representative = .ok true

def refusal (matcher : Matcher) (key : Key) : Fault :=
  if matcher.representative.material = .air then .unreadableItem key else .unmatchedItem key

/-- A matcher in layers of custom items, each of them around the one before. -/
def wrapAll : List (Nat × Key) → Matcher → Traced Matcher
  | [], matcher => pure matcher
  | (serial, key) :: others, matcher => do
    let item ← ofMatcher serial key matcher
    wrapAll others item.toMatcher

variable {matcher : Matcher}

private theorem Calm.accepts (calm : matcher.Calm) (stack : Stack) :
    ∃ verdict, matcher.accepts stack = .ok verdict := by
  induction matcher with
  | empty => exact ⟨false, rfl⟩
  | material wanted => exact ⟨_, accepts_material wanted stack⟩
  | custom serial key test item => exact calm stack
  | composed serial key definition item ih => exact ih calm
  | modified base test shown ih =>
      obtain ⟨calmBase, calmTest⟩ := calm
      obtain ⟨first, judged⟩ := ih calmBase
      obtain ⟨second, tested⟩ := calmTest stack
      rw [accepts_modified, judged, tested, Verdict.both_ok]
      exact ⟨_, rfl⟩
  | counted base amount policy ih =>
      obtain ⟨first, judged⟩ := ih calm
      rw [accepts_counted, judged, Verdict.both_ok]
      exact ⟨_, rfl⟩

private theorem settle_representative (matcher : Matcher) :
    matcher.representative.settle = matcher.representative :=
  Stack.settle_of_settled matcher.representative_settled

private theorem readable_iff (matcher : Matcher) :
    matcher.representative.settle.meta?.isSome ↔ matcher.representative.material ≠ .air := by
  have rule : _ ↔ _ := matcher.representative_settled
  rw [settle_representative, Ne, rule, Option.isSome_iff_ne_none]

/-! ### One layer -/

private theorem Alike.sound_iff {one other : Matcher} (alike : one.Alike other) :
    one.Sound ↔ other.Sound := by
  unfold Sound Matcher.accepts
  rw [alike.representative, alike.judge]

private theorem ofMatcher_of_sound (sound : matcher.Sound) (serial : Nat) (key : Key) :
    ∃ made, (ofMatcher serial key matcher).outcome = .ok made ∧
      (made.key = key ∧ made.toMatcher.key? = some key) ∧ made.toMatcher.Alike matcher ∧
        made.toMatcher.tree = made.toMatcher :: matcher.tree := by
  obtain ⟨solid, accepted⟩ := sound
  have judged : (Definition.matcher matcher).accepts matcher.representative.settle = .ok true := by
    rw [settle_representative]
    exact accepted
  have created := CustomItem.create_of_accepted serial key ((readable_iff matcher).2 solid) judged
  refine ⟨_, created, ⟨rfl, rfl⟩, ⟨?_, fun _ => rfl⟩, rfl⟩
  rw [CustomItem.representative_toMatcher]
  exact settle_representative matcher

private theorem ofMatcher_of_not_sound (calm : matcher.Calm) (unsound : ¬matcher.Sound) (serial : Nat)
    (key : Key) :
    (ofMatcher serial key matcher).outcome = .error (matcher.refusal key) := by
  unfold refusal
  by_cases air : matcher.representative.material = .air
  · rw [if_pos air]
    apply CustomItem.create_of_unreadable
    intro readable
    exact (readable_iff matcher).1 readable air
  · rw [if_neg air]
    obtain ⟨verdict, judged⟩ := calm.accepts matcher.representative
    cases verdict with
    | true => exact absurd ⟨air, judged⟩ unsound
    | false =>
        apply CustomItem.create_of_rejected serial key ((readable_iff matcher).2 air)
        rw [settle_representative]
        exact judged

/-! ### Any number of layers -/

private theorem wrapAll_of_sound (sound : matcher.Sound) (labels : List (Nat × Key)) :
    ∃ outer layers, (wrapAll labels matcher).outcome = .ok outer ∧ outer.Alike matcher ∧
      outer.tree = layers ++ matcher.tree ∧ layers.map key? = (labels.map fun label => some label.2).reverse := by
  induction labels generalizing matcher with
  | nil => exact ⟨matcher, [], rfl, ⟨rfl, fun _ => rfl⟩, rfl, rfl⟩
  | cons label others ih =>
      obtain ⟨serial, key⟩ := label
      obtain ⟨made, created, ⟨_, named⟩, layer, below⟩ := ofMatcher_of_sound sound serial key
      obtain ⟨outer, layers, wrapped, alike, tree, keys⟩ := ih (layer.sound_iff.2 sound)
      refine ⟨outer, layers ++ [made.toMatcher], ?_, alike.trans layer, ?_, ?_⟩
      · rw [wrapAll, Traced.outcome_bind, created, Fault.ok_bind, wrapped]
      · rw [tree, below, List.append_assoc, List.singleton_append]
      · rw [List.map_append, keys, List.map_singleton, named, List.map_cons, List.reverse_cons]

private theorem wrapAll_of_not_sound (calm : matcher.Calm) (unsound : ¬matcher.Sound) (label : Nat × Key)
    (others : List (Nat × Key)) :
    (wrapAll (label :: others) matcher).outcome = .error (matcher.refusal label.2) := by
  rw [wrapAll, Traced.outcome_bind, ofMatcher_of_not_sound calm unsound, Fault.error_bind]

/-- A matcher whose tests answer is wrapped exactly if it is sound. The custom item shows what the matcher
shows, matches what it matches, nothing included, and stands on top of its tree; and the same holds of any
number of layers, in which the custom item that was made last is the outermost. -/
theorem wrapping_transparent (calm : matcher.Calm) :
    (∀ serial key,
      ((∃ made, (ofMatcher serial key matcher).outcome = .ok made) ↔ matcher.Sound) ∧
      (¬matcher.Sound → (ofMatcher serial key matcher).outcome = .error (matcher.refusal key)) ∧
      ∀ made, (ofMatcher serial key matcher).outcome = .ok made →
        made.key = key ∧ made.toMatcher.representative = matcher.representative ∧
          (∀ slot, made.toMatcher.matchesSlot slot = matcher.matchesSlot slot) ∧
          made.toMatcher.tree = made.toMatcher :: matcher.tree) ∧
    ∀ label others,
      ((∃ outer, (wrapAll (label :: others) matcher).outcome = .ok outer) ↔ matcher.Sound) ∧
      (¬matcher.Sound →
        (wrapAll (label :: others) matcher).outcome = .error (matcher.refusal label.2)) ∧
      ∀ outer, (wrapAll (label :: others) matcher).outcome = .ok outer →
        outer.representative = matcher.representative ∧
          (∀ slot, outer.matchesSlot slot = matcher.matchesSlot slot) ∧
          ∃ layers, outer.tree = layers ++ matcher.tree ∧
            layers.map key? = ((label :: others).map fun label => some label.2).reverse := by
  constructor
  · intro serial key
    apply settles _ fun unsound => ofMatcher_of_not_sound calm unsound serial key
    intro sound
    obtain ⟨made, created, ⟨named, _⟩, alike, below⟩ := ofMatcher_of_sound sound serial key
    exact ⟨made, created, named, alike.representative, alike.matchesSlot, below⟩
  · intro label others
    apply settles _ fun unsound => wrapAll_of_not_sound calm unsound label others
    intro sound
    obtain ⟨outer, layers, wrapped, alike, tree, keys⟩ := wrapAll_of_sound sound (label :: others)
    exact ⟨outer, wrapped, alike.representative, alike.matchesSlot, layers, tree, keys⟩

/-- Seven of the gems without a name can be wrapped. Three of them are too few for their test, and air that
accepts itself is air all the same. -/
theorem wrapping_transparent_hoard :
    let gems := CustomItem.gems.toMatcher
    let hoard := Matcher.counted (.modified gems (Condition.displayName none).test (.of .diamond 9)) 7 .exact
    let few := Matcher.counted gems 3 .atLeast
    let air := Matcher.modified (.material .air) (Condition.always true).test (.of .air)
    let key : Key := ⟨"vault".toList, "hoard".toList⟩
    let other : Key := ⟨"vault".toList, "chest".toList⟩
    (hoard.Calm ∧ few.Calm ∧ air.Calm) ∧ (hoard.Sound ∧ ¬few.Sound ∧ ¬air.Sound) ∧
      (∃ made, (ofMatcher 2 key hoard).outcome = .ok made ∧ made.toMatcher.representative = .of .diamond 7 ∧
        made.toMatcher.matchesSlot .nothing = .ok false ∧ made.toMatcher.tree = made.toMatcher :: hoard.tree) ∧
      (ofMatcher 2 key few).outcome = .error (.unmatchedItem key) ∧
      (ofMatcher 2 key air).outcome = .error (.unreadableItem key) ∧
      (∃ outer, (wrapAll [(2, key), (3, other)] hoard).outcome = .ok outer ∧
        ∃ layers, outer.tree = layers ++ hoard.tree ∧ layers.map key? = [some other, some key]) := by
  intro gems hoard few air key other
  have calmGems : gems.Calm := fun stack => ⟨_, rfl⟩
  have calmFew : few.Calm := calmGems
  have calmHoard : hoard.Calm := ⟨calmGems, fun stack => ⟨_, Test.ofData_stack _ _ stack⟩⟩
  have calmAir : air.Calm := ⟨trivial, fun stack => ⟨_, rfl⟩⟩
  have sound : hoard.Sound := ⟨by decide, by decide⟩
  have notFew : ¬few.Sound := fun sound => absurd sound.2 (by decide)
  have notAir : ¬air.Sound := fun sound => sound.1 rfl
  obtain ⟨single, several⟩ := wrapping_transparent calmHoard
  obtain ⟨made_iff, _, transparent⟩ := single 2 key
  obtain ⟨outer_iff, _, layered⟩ := several (2, key) [(3, other)]
  obtain ⟨made, created⟩ := made_iff.2 sound
  obtain ⟨_, shows, judges, below⟩ := transparent made created
  obtain ⟨outer, wrapped⟩ := outer_iff.2 sound
  obtain ⟨_, _, layers, tree, keys⟩ := layered outer wrapped
  have unmatched := ((wrapping_transparent calmFew).1 2 key).2.1 notFew
  have unreadable := ((wrapping_transparent calmAir).1 2 key).2.1 notAir
  exact ⟨⟨calmHoard, calmFew, calmAir⟩, ⟨sound, notFew, notAir⟩, ⟨made, created, shows, judges .nothing, below⟩,
    unmatched, unreadable, outer, wrapped, layers, tree, keys⟩

end Matcher

end ItemSpec
