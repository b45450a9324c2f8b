import ItemSpec.Proofs.Engine.Genuine
set_option autoImplicit false

/-! Written amounts. An amount other than one is shown and is asked of every stack. An amount of one is as good
as none: nothing is wrapped for it, so what is shown keeps the amount of what was named, which need not be one,
and the policy is not consulted. -/

namespace ItemSpec

namespace Matcher

/-- To count what is shown in that amount anyway changes nothing that is shown. -/
theorem representative_counted_iff (base : Matcher) (amount : Int) (policy : StackPolicy) :
    (counted base amount policy).representative = base.representative ↔ base.representative.amount = amount := by
  constructor
  · intro same
    exact (congrArg Stack.amount same).symm
  · rintro rfl
    rfl

/-- To count changes the verdict on exactly the stacks that are matched in an amount that the policy refuses. -/
theorem accepts_counted_iff (base : Matcher) (amount : Int) (policy : StackPolicy) (stack : Stack) :
    (counted base amount policy).accepts stack = base.accepts stack ↔
      (base.accepts stack = .ok true → policy.accepts stack.amount amount = true) := by
  rw [accepts_counted]
  cases base.accepts stack with
  | error fault => simp [Verdict.both]
  | ok verdict => cases verdict <;> simp [Verdict.both]

end Matcher

namespace Engine

open Modifier (BuiltIn)

variable {engine : Engine}

private theorem amount_of_modify {base dressed : Found} {modifiers : List Text}
    (modified : (engine.modify base modifiers).outcome = .ok (some dressed)) :
    dressed.matcher.representative.amount = base.matcher.representative.amount := by
  cases readable : base.matcher.representative.meta? with
  | none =>
      rw [engine.modify_of_unreadable base modifiers readable] at modified
      rw [Option.some.inj (Except.ok.inj modified)]
  | some before =>
      obtain ⟨replies, after, _, rfl⟩ := (engine.modify_eq_some_iff base modifiers readable dressed).1 modified
      rw [representative_dress base _ after readable]

private theorem modify_of_lookup {spec : Text} {order : Order} {found : Found} (single : '?' ∉ spec)
    (reads : engine.Reads spec order) (looked : (engine.lookup spec).outcome = .ok found)
    (notEmpty : found.matcher.isEmpty = false) :
    ∃ dressed, (engine.modify order.base.found order.modifiers).outcome = .ok (some dressed) ∧
      found = engine.count dressed order.amount := by
  rw [lookup_of_single single] at looked
  obtain ⟨other, dressed, readsOther, modified, counted⟩ := lookupAlternative_reads looked notEmpty
  cases (reads.iff_eq other).1 readsOther
  exact ⟨dressed, modified, counted⟩

/-- An amount other than one is what is shown, and whatever is matched has an amount that the policy accepts.
An amount of one leaves what was named with its modifiers; to count it would show the same only if one of it is
shown already, and would match the same only if no stack is matched in an amount that the policy refuses. -/
theorem lookup_honours_amount {spec : Text} {order : Order} {found : Found} (single : '?' ∉ spec)
    (reads : engine.Reads spec order) (looked : (engine.lookup spec).outcome = .ok found)
    (notEmpty : found.matcher.isEmpty = false) :
    (order.amount ≠ 1 → found.matcher.representative.amount = order.amount ∧
        ∀ stack, found.matcher.accepts stack = .ok true →
          engine.policy.accepts stack.amount order.amount = true) ∧
      (order.amount = 1 →
        (engine.modify order.base.found order.modifiers).outcome = .ok (some found) ∧
          found.matcher.representative.amount = order.base.found.matcher.representative.amount ∧
          (∀ material, order.base = .material material → found.matcher.representative.amount = 1) ∧
          let counted := Matcher.counted found.matcher 1 engine.policy
          (counted.representative = found.matcher.representative ↔
              order.base.found.matcher.representative.amount = 1) ∧
            ∀ stack, counted.accepts stack = found.matcher.accepts stack ↔
              (found.matcher.accepts stack = .ok true → engine.policy.accepts stack.amount 1 = true)) := by
  obtain ⟨dressed, modified, rfl⟩ := modify_of_lookup single reads looked notEmpty
  have sameAmount := amount_of_modify modified
  constructor
  · intro several
    refine ⟨?_, fun stack accepted => ((accepts_count_iff ..).1 accepted).2 several⟩
    rw [representative_count, if_neg several]
  · intro one
    have bare : engine.count dressed order.amount = dressed := if_pos one
    rw [bare]
    refine ⟨modified, sameAmount, ?_, ?_, Matcher.accepts_counted_iff _ _ _⟩
    · intro material isMaterial
      rw [sameAmount, isMaterial]
      exact Stack.settle_amount _
    · rw [Matcher.representative_counted_iff, sameAmount]

/-- Seven gems, and one in place of the three that the naming token asks for. -/
theorem lookup_honours_amount_gems :
    let engine := { offering .gems BuiltIn.all with policy := .exact }
    let order (amount : Int) (modifiers : List Text) : Order :=
      ⟨.item (CustomItem.gems).handle, amount, modifiers⟩
    (∃ found, (engine.lookup "vault:gems 7 sharpness:2".toList).outcome = .ok found ∧
      engine.Reads "vault:gems 7 sharpness:2".toList (order 7 ["sharpness:2".toList]) ∧
      found.matcher.representative.amount = 7 ∧
      ∀ stack, found.matcher.accepts stack = .ok true → engine.policy.accepts stack.amount 7 = true) ∧
    ∃ found, (engine.lookup "vault:gems:3 1 sharpness:2".toList).outcome = .ok found ∧
      engine.Reads "vault:gems:3 1 sharpness:2".toList (order 1 ["sharpness:2".toList]) ∧
      found.matcher.representative.amount = 5 ∧
      (Matcher.counted found.matcher 1 engine.policy).representative ≠ found.matcher.representative := by
  intro engine order
  have seven : engine.Reads "vault:gems 7 sharpness:2".toList (order 7 ["sharpness:2".toList]) :=
    .intro (by decide : _ = ["vault:gems".toList, "7".toList, "sharpness:2".toList]) (by decide)
      (.item (by decide +kernel : _ = ["vault".toList, "gems".toList]) rfl)
      (.written (by decide +kernel : Number.read "7".toList = .ok (some 7)))
  have one : engine.Reads "vault:gems:3 1 sharpness:2".toList (order 1 ["sharpness:2".toList]) :=
    .intro (by decide : _ = ["vault:gems:3".toList, "1".toList, "sharpness:2".toList]) (by decide)
      (.itemAmount (by decide +kernel : _ = ["vault".toList, "gems".toList, "3".toList]) rfl
        (by decide +kernel : Number.read "3".toList = .ok (some 3)))
      (.written (by decide +kernel : Number.read "1".toList = .ok (some 1)))
  have finds (spec : Text) (found : engine.finds spec (fun _ => true) = true) :=
    (finds_eq_true_iff spec _).1 found
  obtain ⟨foundSeven, lookedSeven, notEmptySeven, _⟩ :=
    finds "vault:gems 7 sharpness:2".toList (by decide +kernel)
  obtain ⟨foundOne, lookedOne, notEmptyOne, _⟩ :=
    finds "vault:gems:3 1 sharpness:2".toList (by decide +kernel)
  have honours := (lookup_honours_amount (by decide) seven lookedSeven notEmptySeven).1 (by decide)
  obtain ⟨_, shown, _, counts, _⟩ := (lookup_honours_amount (by decide) one lookedOne notEmptyOne).2 rfl
  have five : (order 1 ["sharpness:2".toList]).base.found.matcher.representative.amount = 5 := rfl
  refine ⟨⟨foundSeven, lookedSeven, seven, honours⟩, foundOne, lookedOne, one, shown.trans five, ?_⟩
  intro same
  have impossible := five.symm.trans (counts.1 same)
  exact absurd impossible (by decide)

/-- Five gems are shown for one, and seven are matched, where the amount is to be exact. -/
theorem lookup_one_of_gems :
    let engine := { offering .gems BuiltIn.all with policy := .exact }
    let spec := "vault:gems 1".toList
    engine.registry.Genuine ∧ '?' ∉ spec ∧ engine.Reads spec ⟨.item (CustomItem.gems).handle, 1, []⟩ ∧
      ∃ found, (engine.lookup spec).outcome = .ok found ∧ found.matcher.isEmpty = false ∧
        found.matcher.representative.amount = 5 ∧
        found.matcher.accepts (.of .diamond 7) = .ok true ∧ engine.policy.accepts 7 1 = false := by
  intro engine spec
  have reads : engine.Reads spec ⟨.item (CustomItem.gems).handle, 1, []⟩ :=
    .intro (by decide : _ = ["vault:gems".toList, "1".toList]) (by decide)
      (.item (by decide +kernel : _ = ["vault".toList, "gems".toList]) rfl)
      (.written (by decide +kernel : Number.read "1".toList = .ok (some 1)))
  have finds : engine.finds spec (fun matcher => decide (matcher.representative.amount = 5 ∧
      matcher.accepts (.of .diamond 7) = .ok true)) = true := by decide +kernel
  obtain ⟨found, looked, notEmpty, decided⟩ := (finds_eq_true_iff spec _).1 finds
  obtain ⟨shown, accepted⟩ := of_decide_eq_true decided
  exact ⟨offering_genuine .gems BuiltIn.all, by decide, reads, found, looked, notEmpty, shown, accepted, rfl⟩

end Engine

end ItemSpec
