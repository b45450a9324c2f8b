import ItemSpec.Proofs.Engine.Genuine
import ItemSpec.Proofs.Modifier.Tokens
set_option autoImplicit false

/-! What a lookup means, for an engine with custom items and the five parsers of the library. A stack
is matched exactly if what the spec names matches it, the modifiers are met, and the policy accepts its
amount where an amount other than one is asked for. -/

namespace ItemSpec.Engine

open Modifier (BuiltIn Meets)

variable {engine : Engine}

theorem lookup_fills_of_single {spec : Text} {found : Found}
    (parsers : engine.parsers = BuiltIn.all.map BuiltIn.parser) (customs : engine.registry.Genuine)
    (single : '?' ∉ spec) (looked : (engine.lookup spec).outcome = .ok found)
    (notEmpty : found.matcher.isEmpty = false) :
    ∃ order, engine.Reads spec order ∧ engine.Fills BuiltIn.all order found := by
  obtain ⟨order, ⟨reached, _, reads⟩, fills⟩ := lookup_fills parsers customs looked notEmpty
  rw [(reaches_iff_of_cut (Text.cut_of_not_mem single) _).1 reached] at reads
  exact ⟨order, reads, fills⟩

theorem Fills.judges {order : Order} {found : Found} (fills : engine.Fills BuiltIn.all order found)
    (stack : Stack) : ∃ met : Bool, (met = true ↔ Meets order.modifiers stack) ∧
      found.matcher.accepts stack = Verdict.both (order.base.found.matcher.accepts stack)
        (.ok (met && (decide (order.amount = 1) || engine.policy.accepts stack.amount order.amount))) := by
  obtain ⟨met, tested, metIff⟩ := BuiltIn.all_added_ok BuiltIn.all order.modifiers stack
  refine ⟨met, ?_, ?_⟩
  · rw [metIff, Modifier.meets_iff fun kind => fills.requested kind kind.mem_all]
    exact ⟨fun every kind => every kind kind.mem_all, fun every kind _ => every kind⟩
  · rw [fills.accepts, tested, Verdict.both_both_ok]

/-- The reading of a spec fixes its matcher: the verdict on a stack is that of the base, the modifiers
and the amount together. -/
theorem lookup_accepts_iff {spec : Text} {found : Found}
    (parsers : engine.parsers = BuiltIn.all.map BuiltIn.parser)
    (customs : engine.registry.Genuine) (single : '?' ∉ spec)
    (looked : (engine.lookup spec).outcome = .ok found)
    (notEmpty : found.matcher.isEmpty = false) :
    ∃ order, (∀ other, engine.Reads spec other ↔ other = order) ∧ ∀ stack verdict,
      order.base.found.matcher.accepts stack = .ok verdict →
        ∃ answer, found.matcher.accepts stack = .ok answer ∧
          (answer = true ↔ verdict = true ∧ Meets order.modifiers stack ∧
            (order.amount ≠ 1 → engine.policy.accepts stack.amount order.amount = true)) := by
  obtain ⟨order, reads, fills⟩ := lookup_fills_of_single parsers customs single looked notEmpty
  refine ⟨order, reads.iff_eq, ?_⟩
  intro stack verdict decided
  obtain ⟨met, meetsIff, judged⟩ := fills.judges stack
  rw [decided, Verdict.both_ok] at judged
  refine ⟨_, judged, ?_⟩
  rw [Bool.and_eq_true, Bool.and_eq_true, Bool.or_eq_true, decide_eq_true_eq, meetsIff,
    ← Decidable.or_iff_not_imp_left]

/-- Tokens that contradict each other, and some that ask for nothing, behind a custom item. -/
theorem lookup_accepts_iff_gems :
    let engine := offering .gems BuiltIn.all
    let spec := ("Vault:Gems 7 sharpness:3 luck:9 custom-model-data:x SHARPNESS:5 sharpness:0 " ++
      "flag:hide_dye name:Hoard unbreakable custom-model-data:12").toList
    '?' ∉ spec ∧ ∃ found, (engine.lookup spec).outcome = .ok found ∧
      found.matcher.isEmpty = false ∧
      ∃ order, (∀ other, engine.Reads spec other ↔ other = order) ∧ ∀ stack verdict,
        order.base.found.matcher.accepts stack = .ok verdict →
          ∃ answer, found.matcher.accepts stack = .ok answer ∧
            (answer = true ↔ verdict = true ∧ Meets order.modifiers stack ∧
              (order.amount ≠ 1 → engine.policy.accepts stack.amount order.amount = true)) := by
  intro engine spec
  have single : '?' ∉ spec := by decide +kernel
  have finds : engine.finds spec (fun _ => true) = true := by decide +kernel
  obtain ⟨found, looked, notEmpty, _⟩ := (finds_eq_true_iff spec _).1 finds
  exact ⟨single, found, looked, notEmpty,
    lookup_accepts_iff rfl (offering_genuine .gems BuiltIn.all) single looked notEmpty⟩

end ItemSpec.Engine
