import ItemSpec.Modifier.Scripted
import ItemSpec.Proofs.Engine.Genuine
set_option autoImplicit false

/-! Wrappers that are left out. A lookup adds no modifiers where the parsers have no test to add and leave
the metadata as it is, and asks nothing where a parser lets every stack pass. Nobody can tell: the matcher
shows and judges whatever one that is always wrapped does. -/

namespace ItemSpec

structure Matcher.Alike (one other : Matcher) : Prop where
  representative : one.representative = other.representative
  judge : ∀ slot, one.judge slot = other.judge slot

namespace Matcher.Alike

variable {one other third : Matcher}

theorem trans (alike : one.Alike other) (alikeThird : other.Alike third) : one.Alike third where
  representative := alike.representative.trans alikeThird.representative
  judge slot := (alike.judge slot).trans (alikeThird.judge slot)

theorem matchesSlot (alike : one.Alike other) (slot : Slot) :
    one.matchesSlot slot = other.matchesSlot slot := by
  cases slot with
  | nothing => rfl
  | stack stack => exact alike.judge _
  | other object => exact alike.judge _

private theorem counted (alike : one.Alike other) (amount : Int) (policy : StackPolicy) :
    (Matcher.counted one amount policy).Alike (.counted other amount policy) where
  representative := by simp only [Matcher.representative, alike.representative]
  judge slot := by simp only [Matcher.judge, alike.judge]

end Matcher.Alike

namespace Engine

open Modifier (Answers Parser Reply Scripted)

/-- What an order comes to if nothing is left out: every reply is tested and the metadata is put on as the
parsers leave it. -/
def wrapped (engine : Engine) (order : Order) (replies : List Reply) (after : Meta) : Matcher :=
  let base := order.base.found.matcher
  let modified := Matcher.modified base (Test.all (replies.map Reply.predicate))
    (base.representative.setMeta (some after))
  if order.amount = 1 then modified else .counted modified order.amount engine.policy

variable {engine : Engine}

private theorem judge_dress (base : Found) (tests : List Test) (before after : Meta) (slot : Slot) :
    (dress base tests before after).matcher.judge slot =
      Verdict.both (base.matcher.judge slot) (Test.all tests slot) := by
  unfold dress
  split
  · rename_i unchanged
    rw [Bool.and_eq_true, List.isEmpty_iff] at unchanged
    rw [unchanged.1]
    exact (Verdict.both_ok_true _).symm
  · rfl

private theorem dress_alike (base : Found) {tokens : List Text} {parsers : List Parser}
    {before after : Meta}
    {replies : List Reply} (readable : base.matcher.representative.meta? = some before)
    (answers : Answers tokens parsers before replies after) :
    (dress base (replies.flatMap Reply.added) before after).matcher.Alike
      (.modified base.matcher (Test.all (replies.map Reply.predicate))
        (base.matcher.representative.setMeta (some after))) where
  representative := by
    have solid := Stack.solid_of_readable base.matcher.representative_settled readable
    rw [representative_dress base _ after readable, Matcher.representative,
      Stack.setMeta_of_solid solid, Stack.settle, if_neg solid]
    rfl
  judge slot := by
    rw [judge_dress, answers.all_added]
    rfl

private theorem count_alike (engine : Engine) {base : Found} {matcher : Matcher}
    (alike : base.matcher.Alike matcher) (amount : Int) :
    (engine.count base amount).matcher.Alike
      (if amount = 1 then matcher else .counted matcher amount engine.policy) := by
  unfold count
  split
  · exact alike
  · exact alike.counted amount engine.policy

/-- The modifiers are in the tree where a test was added or the metadata was changed. -/
theorem tree_dress (base : Found) (replies : List Reply) (before after : Meta) :
    ∃ above, (dress base (replies.flatMap Reply.added) before after).matcher.tree =
        above ++ base.matcher.tree ∧
      "stack".toList ∉ above.map Matcher.kind ∧
      ("modified".toList ∈ above.map Matcher.kind ↔
        (∃ test, Reply.test test ∈ replies) ∨ after ≠ before) := by
  unfold dress
  split
  · rename_i unchanged
    rw [Bool.and_eq_true, List.isEmpty_iff, Modifier.added_eq_nil_iff, decide_eq_true_eq] at unchanged
    refine ⟨[], rfl, List.not_mem_nil, ?_⟩
    simp [unchanged.1, unchanged.2]
  · rename_i changed
    rw [Bool.and_eq_true, List.isEmpty_iff, Modifier.added_eq_nil_iff, decide_eq_true_eq,
      Classical.not_and_iff_not_or_not, Classical.not_forall] at changed
    have apart : "stack".toList ∉ ["modified".toList] := by decide
    refine ⟨[.modified base.matcher _ _], rfl, apart, ?_⟩
    refine ⟨fun _ => ?_, fun _ => List.mem_singleton_self _⟩
    simpa only [Classical.not_not] using changed

private theorem tree_count (engine : Engine) (base : Found) (amount : Int) :
    ∃ above, (engine.count base amount).matcher.tree = above ++ base.matcher.tree ∧
      "modified".toList ∉ above.map Matcher.kind ∧
      ("stack".toList ∈ above.map Matcher.kind ↔ amount ≠ 1) := by
  unfold count
  split
  · rename_i one
    exact ⟨[], rfl, List.not_mem_nil, by simp [one]⟩
  · rename_i several
    have apart : "modified".toList ∉ ["stack".toList] := by decide
    exact ⟨[.counted base.matcher amount engine.policy], rfl, apart,
      fun _ => several, fun _ => List.mem_singleton_self _⟩

private theorem lookup_of_answers {spec : Text} {order : Order} {before after : Meta} {replies : List Reply}
    (single : '?' ∉ spec) (reads : engine.Reads spec order)
    (readable : order.base.found.matcher.representative.meta? = some before)
    (answers : Answers order.modifiers engine.parsers before replies after) :
    (engine.lookup spec).outcome = .ok (engine.count
      (dress order.base.found (replies.flatMap Reply.added) before after) order.amount) := by
  rw [lookup_of_single single, lookupAlternative_of_reads reads, fill_of_answers readable answers]

/-- What a spec stands for agrees with what it stands for where everything is wrapped. The modifiers are a
node of its own exactly where a parser answered with a test or changed the metadata, and the amount is
where it is not one. -/
theorem lookup_unwraps {spec : Text} {order : Order} (customs : engine.registry.Genuine)
    (single : '?' ∉ spec) (reads : engine.Reads spec order) :
    ∃ before, order.base.found.matcher.representative.meta? = some before ∧
      ∀ replies after, Answers order.modifiers engine.parsers before replies after →
        ∃ found, (engine.lookup spec).outcome = .ok found ∧
          found.matcher.representative = (engine.wrapped order replies after).representative ∧
          (∀ slot, found.matcher.matchesSlot slot =
            (engine.wrapped order replies after).matchesSlot slot) ∧
          ∃ above, found.matcher.tree = above ++ order.base.found.matcher.tree ∧
            ("modified".toList ∈ above.map Matcher.kind ↔
              (∃ test, Reply.test test ∈ replies) ∨ after ≠ before) ∧
            ("stack".toList ∈ above.map Matcher.kind ↔ order.amount ≠ 1) := by
  obtain ⟨before, readable⟩ := (reads.genuine customs).readable
  refine ⟨before, readable, ?_⟩
  intro replies after answers
  have alike := count_alike engine (dress_alike order.base.found readable answers) order.amount
  obtain ⟨dressing, dressed, noStack, modifiedIff⟩ := tree_dress order.base.found replies before after
  obtain ⟨amounts, counted, noModified, stackIff⟩ := tree_count engine
    (dress order.base.found (replies.flatMap Reply.added) before after) order.amount
  refine ⟨_, lookup_of_answers single reads readable answers, alike.representative, alike.matchesSlot,
    amounts ++ dressing, ?_, ?_, ?_⟩
  · rw [counted, dressed, List.append_assoc]
  · rw [List.map_append, List.mem_append, or_iff_right noModified, modifiedIff]
  · rw [List.map_append, List.mem_append, or_iff_left noStack, stackIff]

/-- A parser that writes, two that let everything pass, and one whose test faults. -/
theorem lookup_unwraps_gems :
    let parsers := [.loreLine "old".toList "Worn".toList, .undemanding, .answering .null,
      .demanding (.fail "boom".toList)].map Scripted.parser
    let engine := { offering .gems [] with parsers }
    let spec := "vault:gems 7 old".toList
    let order : Order := ⟨.item (CustomItem.gems).handle, 7, ["old".toList]⟩
    let replies := [Reply.nothing, .anything, .nothing, .test (Condition.fail "boom".toList).test]
    let after : Meta := { Meta.blank with lore := ["Worn".toList] }
    engine.registry.Genuine ∧ '?' ∉ spec ∧ engine.Reads spec order ∧
      Answers order.modifiers engine.parsers .blank replies after ∧
      ∃ found, (engine.lookup spec).outcome = .ok found ∧
        found.matcher.representative = (engine.wrapped order replies after).representative ∧
        (∀ slot, found.matcher.matchesSlot slot =
          (engine.wrapped order replies after).matchesSlot slot) ∧
        ∃ above, found.matcher.tree = above ++ order.base.found.matcher.tree ∧
          ("modified".toList ∈ above.map Matcher.kind ↔
            (∃ test, Reply.test test ∈ replies) ∨ after ≠ .blank) ∧
          ("stack".toList ∈ above.map Matcher.kind ↔ order.amount ≠ 1) := by
  intro parsers engine spec order replies after
  have genuine : engine.registry.Genuine := offering_genuine .gems []
  have single : '?' ∉ spec := by decide
  have parts : Text.cut ':' (Text.lower "vault:gems".toList) = ["vault".toList, "gems".toList] := by
    decide +kernel
  have number : Number.read "7".toList = .ok (some 7) := by decide +kernel
  have tokens : Text.cut ' ' (Text.dropTrailing ' ' spec) =
      ["vault:gems".toList, "7".toList, "old".toList] := by decide
  have reads : engine.Reads spec order :=
    .intro tokens (by decide) (.item parts (by rfl)) (.written number)
  have answers : Answers order.modifiers engine.parsers .blank replies after := by
    refine .cons rfl nofun (.cons rfl nofun (.cons rfl nofun (.cons rfl nofun ?_)))
    exact .nil
  obtain ⟨before, readable, agrees⟩ := lookup_unwraps genuine single reads
  have isBlank : before = .blank := (Option.some.inj readable).symm
  rw [isBlank] at agrees
  exact ⟨genuine, single, reads, answers, agrees replies after answers⟩

end Engine

end ItemSpec
