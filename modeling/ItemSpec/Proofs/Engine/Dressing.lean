import ItemSpec.Engine.Lookup
import ItemSpec.Proofs.Modifier.Replies
set_option autoImplicit false

/-! What the modifiers and the amount of an order do to what it names. Whether a wrapper is made or
not, the verdict is that of the base, of the added tests and of the policy, and the representative is
that of the base with other metadata and another amount. -/

namespace ItemSpec

namespace Verdict

theorem both_ok_true (first : Verdict) : both first (.ok true) = first := by
  cases first with
  | error fault => rfl
  | ok verdict => cases verdict <;> rfl

theorem both_ok (first second : Bool) : both (.ok first) (.ok second) = .ok (first && second) := by
  cases first <;> rfl

theorem both_both_ok (first : Verdict) (second third : Bool) :
    both (both first (.ok second)) (.ok third) = both first (.ok (second && third)) := by
  cases first with
  | error fault => rfl
  | ok verdict => cases verdict <;> cases second <;> rfl

theorem both_eq_true_iff (first second : Verdict) :
    both first second = .ok true ↔ first = .ok true ∧ second = .ok true := by
  cases first with
  | error fault => simp [both]
  | ok verdict => cases verdict <;> simp [both]

end Verdict

private theorem Test.all_eq_true_iff (tests : List Test) (slot : Slot) :
    all tests slot = .ok true ↔ ∀ test ∈ tests, test slot = .ok true := by
  induction tests with
  | nil => simp [all]
  | cons test others ih => rw [all, Verdict.both_eq_true_iff, ih, List.forall_mem_cons]

namespace Stack

theorem solid_of_readable {stack : Stack} {before : Meta} (settled : stack.Settled)
    (readable : stack.meta? = some before) : stack.material ≠ .air := by
  intro isAir
  rw [settled.1 isAir] at readable
  cases readable

theorem setMeta_of_solid {stack : Stack} (solid : stack.material ≠ .air) (after : Meta) :
    stack.setMeta (some after) = { stack with meta? := some after } := by
  simp only [setMeta, if_neg solid, Option.getD_some]

end Stack

theorem StackPolicy.accepts_self (policy : StackPolicy) (amount : Int) :
    policy.accepts amount amount = true := by
  cases policy <;> simp [accepts]

theorem Matcher.representative_settled (matcher : Matcher) : matcher.representative.Settled := by
  induction matcher with
  | empty => exact Stack.settle_settled _
  | material wanted => exact Stack.settle_settled _
  | custom serial key test item => exact item.settle_settled
  | composed serial key definition item ih => exact item.settle_settled
  | modified base test shown ih => exact shown.settle_settled
  | counted base amount policy ih => exact ih

theorem Matcher.accepts_of_isEmpty {matcher : Matcher} (isEmpty : matcher.isEmpty = true) (stack : Stack) :
    matcher.accepts stack = .ok false := by
  cases matcher with
  | empty => rfl
  | material | custom | composed | modified | counted => cases isEmpty

theorem Matcher.notEmpty_of_accepts {matcher : Matcher} {stack : Stack}
    (accepted : matcher.accepts stack = .ok true) : matcher.isEmpty = false := by
  refine Bool.eq_false_iff.2 fun isEmpty => ?_
  rw [accepts_of_isEmpty isEmpty] at accepted
  cases accepted

namespace Engine

open Modifier (Answers Parser Reply)

def dress (base : Found) (tests : List Test) (before after : Meta) : Found :=
  if tests.isEmpty && decide (after = before) then base
  else .new (.modified base.matcher (Test.all tests)
    (base.matcher.representative.setMeta (some after)))

variable (engine : Engine) (base : Found) (modifiers : List Text)

theorem modify_of_unreadable (unreadable : base.matcher.representative.meta? = none) :
    (engine.modify base modifiers).outcome = .ok (some base) := by
  unfold modify
  simp only [unreadable, ite_self]
  rfl

theorem modify_of_readable {before : Meta}
    (readable : base.matcher.representative.meta? = some before) :
    (engine.modify base modifiers).outcome =
      .ok (let reading := Modifier.readAll engine.parsers modifiers before
        match reading.result.outcome with
        | .error _ => none
        | .ok tests => some (dress base tests before reading.data)) := by
  unfold modify
  simp only [readable]
  cases parsers : engine.parsers with
  | nil => simp [Modifier.readAll, Modifier.inTurn, dress]
  | cons parser others =>
      simp only [List.isEmpty_cons, Bool.false_eq_true, if_false]
      cases (Modifier.readAll (parser :: others) modifiers before).result.outcome with
      | error fault => rfl
      | ok tests => rfl

theorem modify_of_answers {before after : Meta} {replies : List Reply}
    (readable : base.matcher.representative.meta? = some before)
    (answers : Answers modifiers engine.parsers before replies after) :
    (engine.modify base modifiers).outcome =
      .ok (some (dress base (replies.flatMap Reply.added) before after)) := by
  obtain ⟨left, collected⟩ := answers.readAll
  rw [engine.modify_of_readable base modifiers readable]
  simp only [collected, left]

theorem modify_outcome : ∃ dressed?, (engine.modify base modifiers).outcome = .ok dressed? := by
  cases readable : base.matcher.representative.meta? with
  | none => exact ⟨_, engine.modify_of_unreadable base modifiers readable⟩
  | some before => exact ⟨_, engine.modify_of_readable base modifiers readable⟩

section Fails

variable {engine base modifiers} {earlier others : List Parser} {failing : Parser}

theorem modify_of_fails {before snapshot : Meta} {replies : List Reply}
    (readable : base.matcher.representative.meta? = some before)
    (parsers : engine.parsers = earlier ++ failing :: others)
    (answers : Answers modifiers earlier before replies snapshot)
    (fails : failing.Fails modifiers snapshot) :
    engine.modify base modifiers =
      ⟨(Modifier.readAll (earlier ++ [failing]) modifiers before).result.events ++
        [.notice (.parserFailed modifiers base.matcher.text)], .ok none⟩ := by
  obtain ⟨⟨fault, gaveUp⟩, same⟩ := answers.readAll_fails fails others
  have notEmpty : ¬(earlier ++ failing :: others).isEmpty = true := by simp
  rw [same] at gaveUp
  unfold modify
  simp only [parsers, if_neg notEmpty, readable, same, gaveUp]

end Fails

/-- The modifiers are applied exactly where every parser answers. -/
theorem modify_eq_some_iff {before : Meta} (readable : base.matcher.representative.meta? = some before)
    (dressed : Found) :
    (engine.modify base modifiers).outcome = .ok (some dressed) ↔
      ∃ replies after, Answers modifiers engine.parsers before replies after ∧
        dressed = dress base (replies.flatMap Reply.added) before after := by
  constructor
  · intro modified
    rcases Modifier.answers_or_fails engine.parsers modifiers before with
      ⟨replies, after, answers⟩ | ⟨earlier, failing, others, replies, snapshot, parsers, answers, fails⟩
    · rw [engine.modify_of_answers base modifiers readable answers] at modified
      exact ⟨replies, after, answers, (Option.some.inj (Except.ok.inj modified)).symm⟩
    · rw [modify_of_fails readable parsers answers fails] at modified
      cases modified
  · rintro ⟨replies, after, answers, rfl⟩
    exact engine.modify_of_answers base modifiers readable answers

theorem eq_object_of_modify {handle : Handle}
    (modified : (engine.modify base modifiers).outcome = .ok (some (.object handle))) :
    base = .object handle := by
  cases readable : base.matcher.representative.meta? with
  | none =>
      rw [engine.modify_of_unreadable base modifiers readable] at modified
      exact Option.some.inj (Except.ok.inj modified)
  | some before =>
      rw [engine.modify_of_readable base modifiers readable] at modified
      cases read : (Modifier.readAll engine.parsers modifiers before).result.outcome with
      | error fault =>
          simp only [read] at modified
          cases modified
      | ok tests =>
          simp only [read, Except.ok.injEq, Option.some.injEq, dress] at modified
          split at modified
          · exact modified
          · cases modified

theorem accepts_dress (tests : List Test) (before after : Meta) (stack : Stack) :
    (dress base tests before after).matcher.accepts stack =
      Verdict.both (base.matcher.accepts stack) (Test.all tests (.stack stack)) := by
  unfold dress
  split
  · rename_i unchanged
    have noTests : tests = [] := by
      rw [Bool.and_eq_true] at unchanged
      exact List.isEmpty_iff.1 unchanged.1
    rw [noTests]
    exact (Verdict.both_ok_true _).symm
  · rfl

theorem accepts_dress_iff {tokens : List Text} {parsers : List Parser} {before after : Meta}
    {replies : List Reply} (answers : Answers tokens parsers before replies after) (stack : Stack) :
    (dress base (replies.flatMap Reply.added) before after).matcher.accepts stack = .ok true ↔
      base.matcher.accepts stack = .ok true ∧ ∀ reply ∈ replies, reply.predicate (.stack stack) = .ok true := by
  rw [accepts_dress, answers.all_added, Verdict.both_eq_true_iff, Test.all_eq_true_iff, List.forall_mem_map]

theorem representative_dress (tests : List Test) {before : Meta} (after : Meta)
    (readable : base.matcher.representative.meta? = some before) :
    (dress base tests before after).matcher.representative =
      { base.matcher.representative with meta? := some after } := by
  have solid := Stack.solid_of_readable base.matcher.representative_settled readable
  unfold dress
  split
  · rename_i unchanged
    rw [Bool.and_eq_true, decide_eq_true_eq] at unchanged
    rw [unchanged.2, ← readable]
  · show (base.matcher.representative.setMeta (some after)).settle = _
    rw [Stack.setMeta_of_solid solid]
    simp only [Stack.settle, if_neg solid, Option.getD_some]

theorem accepts_count (amount : Int) (stack : Stack) :
    (engine.count base amount).matcher.accepts stack =
      Verdict.both (base.matcher.accepts stack)
        (.ok (decide (amount = 1) || engine.policy.accepts stack.amount amount)) := by
  unfold count
  split
  · rename_i one
    simp only [one, decide_true, Bool.true_or]
    exact (Verdict.both_ok_true _).symm
  · rename_i several
    simp only [several, decide_false, Bool.false_or]
    rfl

theorem accepts_count_iff (amount : Int) (stack : Stack) :
    (engine.count base amount).matcher.accepts stack = .ok true ↔
      base.matcher.accepts stack = .ok true ∧
        (amount ≠ 1 → engine.policy.accepts stack.amount amount = true) := by
  rw [accepts_count, Verdict.both_eq_true_iff, Except.ok.injEq, Bool.or_eq_true, decide_eq_true_eq,
    Decidable.or_iff_not_imp_left]

theorem representative_count (amount : Int) :
    (engine.count base amount).matcher.representative =
      { base.matcher.representative with
        amount := if amount = 1 then base.matcher.representative.amount else amount } := by
  unfold count
  split
  · rfl
  · rfl

end Engine

end ItemSpec
