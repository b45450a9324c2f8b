import ItemSpec.Proofs.Number
import ItemSpec.Proofs.Text.Lowering
set_option autoImplicit false

/-! Texts without long runs of digits. The pieces of such a text are of the same sort, and so is its lower
case, since a digit is the lower case of nothing but itself; so the number reader never gives up on a part of
one. -/

namespace ItemSpec

namespace Text

open CodeRun (images)

/-- No run of digits is longer than a numeral may be. -/
def Brief (text : Text) : Prop :=
  ∀ digits, digits <:+: text → (∀ digit ∈ digits, Decimal.isDigit digit = true) →
    digits.length ≤ Fault.digitCapacity

theorem Brief.part {text piece : Text} (brief : Brief text) (inside : piece <:+: text) : Brief piece :=
  fun digits run => brief digits (run.trans inside)

theorem brief_of_length {text : Text} (short : text.length ≤ Fault.digitCapacity) : Brief text :=
  fun _ run _ => Nat.le_trans run.length_le short

/-! ### Pieces -/

theorem cut_eq_cons (separator : Char) (text : Text) :
    ∃ others, cut separator text = text.takeWhile (· ≠ separator) :: others := by
  induction text with
  | nil => exact ⟨[], rfl⟩
  | cons head rest ih =>
      by_cases atSeparator : head = separator
      · rw [atSeparator, cut_cons_separator, List.takeWhile_cons_of_neg (by simp)]
        exact ⟨_, rfl⟩
      · obtain ⟨others, pieces⟩ := ih
        simp only [cut, if_neg atSeparator, pieces]
        rw [List.takeWhile_cons_of_pos (by simpa using atSeparator)]
        exact ⟨others, rfl⟩

theorem infix_of_mem_cut {separator : Char} {text piece : Text} (member : piece ∈ cut separator text) :
    piece <:+: text := by
  induction text generalizing piece with
  | nil =>
      rw [cut, List.mem_singleton] at member
      exact member ▸ List.nil_infix
  | cons head rest ih =>
      obtain ⟨others, pieces⟩ := cut_eq_cons separator (head :: rest)
      have isPrefix := List.takeWhile_prefix (l := head :: rest) (· ≠ separator)
      rw [pieces] at member
      rcases List.mem_cons.1 member with rfl | later
      · exact isPrefix.isInfix
      · refine (ih ?_).trans (List.suffix_cons head rest).isInfix
        by_cases atSeparator : head = separator
        · rw [atSeparator, cut_cons_separator] at pieces
          rw [(List.cons.inj pieces).2]
          exact later
        · obtain ⟨restOthers, restPieces⟩ := cut_eq_cons separator rest
          simp only [cut, if_neg atSeparator, restPieces] at pieces
          rw [restPieces, (List.cons.inj pieces).2]
          exact List.mem_cons_of_mem _ later

theorem exists_mem_cut {separator letter : Char} {text : Text} (apart : letter ≠ separator)
    (member : letter ∈ text) : ∃ piece ∈ cut separator text, letter ∈ piece := by
  by_contra absent
  have inNone : ∀ piece ∈ cut separator text, letter ∉ piece :=
    fun piece isPiece inPiece => absent ⟨piece, isPiece, inPiece⟩
  have notSeparator : letter ∉ [separator] := by simpa using apart
  have notJoined := not_mem_join notSeparator inNone
  rw [join_cut] at notJoined
  exact notJoined member

theorem dropTrailing_prefix (trailing : Char) (text : Text) : dropTrailing trailing text <+: text := by
  induction text with
  | nil => exact List.prefix_rfl
  | cons head rest ih =>
      rw [dropTrailing]
      cases kept : dropTrailing trailing rest with
      | nil =>
          dsimp only
          split
          · exact List.nil_prefix
          · exact List.cons_prefix_cons.2 ⟨rfl, List.nil_prefix⟩
      | cons next others =>
          rw [kept] at ih
          exact List.cons_prefix_cons.2 ⟨rfl, ih⟩

/-! ### Lower case -/

private theorem lower_images_no_digits :
    codeBits (images CaseTable.lower) &&& codeBits (List.range' 48 10) = 0 := by
  decide +kernel

private theorem lowerLetter_of_digit {letter digit : Char} (member : digit ∈ lowerLetter letter)
    (isDigit : Decimal.isDigit digit = true) : letter = digit ∧ lowerLetter letter = [digit] := by
  by_cases dotted : letter = 'İ'
  · have noDigits : (lowerLetter 'İ').any Decimal.isDigit = false := by decide
    rw [dotted] at member
    exact absurd isDigit (List.any_eq_false.1 noDigits digit member)
  · refine eq_of_mem_lowerLetter dotted (fun image => ?_) member
    have range : digit.toNat ∈ List.range' 48 10 := by
      simp only [Decimal.isDigit, Bool.and_eq_true, decide_eq_true_eq] at isDigit
      rw [List.mem_range'_1]
      omega
    exact not_mem_of_codeBits lower_images_no_digits image range

private theorem lowerPlaced_of_digit {final : Bool} {letter digit : Char}
    (member : digit ∈ lowerPlaced final letter)
    (isDigit : Decimal.isDigit digit = true) : letter = digit ∧ lowerPlaced final letter = [digit] := by
  unfold lowerPlaced at member ⊢
  split at member
  · rw [List.mem_singleton] at member
    rw [member] at isDigit
    cases final <;> cases isDigit
  · rename_i noSigma
    rw [if_neg noSigma]
    exact lowerLetter_of_digit member isDigit

private theorem infix_of_infix_append {run front back : Text} (inside : run <:+: front ++ back)
    (apart : ∀ letter ∈ front, letter ∉ run) : run <:+: back := by
  induction front with
  | nil => exact inside
  | cons head rest ih =>
      obtain ⟨apartHead, apartRest⟩ := List.forall_mem_cons.1 apart
      rcases List.infix_cons_iff.1 inside with begins | later
      · cases run with
        | nil => exact List.nil_infix
        | cons first others =>
            rw [(List.cons_prefix_cons.1 begins).1] at apartHead
            exact absurd List.mem_cons_self apartHead
      · exact ih later apartRest

section Digits

variable {digits : Text} (every : ∀ digit ∈ digits, Decimal.isDigit digit = true)

include every

private theorem prefix_of_prefix_lowerAfter {casedBefore : Bool} {text : Text}
    (begins : digits <+: lowerAfter casedBefore text) : digits <+: text := by
  induction digits generalizing casedBefore text with
  | nil => exact List.nil_prefix
  | cons digit others ih =>
      obtain ⟨isDigit, everyOther⟩ := List.forall_mem_cons.1 every
      cases text with
      | nil => exact absurd (List.prefix_nil.1 begins) (List.cons_ne_nil digit others)
      | cons head rest =>
          rw [lowerAfter_cons_lowerPlaced] at begins
          have member : digit ∈ lowerPlaced (casedBefore && !startsCased rest) head := by
            cases placed : lowerPlaced (casedBefore && !startsCased rest) head with
            | nil => exact absurd placed (lowerPlaced_ne_nil _ head)
            | cons shown more =>
                rw [placed, List.cons_append] at begins
                rw [(List.cons_prefix_cons.1 begins).1]
                exact List.mem_cons_self
          obtain ⟨same, alone⟩ := lowerPlaced_of_digit member isDigit
          rw [alone, List.singleton_append] at begins
          rw [same]
          exact List.cons_prefix_cons.2 ⟨rfl, ih everyOther (List.cons_prefix_cons.1 begins).2⟩

private theorem infix_of_infix_lowerAfter {casedBefore : Bool} {text : Text}
    (inside : digits <:+: lowerAfter casedBefore text) : digits <:+: text := by
  induction text generalizing casedBefore with
  | nil => exact inside
  | cons head rest ih =>
      rw [lowerAfter_cons_lowerPlaced] at inside
      by_cases shows : ∃ digit ∈ lowerPlaced (casedBefore && !startsCased rest) head, digit ∈ digits
      · obtain ⟨digit, member, inRun⟩ := shows
        obtain ⟨_, alone⟩ := lowerPlaced_of_digit member (every digit inRun)
        rw [alone, List.singleton_append] at inside
        rcases List.infix_cons_iff.1 inside with begins | later
        · rw [← List.singleton_append, ← alone, ← lowerAfter_cons_lowerPlaced] at begins
          exact (prefix_of_prefix_lowerAfter every begins).isInfix
        · exact (ih later).trans (List.suffix_cons head rest).isInfix
      · have apart : ∀ letter ∈ lowerPlaced (casedBefore && !startsCased rest) head, letter ∉ digits :=
          fun letter member inRun => shows ⟨letter, member, inRun⟩
        exact (ih (infix_of_infix_append inside apart)).trans (List.suffix_cons head rest).isInfix

end Digits

theorem Brief.lower {text : Text} (brief : Brief text) : Brief (lower text) :=
  fun digits run every => brief digits (infix_of_infix_lowerAfter every run) every

end Text

theorem Number.not_overlong {token digits : Text} (brief : Text.Brief token) : ¬Overlong token digits := by
  intro ⟨spelled, _, every, _, tooMany⟩
  have inside : digits <:+: token := by
    rcases spelled with rfl | rfl | rfl
    · exact List.infix_rfl
    · exact (List.suffix_cons _ digits).isInfix
    · exact (List.suffix_cons _ digits).isInfix
  exact Nat.not_lt.2 (brief digits inside every) tooMany

theorem Number.read_of_brief {token : Text} (brief : Text.Brief token) :
    ∃ number?, read token = .ok number? :=
  read_of_not_overlong fun _ => not_overlong brief

end ItemSpec
