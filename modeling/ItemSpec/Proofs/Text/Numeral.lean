import ItemSpec.Proofs.Number
import ItemSpec.Proofs.Text.Lowering
import ItemSpec.Proofs.Text.Spacing
set_option autoImplicit false

/-! Numerals in texts. A numeral is its own lower case, it holds no separator of specs, and put behind
another text it leaves the lower case of that as it was. -/

namespace ItemSpec.Number

structure Inert (letter : Char) : Prop where
  small : Text.IsLower letter
  counts : Text.isCaseIgnorable letter = false
  uncased : Text.isCased letter = false
  apart : letter ∉ [':', ' ', '?']

instance (letter : Char) : Decidable (Inert letter) :=
  decidable_of_iff (Text.lowerLetter letter = [letter] ∧ Text.isCaseIgnorable letter = false ∧
      Text.isCased letter = false ∧ letter ∉ [':', ' ', '?'])
    ⟨fun ⟨small, counts, uncased, apart⟩ => ⟨small, counts, uncased, apart⟩,
      fun ⟨small, counts, uncased, apart⟩ => ⟨small, counts, uncased, apart⟩⟩

private theorem inert_of_isDigit {letter : Char} (digit : Decimal.isDigit letter = true) :
    Inert letter := by
  have every : ∀ index < 10, Inert (Char.ofNat (48 + index)) := by decide +kernel
  unfold Decimal.isDigit at digit
  rw [Bool.and_eq_true, decide_eq_true_eq, decide_eq_true_eq] at digit
  have here := every (letter.toNat - 48) (by omega)
  rwa [Nat.add_sub_cancel' digit.1, Char.ofNat_toNat] at here

variable {written : Text} {amount : Int}

theorem inert_of_read (number : read written = .ok (some amount)) :
    written ≠ [] ∧ ∀ letter ∈ written, Inert letter := by
  cases parts : parts? written with
  | none =>
      unfold read at number
      rw [parts] at number
      cases number
  | some spelled =>
      obtain ⟨negative, digits⟩ := spelled
      obtain ⟨notEmpty, every, shape⟩ := (parts?_eq_some_iff written negative digits).1 parts
      have inertDigits : ∀ letter ∈ digits, Inert letter :=
        fun letter member => inert_of_isDigit (every letter member)
      rcases shape with ⟨rfl, _⟩ | ⟨rfl | rfl, _⟩
      · exact ⟨List.cons_ne_nil _ _, List.forall_mem_cons.2 ⟨by decide +kernel, inertDigits⟩⟩
      · exact ⟨List.cons_ne_nil _ _, List.forall_mem_cons.2 ⟨by decide +kernel, inertDigits⟩⟩
      · exact ⟨notEmpty, inertDigits⟩

theorem isPart_of_read (number : read written = .ok (some amount)) : Text.IsPart written := by
  have absent : ∀ mark ∈ [':', ' ', '?'], mark ∉ written :=
    fun mark separates member => ((inert_of_read number).2 mark member).apart separates
  exact ⟨absent ':' (by decide), absent ' ' (by decide), absent '?' (by decide)⟩

/-- A numeral behind a colon is no neighbour of the letters before the colon. -/
theorem lower_append_numeral (number : read written = .ok (some amount)) (text : Text) :
    Text.lower (text ++ ':' :: written) = Text.lower text ++ ':' :: written := by
  obtain ⟨notEmpty, inert⟩ := inert_of_read number
  have uncased : Text.startsCased (':' :: written) = false := by
    rw [Text.startsCased_cons_colon]
    cases written with
    | nil => exact absurd rfl notEmpty
    | cons head rest =>
        have first := inert head List.mem_cons_self
        rw [Text.startsCased, first.counts, if_neg Bool.false_ne_true, first.uncased]
  rw [Text.lower_append_of_uncased text uncased, Text.lowerAfter_cons_colon,
    Text.lowerAfter_of_isLower fun letter member => (inert letter member).small]

theorem cut_lower_append_numeral (number : read written = .ok (some amount)) (text : Text) :
    Text.cut ':' (Text.lower (text ++ ':' :: written)) =
      Text.cut ':' (Text.lower text) ++ [written] := by
  rw [lower_append_numeral number, Text.cut_append_separator,
    Text.cut_of_not_mem (isPart_of_read number).1]

end ItemSpec.Number
