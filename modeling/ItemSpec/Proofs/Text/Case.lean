import ItemSpec.Text.Case
set_option autoImplicit false

/-! Lower case letter by letter. A letter becomes one letter, whatever stands around it, unless it
becomes an `i` with a dot of its own or one of the two small sigmas. A beginning of the lower case that
has none of these is therefore the lower case of a beginning of the same length. -/

namespace ItemSpec.Text

/-- Letters that a lower case shows only where one letter stands in the text, whatever its place. -/
def isLone (letter : Char) : Bool :=
  letter ≠ 'i' && letter ≠ 'σ' && letter ≠ 'ς'

private theorem lowerAfter_cons (casedBefore : Bool) (head : Char) :
    (∀ rest, ∃ letter others, isLone letter = false ∧
        lowerAfter casedBefore (head :: rest) = letter :: others) ∨
      ∃ letter, ∀ rest, lowerAfter casedBefore (head :: rest) =
        letter :: lowerAfter (casedAfter casedBefore head) rest := by
  by_cases sigma : head = 'Σ'
  · refine .inl fun rest => ?_
    simp only [lowerAfter, if_pos sigma]
    split
    · exact ⟨'ς', _, by decide, rfl⟩
    · exact ⟨'σ', _, by decide, rfl⟩
  · by_cases dotted : head = 'İ'
    · refine .inl fun rest => ⟨'i', Char.ofNat 0x307 :: lowerAfter (casedAfter casedBefore head) rest,
        by decide, ?_⟩
      simp only [lowerAfter, if_neg sigma, lowerLetter, if_pos dotted]
      rfl
    · refine .inr ⟨Char.ofNat (CodeRun.apply CaseTable.lower head.toNat), fun rest => ?_⟩
      simp only [lowerAfter, if_neg sigma, lowerLetter, if_neg dotted]
      rfl

private theorem prefix_lowerAfter_iff {wanted : Text} (lone : ∀ letter ∈ wanted, isLone letter = true)
    (casedBefore : Bool) (text : Text) :
    wanted <+: lowerAfter casedBefore text ↔
      ∃ head rest, text = head ++ rest ∧ lowerAfter casedBefore head = wanted := by
  induction wanted generalizing casedBefore text with
  | nil => exact ⟨fun _ => ⟨[], text, rfl, rfl⟩, fun _ => List.nil_prefix⟩
  | cons letter others ih =>
      obtain ⟨loneLetter, loneOthers⟩ := List.forall_mem_cons.1 lone
      constructor
      · intro begins
        cases text with
        | nil => exact absurd (List.prefix_nil.1 begins) (List.cons_ne_nil letter others)
        | cons first text =>
            rcases lowerAfter_cons casedBefore first with dark | ⟨shown, lowered⟩
            · obtain ⟨shown, tail, notLone, lowered⟩ := dark text
              rw [lowered] at begins
              rw [← (List.cons_prefix_cons.1 begins).1, loneLetter] at notLone
              cases notLone
            · rw [lowered] at begins
              obtain ⟨same, later⟩ := List.cons_prefix_cons.1 begins
              obtain ⟨head, rest, split, lowers⟩ := (ih loneOthers _ _).1 later
              exact ⟨first :: head, rest, by rw [split, List.cons_append], by rw [lowered, lowers, same]⟩
      · rintro ⟨head, rest, rfl, lowers⟩
        cases head with
        | nil => cases lowers
        | cons first head =>
            rcases lowerAfter_cons casedBefore first with dark | ⟨shown, lowered⟩
            · obtain ⟨shown, tail, notLone, lowered⟩ := dark head
              rw [lowered] at lowers
              rw [(List.cons.inj lowers).1, loneLetter] at notLone
              cases notLone
            · rw [lowered] at lowers
              obtain ⟨same, later⟩ := List.cons.inj lowers
              rw [List.cons_append, lowered, same]
              exact List.cons_prefix_cons.2 ⟨rfl, (ih loneOthers _ _).2 ⟨head, rest, rfl, later⟩⟩

private theorem length_of_lowerAfter {wanted : Text} (lone : ∀ letter ∈ wanted, isLone letter = true)
    {casedBefore : Bool} {text : Text} (lowers : lowerAfter casedBefore text = wanted) :
    text.length = wanted.length := by
  induction text generalizing casedBefore wanted with
  | nil => rw [← lowers]; rfl
  | cons first rest ih =>
      rcases lowerAfter_cons casedBefore first with dark | ⟨shown, lowered⟩
      · obtain ⟨shown, tail, notLone, lowered⟩ := dark rest
        rw [lone shown (by rw [← lowers, lowered]; exact List.mem_cons_self)] at notLone
        cases notLone
      · rw [lowered] at lowers
        rw [← lowers] at lone ⊢
        rw [List.length_cons, List.length_cons, ih (List.forall_mem_cons.1 lone).2 rfl]

/-- The lower case of a text begins with lone letters exactly if a beginning of the text has them as
its lower case. -/
theorem prefix_lower_iff {wanted : Text} (lone : ∀ letter ∈ wanted, isLone letter = true) (text : Text) :
    wanted <+: lower text ↔ ∃ head rest, text = head ++ rest ∧ lower head = wanted :=
  prefix_lowerAfter_iff lone false text

theorem length_of_lower {wanted : Text} (lone : ∀ letter ∈ wanted, isLone letter = true) {text : Text}
    (lowers : lower text = wanted) : text.length = wanted.length :=
  length_of_lowerAfter lone lowers

end ItemSpec.Text
