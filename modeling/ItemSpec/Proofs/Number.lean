import ItemSpec.Number
set_option autoImplicit false

/-! The numerals that the number reader gives up on. They are decimal numerals whose significant
digits are few enough and whose digits, leading zeros included, are too many; every other token is a
number or is none, without a fault. -/

namespace ItemSpec.Number

/-- A token is a run of digits, behind a sign or without one. -/
def Spells (token : Text) (negative : Bool) (digits : Text) : Prop :=
  digits ≠ [] ∧ (∀ digit ∈ digits, Decimal.isDigit digit = true) ∧
    (token = '-' :: digits ∧ negative = true ∨
      (token = '+' :: digits ∨ token = digits) ∧ negative = false)

theorem parts?_eq_some_iff (token : Text) (negative : Bool) (digits : Text) :
    parts? token = some (negative, digits) ↔ Spells token negative digits := by
  have plain : ∀ sign : Char, Decimal.isDigit sign = false → ∀ rest : Text,
      (∀ digit ∈ sign :: rest, Decimal.isDigit digit = true) → False := by
    intro sign noDigit rest every
    rw [every sign List.mem_cons_self] at noDigit
    cases noDigit
  constructor
  · intro read
    unfold parts? at read
    split at read
    rename_i shape
    split at read
    · rename_i proper
      obtain ⟨rfl, rfl⟩ := Prod.mk.inj (Option.some.inj read)
      refine ⟨proper.1, List.all_eq_true.1 proper.2, ?_⟩
      split at shape
      · obtain ⟨rfl, rfl⟩ := Prod.mk.inj shape
        exact .inl ⟨rfl, rfl⟩
      · obtain ⟨rfl, rfl⟩ := Prod.mk.inj shape
        exact .inr ⟨.inl rfl, rfl⟩
      · obtain ⟨rfl, rfl⟩ := Prod.mk.inj shape
        exact .inr ⟨.inr rfl, rfl⟩
    · cases read
  · rintro ⟨notEmpty, every, ⟨rfl, rfl⟩ | ⟨rfl | rfl, rfl⟩⟩
    · simpa [parts?, notEmpty] using every
    · simpa [parts?, notEmpty] using every
    · unfold parts?
      split
      rename_i shape
      split at shape
      · exact (plain '-' (by decide) _ every).elim
      · exact (plain '+' (by decide) _ every).elim
      · obtain ⟨rfl, rfl⟩ := Prod.mk.inj shape
        rw [if_pos ⟨notEmpty, List.all_eq_true.2 every⟩]

theorem read_of_foreign {token : Text} {letter : Char} (member : letter ∈ token)
    (noDigit : Decimal.isDigit letter = false) (noSign : letter ∉ ['-', '+']) : read token = .ok none := by
  have unspelled : parts? token = none := by
    refine Option.eq_none_iff_forall_ne_some.2 fun ⟨negative, digits⟩ spelled => ?_
    obtain ⟨_, every, shape⟩ := (parts?_eq_some_iff token negative digits).1 spelled
    have apart : letter ∉ digits := by
      intro inDigits
      rw [every letter inDigits] at noDigit
      cases noDigit
    obtain ⟨noMinus, noPlus⟩ := by simpa only [List.mem_cons, List.not_mem_nil, or_false, not_or] using noSign
    rcases shape with ⟨rfl, _⟩ | ⟨rfl | rfl, _⟩
    · exact (List.mem_cons.1 member).elim noMinus apart
    · exact (List.mem_cons.1 member).elim noPlus apart
    · exact apart member
  unfold read
  rw [unspelled]

/-- A numeral that is measured as short without its leading zeros and is too long with them. -/
def Overlong (token digits : Text) : Prop :=
  (token = digits ∨ token = '+' :: digits ∨ token = '-' :: digits) ∧ digits ≠ [] ∧
    (∀ digit ∈ digits, Decimal.isDigit digit = true) ∧
    (digits.dropWhile (· == '0')).length ≤ significantDigits ∧
    Fault.digitCapacity < digits.length

theorem read_eq_error_iff (token : Text) (fault : Fault) :
    read token = .error fault ↔
      ∃ digits, Overlong token digits ∧ fault = .digitLimit digits.length := by
  constructor
  · intro gaveUp
    unfold read at gaveUp
    cases parts : parts? token with
    | none =>
        rw [parts] at gaveUp
        cases gaveUp
    | some spelled =>
        obtain ⟨negative, digits⟩ := spelled
        obtain ⟨notEmpty, every, shape⟩ := (parts?_eq_some_iff token negative digits).1 parts
        simp only [parts] at gaveUp
        split at gaveUp
        · cases gaveUp
        · rename_i fewSignificant
          split at gaveUp
          · rename_i tooMany
            refine ⟨digits, ⟨?_, notEmpty, every, Nat.not_lt.1 fewSignificant, tooMany⟩,
              (Except.error.inj gaveUp).symm⟩
            rcases shape with ⟨minus, _⟩ | ⟨plus | bare, _⟩
            · exact .inr (.inr minus)
            · exact .inr (.inl plus)
            · exact .inl bare
          · split at gaveUp <;> cases gaveUp
  · rintro ⟨digits, ⟨shape, notEmpty, every, fewSignificant, tooMany⟩, rfl⟩
    have parts : ∃ negative, parts? token = some (negative, digits) := by
      rcases shape with bare | plus | minus
      · exact ⟨false, (parts?_eq_some_iff ..).2 ⟨notEmpty, every, .inr ⟨.inr bare, rfl⟩⟩⟩
      · exact ⟨false, (parts?_eq_some_iff ..).2 ⟨notEmpty, every, .inr ⟨.inl plus, rfl⟩⟩⟩
      · exact ⟨true, (parts?_eq_some_iff ..).2 ⟨notEmpty, every, .inl ⟨minus, rfl⟩⟩⟩
    obtain ⟨negative, parts⟩ := parts
    unfold read
    simp only [parts]
    rw [if_neg (Nat.not_lt.2 fewSignificant), if_pos tooMany]

theorem read_of_not_overlong {token : Text} (short : ∀ digits, ¬Overlong token digits) :
    ∃ number?, read token = .ok number? := by
  cases number : read token with
  | ok number? => exact ⟨number?, rfl⟩
  | error fault =>
      obtain ⟨digits, overlong, _⟩ := (read_eq_error_iff token fault).1 number
      exact absurd overlong (short digits)

theorem overlong_padded {last : Char} {zeros : Nat} (digit : Decimal.isDigit last = true)
    (many : Fault.digitCapacity ≤ zeros) :
    Overlong (List.replicate zeros '0' ++ [last]) (List.replicate zeros '0' ++ [last]) := by
  refine ⟨.inl rfl, List.append_ne_nil_of_right_ne_nil _ (List.cons_ne_nil _ _), ?_, ?_, ?_⟩
  · intro other member
    rcases List.mem_append.1 member with zero | atEnd
    · rw [List.eq_of_mem_replicate zero]
      decide
    · rw [List.mem_singleton.1 atEnd]
      exact digit
  · have zerosDropped : ∀ zero ∈ List.replicate zeros '0', (zero == '0') = true :=
      fun zero member => beq_iff_eq.2 (List.eq_of_mem_replicate member)
    rw [List.dropWhile_append_of_pos zerosDropped]
    have atMostOne := (List.dropWhile_sublist (· == '0') (l := [last])).length_le
    rw [List.length_singleton] at atMostOne
    exact Nat.le_trans atMostOne (by decide)
  · rw [List.length_append, List.length_replicate, List.length_singleton]
    omega

end ItemSpec.Number
