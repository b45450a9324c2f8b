import Mathlib.Data.Nat.Digits.Lemmas
import ItemSpec.Text.Decimal
set_option autoImplicit false

/-! Decimal numerals by place. A run of digits denotes the sum of its digits, each times the power of
ten of its place; leading zeros add nothing, and a run that starts with another digit is as long as
the size of its number says. The numeral that is written for a number is read back as that number. -/

namespace ItemSpec.Decimal

def places (digits : Text) : List Nat :=
  (digits.map (·.toNat - 48)).reverse

/-- Each digit counts for the power of ten of its place. -/
def placeValue : Text → Nat
  | [] => 0
  | digit :: rest => (digit.toNat - 48) * 10 ^ rest.length + placeValue rest

private theorem places_cons (digit : Char) (rest : Text) :
    places (digit :: rest) = places rest ++ [digit.toNat - 48] := by
  rw [places, List.map_cons, List.reverse_cons, ← places]

private theorem places_append_singleton (digits : Text) (last : Char) :
    places (digits ++ [last]) = (last.toNat - 48) :: places digits := by
  rw [places, List.map_append, List.map_singleton, List.reverse_concat, ← places]

private theorem length_places (digits : Text) : (places digits).length = digits.length := by
  rw [places, List.length_reverse, List.length_map]

private theorem placeValue_eq_ofDigits (digits : Text) :
    placeValue digits = Nat.ofDigits 10 (places digits) := by
  induction digits with
  | nil => rfl
  | cons digit rest ih =>
      rw [placeValue, ih, places_cons, Nat.ofDigits_append, Nat.ofDigits_singleton, length_places,
        Nat.mul_comm, Nat.add_comm]

private theorem value_append_singleton (digits : Text) (last : Char) :
    value (digits ++ [last]) = 10 * value digits + (last.toNat - 48) := by
  simp only [value, List.foldl_append, List.foldl_cons, List.foldl_nil]

/-- Reading from the left, each digit added to ten times what was read before it, is reading by
place. -/
theorem value_eq_placeValue (digits : Text) : value digits = placeValue digits := by
  rw [placeValue_eq_ofDigits]
  induction digits using List.reverseRecOn with
  | nil => rfl
  | append_singleton digits last ih =>
      rw [value_append_singleton, ih, places_append_singleton, Nat.ofDigits_cons, Nat.add_comm]

private theorem placeValue_zero_cons (rest : Text) : placeValue ('0' :: rest) = placeValue rest :=
  (congrArg (· + placeValue rest) (Nat.zero_mul _)).trans (Nat.zero_add _)

theorem placeValue_replicate_zero_append (zeros : Nat) (digits : Text) :
    placeValue (List.replicate zeros '0' ++ digits) = placeValue digits := by
  induction zeros with
  | zero => rfl
  | succ zeros ih => rw [List.replicate_succ, List.cons_append, placeValue_zero_cons, ih]

theorem length_dropWhile_zero_le {digits : Text} (every : ∀ digit ∈ digits, isDigit digit = true)
    {exponent : Nat} (small : placeValue digits < 10 ^ exponent) :
    (digits.dropWhile (· == '0')).length ≤ exponent := by
  induction digits with
  | nil => exact Nat.zero_le _
  | cons first rest ih =>
      obtain ⟨proper, properRest⟩ := List.forall_mem_cons.1 every
      by_cases zero : first = '0'
      · rw [List.dropWhile_cons_of_pos (p := (· == '0')) (beq_iff_eq.2 zero)]
        rw [zero, placeValue_zero_cons] at small
        exact ih properRest small
      · rw [List.dropWhile_cons_of_neg (p := (· == '0')) (by rwa [beq_iff_eq])]
        rw [isDigit, Bool.and_eq_true, decide_eq_true_eq, decide_eq_true_eq] at proper
        have apart : first.toNat ≠ 48 := fun same => zero (Char.toNat_inj.1 same)
        have positive : 0 < first.toNat - 48 := by omega
        have power : 10 ^ rest.length < 10 ^ exponent :=
          calc 10 ^ rest.length ≤ (first.toNat - 48) * 10 ^ rest.length := Nat.le_mul_of_pos_left _ positive
            _ ≤ (first.toNat - 48) * 10 ^ rest.length + placeValue rest := Nat.le_add_right _ _
            _ < 10 ^ exponent := small
        exact (Nat.pow_lt_pow_iff_right (by decide)).1 power

private theorem toNat_digit {digit : Nat} (small : digit < 10) :
    (Char.ofNat (48 + digit)).toNat = 48 + digit := by
  have every : ∀ digit < 10, (Char.ofNat (48 + digit)).toNat = 48 + digit := by decide
  exact every digit small

private theorem isDigit_digit {digit : Nat} (small : digit < 10) :
    isDigit (Char.ofNat (48 + digit)) = true := by
  rw [isDigit, toNat_digit small, Bool.and_eq_true, decide_eq_true_eq, decide_eq_true_eq]
  omega

private theorem digits_of_lt {number : Nat} (small : number < 10) :
    digits number = [Char.ofNat (48 + number)] := by
  rw [digits, if_pos small]

private theorem digits_of_le {number : Nat} (large : 10 ≤ number) :
    digits number = digits (number / 10) ++ [Char.ofNat (48 + number % 10)] := by
  rw [digits, if_neg (Nat.not_lt.2 large)]

theorem digits_ne_nil (number : Nat) : digits number ≠ [] := by
  rw [digits]
  split
  · exact List.cons_ne_nil _ _
  · exact List.concat_ne_nil _ _

theorem isDigit_of_mem_digits (number : Nat) : ∀ digit ∈ digits number, isDigit digit = true := by
  induction number using digits.induct with
  | case1 number small =>
      rw [digits_of_lt small, List.forall_mem_singleton]
      exact isDigit_digit small
  | case2 number large ih =>
      rw [digits_of_le (Nat.not_lt.1 large), List.forall_mem_append, List.forall_mem_singleton]
      exact ⟨ih, isDigit_digit (Nat.mod_lt _ (by decide))⟩

theorem placeValue_digits (number : Nat) : placeValue (digits number) = number := by
  rw [← value_eq_placeValue]
  induction number using digits.induct with
  | case1 number small =>
      rw [digits_of_lt small]
      change 10 * 0 + ((Char.ofNat (48 + number)).toNat - 48) = number
      rw [toNat_digit small]
      omega
  | case2 number large ih =>
      rw [digits_of_le (Nat.not_lt.1 large), value_append_singleton, ih,
        toNat_digit (Nat.mod_lt _ (by decide))]
      omega

end ItemSpec.Decimal
