import ItemSpec.Proofs.Number
import ItemSpec.Proofs.Text.PlaceValue
set_option autoImplicit false

/-! What the number reader reads. A token that is not too long to be read is the integer of 32 bits
that it denotes by place, and no number if it denotes none. Measuring the significant digits first
turns no integer of 32 bits away, and each of them is read in every way to write it: with any sign
that it may have and behind as many zeros as fit. -/

namespace ItemSpec.Number

def signedPlaceValue (negative : Bool) (digits : Text) : Int :=
  if negative then -(Decimal.placeValue digits : Int) else Decimal.placeValue digits

def Denotes (token : Text) (number : Int) : Prop :=
  ∃ negative digits, Spells token negative digits ∧ number = signedPlaceValue negative digits

def InRange (number : Int) : Prop :=
  -2 ^ 31 ≤ number ∧ number ≤ 2 ^ 31 - 1

/-- The signs that may stand in front of a number. Zero may have either. -/
def MaySign (number : Int) (sign : Text) : Prop :=
  (sign = [] ∨ sign = ['+']) ∧ 0 ≤ number ∨ sign = ['-'] ∧ number ≤ 0

private theorem inRange_iff (number : Int) : InRange number ↔ least ≤ number ∧ number ≤ greatest :=
  Iff.rfl

private theorem signed_eq_signedPlaceValue (negative : Bool) (digits : Text) :
    signed negative digits = signedPlaceValue negative digits := by
  rw [signed, signedPlaceValue, Decimal.value_eq_placeValue]

private theorem natAbs_signedPlaceValue (negative : Bool) (digits : Text) :
    (signedPlaceValue negative digits).natAbs = Decimal.placeValue digits := by
  cases negative with
  | false => exact Int.natAbs_natCast _
  | true => exact (Int.natAbs_neg _).trans (Int.natAbs_natCast _)

variable {token digits : Text} {negative : Bool} {number : Int}

/-- An integer of 32 bits has no more significant digits than are measured. -/
theorem significant_of_inRange (spelled : Spells token negative digits)
    (inside : InRange (signedPlaceValue negative digits)) :
    (digits.dropWhile (· == '0')).length ≤ significantDigits := by
  have size := natAbs_signedPlaceValue negative digits
  have small : Decimal.placeValue digits < 10 ^ significantDigits := by
    obtain ⟨low, high⟩ := inside
    have power : 10 ^ significantDigits = 10000000000 := rfl
    omega
  exact Decimal.length_dropWhile_zero_le spelled.2.1 small

private theorem read_of_inRange (spelled : Spells token negative digits)
    (inside : InRange (signedPlaceValue negative digits)) :
    read token =
      if Fault.digitCapacity < digits.length then .error (.digitLimit digits.length)
      else .ok (some (signedPlaceValue negative digits)) := by
  unfold read
  rw [(parts?_eq_some_iff token negative digits).2 spelled]
  simp only [if_neg (Nat.not_lt.2 (significant_of_inRange spelled inside)), signed_eq_signedPlaceValue,
    if_pos ((inRange_iff _).1 inside)]

theorem denotes_of_read (number? : read token = .ok (some number)) :
    Denotes token number ∧ InRange number := by
  unfold read at number?
  cases parts : parts? token with
  | none =>
      rw [parts] at number?
      cases number?
  | some spelled =>
      obtain ⟨negative, digits⟩ := spelled
      simp only [parts] at number?
      split at number?
      · cases number?
      · split at number?
        · cases number?
        · split at number?
          · rename_i inside
            obtain rfl := Option.some.inj (Except.ok.inj number?)
            exact ⟨⟨negative, digits, (parts?_eq_some_iff token negative digits).1 parts,
              signed_eq_signedPlaceValue negative digits⟩, inside⟩
          · cases number?

private theorem not_overlong_of_read {number? : Option Int} (answered : read token = .ok number?)
    (digits : Text) : ¬Overlong token digits := by
  intro overlong
  have gaveUp := (read_eq_error_iff token _).2 ⟨digits, overlong, rfl⟩
  rw [answered] at gaveUp
  cases gaveUp

private theorem read_eq_some_iff (token : Text) (number : Int) :
    read token = .ok (some number) ↔
      (∀ digits, ¬Overlong token digits) ∧ Denotes token number ∧ InRange number := by
  constructor
  · intro number?
    exact ⟨not_overlong_of_read number?, denotes_of_read number?⟩
  · rintro ⟨short, ⟨negative, digits, spelled, rfl⟩, inside⟩
    obtain ⟨number?, answered⟩ := read_of_not_overlong short
    have either := read_of_inRange spelled inside
    split at either
    · rw [answered] at either
      cases either
    · exact either

private theorem read_eq_none_iff (token : Text) :
    read token = .ok none ↔
      (∀ digits, ¬Overlong token digits) ∧ ∀ number, Denotes token number → ¬InRange number := by
  constructor
  · intro noNumber
    have short := not_overlong_of_read noNumber
    refine ⟨short, fun number denoted inside => ?_⟩
    have number? := (read_eq_some_iff token number).2 ⟨short, denoted, inside⟩
    rw [noNumber] at number?
    cases number?
  · rintro ⟨short, outside⟩
    obtain ⟨number?, answered⟩ := read_of_not_overlong short
    cases number? with
    | none => exact answered
    | some number =>
        obtain ⟨_, denoted, inside⟩ := (read_eq_some_iff token number).1 answered
        exact absurd inside (outside number denoted)

private theorem spells_padded {sign : Text} (may : MaySign number sign) (zeros : Nat) :
    ∃ negative,
      signedPlaceValue negative (List.replicate zeros '0' ++ Decimal.digits number.natAbs) = number ∧
      Spells (sign ++ (List.replicate zeros '0' ++ Decimal.digits number.natAbs)) negative
        (List.replicate zeros '0' ++ Decimal.digits number.natAbs) := by
  have notEmpty : List.replicate zeros '0' ++ Decimal.digits number.natAbs ≠ [] :=
    List.append_ne_nil_of_right_ne_nil _ (Decimal.digits_ne_nil _)
  have every : ∀ digit ∈ List.replicate zeros '0' ++ Decimal.digits number.natAbs,
      Decimal.isDigit digit = true := by
    intro digit member
    rcases List.mem_append.1 member with zero | inNumeral
    · rw [List.eq_of_mem_replicate zero]
      decide
    · exact Decimal.isDigit_of_mem_digits _ digit inNumeral
  have size : Decimal.placeValue (List.replicate zeros '0' ++ Decimal.digits number.natAbs) =
      number.natAbs := by
    rw [Decimal.placeValue_replicate_zero_append, Decimal.placeValue_digits]
  rcases may with ⟨unsigned | plus, low⟩ | ⟨minus, high⟩
  · refine ⟨false, ?_, notEmpty, every, .inr ⟨.inr (by rw [unsigned, List.nil_append]), rfl⟩⟩
    rw [signedPlaceValue, size]
    exact Int.natAbs_of_nonneg low
  · refine ⟨false, ?_, notEmpty, every, .inr ⟨.inl (by rw [plus, List.singleton_append]), rfl⟩⟩
    rw [signedPlaceValue, size]
    exact Int.natAbs_of_nonneg low
  · refine ⟨true, ?_, notEmpty, every, .inl ⟨by rw [minus, List.singleton_append], rfl⟩⟩
    rw [signedPlaceValue, size, if_pos rfl]
    omega

/-- The reader is the decimal reader of the integers of 32 bits. It gives up on overlong numerals
alone, reads every other numeral of such an integer and nothing else, and takes every spelling of
one that has room. -/
theorem read_exact :
    (∀ token fault, read token = .error fault ↔
      ∃ digits, Overlong token digits ∧ fault = .digitLimit digits.length) ∧
    (∀ token number, read token = .ok (some number) ↔
      (∀ digits, ¬Overlong token digits) ∧ Denotes token number ∧ InRange number) ∧
    (∀ token, read token = .ok none ↔
      (∀ digits, ¬Overlong token digits) ∧ ∀ number, Denotes token number → ¬InRange number) ∧
    (∀ token negative digits, Spells token negative digits →
      InRange (signedPlaceValue negative digits) →
      (digits.dropWhile (· == '0')).length ≤ significantDigits) ∧
    ∀ number, InRange number → ∀ sign, MaySign number sign →
      ∀ zeros, zeros + (Decimal.digits number.natAbs).length ≤ Fault.digitCapacity →
        read (sign ++ (List.replicate zeros '0' ++ Decimal.digits number.natAbs)) = .ok (some number) := by
  refine ⟨read_eq_error_iff, read_eq_some_iff, read_eq_none_iff, ?_, ?_⟩
  · intro token negative digits spelled inside
    exact significant_of_inRange spelled inside
  · intro number inside sign may zeros room
    obtain ⟨negative, same, spelled⟩ := spells_padded may zeros
    have either := read_of_inRange spelled (same.symm ▸ inside)
    rw [if_neg (by rw [List.length_append, List.length_replicate]; omega), same] at either
    exact either

/-- The least integer is read behind as many zeros as fit. A seven behind 4300 zeros has no place. -/
theorem read_exact_least :
    InRange (-2147483648) ∧ MaySign (-2147483648) ['-'] ∧
      4290 + (Decimal.digits 2147483648).length ≤ Fault.digitCapacity ∧
      read (['-'] ++ (List.replicate 4290 '0' ++ Decimal.digits 2147483648)) =
        .ok (some (-2147483648)) ∧
      Overlong (List.replicate 4300 '0' ++ ['7']) (List.replicate 4300 '0' ++ ['7']) ∧
      read (List.replicate 4300 '0' ++ ['7']) = .error (.digitLimit 4301) := by
  have inside : InRange (-2147483648) := ⟨by decide, by decide⟩
  have may : MaySign (-2147483648) ['-'] := .inr ⟨rfl, by decide⟩
  have room : 4290 + (Decimal.digits 2147483648).length ≤ Fault.digitCapacity := by decide +kernel
  have overlong : Overlong (List.replicate 4300 '0' ++ ['7']) (List.replicate 4300 '0' ++ ['7']) :=
    overlong_padded (by decide) (by decide)
  obtain ⟨gaveUp, _, _, _, spelling⟩ := read_exact
  refine ⟨inside, may, room, spelling _ inside ['-'] may 4290 room, overlong, ?_⟩
  refine (gaveUp _ _).2 ⟨_, overlong, ?_⟩
  rw [List.length_append, List.length_replicate, List.length_singleton]

end ItemSpec.Number
