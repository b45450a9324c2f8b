import Mathlib.Data.List.Basic
import ItemSpec.Text.Case
set_option autoImplicit false

/-! Single letters in lower and in upper case. What holds of every letter is read off the case tables,
each of which is checked as a whole. A set of code points is put into the bits of one number for that, so
that two large sets are told apart in one step. -/

namespace ItemSpec

/-- A set of code points as the bits of a number. -/
def codeBits (codes : List Nat) : Nat :=
  codes.foldr (fun code others => 1 <<< code ||| others) 0

private theorem testBit_codeBits {codes : List Nat} {code : Nat} (member : code ∈ codes) :
    (codeBits codes).testBit code = true := by
  induction codes with
  | nil => cases member
  | cons head others ih =>
      show (1 <<< head ||| codeBits others).testBit code = true
      rw [Nat.testBit_or, Nat.one_shiftLeft, Bool.or_eq_true]
      rcases List.mem_cons.1 member with rfl | later
      · exact .inl Nat.testBit_two_pow_self
      · exact .inr (ih later)

theorem not_mem_of_codeBits {codes others : List Nat}
    (disjoint : codeBits codes &&& codeBits others = 0) {code : Nat} (member : code ∈ codes) :
    code ∉ others := by
  intro shared
  have common : (codeBits codes &&& codeBits others).testBit code = true := by
    rw [Nat.testBit_and, testBit_codeBits member, testBit_codeBits shared, Bool.and_self]
  rw [disjoint, Nat.zero_testBit] at common
  cases common

namespace CodeRun

def walk (run : CodeRun) (start : Nat) : List Nat :=
  (List.range ((run.last - run.first) / run.step + 1)).map fun index => start + index * run.step

def sources (runs : List CodeRun) : List Nat :=
  runs.flatMap fun run => run.walk run.first

def images (runs : List CodeRun) : List Nat :=
  runs.flatMap fun run => run.walk run.image

private theorem mem_walk {run : CodeRun} {code : Nat} (contained : run.contains code = true) (start : Nat) :
    start + (code - run.first) ∈ run.walk start := by
  obtain ⟨above, below, onStep⟩ := (run.contains_iff code).1 contained
  have within : (code - run.first) / run.step < (run.last - run.first) / run.step + 1 :=
    Nat.lt_succ_of_le (Nat.div_le_div_right (Nat.sub_le_sub_right below run.first))
  refine List.mem_map.2 ⟨(code - run.first) / run.step, List.mem_range.2 within, ?_⟩
  rw [Nat.div_mul_cancel (Nat.dvd_of_mod_eq_zero onStep)]

private theorem mem_sources {runs : List CodeRun} {run : CodeRun} (member : run ∈ runs) {code : Nat}
    (contained : run.contains code = true) : code ∈ sources runs := by
  have inWalk := mem_walk contained run.first
  rw [Nat.add_sub_cancel' ((run.contains_iff code).1 contained).1] at inWalk
  exact List.mem_flatMap.2 ⟨run, member, inWalk⟩

private theorem mem_images {runs : List CodeRun} {run : CodeRun} (member : run ∈ runs) {code : Nat}
    (contained : run.contains code = true) : run.image + (code - run.first) ∈ images runs :=
  List.mem_flatMap.2 ⟨run, member, mem_walk contained run.image⟩

private theorem apply_of_not_mem_sources {runs : List CodeRun} {code : Nat}
    (unmoved : code ∉ sources runs) :
    apply runs code = code := by
  rcases apply_eq runs code with ⟨stays, _⟩ | ⟨run, member, contained, _⟩
  · exact stays
  · exact absurd (mem_sources member contained) unmoved

private theorem apply_eq_or_mem_images (runs : List CodeRun) (code : Nat) :
    apply runs code = code ∨ apply runs code ∈ images runs := by
  rcases apply_eq runs code with ⟨stays, _⟩ | ⟨run, member, contained, moved⟩
  · exact .inl stays
  · exact .inr (moved ▸ mem_images member contained)

end CodeRun

namespace Text

open CodeRun (sources images)

/-! ### Lower case -/

/-- No image of the lower case is moved any further; nor is one a colon or the capital dotted `i`. -/
theorem lower_images_unmoved :
    codeBits (images CaseTable.lower) &&& codeBits (0x3A :: 0x130 :: sources CaseTable.lower) = 0 := by
  decide +kernel

private theorem lower_images_valid : ∀ code ∈ images CaseTable.lower, (Char.ofNat code).toNat = code := by
  decide +kernel

def IsLower (letter : Char) : Prop :=
  lowerLetter letter = [letter]

theorem IsLower.ne_sigma {letter : Char} (small : IsLower letter) : letter ≠ 'Σ' := by
  intro isSigma
  rw [isSigma] at small
  exact absurd small (by unfold IsLower; decide)

private theorem lowerLetter_eq {letter : Char} (plain : letter ≠ 'İ') :
    IsLower letter ∨ ∃ code ∈ images CaseTable.lower, lowerLetter letter = [Char.ofNat code] := by
  unfold IsLower lowerLetter
  rw [if_neg plain]
  rcases CodeRun.apply_eq_or_mem_images CaseTable.lower letter.toNat with stays | moved
  · rw [stays, Char.ofNat_toNat]
    exact .inl rfl
  · exact .inr ⟨_, moved, rfl⟩

private theorem isLower_image {code : Nat} (image : code ∈ images CaseTable.lower) :
    IsLower (Char.ofNat code) := by
  have unmoved := not_mem_of_codeBits lower_images_unmoved image
  simp only [List.mem_cons, not_or] at unmoved
  have valid := lower_images_valid code image
  have notDotted : Char.ofNat code ≠ 'İ' := by
    intro isDotted
    rw [isDotted] at valid
    exact unmoved.2.1 valid.symm
  unfold IsLower lowerLetter
  rw [if_neg notDotted, valid, CodeRun.apply_of_not_mem_sources unmoved.2.2]

theorem isLower_of_mem_lowerLetter {letter shown : Char} (member : shown ∈ lowerLetter letter) :
    IsLower shown := by
  by_cases dotted : letter = 'İ'
  · have parts : lowerLetter 'i' = ['i'] ∧
        lowerLetter (Char.ofNat 0x307) = [Char.ofNat 0x307] := by decide
    rw [dotted, lowerLetter, if_pos rfl, List.mem_cons, List.mem_singleton] at member
    rcases member with rfl | rfl
    · exact parts.1
    · exact parts.2
  · rcases lowerLetter_eq dotted with small | ⟨code, image, moved⟩
    · rw [small, List.mem_singleton] at member
      exact member ▸ small
    · rw [moved, List.mem_singleton] at member
      exact member ▸ isLower_image image

theorem eq_of_mem_lowerLetter {letter shown : Char} (plain : letter ≠ 'İ')
    (noImage : shown.toNat ∉ images CaseTable.lower) (member : shown ∈ lowerLetter letter) :
    letter = shown ∧ lowerLetter letter = [shown] := by
  rcases lowerLetter_eq plain with small | ⟨code, image, moved⟩
  · rw [small, List.mem_singleton] at member
    exact ⟨member.symm, member ▸ small⟩
  · rw [moved, List.mem_singleton] at member
    rw [← lower_images_valid code image, ← member] at image
    exact absurd image noImage

theorem colon_mem_lowerLetter_iff (letter : Char) : ':' ∈ lowerLetter letter ↔ letter = ':' := by
  constructor
  · intro member
    have noImage : ':'.toNat ∉ images CaseTable.lower := fun image =>
      not_mem_of_codeBits lower_images_unmoved image List.mem_cons_self
    by_cases dotted : letter = 'İ'
    · rw [dotted] at member
      exact absurd member (by decide)
    · exact (eq_of_mem_lowerLetter dotted noImage member).1
  · intro isColon
    rw [isColon]
    decide

/-! ### Upper case -/

/-- The Kelvin sign, whose lower case is the letter `k` and whose upper case is itself. -/
def kelvinSign : Char := Char.ofNat 0x212A

def Foreign (text : Text) : Prop :=
  ∃ letter ∈ text, 128 ≤ letter.toNat

instance (text : Text) : Decidable (Foreign text) :=
  List.decidableBEx (fun letter : Char => 128 ≤ letter.toNat) text

theorem foreign_append_iff (front back : Text) :
    Foreign (front ++ back) ↔ Foreign front ∨ Foreign back := by
  simp only [Foreign, List.mem_append, or_and_right, exists_or]

theorem Foreign.flatMap {text : Text} {letter : Char} {change : Char → Text} (member : letter ∈ text)
    (foreign : Foreign (change letter)) : Foreign (text.flatMap change) := by
  obtain ⟨shown, inChange, high⟩ := foreign
  exact ⟨shown, List.mem_flatMap.2 ⟨letter, member, inChange⟩, high⟩

def plainCodes : List Nat :=
  [0xDF, 0x131, 0x17F, 0xFB00, 0xFB01, 0xFB02, 0xFB03, 0xFB04, 0xFB05, 0xFB06]

private theorem upper_images_foreign : ∀ run ∈ CaseTable.upper,
    run.last < 128 ∨ run.first = run.last ∧ run.first ∈ plainCodes ∨
      128 ≤ run.image ∧ (run.image + (run.last - run.first) < 0xD800 ∨
        0xDFFF < run.image ∧ run.image + (run.last - run.first) < 0x110000) := by
  decide +kernel

private theorem upperExpansions_foreign : ∀ entry ∈ CaseTable.upperExpansions,
    entry.1 ∈ plainCodes ∨ Foreign (entry.2.map Char.ofNat) := by
  decide

private theorem foreign_upperLetter {letter : Char} (high : 128 ≤ letter.toNat)
    (unlisted : letter.toNat ∉ plainCodes) : Foreign (upperLetter letter) := by
  unfold upperLetter
  split
  · rename_i codes expansion
    have entry : (letter.toNat, codes) ∈ CaseTable.upperExpansions := by
      obtain ⟨before, after, split, _⟩ := List.lookup_eq_some_iff.1 expansion
      rw [split]
      exact List.mem_append_right before List.mem_cons_self
    exact (upperExpansions_foreign _ entry).resolve_left unlisted
  · refine ⟨_, List.mem_singleton_self _, ?_⟩
    rcases CodeRun.apply_eq CaseTable.upper letter.toNat with ⟨stays, _⟩ | ⟨run, member, contained, moved⟩
    · rw [stays, Char.ofNat_toNat]
      exact high
    · obtain ⟨above, below, _⟩ := (run.contains_iff _).1 contained
      rcases upper_images_foreign run member with ascii | ⟨single, listed⟩ | ⟨highImage, valid⟩
      · omega
      · have same : letter.toNat = run.first := Nat.le_antisymm (single ▸ below) above
        exact absurd (same ▸ listed) unlisted
      · have image : (run.image + (letter.toNat - run.first)).isValidChar := by
          unfold Nat.isValidChar
          omega
        rw [moved, Char.ofNat, dif_pos image]
        exact Nat.le_trans highImage (Nat.le_add_right _ _)

private theorem upper_tables_above : (∀ run ∈ CaseTable.upper, 0x61 ≤ run.first) ∧
    ∀ entry ∈ CaseTable.upperExpansions, 0x61 ≤ entry.1 := by
  decide +kernel

private theorem upperLetter_of_lt {letter : Char} (low : letter.toNat < 0x61) :
    upperLetter letter = [letter] := by
  have unlisted : CaseTable.upperExpansions.lookup letter.toNat = none := by
    refine List.lookup_eq_none_iff.2 fun entry member => ?_
    have above := upper_tables_above.2 entry member
    exact bne_iff_ne.2 (by omega)
  rw [upperLetter, unlisted]
  rcases CodeRun.apply_eq CaseTable.upper letter.toNat with ⟨stays, _⟩ | ⟨run, member, contained, _⟩
  · rw [stays, Char.ofNat_toNat]
  · have inRun := ((run.contains_iff _).1 contained).1
    have above := upper_tables_above.1 run member
    omega

theorem upper_of_lt {text : Text} (low : ∀ letter ∈ text, letter.toNat < 0x61) : upper text = text := by
  rw [upper, List.flatMap_congr fun letter member => upperLetter_of_lt (low letter member), List.flatMap_singleton']

private theorem lower_runs_foreign : ∀ run ∈ CaseTable.lower,
    run.first = 0x41 ∧ run.last = 0x5A ∨
      run.first = run.last ∧ (run.first = 0x212A ∨ run.first = 0x1E9E) ∨
      ∀ start ∈ [run.first, run.image], 128 ≤ start ∧
        ∀ code ∈ plainCodes, code < start ∨ start + (run.last - run.first) < code := by
  decide +kernel

/-- Apart from three signs, a letter is its own lower case, is a capital of ASCII, or has its lower case outside
ASCII, where the upper cases of both are too. -/
theorem lowerLetter_cases {letter : Char} (notDotted : letter ≠ 'İ') (notKelvin : letter ≠ kelvinSign)
    (notSharp : letter ≠ 'ẞ') :
    IsLower letter ∨ 0x41 ≤ letter.toNat ∧ letter.toNat ≤ 0x5A ∨
      ∃ small : Char, lowerLetter letter = [small] ∧
        ∀ either ∈ [letter, small], 128 ≤ either.toNat ∧ either.toNat ∉ plainCodes := by
  unfold IsLower lowerLetter
  rw [if_neg notDotted]
  rcases CodeRun.apply_eq CaseTable.lower letter.toNat with ⟨stays, _⟩ | ⟨run, member, contained, moved⟩
  · rw [stays, Char.ofNat_toNat]
    exact .inl rfl
  obtain ⟨above, below, _⟩ := (run.contains_iff _).1 contained
  rcases lower_runs_foreign run member with ⟨first, last⟩ | ⟨single, special⟩ | foreign
  · exact .inr (.inl ⟨first ▸ above, last ▸ below⟩)
  · have same : letter = Char.ofNat run.first := by
      rw [← Nat.le_antisymm (single ▸ below) above, Char.ofNat_toNat]
    rcases special with kelvin | sharp
    · exact absurd (by rw [same, kelvin]; rfl) notKelvin
    · exact absurd (by rw [same, sharp]) notSharp
  · obtain ⟨⟨highSource, sourceApart⟩, ⟨highImage, imageApart⟩, _⟩ := by
      simpa only [List.forall_mem_cons] using foreign
    have valid := lower_images_valid _ (CodeRun.mem_images member contained)
    refine .inr (.inr ⟨_, rfl, List.forall_mem_cons.2 ⟨⟨by omega, ?_⟩, List.forall_mem_singleton.2 ?_⟩⟩)
    · intro listed
      have apart := sourceApart _ listed
      omega
    · rw [moved, valid]
      refine ⟨by omega, ?_⟩
      intro listed
      have apart := imageApart _ listed
      omega

private theorem upper_lower_ascii : ∀ index < 26,
    upper (lowerLetter (Char.ofNat (0x41 + index))) = upperLetter (Char.ofNat (0x41 + index)) := by
  decide

private theorem upper_singleton (letter : Char) : upper [letter] = upperLetter letter :=
  List.append_nil _

/-- A letter and its lower case have the same upper case, or neither has one that lies in ASCII. -/
theorem upper_lowerLetter {letter : Char} (notKelvin : letter ≠ kelvinSign) (notSharp : letter ≠ 'ẞ') :
    upper (lowerLetter letter) = upperLetter letter ∨
      Foreign (upper (lowerLetter letter)) ∧ Foreign (upperLetter letter) := by
  by_cases dotted : letter = 'İ'
  · rw [dotted]
    exact .inr (by decide)
  rcases lowerLetter_cases dotted notKelvin notSharp with small | ⟨above, below⟩ | ⟨small, lowered, foreign⟩
  · rw [small]
    exact .inl (upper_singleton letter)
  · have ascii := upper_lower_ascii (letter.toNat - 0x41) (by omega)
    rw [Nat.add_sub_cancel' above, Char.ofNat_toNat] at ascii
    exact .inl ascii
  · obtain ⟨⟨high, unlisted⟩, ⟨highSmall, unlistedSmall⟩, _⟩ := by
      simpa only [List.forall_mem_cons] using foreign
    rw [lowered, upper_singleton]
    exact .inr ⟨foreign_upperLetter highSmall unlistedSmall, foreign_upperLetter high unlisted⟩

end Text

end ItemSpec
