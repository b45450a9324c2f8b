import ItemSpec.Proofs.Text.Case
import ItemSpec.Proofs.Text.Lowering
import ItemSpec.Proofs.Text.Recased
set_option autoImplicit false

/-! Where a text and its lower case agree. An ASCII beginning of the lower case stands at the beginning of the
text too, in any case of its letters, unless it has one of the two letters that signs outside ASCII become. And
to cut a text and lower each piece is to lower the text and cut it, but for small sigmas that are final in the
one and not in the other. -/

namespace ItemSpec

namespace Text

variable {casedBefore : Bool} {text wanted : Text}

/-! ### Plain letters -/

/-- ASCII letters that are the lower case of ASCII letters only: the Kelvin sign becomes a `k`, and the capital
dotted `i` an `i` with a dot behind it. -/
def IsPlain (shown : Char) : Prop :=
  shown.toNat < 128 ∧ shown ≠ 'i' ∧ shown ≠ 'k'

instance (shown : Char) : Decidable (IsPlain shown) :=
  inferInstanceAs (Decidable (_ ∧ _))

private theorem IsPlain.isLone {shown : Char} (plain : IsPlain shown) : isLone shown = true := by
  obtain ⟨ascii, notI, _⟩ := plain
  have notSmall : shown ≠ 'σ' := by
    rintro rfl
    exact absurd ascii (by decide)
  have notFinal : shown ≠ 'ς' := by
    rintro rfl
    exact absurd ascii (by decide)
  simp [Text.isLone, notI, notSmall, notFinal]

private theorem lowerLetter_of_ascii {letter : Char} (ascii : letter.toNat < 128) :
    lowerLetter letter = [letter.toLower] := by
  have every : ∀ code < 128, lowerLetter (Char.ofNat code) = [(Char.ofNat code).toLower] := by decide +kernel
  rw [← Char.ofNat_toNat letter]
  exact every _ ascii

private theorem ascii_of_toLower {letter : Char} (ascii : letter.toLower.toNat < 128) :
    letter.toNat < 128 := by
  rcases toLower_cases letter with stays | ⟨index, within, capital, _⟩
  · exact stays ▸ ascii
  · have every : ∀ index < 26, (Char.ofNat (0x41 + index)).toNat < 128 := by decide
    exact capital ▸ every index within

private theorem lowerPlaced_of_plain {final : Bool} {letter : Char}
    (plain : ∀ shown ∈ lowerPlaced final letter, IsPlain shown) : lowerPlaced final letter = [letter.toLower] := by
  by_cases sigma : letter = 'Σ'
  · subst sigma
    cases final
    · exact absurd (plain 'σ' List.mem_cons_self) (by decide)
    · exact absurd (plain 'ς' List.mem_cons_self) (by decide)
  rw [lowerPlaced, if_neg sigma] at plain ⊢
  by_cases dotted : letter = 'İ'
  · subst dotted
    exact absurd (plain 'i' (by decide)) (by decide)
  by_cases kelvin : letter = kelvinSign
  · subst kelvin
    exact absurd (plain 'k' (by decide)) (by decide)
  by_cases sharp : letter = 'ẞ'
  · subst sharp
    exact absurd (plain 'ß' (by decide)) (by decide)
  refine lowerLetter_of_ascii ?_
  rcases lowerLetter_cases dotted kelvin sharp with small | ⟨_, below⟩ | ⟨small, lowered, foreign⟩
  · rw [small] at plain
    exact (plain letter List.mem_cons_self).1
  · omega
  · rw [lowered] at plain
    have ascii := (plain small List.mem_cons_self).1
    have high := (foreign small (by simp)).1
    omega

/-! ### Plain texts -/

private theorem lowerAfter_of_plain (plain : ∀ shown ∈ lowerAfter casedBefore text, IsPlain shown) :
    lowerAfter casedBefore text = folded text := by
  induction text generalizing casedBefore with
  | nil => rfl
  | cons head rest ih =>
      rw [lowerAfter_cons_lowerPlaced, List.forall_mem_append] at plain
      rw [lowerAfter_cons_lowerPlaced, lowerPlaced_of_plain plain.1, ih plain.2]
      rfl

private theorem lowerAfter_of_ascii (ascii : ∀ letter ∈ text, letter.toNat < 128) :
    lowerAfter casedBefore text = folded text := by
  induction text generalizing casedBefore with
  | nil => rfl
  | cons head rest ih =>
      obtain ⟨asciiHead, asciiRest⟩ := List.forall_mem_cons.1 ascii
      have notSigma : head ≠ 'Σ' := by
        rintro rfl
        exact absurd asciiHead (by decide)
      rw [lowerAfter, if_neg notSigma, lowerLetter_of_ascii asciiHead, ih asciiRest]
      rfl

private theorem lower_eq_plain_iff (plain : ∀ shown ∈ wanted, IsPlain shown) (text : Text) :
    lower text = wanted ↔ folded text = wanted := by
  constructor
  · rintro rfl
    exact (lowerAfter_of_plain plain).symm
  · rintro rfl
    refine lowerAfter_of_ascii fun letter member => ?_
    exact ascii_of_toLower (plain letter.toLower (List.mem_map_of_mem member)).1

theorem plain_prefix_lower_iff (plain : ∀ shown ∈ wanted, IsPlain shown) (text : Text) :
    wanted <+: lower text ↔ folded (text.take wanted.length) = wanted := by
  have lone : ∀ shown ∈ wanted, isLone shown = true := fun shown member => (plain shown member).isLone
  rw [prefix_lower_iff lone]
  constructor
  · rintro ⟨head, rest, rfl, lowers⟩
    rw [← length_of_lower lone lowers, List.take_left]
    exact (lower_eq_plain_iff plain head).1 lowers
  · intro begins
    exact ⟨_, _, (List.take_append_drop wanted.length text).symm, (lower_eq_plain_iff plain _).2 begins⟩

/-! ### Pieces in lower case -/

/-- The text with one form of the small sigma in place of two. -/
def oneSigma (text : Text) : Text :=
  text.map fun letter => if letter = 'ς' then 'σ' else letter

private theorem oneSigma_lowerAfter (text : Text) :
    oneSigma (lowerAfter casedBefore text) = text.flatMap fun letter => oneSigma (lowerLetter letter) := by
  induction text generalizing casedBefore with
  | nil => rfl
  | cons head rest ih =>
      have placed : ∀ final, oneSigma (lowerPlaced final head) = oneSigma (lowerLetter head) := by
        intro final
        unfold lowerPlaced
        split
        · rename_i isSigma
          rw [isSigma]
          cases final <;> decide
        · rfl
      rw [lowerAfter_cons_lowerPlaced, oneSigma, List.map_append, List.flatMap_cons, ← oneSigma, ← oneSigma,
        placed, ih]

/-- The pieces of the lower case are the lower cases of the pieces, but for the form of small sigmas. -/
theorem oneSigma_cut_lower (text : Text) :
    (cut ':' (lower text)).map oneSigma = ((cut ':' text).map lower).map oneSigma := by
  have noSigma : ∀ letter : Char, (if letter = 'ς' then 'σ' else letter) = ':' ↔ letter = ':' := by
    intro letter
    split
    · rename_i isFinal
      rw [isFinal]
      decide
    · rfl
  have lowered : ∀ piece : Text, oneSigma (lower piece) = piece.flatMap fun letter => oneSigma (lowerLetter letter) :=
    fun piece => oneSigma_lowerAfter piece
  have fresh : ∀ letter, ':' ∈ oneSigma (lowerLetter letter) → letter = ':' := by
    intro letter shown
    obtain ⟨other, member, same⟩ := List.mem_map.1 shown
    rw [noSigma] at same
    exact (colon_mem_lowerLetter_iff letter).1 (same ▸ member)
  rw [List.map_map, Function.comp_def]
  simp only [lowered]
  rw [← cut_flatMap (by decide) fresh, ← lowered]
  exact (cut_map noSigma (lower text)).symm

theorem oneSigma_eq_iff (noSmall : 'σ' ∉ wanted) (noFinal : 'ς' ∉ wanted) (text : Text) :
    oneSigma text = wanted ↔ text = wanted := by
  have unmoved : ∀ {other : Text}, 'ς' ∉ other → oneSigma other = other := by
    intro other absent
    refine (List.map_congr_left fun letter member => if_neg ?_).trans (List.map_id other)
    rintro rfl
    exact absent member
  constructor
  · rintro rfl
    refine (unmoved fun member => noSmall ?_).symm
    exact List.mem_map.2 ⟨'ς', member, rfl⟩
  · rintro rfl
    exact unmoved noFinal

end Text

theorem Number.read_oneSigma (token : Text) : read (Text.oneSigma token) = read token := by
  by_cases member : 'ς' ∈ token
  · have shown : 'σ' ∈ Text.oneSigma token := List.mem_map.2 ⟨'ς', member, rfl⟩
    rw [read_of_foreign member (by decide) (by decide), read_of_foreign shown (by decide) (by decide)]
  · rw [Text.oneSigma, List.map_congr_left fun letter inToken => if_neg ?_, List.map_id']
    rintro rfl
    exact member inToken

end ItemSpec
