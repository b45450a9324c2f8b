import Mathlib.Data.List.Forall2
import ItemSpec.Proofs.Number
import ItemSpec.Text.Blank
import ItemSpec.Text.Case
set_option autoImplicit false

/-! Texts that differ in the case of ASCII letters only. Folding, which lowers exactly these letters, gives
recased texts one common form, so whatever reads a text as it reads the folded one reads recased texts alike. -/

namespace ItemSpec

namespace Text

/-- One letter, or an ASCII letter in its two forms. -/
inductive SameLetter : Char → Char → Prop where
  | same (letter : Char) : SameLetter letter letter
  | lowered (letter : Char) : SameLetter letter letter.toLower
  | raised (letter : Char) : SameLetter letter.toLower letter

def Recased : Text → Text → Prop :=
  List.Forall₂ SameLetter

def folded (text : Text) : Text :=
  text.map Char.toLower

/-! ### Letters -/

theorem toLower_cases (letter : Char) : letter.toLower = letter ∨
    ∃ index < 26, letter = Char.ofNat (0x41 + index) ∧ letter.toLower = Char.ofNat (0x61 + index) := by
  by_cases capital : 0x41 ≤ letter.toNat ∧ letter.toNat ≤ 0x5A
  · obtain ⟨above, below⟩ := capital
    have isLetter : letter = Char.ofNat (0x41 + (letter.toNat - 0x41)) := by
      rw [Nat.add_sub_cancel' above, Char.ofNat_toNat]
    have capitals : ∀ index < 26,
        (Char.ofNat (0x41 + index)).toLower = Char.ofNat (0x61 + index) := by decide
    refine .inr ⟨letter.toNat - 0x41, by omega, isLetter, ?_⟩
    rw [← capitals _ (by omega), ← isLetter]
  · exact .inl (dif_neg capital)

private theorem of_toLower {Value : Type} (of : Char → Value)
    (capitals : ∀ index < 26, of (Char.ofNat (0x61 + index)) = of (Char.ofNat (0x41 + index)))
    (letter : Char) : of letter.toLower = of letter := by
  rcases toLower_cases letter with stays | ⟨index, within, capital, small⟩
  · rw [stays]
  · rw [small, capitals index within, ← capital]

private theorem toLower_toLower (letter : Char) : letter.toLower.toLower = letter.toLower :=
  of_toLower Char.toLower (by decide) letter

theorem toLower_eq_iff {mark : Char} (noLetter : mark.isAlpha = false) (letter : Char) :
    letter.toLower = mark ↔ letter = mark := by
  have letters : ∀ index < 26, (Char.ofNat (0x61 + index)).isAlpha = true ∧
      (Char.ofNat (0x41 + index)).isAlpha = true := by decide
  rw [← decide_eq_decide]
  refine of_toLower (fun letter => decide (letter = mark)) ?_ letter
  intro index within
  obtain ⟨small, capital⟩ := letters index within
  have apart : ∀ other : Char, other.isAlpha = true → other ≠ mark := by
    intro other isLetter same
    rw [same, noLetter] at isLetter
    cases isLetter
  rw [decide_eq_false (apart _ small), decide_eq_false (apart _ capital)]

private theorem sameLetter_iff (one other : Char) : SameLetter one other ↔ one.toLower = other.toLower := by
  constructor
  · intro alike
    cases alike with
    | same => rfl
    | lowered => exact (toLower_toLower one).symm
    | raised => exact toLower_toLower other
  · intro alike
    rcases toLower_cases one with stays | ⟨index, within, capital, small⟩
    · rw [← stays, alike]
      exact .raised other
    · rcases toLower_cases other with stays | ⟨indexOther, withinOther, capitalOther, smallOther⟩
      · rw [← stays, ← alike]
        exact .lowered one
      · have apart : ∀ index < 26, ∀ indexOther < 26,
            Char.ofNat (0x61 + index) = Char.ofNat (0x61 + indexOther) → index = indexOther := by decide
        rw [small, smallOther] at alike
        rw [capital, capitalOther, apart index within indexOther withinOther alike]
        exact .same _

/-! ### Texts -/

private theorem forall₂_iff_map_eq {Value Form : Type} {alike : Value → Value → Prop} {form : Value → Form}
    (alikeIff : ∀ one other, alike one other ↔ form one = form other) (ones others : List Value) :
    List.Forall₂ alike ones others ↔ ones.map form = others.map form := by
  rw [← List.forall₂_eq_eq_eq, List.forall₂_map_left_iff, List.forall₂_map_right_iff]
  exact iff_of_eq (congrArg (List.Forall₂ · ones others) (funext₂ fun one other => propext (alikeIff one other)))

theorem recased_iff (one other : Text) : Recased one other ↔ folded one = folded other :=
  forall₂_iff_map_eq sameLetter_iff one other

theorem forall₂_recased_iff (ones others : List Text) :
    List.Forall₂ Recased ones others ↔ ones.map folded = others.map folded :=
  forall₂_iff_map_eq recased_iff ones others

theorem recased_symm {ones others : List Text} (recased : List.Forall₂ Recased ones others) :
    List.Forall₂ Recased others ones :=
  (forall₂_recased_iff others ones).2 ((forall₂_recased_iff ones others).1 recased).symm

theorem folded_folded (text : Text) : folded (folded text) = folded text := by
  rw [folded, folded, List.map_map]
  exact List.map_congr_left fun letter _ => toLower_toLower letter

theorem mem_folded_iff {mark : Char} (noLetter : mark.isAlpha = false) (text : Text) :
    mark ∈ folded text ↔ mark ∈ text := by
  simp only [folded, List.mem_map, toLower_eq_iff noLetter, exists_eq_right]

theorem cut_folded {separator : Char} (noLetter : separator.isAlpha = false) (text : Text) :
    cut separator (folded text) = (cut separator text).map folded :=
  cut_map (toLower_eq_iff noLetter) text

theorem dropTrailing_folded {trailing : Char} (noLetter : trailing.isAlpha = false) (text : Text) :
    dropTrailing trailing (folded text) = folded (dropTrailing trailing text) := by
  induction text with
  | nil => rfl
  | cons head rest ih =>
      simp only [folded, List.map_cons, dropTrailing, toLower_eq_iff noLetter] at ih ⊢
      rw [ih]
      cases dropTrailing trailing rest with
      | nil =>
          by_cases trails : head = trailing
          · simp only [List.map_nil, if_pos trails]
          · simp only [List.map_nil, if_neg trails, List.map_cons]
      | cons next others => rfl

private theorem join_folded (between : Text) (pieces : List Text) :
    join (folded between) (pieces.map folded) = folded (join between pieces) := by
  have changed : folded = fun piece : Text => piece.flatMap fun letter => [letter.toLower] :=
    funext fun piece => List.map_eq_flatMap
  rw [changed]
  exact join_flatMap _ between pieces

theorem join_recased {pieces others : List Text} (recased : List.Forall₂ Recased pieces others) :
    Recased (join [' '] pieces) (join [' '] others) := by
  rw [forall₂_recased_iff] at recased
  rw [recased_iff, ← join_folded, ← join_folded, recased]

/-! ### Case mappings and numbers -/

theorem isBlank_toLower (letter : Char) : isBlank letter.toLower = isBlank letter :=
  of_toLower isBlank (by decide) letter

private theorem isCaseIgnorable_toLower (letter : Char) :
    isCaseIgnorable letter.toLower = isCaseIgnorable letter :=
  of_toLower isCaseIgnorable (by decide +kernel) letter

private theorem isCased_toLower (letter : Char) : isCased letter.toLower = isCased letter :=
  of_toLower isCased (by decide) letter

private theorem startsCased_folded (text : Text) : startsCased (folded text) = startsCased text := by
  induction text with
  | nil => rfl
  | cons head rest ih =>
      simp only [folded, List.map_cons, startsCased, isCaseIgnorable_toLower, isCased_toLower] at ih ⊢
      rw [ih]

/-- A sigma is final in the folded text exactly where it is in the text itself. -/
theorem lower_folded (text : Text) : lower (folded text) = lower text := by
  have sameLetter : ∀ letter : Char, lowerLetter letter.toLower = lowerLetter letter :=
    of_toLower lowerLetter (by decide)
  have noSigma : 'Σ'.isAlpha = false := by decide
  unfold lower
  generalize false = casedBefore
  induction text generalizing casedBefore with
  | nil => rfl
  | cons head rest ih =>
      have sameRest := startsCased_folded rest
      simp only [folded, List.map_cons, lowerAfter, toLower_eq_iff noSigma, sameLetter, casedAfter,
        isCaseIgnorable_toLower, isCased_toLower] at ih sameRest ⊢
      rw [ih, sameRest]

theorem upper_folded (text : Text) : upper (folded text) = upper text := by
  have sameLetter : ∀ letter : Char, upperLetter letter.toLower = upperLetter letter :=
    of_toLower upperLetter (by decide +kernel)
  rw [upper, upper, folded, List.flatMap_map]
  exact List.flatMap_congr fun letter _ => sameLetter letter

end Text

theorem Number.read_folded (token : Text) : read (Text.folded token) = read token := by
  by_cases small : ∀ letter ∈ token, letter.toLower = letter
  · rw [Text.folded, List.map_congr_left small, List.map_id']
  · simp only [not_forall] at small
    obtain ⟨letter, member, moved⟩ := small
    rcases Text.toLower_cases letter with stays | ⟨index, within, capital, lowered⟩
    · exact absurd stays moved
    · have letters : ∀ index < 26, ∀ start ∈ [0x41, 0x61],
          Decimal.isDigit (Char.ofNat (start + index)) = false ∧
            Char.ofNat (start + index) ∉ ['-', '+'] := by decide
      obtain ⟨noDigit, noSign⟩ := letters index within 0x41 (by decide)
      obtain ⟨noSmallDigit, noSmallSign⟩ := letters index within 0x61 (by decide)
      rw [← capital] at noDigit noSign
      rw [← lowered] at noSmallDigit noSmallSign
      have smallMember : letter.toLower ∈ Text.folded token := List.mem_map_of_mem member
      rw [read_of_foreign member noDigit noSign, read_of_foreign smallMember noSmallDigit noSmallSign]

end ItemSpec
