set_option autoImplicit false

/-! Text as a list of code points, cut at a separator and joined again. Cutting keeps empty pieces,
so joining the pieces gives the text back. -/

namespace ItemSpec

/-- A sequence of Unicode code points. -/
abbrev Text := List Char

namespace Text

/-- The pieces between the occurrences of a separator, empty pieces included. -/
def cut (separator : Char) : Text → List Text
  | [] => [[]]
  | head :: rest =>
    if head = separator then [] :: cut separator rest
    else match cut separator rest with
      | [] => [[head]]
      | piece :: others => (head :: piece) :: others

def join (between : Text) : List Text → Text
  | [] => []
  | [piece] => piece
  | piece :: next :: others => piece ++ between ++ join between (next :: others)

def dropTrailing (trailing : Char) : Text → Text
  | [] => []
  | head :: rest =>
    match dropTrailing trailing rest with
    | [] => if head = trailing then [] else [head]
    | next :: others => head :: next :: others

/-! ### Cutting and joining -/

theorem cut_ne_nil (separator : Char) (text : Text) : cut separator text ≠ [] := by
  cases text with
  | nil => simp [cut]
  | cons head rest =>
    unfold cut
    split
    · simp
    · split <;> simp

theorem cut_cons_separator (separator : Char) (rest : Text) :
    cut separator (separator :: rest) = [] :: cut separator rest := by
  simp [cut]

theorem join_cut (separator : Char) (text : Text) :
    join [separator] (cut separator text) = text := by
  induction text with
  | nil => rfl
  | cons head rest ih =>
    unfold cut
    by_cases atSeparator : head = separator
    · rw [if_pos atSeparator]
      cases pieces : cut separator rest with
      | nil => exact absurd pieces (cut_ne_nil separator rest)
      | cons piece others =>
        rw [pieces] at ih
        simp [join, ih, atSeparator]
    · rw [if_neg atSeparator]
      cases pieces : cut separator rest with
      | nil => exact absurd pieces (cut_ne_nil separator rest)
      | cons piece others =>
        rw [pieces] at ih
        cases others with
        | nil => simpa [join] using ih
        | cons next others => simpa [join] using ih

theorem cut_of_not_mem {separator : Char} {text : Text} (absent : separator ∉ text) :
    cut separator text = [text] := by
  induction text with
  | nil => rfl
  | cons head rest ih =>
    rw [List.mem_cons, not_or] at absent
    simp [cut, ih absent.2, Ne.symm absent.1]

theorem cut_append_separator (separator : Char) (text rest : Text) :
    cut separator (text ++ separator :: rest) = cut separator text ++ cut separator rest := by
  induction text with
  | nil => exact cut_cons_separator separator rest
  | cons head others ih =>
    rw [List.cons_append]
    by_cases atSeparator : head = separator
    · rw [atSeparator, cut_cons_separator, cut_cons_separator, ih, List.cons_append]
    · simp only [cut, if_neg atSeparator, ih]
      cases pieces : cut separator others with
      | nil => exact absurd pieces (cut_ne_nil separator others)
      | cons piece later => rfl

theorem cut_append {separator : Char} {piece : Text} (whole : separator ∉ piece) (rest : Text) :
    cut separator (piece ++ separator :: rest) = piece :: cut separator rest := by
  rw [cut_append_separator, cut_of_not_mem whole, List.singleton_append]

theorem not_mem_of_mem_cut {separator : Char} {text piece : Text}
    (member : piece ∈ cut separator text) : separator ∉ piece := by
  induction text generalizing piece with
  | nil =>
    rw [cut, List.mem_singleton] at member
    rw [member]
    exact List.not_mem_nil
  | cons head rest ih =>
    by_cases atSeparator : head = separator
    · rw [atSeparator, cut_cons_separator] at member
      rcases List.mem_cons.1 member with isEmpty | later
      · rw [isEmpty]
        exact List.not_mem_nil
      · exact ih later
    · simp only [cut, if_neg atSeparator] at member
      cases pieces : cut separator rest with
      | nil => exact absurd pieces (cut_ne_nil separator rest)
      | cons first others =>
        rw [pieces] at ih member
        rcases List.mem_cons.1 member with isFirst | later
        · rw [isFirst, List.mem_cons, not_or]
          exact ⟨Ne.symm atSeparator, ih List.mem_cons_self⟩
        · exact ih (List.mem_cons_of_mem _ later)

theorem join_concat (between last : Text) {pieces : List Text} (notEmpty : pieces ≠ []) :
    join between (pieces ++ [last]) = join between pieces ++ between ++ last := by
  induction pieces with
  | nil => exact absurd rfl notEmpty
  | cons piece others ih =>
    cases others with
    | nil => rfl
    | cons next later =>
      have tail := ih (List.cons_ne_nil next later)
      simp only [List.cons_append, join] at tail ⊢
      rw [tail]
      simp only [List.append_assoc]

theorem cut_join {separator : Char} {pieces : List Text} (notEmpty : pieces ≠ [])
    (whole : ∀ piece ∈ pieces, separator ∉ piece) :
    cut separator (join [separator] pieces) = pieces := by
  induction pieces with
  | nil => exact absurd rfl notEmpty
  | cons piece others ih =>
    obtain ⟨wholePiece, wholeOthers⟩ := List.forall_mem_cons.1 whole
    cases others with
    | nil => exact cut_of_not_mem wholePiece
    | cons next later =>
      rw [join, List.append_assoc, List.singleton_append, cut_append wholePiece,
        ih (List.cons_ne_nil next later) wholeOthers]

theorem not_mem_join {letter : Char} {between : Text} (apart : letter ∉ between)
    {pieces : List Text} (absent : ∀ piece ∈ pieces, letter ∉ piece) :
    letter ∉ join between pieces := by
  induction pieces with
  | nil => exact List.not_mem_nil
  | cons piece others ih =>
    obtain ⟨absentPiece, absentOthers⟩ := List.forall_mem_cons.1 absent
    cases others with
    | nil => exact absentPiece
    | cons next later =>
      simp only [join, List.mem_append, not_or]
      exact ⟨⟨absentPiece, apart⟩, ih absentOthers⟩

/-! ### Texts changed letter by letter -/

theorem join_flatMap (change : Char → Text) (between : Text) (pieces : List Text) :
    join (between.flatMap change) (pieces.map fun piece => piece.flatMap change) =
      (join between pieces).flatMap change := by
  induction pieces with
  | nil => rfl
  | cons piece others ih =>
    cases others with
    | nil => rfl
    | cons next later =>
      simp only [List.map_cons, join, List.flatMap_append] at ih ⊢
      rw [ih]

/-- A change of letters that brings forth no separator but from a separator changes the pieces of a text. -/
theorem cut_flatMap {separator : Char} {change : Char → Text} (stays : change separator = [separator])
    (fresh : ∀ letter, separator ∈ change letter → letter = separator) (text : Text) :
    cut separator (text.flatMap change) = (cut separator text).map fun piece => piece.flatMap change := by
  have rejoined := join_flatMap change [separator] (cut separator text)
  rw [join_cut, List.flatMap_singleton, stays] at rejoined
  rw [← rejoined]
  refine cut_join (mt List.map_eq_nil_iff.1 (cut_ne_nil separator text)) fun changed member => ?_
  obtain ⟨piece, isPiece, rfl⟩ := List.mem_map.1 member
  intro inChanged
  obtain ⟨letter, inPiece, shown⟩ := List.mem_flatMap.1 inChanged
  exact not_mem_of_mem_cut isPiece (fresh letter shown ▸ inPiece)

theorem cut_map {separator : Char} {change : Char → Char}
    (same : ∀ letter, change letter = separator ↔ letter = separator) (text : Text) :
    cut separator (text.map change) = (cut separator text).map (List.map change) := by
  have changed : List.map change = fun piece : Text => piece.flatMap fun letter => [change letter] :=
    funext fun piece => List.map_eq_flatMap
  rw [changed]
  refine cut_flatMap (congrArg (fun letter => [letter]) ((same separator).2 rfl)) (fun letter shown => ?_) text
  exact (same letter).1 (List.mem_singleton.1 shown).symm

/-! ### Trailing characters -/

theorem dropTrailing_concat_trailing (trailing : Char) (text : Text) :
    dropTrailing trailing (text ++ [trailing]) = dropTrailing trailing text := by
  induction text with
  | nil => simp [dropTrailing]
  | cons head others ih => rw [List.cons_append, dropTrailing, ih, dropTrailing]

theorem dropTrailing_of_not_mem {trailing : Char} {text : Text} (absent : trailing ∉ text) :
    dropTrailing trailing text = text := by
  induction text with
  | nil => rfl
  | cons head rest ih =>
    rw [List.mem_cons, not_or] at absent
    rw [dropTrailing, ih absent.2]
    cases rest with
    | nil => exact if_neg (Ne.symm absent.1)
    | cons next others => rfl

theorem dropTrailing_append_of_not_mem {trailing : Char} {last : Text} (notEmpty : last ≠ [])
    (absent : trailing ∉ last) (text : Text) : dropTrailing trailing (text ++ last) = text ++ last := by
  induction text with
  | nil => exact dropTrailing_of_not_mem absent
  | cons head others ih =>
    rw [List.cons_append, dropTrailing, ih]
    cases rest : others ++ last with
    | nil => exact absurd rest (List.append_ne_nil_of_right_ne_nil others notEmpty)
    | cons next later => rfl

theorem dropTrailing_append {trailing last : Char} (kept : last ≠ trailing) (text : Text) :
    dropTrailing trailing (text ++ [last]) = text ++ [last] := by
  refine dropTrailing_append_of_not_mem (List.cons_ne_nil last []) ?_ text
  rw [List.mem_singleton]
  exact Ne.symm kept

end Text

end ItemSpec
