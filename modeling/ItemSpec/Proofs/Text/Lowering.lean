import ItemSpec.Proofs.Text.Letter
set_option autoImplicit false

/-! A whole text in lower case. All letters but the capital sigma are lowered one by one; a text that
stands between others is lowered as it would be alone, but for a sigma that is final there and not here.
Lowering is done once and for all, and it neither makes a colon nor takes one away. -/

namespace ItemSpec.Text

def lowerPlaced (final : Bool) (letter : Char) : Text :=
  if letter = 'Σ' then [if final then 'ς' else 'σ'] else lowerLetter letter

def startsCasedBefore (casedNext : Bool) : Text → Bool
  | [] => casedNext
  | head :: rest => if isCaseIgnorable head then startsCasedBefore casedNext rest else isCased head

def endsCased (casedBefore : Bool) (text : Text) : Bool :=
  text.foldl casedAfter casedBefore

/-- Lower case of a text between a beginning and an end that are cased towards it or not. -/
def lowerWithin (casedBefore casedNext : Bool) : Text → Text
  | [] => []
  | head :: rest =>
    lowerPlaced (casedBefore && !startsCasedBefore casedNext rest) head ++
      lowerWithin (casedAfter casedBefore head) casedNext rest

/-- A capital sigma behind a cased letter, with nothing behind the sigma that counts. -/
def ClosesInSigma (text : Text) : Prop :=
  ∃ before after, text = before ++ 'Σ' :: after ∧ endsCased false before = true ∧
    ∀ letter ∈ after, isCaseIgnorable letter = true

/-- A capital sigma before no cased letter, with nothing before the sigma that counts. -/
def OpensInSigma (text : Text) : Prop :=
  ∃ before after, text = before ++ 'Σ' :: after ∧ startsCased after = false ∧
    ∀ letter ∈ before, isCaseIgnorable letter = true

/-! ### Texts between others -/

private theorem startsCased_append (text next : Text) :
    startsCased (text ++ next) = startsCasedBefore (startsCased next) text := by
  induction text with
  | nil => rfl
  | cons head rest ih => rw [List.cons_append, startsCased, startsCasedBefore, ih]

private theorem startsCasedBefore_false (text : Text) :
    startsCasedBefore false text = startsCased text := by
  rw [← List.append_nil text, startsCased_append, List.append_nil]
  rfl

theorem lowerWithin_false (casedBefore : Bool) (text : Text) :
    lowerWithin casedBefore false text = lowerAfter casedBefore text := by
  induction text generalizing casedBefore with
  | nil => rfl
  | cons head rest ih =>
      rw [lowerWithin, startsCasedBefore_false, ih]
      rfl

theorem lowerAfter_cons_lowerPlaced (casedBefore : Bool) (head : Char) (rest : Text) :
    lowerAfter casedBefore (head :: rest) =
      lowerPlaced (casedBefore && !startsCased rest) head ++
        lowerAfter (casedAfter casedBefore head) rest := rfl

private theorem lowerAfter_append (casedBefore : Bool) (text next : Text) :
    lowerAfter casedBefore (text ++ next) =
      lowerWithin casedBefore (startsCased next) text ++
        lowerAfter (endsCased casedBefore text) next := by
  induction text generalizing casedBefore with
  | nil => rfl
  | cons head rest ih =>
      rw [List.cons_append, lowerAfter, startsCased_append, ih, lowerWithin, List.append_assoc]
      rfl

theorem lower_append_of_uncased (text : Text) {next : Text} (uncased : startsCased next = false) :
    lower (text ++ next) = lower text ++ lowerAfter (endsCased false text) next := by
  rw [lower, lowerAfter_append, uncased, lowerWithin_false]
  rfl

/-! ### Letters of the lower case -/

variable {casedBefore casedNext : Bool}

private theorem isLower_of_mem_lowerPlaced {final : Bool} {letter shown : Char}
    (member : shown ∈ lowerPlaced final letter) : IsLower shown := by
  unfold lowerPlaced at member
  split at member
  · have sigmas : lowerLetter 'ς' = ['ς'] ∧ lowerLetter 'σ' = ['σ'] := by decide
    rw [List.mem_singleton] at member
    subst member
    cases final
    · exact sigmas.2
    · exact sigmas.1
  · exact isLower_of_mem_lowerLetter member

private theorem colon_mem_lowerPlaced_iff (final : Bool) (letter : Char) :
    ':' ∈ lowerPlaced final letter ↔ letter = ':' := by
  unfold lowerPlaced
  split
  · rename_i isSigma
    rw [isSigma]
    cases final <;> decide
  · exact colon_mem_lowerLetter_iff letter

theorem lowerPlaced_ne_nil (final : Bool) (letter : Char) : lowerPlaced final letter ≠ [] := by
  unfold lowerPlaced lowerLetter
  split
  · exact List.cons_ne_nil _ _
  · split <;> exact List.cons_ne_nil _ _

theorem isLower_of_mem_lowerWithin {text : Text} {shown : Char}
    (member : shown ∈ lowerWithin casedBefore casedNext text) : IsLower shown := by
  induction text generalizing casedBefore with
  | nil => cases member
  | cons head rest ih =>
      rcases List.mem_append.1 member with here | later
      · exact isLower_of_mem_lowerPlaced here
      · exact ih later

private theorem colon_mem_lowerWithin_iff (text : Text) :
    ':' ∈ lowerWithin casedBefore casedNext text ↔ ':' ∈ text := by
  induction text generalizing casedBefore with
  | nil => rfl
  | cons head rest ih =>
      rw [lowerWithin, List.mem_append, colon_mem_lowerPlaced_iff, ih, List.mem_cons, eq_comm]

theorem lowerAfter_of_isLower {text : Text} (small : ∀ letter ∈ text, IsLower letter) :
    lowerAfter casedBefore text = text := by
  induction text generalizing casedBefore with
  | nil => rfl
  | cons head rest ih =>
      obtain ⟨smallHead, smallRest⟩ := List.forall_mem_cons.1 small
      rw [lowerAfter, if_neg smallHead.ne_sigma, ih smallRest, smallHead, List.singleton_append]

theorem mem_lower_of_isLower {text : Text} {letter : Char} (small : IsLower letter) (member : letter ∈ text) :
    letter ∈ lower text := by
  unfold lower
  generalize false = casedBefore
  induction text generalizing casedBefore with
  | nil => cases member
  | cons head rest ih =>
      rw [lowerAfter_cons_lowerPlaced, List.mem_append]
      rcases List.mem_cons.1 member with rfl | later
      · refine .inl ?_
        rw [lowerPlaced, if_neg small.ne_sigma, small]
        exact List.mem_singleton_self _
      · exact .inr (ih later _)

theorem lower_lowerWithin (text : Text) :
    lower (lowerWithin casedBefore casedNext text) = lowerWithin casedBefore casedNext text :=
  lowerAfter_of_isLower fun _ member => isLower_of_mem_lowerWithin member

theorem lower_lowerAfter (text : Text) :
    lower (lowerAfter casedBefore text) = lowerAfter casedBefore text := by
  rw [← lowerWithin_false, lower_lowerWithin]

theorem lower_lower (text : Text) : lower (lower text) = lower text :=
  lower_lowerAfter text

theorem lower_eq_nil_iff (text : Text) : lower text = [] ↔ text = [] := by
  cases text with
  | nil => rfl
  | cons head rest =>
      refine iff_of_false ?_ (List.cons_ne_nil head rest)
      rw [lower, lowerAfter_cons_lowerPlaced]
      exact List.append_ne_nil_of_left_ne_nil (lowerPlaced_ne_nil _ head) _

/-! ### Colons -/

theorem lowerAfter_cons_colon (rest : Text) :
    lowerAfter casedBefore (':' :: rest) = ':' :: lowerAfter casedBefore rest := by
  have colon : lowerLetter ':' = [':'] ∧ casedAfter casedBefore ':' = casedBefore := by
    cases casedBefore <;> decide
  rw [lowerAfter, if_neg (by decide), colon.1, colon.2]
  rfl

theorem startsCased_cons_colon (rest : Text) : startsCased (':' :: rest) = startsCased rest := by
  rw [startsCased, if_pos (by decide)]

theorem colon_mem_lower_iff (text : Text) : ':' ∈ lower text ↔ ':' ∈ text := by
  rw [lower, ← lowerWithin_false, colon_mem_lowerWithin_iff]

theorem cut_lower_of_not_mem {text : Text} (absent : ':' ∉ text) : cut ':' (lower text) = [lower text] :=
  cut_of_not_mem fun member => absent ((colon_mem_lower_iff text).1 member)

theorem cut_lower {scope name : Text} (wholeScope : ':' ∉ scope) (wholeName : ':' ∉ name) :
    cut ':' (lower (scope ++ ':' :: name)) =
      [lowerWithin false (startsCased name) scope, lowerAfter (endsCased false scope) name] := by
  rw [lower, lowerAfter_append, startsCased_cons_colon, lowerAfter_cons_colon, cut_append, cut_of_not_mem]
  · rw [← lowerWithin_false, colon_mem_lowerWithin_iff]
    exact wholeName
  · rw [colon_mem_lowerWithin_iff]
    exact wholeScope

/-! ### Final sigmas -/

private theorem exists_mark_cons_iff {mark head : Char} {rest : Text} {holds : Text → Text → Prop} :
    (∃ before after, head :: rest = before ++ mark :: after ∧ holds before after) ↔
      (head = mark ∧ holds [] rest) ∨
        ∃ before after, rest = before ++ mark :: after ∧ holds (head :: before) after := by
  constructor
  · rintro ⟨before, after, split, held⟩
    cases before with
    | nil =>
        obtain ⟨rfl, rfl⟩ := List.cons.inj split
        exact .inl ⟨rfl, held⟩
    | cons first before =>
        obtain ⟨rfl, rfl⟩ := List.cons.inj split
        exact .inr ⟨before, after, rfl, held⟩
  · rintro (⟨rfl, held⟩ | ⟨before, after, rfl, held⟩)
    · exact ⟨[], rest, rfl, held⟩
    · exact ⟨head :: before, after, rfl, held⟩

private theorem lowerPlaced_append_eq_iff (final other : Bool) (letter : Char) (rest otherRest : Text) :
    lowerPlaced final letter ++ rest = lowerPlaced other letter ++ otherRest ↔
      ¬(letter = 'Σ' ∧ final ≠ other) ∧ rest = otherRest := by
  unfold lowerPlaced
  by_cases sigma : letter = 'Σ'
  · rw [if_pos sigma, if_pos sigma, List.singleton_append, List.singleton_append, List.cons.injEq]
    cases final <;> cases other <;> simp [sigma]
  · rw [if_neg sigma, if_neg sigma, List.append_cancel_left_eq]
    simp [sigma]

private theorem startsCasedBefore_ne_iff (text : Text) :
    startsCasedBefore true text ≠ startsCasedBefore false text ↔
      ∀ letter ∈ text, isCaseIgnorable letter = true := by
  induction text with
  | nil => simp [startsCasedBefore]
  | cons head rest ih =>
      rw [startsCasedBefore, startsCasedBefore, List.forall_mem_cons]
      cases isCaseIgnorable head <;> simp [ih]

private theorem lowerWithin_true_eq_iff (text : Text) :
    lowerWithin casedBefore true text = lowerWithin casedBefore false text ↔
      ¬∃ before after, text = before ++ 'Σ' :: after ∧ endsCased casedBefore before = true ∧
        ∀ letter ∈ after, isCaseIgnorable letter = true := by
  induction text generalizing casedBefore with
  | nil => simp [lowerWithin]
  | cons head rest ih =>
      have here : (casedBefore && !startsCasedBefore true rest) ≠
          (casedBefore && !startsCasedBefore false rest) ↔
            casedBefore = true ∧ ∀ letter ∈ rest, isCaseIgnorable letter = true := by
        rw [← startsCasedBefore_ne_iff]
        cases casedBefore <;> simp
      rw [lowerWithin, lowerWithin, lowerPlaced_append_eq_iff, here, ih, exists_mark_cons_iff, not_or]
      rfl

private theorem lowerAfter_true_eq_iff (text : Text) :
    lowerAfter true text = lowerAfter false text ↔ ¬OpensInSigma text := by
  unfold OpensInSigma
  induction text with
  | nil => simp [lowerAfter]
  | cons head rest ih =>
      have here : (true && !startsCased rest) ≠ (false && !startsCased rest) ↔
          startsCased rest = false := by
        cases startsCased rest <;> decide
      rw [lowerAfter_cons_lowerPlaced, lowerAfter_cons_lowerPlaced, lowerPlaced_append_eq_iff, here, exists_mark_cons_iff, not_or]
      simp only [List.not_mem_nil, false_implies, implies_true, and_true, List.forall_mem_cons, casedAfter]
      cases ignorable : isCaseIgnorable head with
      | true => simp only [if_true, ih, true_and]
      | false => simp

theorem lowerWithin_eq_lower_iff (text : Text) :
    lowerWithin false casedNext text = lower text ↔ ¬(casedNext = true ∧ ClosesInSigma text) := by
  cases casedNext with
  | false => simp [lowerWithin_false, lower]
  | true => rw [lower, ← lowerWithin_false, lowerWithin_true_eq_iff, eq_self, true_and, ClosesInSigma]

theorem lowerAfter_eq_lower_iff (text : Text) :
    lowerAfter casedBefore text = lower text ↔ ¬(casedBefore = true ∧ OpensInSigma text) := by
  cases casedBefore with
  | false => simp [lower]
  | true => rw [lower, lowerAfter_true_eq_iff, eq_self, true_and]

/-! ### Upper case of the lower case -/

private theorem upper_lowerPlaced (final : Bool) (letter : Char) :
    upper (lowerPlaced final letter) = upper (lowerLetter letter) := by
  unfold lowerPlaced
  split
  · rename_i isSigma
    rw [isSigma]
    cases final <;> decide
  · rfl

theorem upper_lowerAfter (text : Text) :
    upper (lowerAfter casedBefore text) = text.flatMap fun letter => upper (lowerLetter letter) := by
  induction text generalizing casedBefore with
  | nil => rfl
  | cons head rest ih =>
      rw [lowerAfter_cons_lowerPlaced, upper, List.flatMap_append, List.flatMap_cons, ← ih]
      exact congrArg (· ++ _) (upper_lowerPlaced _ head)

private theorem flatMap_agree {change other : Char → Text} {text : Text}
    (each : ∀ letter ∈ text, change letter = other letter ∨
      Foreign (change letter) ∧ Foreign (other letter)) :
    text.flatMap change = text.flatMap other ∨
      Foreign (text.flatMap change) ∧ Foreign (text.flatMap other) := by
  induction text with
  | nil => exact .inl rfl
  | cons head rest ih =>
      obtain ⟨eachHead, eachRest⟩ := List.forall_mem_cons.1 each
      rw [List.flatMap_cons, List.flatMap_cons, foreign_append_iff, foreign_append_iff]
      rcases eachHead with same | ⟨foreign, foreignOther⟩
      · rcases ih eachRest with sameRest | ⟨foreign, foreignOther⟩
        · exact .inl (by rw [same, sameRest])
        · exact .inr ⟨.inr foreign, .inr foreignOther⟩
      · exact .inr ⟨.inl foreign, .inl foreignOther⟩

/-- A text and its lower case have the same upper case, or neither has one in ASCII, unless one of two
signs is in the text. -/
theorem upper_lower {text : Text} (noKelvin : kelvinSign ∉ text) (noSharp : 'ẞ' ∉ text) :
    upper (lower text) = upper text ∨ Foreign (upper (lower text)) ∧ Foreign (upper text) := by
  rw [lower, upper_lowerAfter]
  refine flatMap_agree fun letter member => upper_lowerLetter ?_ ?_
  · intro isKelvin
    exact noKelvin (isKelvin ▸ member)
  · intro isSharp
    exact noSharp (isSharp ▸ member)

end ItemSpec.Text
