import ItemSpec.Proofs.Key
set_option autoImplicit false

/-! The normal form of keys: two parts in lower case, each of them with a letter and without a colon. A key
that is read from text is in this form, and is read from its own written form again. -/

namespace ItemSpec.Key

open Text (lower)

/-- A part of a key that its written form gives back. -/
structure NormalPart (part : Text) : Prop where
  notEmpty : part ≠ []
  whole : ':' ∉ part
  small : lower part = part

structure Normal (key : Key) : Prop where
  scope : NormalPart key.scope
  name : NormalPart key.name

/-- Lowering leaves no part empty and tears none apart, whatever it does to the letters. -/
theorem normalPart_lower {part : Text} (notEmpty : part ≠ []) (whole : ':' ∉ part) : NormalPart (lower part) where
  notEmpty isEmpty := notEmpty ((Text.lower_eq_nil_iff part).1 isEmpty)
  whole member := whole ((Text.colon_mem_lower_iff part).1 member)
  small := Text.lower_lower part

private theorem of_of (scope name : Text) :
    of (of scope name).scope (of scope name).name = of scope name := by
  simp only [of, Text.lower_lower]

variable {key other : Key} {written : Text}

private theorem Normal.of_parts (normal : key.Normal) : of key.scope key.name = key := by
  rw [of, normal.scope.small, normal.name.small]

private theorem Normal.parse_text (normal : key.Normal) : parse key.text = .ok key := by
  refine (parse_eq_ok_iff key.text key).2 ⟨key.scope, key.name, rfl, ?_, ?_, normal.of_parts.symm⟩
  · exact ⟨normal.scope.notEmpty, normal.name.notEmpty⟩
  · exact ⟨normal.scope.whole, normal.name.whole⟩

private theorem normal_of_parse (parsed : parse written = .ok key) : key.Normal := by
  obtain ⟨scope, name, _, ⟨scopeNotEmpty, nameNotEmpty⟩, ⟨wholeScope, wholeName⟩, rfl⟩ :=
    (parse_eq_ok_iff written key).1 parsed
  exact ⟨normalPart_lower scopeNotEmpty wholeScope, normalPart_lower nameNotEmpty wholeName⟩

private theorem count_append_cons_eq_one_iff (mark : Char) (before after : Text) :
    (before ++ mark :: after).count mark = 1 ↔ mark ∉ before ∧ mark ∉ after := by
  rw [← List.count_eq_zero, ← List.count_eq_zero, List.count_append, List.count_cons_self]
  omega

private theorem parses_iff (written : Text) : (∃ key, parse written = .ok key) ↔
    ∃ scope name, written = scope ++ ':' :: name ∧ written.count ':' = 1 ∧ scope ≠ [] ∧ name ≠ [] := by
  constructor
  · rintro ⟨key, parsed⟩
    obtain ⟨scope, name, rfl, ⟨scopeNotEmpty, nameNotEmpty⟩, whole, _⟩ := (parse_eq_ok_iff written key).1 parsed
    exact ⟨scope, name, rfl, (count_append_cons_eq_one_iff ':' scope name).2 whole, scopeNotEmpty, nameNotEmpty⟩
  · rintro ⟨scope, name, rfl, single, scopeNotEmpty, nameNotEmpty⟩
    have whole := (count_append_cons_eq_one_iff ':' scope name).1 single
    exact ⟨_, (parse_eq_ok_iff _ _).2 ⟨scope, name, rfl, ⟨scopeNotEmpty, nameNotEmpty⟩, whole, rfl⟩⟩

/-- A key is read from every text with one colon that has something on both sides, and from no other. What is
read is in normal form, and the keys in normal form are those that their own written forms are read as; so no
two of them are written alike. Making a key of the parts of a key that was made changes nothing. -/
theorem parse_normal_form :
    (∀ written, (∃ key, parse written = .ok key) ↔
      ∃ scope name, written = scope ++ ':' :: name ∧ written.count ':' = 1 ∧ scope ≠ [] ∧ name ≠ []) ∧
    (∀ written key, parse written = .ok key → parse key.text = .ok key ∧ key.Normal) ∧
    (∀ key, parse key.text = .ok key ↔ key.Normal) ∧
    (∀ key other, (∃ written, parse written = .ok key) → (∃ written, parse written = .ok other) →
      key.text = other.text → key = other) ∧
    ∀ scope name, of (of scope name).scope (of scope name).name = of scope name := by
  refine ⟨parses_iff, ?_, ?_, ?_, of_of⟩
  · intro written key parsed
    exact ⟨(normal_of_parse parsed).parse_text, normal_of_parse parsed⟩
  · exact fun key => ⟨normal_of_parse, Normal.parse_text⟩
  · rintro key other ⟨_, parsed⟩ ⟨_, parsedOther⟩ alike
    have back := (normal_of_parse parsed).parse_text
    rw [alike, (normal_of_parse parsedOther).parse_text] at back
    exact (Except.ok.inj back).symm

/-- A sigma that is final in its part, and a capital that becomes two letters. -/
theorem parse_normal_form_street :
    let key : Key := ⟨"οδος".toList, "i\u0307nn".toList⟩
    parse "ΟΔΟΣ:İnn".toList = .ok key ∧ parse key.text = .ok key ∧ key.Normal := by
  intro key
  have parsed : parse "ΟΔΟΣ:İnn".toList = .ok key := by decide +kernel
  exact ⟨parsed, parse_normal_form.2.1 _ _ parsed⟩

end ItemSpec.Key
