import ItemSpec.Proofs.Modifier.Tokens
set_option autoImplicit false

/-! Metadata after modifiers. What the tokens ask for is written over what was there, and every part that no
token is about stays as it was; the tokens and the metadata before them leave nothing open. -/

namespace ItemSpec.Modifier

/-- What the last of the tokens that ask for something asks for, or what was there where none of them
does. -/
def LastOr {Value : Type} (asks : Text → Value → Prop) (tokens : List Text) (old? : Option Value)
    (value : Value) : Prop :=
  Last asks tokens value ∨ old? = some value ∧ ∀ token ∈ tokens, ∀ other, ¬asks token other

section LastOr

variable {Value : Type} {asks : Text → Value → Prop} {tokens : List Text}

theorem exists_last_iff : (∃ value, Last asks tokens value) ↔ ∃ token ∈ tokens, ∃ value, asks token value := by
  induction tokens with
  | nil => simp [not_last_nil]
  | cons token others ih =>
      simp only [last_cons, exists_or, ih, List.mem_cons, exists_eq_or_imp]
      constructor
      · rintro (later | ⟨value, asked, _⟩)
        · exact .inr later
        · exact .inl ⟨value, asked⟩
      · rintro (⟨value, asked⟩ | later)
        · by_cases speaks : ∃ later ∈ others, ∃ other, asks later other
          · exact .inl speaks
          · exact .inr ⟨value, asked, fun later member other asksLater =>
              speaks ⟨later, member, other, asksLater⟩⟩
        · exact .inl later

private theorem or_eq_some_iff {wanted? : Option Value}
    (wanted : ∀ value, Last asks tokens value ↔ wanted? = some value)
    (old? : Option Value) (value : Value) : wanted?.or old? = some value ↔ LastOr asks tokens old? value := by
  have silent : (∀ token ∈ tokens, ∀ other, ¬asks token other) ↔ wanted? = none := by
    rw [Option.eq_none_iff_forall_ne_some]
    simp only [ne_eq, ← wanted]
    rw [← not_exists, exists_last_iff]
    simp only [not_exists, not_and]
  rw [Option.or_eq_some_iff, LastOr, wanted, silent, and_comm (a := wanted? = none)]

end LastOr

/-- Metadata as the tokens leave it. -/
structure Revises (tokens : List Text) (before after : Meta) : Prop where
  enchants : ∀ enchantment level, after.enchants.level? enchantment = some level ↔
    LastOr (Enchanting.Asks enchantment) tokens (before.enchants.level? enchantment) level
  modelData : ∀ number, after.customModelData = some number ↔
    LastOr ModelData.Asks tokens before.customModelData number
  unbreakable : after.unbreakable = true ↔
    before.unbreakable = true ∨ ∃ token ∈ tokens, Text.lower token = Unbreakable.word
  flags : ∀ flag : ItemFlag, after.flags.has flag = true ↔ before.flags.has flag = true ∨
    ∃ token ∈ tokens, Text.cut ':' (Text.lower token) = [Flag.word, flag.name]
  displayName : ∀ name, after.displayName = some name ↔ DisplayName.Asks (Text.join [' '] tokens) name ∨
    before.displayName = some name ∧ ∀ other, ¬DisplayName.Asks (Text.join [' '] tokens) other
  lore : after.lore = before.lore
  tags : after.tags = before.tags

theorem Revises.unique {tokens : List Text} {before after other : Meta} (revises : Revises tokens before after)
    (revisesOther : Revises tokens before other) : after = other := by
  have sameOption : ∀ {Value : Type} {one another : Option Value},
      (∀ value, one = some value ↔ another = some value) → one = another :=
    fun same => Option.ext same
  have enchants : after.enchants = other.enchants :=
    Levels.ext (funext fun enchantment => sameOption fun level =>
      (revises.enchants enchantment level).trans (revisesOther.enchants enchantment level).symm)
  have modelData := sameOption fun number =>
    (revises.modelData number).trans (revisesOther.modelData number).symm
  have unbreakable := Bool.eq_iff_iff.2 (revises.unbreakable.trans revisesOther.unbreakable.symm)
  have flags : after.flags = other.flags :=
    FlagSet.ext (funext fun flag => Bool.eq_iff_iff.2
      ((revises.flags flag).trans (revisesOther.flags flag).symm))
  have displayName := sameOption fun name =>
    (revises.displayName name).trans (revisesOther.displayName name).symm
  have lore := revises.lore.trans revisesOther.lore.symm
  have tags := revises.tags.trans revisesOther.tags.symm
  obtain ⟨⟩ := after
  obtain ⟨⟩ := other
  dsimp only at enchants modelData unbreakable flags displayName lore tags
  subst enchants modelData unbreakable flags displayName lore tags
  rfl

/-! ### A run of all parsers -/

namespace BuiltIn

private theorem writeAll_all (tokens : List Text) (data : Meta) : writeAll all tokens data =
    { data with
      enchants := (write tokens data .enchantment).enchants
      customModelData := (write tokens data .modelData).customModelData
      unbreakable := (write tokens data .unbreakable).unbreakable
      flags := (write tokens data .flag).flags
      displayName := (write tokens data .displayName).displayName } := by
  simp only [writeAll, all, List.foldl_cons, List.foldl_nil]
  unfold write
  cases BuiltIn.enchantment.asked tokens <;> cases BuiltIn.modelData.asked tokens <;>
    cases BuiltIn.unbreakable.asked tokens <;> cases BuiltIn.flag.asked tokens <;>
    cases BuiltIn.displayName.asked tokens <;> rfl

variable {tokens : List Text} (data : Meta)

private theorem level?_write
    (read : (Enchanting.rule.request tokens).outcome = .ok (BuiltIn.enchantment.asked tokens))
    (enchantment : Enchantment) (level : Int) :
    (write tokens data .enchantment).enchants.level? enchantment = some level ↔
      LastOr (Enchanting.Asks enchantment) tokens (data.enchants.level? enchantment) level := by
  obtain ⟨levels?, asked⟩ : ∃ levels? : Option Levels, BuiltIn.enchantment.asked tokens = levels? := ⟨_, rfl⟩
  rw [asked] at read
  have wanted : ∀ level, Last (Enchanting.Asks enchantment) tokens level ↔
      levels?.bind (fun levels => levels.level? enchantment) = some level := by
    intro level
    rw [(Enchanting.request_levels read).1, Option.bind_eq_some_iff]
  rw [← or_eq_some_iff wanted]
  unfold write
  rw [asked]
  cases levels? <;> rfl

private theorem customModelData_write
    (read : (ModelData.rule.request tokens).outcome = .ok (BuiltIn.modelData.asked tokens)) (number : Int) :
    (write tokens data .modelData).customModelData = some number ↔
      LastOr ModelData.Asks tokens data.customModelData number := by
  have lastIff := ModelData.request_eq_some_iff read
  rw [← or_eq_some_iff fun number => (lastIff number).symm]
  unfold write
  cases BuiltIn.modelData.asked tokens <;> rfl

private theorem unbreakable_write : (write tokens data .unbreakable).unbreakable = true ↔
    data.unbreakable = true ∨ ∃ token ∈ tokens, Text.lower token = Unbreakable.word := by
  unfold write
  rw [asked_unbreakable]
  by_cases named : ∃ token ∈ tokens, Text.lower token = Unbreakable.word
  · rw [if_pos named]
    exact iff_of_true rfl (.inr named)
  · rw [if_neg named]
    exact ⟨.inl, fun either => either.resolve_right named⟩

private theorem has_write (read : (Flag.rule.request tokens).outcome = .ok (BuiltIn.flag.asked tokens))
    (flag : ItemFlag) :
    (write tokens data .flag).flags.has flag = true ↔ data.flags.has flag = true ∨
      ∃ token ∈ tokens, Text.cut ':' (Text.lower token) = [Flag.word, flag.name] := by
  obtain ⟨flags?, asked⟩ : ∃ flags? : Option FlagSet, BuiltIn.flag.asked tokens = flags? := ⟨_, rfl⟩
  rw [asked] at read
  rw [(Flag.request_flags read).1]
  unfold write
  rw [asked]
  cases flags? with
  | none => simp
  | some flags =>
      show (data.flags.has flag || flags.has flag) = true ↔ _
      simp

private theorem displayName_write (name : Text) : (write tokens data .displayName).displayName = some name ↔
    DisplayName.Asks (Text.join [' '] tokens) name ∨
      data.displayName = some name ∧ ∀ other, ¬DisplayName.Asks (Text.join [' '] tokens) other := by
  have wanted := DisplayName.wanted?_eq_some_iff (Text.join [' '] tokens)
  simp only [← wanted]
  have asked : BuiltIn.displayName.asked tokens = DisplayName.wanted? (Text.join [' '] tokens) := rfl
  unfold write
  rw [asked]
  cases DisplayName.wanted? (Text.join [' '] tokens) with
  | none => simp
  | some asked =>
      show some asked = some name ↔ _
      simp

theorem revises_writeAll
    (read : ∀ kind : BuiltIn, (kind.rule.request tokens).outcome = .ok (kind.asked tokens)) :
    Revises tokens data (writeAll all tokens data) := by
  rw [writeAll_all]
  exact {
    enchants := level?_write data (read .enchantment)
    modelData := customModelData_write data (read .modelData)
    unbreakable := unbreakable_write data
    flags := has_write data (read .flag)
    displayName := displayName_write data
    lore := rfl
    tags := rfl }

end BuiltIn

end ItemSpec.Modifier
