import ItemSpec.Proofs.Modifier.Revision
set_option autoImplicit false

/-! What tokens ask for besides a name, wish by wish. Tokens that ask for nothing of the sort may be put around
others: what the others ask of a stack and write into metadata stays the same. -/

namespace ItemSpec.Modifier

open Text (cut lower)

inductive Wish where
  | level (enchantment : Enchantment) (level : Int)
  | modelData (number : Int)
  | unbreakable
  | flag (flag : ItemFlag)

def Wish.Holds : Wish → Meta → Prop
  | .level enchantment least, data => least ≤ data.enchants.level enchantment
  | .modelData number, data => data.customModelData = some number
  | .unbreakable, data => data.unbreakable = true
  | .flag wanted, data => data.flags.has wanted = true

/-- One token asks for this, whatever stands around it. -/
def Voices (token : Text) : Wish → Prop
  | .level enchantment least => Enchanting.Asks enchantment token least
  | .modelData number => ModelData.Asks token number
  | .unbreakable => lower token = Unbreakable.word
  | .flag wanted => cut ':' (lower token) = [Flag.word, wanted.name]

/-- Tokens ask for this as a whole: of levels and of model data only the last are wished for. -/
def Wishes (tokens : List Text) : Wish → Prop
  | .level enchantment least => Last (Enchanting.Asks enchantment) tokens least
  | .modelData number => Last ModelData.Asks tokens number
  | .unbreakable => ∃ token ∈ tokens, lower token = Unbreakable.word
  | .flag wanted => ∃ token ∈ tokens, cut ':' (lower token) = [Flag.word, wanted.name]

def Silent (tokens : List Text) : Prop :=
  ∀ token ∈ tokens, ∀ wish, ¬Voices token wish

theorem meets_iff_wishes (tokens : List Text) (stack : Stack) : Meets tokens stack ↔
    (∀ wish, Wishes tokens wish → ∃ data, stack.meta? = some data ∧ wish.Holds data) ∧
      ∀ name, DisplayName.Asks (Text.join [' '] tokens) name →
        ∃ data, stack.meta? = some data ∧ data.displayName = some name := by
  constructor
  · rintro ⟨enchants, modelData, unbreakable, flags, displayName⟩
    refine ⟨fun wish => ?_, displayName⟩
    cases wish with
    | level enchantment least => exact enchants enchantment least
    | modelData number => exact modelData number
    | unbreakable => exact unbreakable
    | flag wanted => exact flags wanted
  · rintro ⟨wished, displayName⟩
    exact {
      enchants := fun enchantment least => wished (.level enchantment least)
      modelData := fun number => wished (.modelData number)
      unbreakable := wished .unbreakable
      flags := fun wanted => wished (.flag wanted)
      displayName }

/-! ### Tokens that ask for nothing -/

private theorem exists_voices_of_wishes {tokens : List Text} {wish : Wish} (wished : Wishes tokens wish) :
    ∃ token ∈ tokens, ∃ voiced, Voices token voiced := by
  cases wish with
  | level enchantment least =>
      obtain ⟨token, member, asked, asks⟩ := exists_last_iff.1 ⟨least, wished⟩
      exact ⟨token, member, .level enchantment asked, asks⟩
  | modelData number =>
      obtain ⟨token, member, asked, asks⟩ := exists_last_iff.1 ⟨number, wished⟩
      exact ⟨token, member, .modelData asked, asks⟩
  | unbreakable =>
      obtain ⟨token, member, isWord⟩ := wished
      exact ⟨token, member, .unbreakable, isWord⟩
  | flag wanted =>
      obtain ⟨token, member, parts⟩ := wished
      exact ⟨token, member, .flag wanted, parts⟩

theorem Silent.not_wishes {tokens : List Text} (silent : Silent tokens) (wish : Wish) : ¬Wishes tokens wish := by
  intro wished
  obtain ⟨token, member, voiced, voices⟩ := exists_voices_of_wishes wished
  exact silent token member voiced voices

private theorem lastOr_iff {Value : Type} {asks : Text → Value → Prop} {tokens : List Text}
    (old? : Option Value)
    (value : Value) : LastOr asks tokens old? value ↔
      Last asks tokens value ∨ old? = some value ∧ ∀ other, ¬Last asks tokens other := by
  rw [LastOr, ← not_exists, exists_last_iff]
  simp only [not_exists, not_and]

theorem Revises.eq_of_silent {tokens : List Text} {before after : Meta} (revises : Revises tokens before after)
    (silent : Silent tokens) : after = { before with displayName := after.displayName } := by
  have unwished := silent.not_wishes
  refine revises.unique ⟨?_, ?_, ?_, ?_, revises.displayName, rfl, rfl⟩
  · intro enchantment level
    have unasked : ∀ other, ¬Last (Enchanting.Asks enchantment) tokens other :=
      fun other => unwished (.level enchantment other)
    simp [lastOr_iff, unasked]
  · intro number
    have unasked : ∀ other, ¬Last ModelData.Asks tokens other := fun other => unwished (.modelData other)
    simp [lastOr_iff, unasked]
  · exact (or_iff_left (unwished .unbreakable)).symm
  · exact fun flag => (or_iff_left (unwished (.flag flag))).symm

/-! ### Tokens between tokens that ask for nothing -/

section Last

variable {Value : Type} {asks : Text → Value → Prop} {tokens others : List Text} {first : Text}
  (silent : ∀ token ∈ first :: others, ∀ value, ¬asks token value)

include silent

private theorem last_between_iff (value : Value) :
    Last asks (first :: (tokens ++ others)) value ↔ Last asks tokens value := by
  obtain ⟨silentFirst, silentOthers⟩ := List.forall_mem_cons.1 silent
  rw [last_cons]
  simp only [silentFirst, false_and, or_false]
  induction tokens with
  | nil =>
      refine iff_of_false (fun last => ?_) (not_last_nil value)
      obtain ⟨token, member, other, asked⟩ := exists_last_iff.1 ⟨value, last⟩
      exact silentOthers token member other asked
  | cons token tokens ih =>
      have silentBehind : (∀ later ∈ tokens ++ others, ∀ other, ¬asks later other) ↔
          ∀ later ∈ tokens, ∀ other, ¬asks later other := by
        rw [List.forall_mem_append]
        exact and_iff_left silentOthers
      rw [List.cons_append, last_cons, last_cons, ih, silentBehind]

private theorem lastOr_between_iff (old? : Option Value) (value : Value) :
    LastOr asks (first :: (tokens ++ others)) old? value ↔ LastOr asks tokens old? value := by
  simp only [lastOr_iff, last_between_iff silent]

end Last

private theorem exists_between_iff {holds : Text → Prop} {tokens others : List Text} {first : Text}
    (silent : ∀ token ∈ first :: others, ¬holds token) :
    (∃ token ∈ first :: (tokens ++ others), holds token) ↔ ∃ token ∈ tokens, holds token := by
  obtain ⟨silentFirst, silentOthers⟩ := List.forall_mem_cons.1 silent
  constructor
  · rintro ⟨token, member, held⟩
    rcases List.mem_cons.1 member with rfl | behind
    · exact absurd held silentFirst
    · rcases List.mem_append.1 behind with inTokens | inOthers
      · exact ⟨token, inTokens, held⟩
      · exact absurd held (silentOthers token inOthers)
  · rintro ⟨token, member, held⟩
    exact ⟨token, List.mem_cons_of_mem _ (List.mem_append_left _ member), held⟩

section Between

variable {tokens others : List Text} {first : Text} (silent : Silent (first :: others))

include silent

theorem wishes_between_iff (wish : Wish) :
    Wishes (first :: (tokens ++ others)) wish ↔ Wishes tokens wish := by
  cases wish with
  | level enchantment least =>
      exact last_between_iff (fun token member level => silent token member (.level enchantment level)) least
  | modelData number =>
      exact last_between_iff (fun token member number => silent token member (.modelData number)) number
  | unbreakable => exact exists_between_iff fun token member => silent token member .unbreakable
  | flag wanted => exact exists_between_iff fun token member => silent token member (.flag wanted)

/-- Only a name may come of putting tokens together that ask for nothing one by one. -/
theorem Revises.between {name : Text} {before revised : Meta} (revises : Revises tokens before revised)
    (named : ∀ other, DisplayName.Asks (Text.join [' '] (first :: (tokens ++ others))) other ↔ other = name) :
    Revises (first :: (tokens ++ others)) before { revised with displayName := some name } where
  enchants enchantment level := (revises.enchants enchantment level).trans
    (lastOr_between_iff (fun token member level => silent token member (.level enchantment level)) _ _).symm
  modelData number := (revises.modelData number).trans
    (lastOr_between_iff (fun token member number => silent token member (.modelData number)) _ _).symm
  unbreakable := revises.unbreakable.trans
    (or_congr_right (exists_between_iff fun token member => silent token member .unbreakable).symm)
  flags flag := (revises.flags flag).trans
    (or_congr_right (exists_between_iff fun token member => silent token member (.flag flag)).symm)
  displayName other := by
    simp only [named, Option.some.injEq, eq_comm (a := name)]
    exact (or_iff_left fun ⟨_, unnamed⟩ => unnamed name rfl).symm
  lore := revises.lore
  tags := revises.tags

end Between

end ItemSpec.Modifier
