import ItemSpec.Proofs.Modifier.Legibility
import ItemSpec.Proofs.Modifier.Wishes
import ItemSpec.Proofs.Text.Spacing
set_option autoImplicit false

/-! Names in quotes. The name is cut at its spaces before any parser sees it, and put together again by the
parser of names, which finds it whole. The other parsers are shown its words as well: a word with a quote in it
means nothing to them, but one with a space on either side of it is to them a token like any other. -/

namespace ItemSpec.Modifier

open Text (cut leading lower spaced)

namespace DisplayName

def quoted (name : Text) : Text :=
  opening ++ quoteMark :: name ++ [quoteMark]

/-- The words of a name that have a space on either side. -/
def innerWords (name : Text) : List Text :=
  (cut ' ' name).tail.dropLast

example : innerWords "Holy  Sword of Light".toList = [[], "Sword".toList, "of".toList] := by decide

/-! ### The search for a name -/

private theorem Asks.unique {text name other : Text} (asks : Asks text name) (asksOther : Asks text other) :
    name = other := by
  rw [← wanted?_eq_some_iff] at asks asksOther
  exact Option.some.inj (asks.symm.trans asksOther)

private theorem form_of_begins {form : Text → Text → Prop} {text name : Text} {place : Nat}
    (begins : Begins form text place name) : form (text.drop place) name := by
  cases place with
  | zero => exact begins
  | succ place => exact begins.2

private theorem takeWhile_unquoted {front : Text} (unquoted : quoteMark ∉ front) (rest : Text) :
    (front ++ quoteMark :: rest).takeWhile (· ≠ quoteMark) = front := by
  have every : ∀ letter ∈ front, decide (letter ≠ quoteMark) = true := by
    intro letter member
    exact decide_eq_true fun isQuote => unquoted (isQuote ▸ member)
  rw [List.takeWhile_append_of_pos every, List.takeWhile_cons_of_neg (by simp), List.append_nil]

private theorem Quoted.length_takeWhile {text name : Text} (begins : Quoted text name) :
    (text.takeWhile (· ≠ quoteMark)).length = opening.length := by
  obtain ⟨_, rest, head, rfl, opened⟩ := begins
  have unquoted : quoteMark ∉ head := by
    intro member
    have inOpening : quoteMark.toLower ∈ opening := opened ▸ List.mem_map_of_mem member
    exact absurd inOpening (by decide)
  rw [List.cons_append, takeWhile_unquoted unquoted, ← opened, List.length_map]

section Search

variable {front name : Text} (plain : quoteMark ∉ name)

include plain

private theorem quoted_begins : Quoted (quoted name) name :=
  ⟨plain, [], opening, by simp [quoted], rfl⟩

/-- Behind a text without quotes, a name in quotes is found as it is. -/
theorem asks_append_quoted (unquoted : quoteMark ∉ front)
    (boundary : front = [] ∨ ∃ before, front = before ++ [' ']) : Asks (front ++ quoted name) name := by
  have begins : Begins Quoted (front ++ quoted name) front.length name := by
    rcases boundary with rfl | ⟨before, rfl⟩
    · exact quoted_begins plain
    · have place : (before ++ [' ']).length = before.length + 1 := by simp
      have behind : (before ++ [' '] ++ quoted name).drop (before ++ [' ']).length = quoted name :=
        List.drop_left
      rw [place] at behind ⊢
      refine ⟨⟨' ', by simp, by decide⟩, ?_⟩
      rw [behind]
      exact quoted_begins plain
  refine .inl ⟨front.length, begins, ?_⟩
  intro earlier before other beginsEarlier
  have unquotedRest : quoteMark ∉ front.drop earlier ++ opening := by
    rw [List.mem_append, not_or]
    exact ⟨fun member => unquoted (List.mem_of_mem_drop member), by decide⟩
  have rest : (front ++ quoted name).drop earlier =
      (front.drop earlier ++ opening) ++ quoteMark :: (name ++ [quoteMark]) := by
    rw [List.drop_append_of_le_length (Nat.le_of_lt before)]
    simp [quoted]
  have first := (form_of_begins beginsEarlier).length_takeWhile
  rw [rest, takeWhile_unquoted unquotedRest, List.length_append, List.length_drop] at first
  omega

end Search

/-! ### The words of a name -/

private theorem whole_opened {text : Text} (whole : ' ' ∉ text) : ' ' ∉ opening ++ quoteMark :: text := by
  rw [List.mem_append, List.mem_cons, not_or, not_or]
  exact ⟨by decide, by decide, whole⟩

private theorem whole_closed {text : Text} (whole : ' ' ∉ text) : ' ' ∉ text ++ [quoteMark] := by
  rw [List.mem_append, not_or]
  exact ⟨whole, by decide⟩

/-- The inner words stand between words that have a quote. -/
theorem cut_quoted (name : Text) : ∃ first others, cut ' ' (quoted name) = first :: (innerWords name ++ others) ∧
    ∀ word ∈ first :: others, quoteMark ∈ word := by
  have whole : ∀ word ∈ cut ' ' name, ' ' ∉ word := fun word member => Text.not_mem_of_mem_cut member
  have joined : spaced (cut ' ' name) = name := Text.join_cut ' ' name
  have notEmpty := Text.cut_ne_nil ' ' name
  unfold innerWords
  generalize cut ' ' name = words at whole joined notEmpty
  subst joined
  rcases List.eq_nil_or_concat' words with rfl | ⟨front, last, rfl⟩
  · exact absurd rfl notEmpty
  · have wholeLast := whole last (List.mem_append_right _ (List.mem_singleton_self last))
    cases front with
    | nil =>
        refine ⟨quoted last, [], Text.cut_of_not_mem (whole_closed (whole_opened wholeLast)), ?_⟩
        exact List.forall_mem_singleton.2 (by simp [quoted])
    | cons first inner =>
        have split : quoted (spaced (first :: inner ++ [last])) =
            leading ((opening ++ quoteMark :: first) :: inner) ++ (last ++ [quoteMark]) := by
          rw [Text.spaced_append _ (List.cons_ne_nil last [])]
          simp [quoted, leading, spaced, Text.join]
        have wholeWords : ∀ word ∈ (opening ++ quoteMark :: first) :: inner, ' ' ∉ word := by
          obtain ⟨wholeFirst, wholeInner⟩ := List.forall_mem_cons.1 whole
          exact List.forall_mem_cons.2
            ⟨whole_opened wholeFirst, fun word member => wholeInner word (List.mem_append_left _ member)⟩
        refine ⟨opening ++ quoteMark :: first, [last ++ [quoteMark]], ?_, by simp⟩
        rw [split, Text.cut_leading wholeWords, Text.cut_of_not_mem (whole_closed wholeLast)]
        simp

/-- The parser of names sees the name as it was, whatever words without quotes are put before it. -/
theorem asks_quoted_iff {kept : List Text} {name : Text} (unquoted : ∀ token ∈ kept, quoteMark ∉ token)
    (plain : quoteMark ∉ name) (other : Text) :
    Asks (Text.join [' '] (kept ++ cut ' ' (quoted name))) other ↔ other = name := by
  have joined : Text.join [' '] (kept ++ cut ' ' (quoted name)) = leading kept ++ quoted name :=
    Text.spaced_append_cut kept (quoted name)
  have asks := asks_append_quoted plain (Text.not_mem_leading (by decide) unquoted) (Text.leading_eq kept)
  rw [joined]
  constructor
  · exact fun asksOther => asksOther.unique asks
  · rintro rfl
    exact asks

private theorem asks_cut_quoted_iff {name : Text} (plain : quoteMark ∉ name) (other : Text) :
    Asks (Text.join [' '] (cut ' ' (quoted name))) other ↔ other = name := by
  have none : ∀ token ∈ ([] : List Text), quoteMark ∉ token := nofun
  exact asks_quoted_iff none plain other

end DisplayName

open DisplayName (quoteMark quoted innerWords)

/-! ### Words with a quote -/

private theorem quote_not_mem_enchantment (enchantment : Enchantment) : quoteMark ∉ enchantment.name := by
  have every : ∀ listed ∈ Enchantment.all, quoteMark ∉ listed.name := by decide +kernel
  exact every enchantment enchantment.mem_all

private theorem quote_not_mem_flag (flag : ItemFlag) : quoteMark ∉ flag.name := by
  have every : ∀ listed ∈ ItemFlag.all, quoteMark ∉ listed.name := by decide +kernel
  exact every flag flag.mem_all

section Quote

variable {token : Text} (quote : quoteMark ∈ token)

include quote

theorem read_of_quote : Number.read token = .ok none :=
  Number.read_of_foreign quote (by decide) (by decide)

private theorem quote_mem_lower : quoteMark ∈ lower token :=
  Text.mem_lower_of_isLower (by unfold Text.IsLower; decide) quote

private theorem quote_mem_part {name written : Text} (parts : cut ':' (lower token) = [name, written])
    (unquoted : quoteMark ∉ name) : quoteMark ∈ written := by
  have apart : quoteMark ≠ ':' := by decide
  obtain ⟨part, member, inPart⟩ := Text.exists_mem_cut apart (quote_mem_lower quote)
  rw [parts, List.mem_cons, List.mem_singleton] at member
  rcases member with rfl | rfl
  · exact absurd inPart unquoted
  · exact inPart

private theorem quote_mem_behind {head written : Text} (split : token = head ++ written)
    (opened : lower head = ModelData.opening) : quoteMark ∈ written := by
  rw [split, List.mem_append] at quote
  rcases quote with inHead | inWritten
  · have inOpening := quote_mem_lower inHead
    rw [opened] at inOpening
    exact absurd inOpening (by decide)
  · exact inWritten

private theorem not_voices_of_quote (wish : Wish) : ¬Voices token wish := by
  intro voiced
  cases wish with
  | level enchantment least =>
      obtain ⟨written, parts, number, _⟩ := voiced
      have inWritten := quote_mem_part quote parts (quote_not_mem_enchantment enchantment)
      cases number.symm.trans (read_of_quote inWritten)
  | modelData number =>
      obtain ⟨head, written, split, opened, number⟩ := voiced
      cases number.symm.trans (read_of_quote (quote_mem_behind quote split opened))
  | unbreakable =>
      have inWord := quote_mem_lower quote
      rw [show lower token = Unbreakable.word from voiced] at inWord
      exact absurd inWord (by decide)
  | flag wanted => exact quote_not_mem_flag wanted (quote_mem_part quote voiced (by decide))

private theorem not_unreadable_of_quote : ¬Unreadable token := by
  have notOverlong : ∀ {written digits : Text}, quoteMark ∈ written → ¬Number.Overlong written digits := by
    intro written digits inWritten overlong
    have gaveUp := (Number.read_eq_error_iff written _).2 ⟨digits, overlong, rfl⟩
    cases gaveUp.symm.trans (read_of_quote inWritten)
  intro unreadable
  cases unreadable with
  | @level enchantment _ _ parts overlong =>
      exact notOverlong (quote_mem_part quote parts (quote_not_mem_enchantment enchantment)) overlong
  | modelData split opened overlong => exact notOverlong (quote_mem_behind quote split opened) overlong

end Quote

private theorem silent_of_quotes {words : List Text} (quotes : ∀ word ∈ words, quoteMark ∈ word) :
    Silent words :=
  fun word member => not_voices_of_quote (quotes word member)

/-! ### What a name in quotes asks for -/

section Quoted

variable {name : Text}

theorem readable_quoted (readable : ∀ word ∈ innerWords name, ¬Unreadable word) :
    ∀ word ∈ cut ' ' (quoted name), ¬Unreadable word := by
  obtain ⟨first, others, words, quotes⟩ := DisplayName.cut_quoted name
  obtain ⟨quoteFirst, quoteOthers⟩ := List.forall_mem_cons.1 quotes
  rw [words, List.forall_mem_cons, List.forall_mem_append]
  exact ⟨not_unreadable_of_quote quoteFirst, readable,
    fun word member => not_unreadable_of_quote (quoteOthers word member)⟩

variable (plain : quoteMark ∉ name)

include plain

/-- A stack is as a name in quotes asks if it has the name and is as the inner words ask. -/
theorem meets_quoted_iff (stack : Stack) : Meets (cut ' ' (quoted name)) stack ↔
    ∃ data, stack.meta? = some data ∧ data.displayName = some name ∧
      ∀ wish, Wishes (innerWords name) wish → wish.Holds data := by
  have named := DisplayName.asks_cut_quoted_iff plain
  obtain ⟨first, others, words, quotes⟩ := DisplayName.cut_quoted name
  rw [words] at named
  rw [meets_iff_wishes, words]
  simp only [named, forall_eq, wishes_between_iff (silent_of_quotes quotes)]
  constructor
  · rintro ⟨wished, data, held, hasName⟩
    refine ⟨data, held, hasName, fun wish isWished => ?_⟩
    obtain ⟨same, heldSame, holds⟩ := wished wish isWished
    cases held.symm.trans heldSame
    exact holds
  · rintro ⟨data, held, hasName, wished⟩
    exact ⟨fun wish isWished => ⟨data, held, wished wish isWished⟩, data, held, hasName⟩

/-- A name in quotes is written over what the inner words make of the metadata. -/
theorem Revises.quoted {before revised : Meta} (revises : Revises (innerWords name) before revised) :
    Revises (cut ' ' (DisplayName.quoted name)) before { revised with displayName := some name } := by
  have named := DisplayName.asks_cut_quoted_iff plain
  obtain ⟨first, others, words, quotes⟩ := DisplayName.cut_quoted name
  rw [words] at named
  rw [words]
  exact revises.between (silent_of_quotes quotes) named

end Quoted

end ItemSpec.Modifier
