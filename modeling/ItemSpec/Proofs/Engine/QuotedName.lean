import ItemSpec.Proofs.Engine.Denotation
import ItemSpec.Proofs.Engine.Language
import ItemSpec.Proofs.Engine.Representative
import ItemSpec.Proofs.Modifier.QuotedName
set_option autoImplicit false

/-! Specs that end in a name in quotes. The name is shown and is asked for as it stands between the quotes,
whatever comes before it; the words in the middle of it may ask for more. -/

namespace ItemSpec.Engine

open Modifier (BuiltIn Meets Revises Silent Unreadable Wishes)
open Modifier.DisplayName (innerWords quoteMark quoted)
open Text (IsToken cut spaced)

variable {engine : Engine} {token name : Text} {tokens : List Text}

/-! ### Reading a spec with a name in quotes -/

private theorem cut_spaced_quoted (whole : ∀ part ∈ token :: tokens, IsToken part) (name : Text) :
    cut ' ' (Text.dropTrailing ' ' (spaced (token :: tokens ++ [quoted name]))) =
      token :: (tokens ++ cut ' ' (quoted name)) := by
  have kept : Text.dropTrailing ' ' (spaced (token :: tokens ++ [quoted name])) =
      Text.leading (token :: tokens) ++ quoted name := by
    rw [Text.spaced_append _ (List.cons_ne_nil _ []), quoted]
    simp only [spaced, Text.join]
    rw [← List.append_assoc, Text.dropTrailing_append (by decide)]
  rw [kept, Text.cut_leading fun part member => (whole part member).1, List.cons_append]

private theorem question_not_mem_spaced_quoted (proper : ∀ part ∈ token :: tokens, IsToken part)
    (single : '?' ∉ name) :
    '?' ∉ spaced (token :: tokens ++ [quoted name]) := by
  refine Text.not_mem_join (by decide) fun part member => ?_
  rcases List.mem_append.1 member with inTokens | isQuoted
  · exact (proper part inTokens).2
  · rw [List.mem_singleton.1 isQuoted, quoted]
    simp only [List.mem_append, List.mem_cons, not_or]
    exact ⟨⟨by decide, by decide, single⟩, by decide, List.not_mem_nil⟩

/-- A token before the name may be taken for the amount; no word of the name is. -/
theorem counts_quoted {named amount : Int} {modifiers : List Text}
    (counts : Counts named (tokens ++ cut ' ' (quoted name)) amount modifiers) :
    ∃ kept, (∀ part ∈ kept, part ∈ tokens) ∧ modifiers = kept ++ cut ' ' (quoted name) := by
  cases tokens with
  | nil =>
      obtain ⟨first, others, words, quotes⟩ := Modifier.DisplayName.cut_quoted name
      have word := Modifier.read_of_quote (quotes first List.mem_cons_self)
      rw [List.nil_append, words] at counts
      rw [words]
      cases counts with
      | written number => cases word.symm.trans number
      | unwritten => exact ⟨[], nofun, rfl⟩
  | cons head rest =>
      cases counts with
      | written number => exact ⟨rest, fun part member => List.mem_cons_of_mem _ member, rfl⟩
      | unwritten word => exact ⟨head :: rest, fun part member => member, rfl⟩

private theorem Reads.quoted {order : Order} (proper : ∀ part ∈ token :: tokens, IsToken part)
    (reads : engine.Reads (spaced (token :: tokens ++ [quoted name])) order) :
    ∃ kept, (∀ part ∈ kept, part ∈ tokens) ∧ order.modifiers = kept ++ cut ' ' (quoted name) := by
  obtain ⟨cutTokens, notEmpty, names, counts⟩ := reads
  obtain ⟨rfl, rfl⟩ := List.cons.inj ((cut_spaced_quoted proper name).symm.trans cutTokens)
  exact counts_quoted counts

private theorem Reads.lone {order : Order} (proper : IsToken token) (reads : engine.Reads token order) :
    token ≠ [] ∧ engine.Names token order.base order.amount ∧ order.modifiers = [] := by
  obtain ⟨cutTokens, notEmpty, names, counts⟩ := reads
  rw [Text.dropTrailing_of_not_mem proper.1, Text.cut_of_not_mem proper.1] at cutTokens
  obtain ⟨rfl, rfl⟩ := List.cons.inj cutTokens
  cases counts with
  | nothing => exact ⟨notEmpty, names, rfl⟩

private theorem reads_quoted {order : Order} (proper : IsToken token) (reads : engine.Reads token order)
    (name : Text) :
    engine.Reads (spaced [token, quoted name])
      { order with modifiers := cut ' ' (quoted name) } := by
  obtain ⟨notEmpty, names, _⟩ := reads.lone proper
  obtain ⟨first, others, words, quotes⟩ := Modifier.DisplayName.cut_quoted name
  have alone : ∀ part ∈ [token], IsToken part := List.forall_mem_singleton.2 proper
  refine .intro (cut_spaced_quoted alone name) notEmpty names ?_
  rw [List.nil_append, words]
  exact .unwritten (Modifier.read_of_quote (quotes first List.mem_cons_self))

/-! ### Orders with modifiers and without -/

section Modifiers

variable {order : Order} {bare found : Found} {modifiers : List Text}
  (fillsBare : engine.Fills BuiltIn.all order bare) (none : order.modifiers = [])
  (fills : engine.Fills BuiltIn.all { order with modifiers } found)

include fillsBare none fills

/-- Modifiers revise the metadata of what is shown without them. -/
theorem Fills.revises_bare : ∃ before after, bare.matcher.representative.meta? = some before ∧
    Revises modifiers before after ∧
    found.matcher.representative = { bare.matcher.representative with meta? := some after } := by
  obtain ⟨data, readable⟩ := fills.genuine.readable
  have revises := BuiltIn.revises_writeAll data fun kind => fills.requested kind kind.mem_all
  have readableBare : order.base.found.matcher.representative.meta? = some data := readable
  refine ⟨data, _, ?_, revises, ?_⟩
  · rw [fillsBare.representative]
    simp only [Order.edit, readableBare, none, Option.map_some, BuiltIn.writeAll_nil]
  · rw [fills.representative, fillsBare.representative]
    simp only [Order.edit, readableBare, Option.map_some]

private theorem Fills.judges_bare (stack : Stack) : ∃ met : Bool, (met = true ↔ Meets modifiers stack) ∧
    found.matcher.accepts stack = Verdict.both (bare.matcher.accepts stack) (.ok met) := by
  obtain ⟨met, meetsIff, judged⟩ := fills.judges stack
  have untested : BuiltIn.all.flatMap (BuiltIn.added []) = [] := rfl
  refine ⟨met, meetsIff, ?_⟩
  rw [judged, fillsBare.accepts, none, untested, Test.all, Verdict.both_ok_true, Verdict.both_both_ok,
    Bool.and_comm]

end Modifiers

variable (parsers : engine.parsers = BuiltIn.all.map BuiltIn.parser) (customs : engine.registry.Genuine)

include parsers customs

/-! ### The name that is shown and asked for -/

/-- A name in quotes at the end of a spec is shown as it is, and every stack that is matched has it. -/
theorem lookup_shows_quoted_name {found : Found} (proper : ∀ part ∈ token :: tokens, IsToken part)
    (unquoted : ∀ part ∈ tokens, quoteMark ∉ part) (plain : quoteMark ∉ name) (single : '?' ∉ name)
    (looked : (engine.lookup (spaced (token :: tokens ++ [quoted name]))).outcome = .ok found)
    (notEmpty : found.matcher.isEmpty = false) :
    (∃ data, found.matcher.representative.meta? = some data ∧ data.displayName = some name) ∧
      ∀ stack, found.matcher.accepts stack = .ok true →
        ∃ data, stack.meta? = some data ∧ data.displayName = some name := by
  obtain ⟨order, reads, fills⟩ := lookup_fills_of_single parsers customs
    (question_not_mem_spaced_quoted proper single) looked notEmpty
  obtain ⟨kept, fromTokens, modifiers⟩ := reads.quoted proper
  have asked : Modifier.DisplayName.Asks (Text.join [' '] order.modifiers) name := by
    rw [modifiers, Modifier.DisplayName.asks_quoted_iff (fun part member => unquoted part (fromTokens part member)) plain]
  constructor
  · obtain ⟨before, after, _, shown, revises⟩ := fills.revises
    exact ⟨after, shown, (revises.displayName name).2 (.inl asked)⟩
  · intro stack accepted
    obtain ⟨met, meetsIff, judged⟩ := fills.judges stack
    rw [judged, Verdict.both_eq_true_iff, Except.ok.injEq, Bool.and_eq_true, meetsIff] at accepted
    exact accepted.2.1.displayName name asked

omit parsers customs in
/-- An amount, an empty token, an enchantment and a bare name before a name with spaces at its ends, in a row,
and a tab. -/
theorem lookup_shows_quoted_name_gems :
    let engine := offering .gems BuiltIn.all
    let token := "Vault:Gems".toList
    let tokens := ["7".toList, [], "sharpness:3".toList, "name:Hoard".toList]
    let name := " two  words:\tand ".toList
    (∀ part ∈ token :: tokens, IsToken part) ∧ (∀ part ∈ tokens, quoteMark ∉ part) ∧ quoteMark ∉ name ∧
      '?' ∉ name ∧
      ∃ found, (engine.lookup (spaced (token :: tokens ++ [quoted name]))).outcome = .ok found ∧
        found.matcher.isEmpty = false ∧
        (∃ data, found.matcher.representative.meta? = some data ∧ data.displayName = some name) ∧
        ∀ stack, found.matcher.accepts stack = .ok true →
          ∃ data, stack.meta? = some data ∧ data.displayName = some name := by
  intro engine token tokens name
  have proper : ∀ part ∈ token :: tokens, IsToken part := by decide
  have unquoted : ∀ part ∈ tokens, quoteMark ∉ part := by decide
  have plain : quoteMark ∉ name := by decide
  have single : '?' ∉ name := by decide
  have finds : engine.finds (spaced (token :: tokens ++ [quoted name])) (fun _ => true) = true := by
    decide +kernel
  obtain ⟨found, looked, notEmpty, _⟩ := (finds_eq_true_iff _ _).1 finds
  exact ⟨proper, unquoted, plain, single, found, looked, notEmpty,
    lookup_shows_quoted_name rfl (offering_genuine .gems BuiltIn.all) proper unquoted plain single looked
      notEmpty⟩

/-! ### What else a name in quotes asks for -/

/-- A name in quotes makes of an order without modifiers the same order with the words of the name. -/
theorem fills_quoted {base : Found} (proper : IsToken token) (single : '?' ∉ name)
    (readable : ∀ word ∈ innerWords name, ¬Unreadable word)
    (looked : (engine.lookup token).outcome = .ok base) (notEmpty : base.matcher.isEmpty = false) :
    ∃ order found, engine.Fills BuiltIn.all order base ∧ order.modifiers = [] ∧
      (engine.lookup (spaced [token, quoted name])).outcome = .ok found ∧ found.matcher.isEmpty = false ∧
      engine.Fills BuiltIn.all { order with modifiers := cut ' ' (quoted name) } found := by
  obtain ⟨order, reads, fillsBare⟩ := lookup_fills_of_single parsers customs proper.2 looked notEmpty
  have readsQuoted := reads_quoted proper reads name
  have alone : ∀ part ∈ [token], IsToken part := List.forall_mem_singleton.2 proper
  have singleSpec : '?' ∉ spaced [token, quoted name] := question_not_mem_spaced_quoted alone single
  obtain ⟨found, filled, bears⟩ :
      ∃ found, (engine.fill { order with modifiers := cut ' ' (quoted name) }).outcome = .ok found ∧
        order.base.found.Bears found :=
    fill_bears parsers fillsBare.genuine (Modifier.readable_quoted readable)
  have lookedQuoted : (engine.lookup (spaced [token, quoted name])).outcome = .ok found := by
    rw [lookup_of_single singleSpec, lookupAlternative_of_reads readsQuoted, filled]
  have foundNotEmpty := bears.notEmpty fillsBare.genuine.notEmpty
  obtain ⟨other, readsOther, fills⟩ := lookup_fills_of_single parsers customs singleSpec lookedQuoted foundNotEmpty
  cases (readsQuoted.iff_eq other).1 readsOther
  exact ⟨order, found, fillsBare, (reads.lone proper).2.2, lookedQuoted, foundNotEmpty, fills⟩

/-- A name in quotes behind a token that finds something finds the same thing with that name, revised and
tested as the inner words of the name ask. Where they ask for nothing, nothing but the name is changed and
asked for. -/
theorem lookup_quoted_name {base : Found} (proper : IsToken token) (plain : quoteMark ∉ name)
    (single : '?' ∉ name) (readable : ∀ word ∈ innerWords name, ¬Unreadable word)
    (looked : (engine.lookup token).outcome = .ok base) (notEmpty : base.matcher.isEmpty = false) :
    ∃ before revised found, base.matcher.representative.meta? = some before ∧
      Revises (innerWords name) before revised ∧
      (engine.lookup (spaced [token, quoted name])).outcome = .ok found ∧ found.matcher.isEmpty = false ∧
      found.matcher.representative =
        { base.matcher.representative with meta? := some { revised with displayName := some name } } ∧
      (∀ stack, ∃ met : Bool,
        found.matcher.accepts stack = Verdict.both (base.matcher.accepts stack) (.ok met) ∧
        (met = true ↔ ∃ data, stack.meta? = some data ∧ data.displayName = some name ∧
          ∀ wish, Wishes (innerWords name) wish → wish.Holds data)) ∧
      (Silent (innerWords name) →
        found.matcher.representative =
          { base.matcher.representative with meta? := some { before with displayName := some name } } ∧
        ∀ stack, found.matcher.accepts stack = .ok true ↔ base.matcher.accepts stack = .ok true ∧
          ∃ data, stack.meta? = some data ∧ data.displayName = some name) := by
  obtain ⟨order, found, fillsBare, none, lookedQuoted, foundNotEmpty, fills⟩ :=
    fills_quoted parsers customs proper single readable looked notEmpty
  obtain ⟨before, after, shown, revises, representative⟩ := fillsBare.revises_bare none fills
  have revisesInner := BuiltIn.revises_writeAll before (BuiltIn.requested_of_readable readable)
  rw [revises.unique (revisesInner.quoted plain)] at representative
  have judged := fillsBare.judges_bare none fills
  simp only [Modifier.meets_quoted_iff plain] at judged
  refine ⟨before, _, found, shown, revisesInner, lookedQuoted, foundNotEmpty, representative, ?_, ?_⟩
  · intro stack
    obtain ⟨met, metIff, verdict⟩ := judged stack
    exact ⟨met, verdict, metIff⟩
  · intro silent
    refine ⟨?_, fun stack => ?_⟩
    · rw [representative, revisesInner.eq_of_silent silent]
    · obtain ⟨met, metIff, verdict⟩ := judged stack
      have unwished := silent.not_wishes
      simp only [verdict, Verdict.both_eq_true_iff, Except.ok.injEq, metIff, unwished, false_implies,
        implies_true, and_true]

omit parsers customs

/-- A name with an enchantment and another name in the middle of it. The last word ends in a quote. -/
theorem lookup_quoted_name_gems :
    let engine := offering .gems BuiltIn.all
    let token := "Vault:Gems:7".toList
    let name := " sharp  sharpness:3 and name:Bob unbreakable".toList
    IsToken token ∧ quoteMark ∉ name ∧ '?' ∉ name ∧
      innerWords name = ["sharp".toList, [], "sharpness:3".toList, "and".toList, "name:Bob".toList] ∧
      (∀ word ∈ innerWords name, ¬Unreadable word) ∧
      ∃ base, (engine.lookup token).outcome = .ok base ∧ base.matcher.isEmpty = false ∧
      ∃ before revised found, base.matcher.representative.meta? = some before ∧
        Revises (innerWords name) before revised ∧
        (engine.lookup (spaced [token, quoted name])).outcome = .ok found ∧
        found.matcher.representative =
          { base.matcher.representative with meta? := some { revised with displayName := some name } } ∧
        ∀ stack, ∃ met : Bool,
          found.matcher.accepts stack = Verdict.both (base.matcher.accepts stack) (.ok met) ∧
          (met = true ↔ ∃ data, stack.meta? = some data ∧ data.displayName = some name ∧
            ∀ wish, Wishes (innerWords name) wish → wish.Holds data) := by
  intro engine token name
  have proper : IsToken token := by decide
  have plain : quoteMark ∉ name := by decide
  have single : '?' ∉ name := by decide
  have words : innerWords name =
      ["sharp".toList, [], "sharpness:3".toList, "and".toList, "name:Bob".toList] := by decide
  have short : ∀ word ∈ innerWords name, word.length ≤ Fault.digitCapacity := by
    rw [words]
    decide +kernel
  have readable : ∀ word ∈ innerWords name, ¬Unreadable word := fun word member =>
    Modifier.not_unreadable_of_brief (Text.brief_of_length (short word member))
  have finds : engine.finds token (fun _ => true) = true := by decide +kernel
  obtain ⟨base, looked, notEmpty, _⟩ := (finds_eq_true_iff token _).1 finds
  obtain ⟨before, revised, found, shown, revises, lookedQuoted, _, representative, judged, _⟩ :=
    lookup_quoted_name rfl (offering_genuine .gems BuiltIn.all) proper plain single readable looked notEmpty
  exact ⟨proper, plain, single, words, readable, base, looked, notEmpty, before, revised, found, shown, revises,
    lookedQuoted, representative, judged⟩

/-- A name with a word in the middle that makes unbreakable. -/
theorem lookup_unbreakable_oath :
    let engine := offering .gems BuiltIn.all
    let token := "DIAMOND".toList
    let name := "an unbreakable oath".toList
    let stack : Stack := ⟨.diamond, 1, some { Meta.blank with displayName := some name }⟩
    IsToken token ∧ quoteMark ∉ name ∧ '?' ∉ name ∧
      (∃ base, (engine.lookup token).outcome = .ok base ∧ base.matcher.isEmpty = false ∧
        base.matcher.representative.meta? = some .blank ∧ base.matcher.accepts stack = .ok true) ∧
      ∃ found, (engine.lookup (spaced [token, quoted name])).outcome = .ok found ∧
        found.matcher.isEmpty = false ∧
        found.matcher.representative.meta? =
          some { Meta.blank with displayName := some name, unbreakable := true } ∧
        found.matcher.accepts stack = .ok false := by
  intro engine token name stack
  have findsBase : engine.finds token (fun matcher => decide
      (matcher.representative.meta? = some .blank ∧ matcher.accepts stack = .ok true)) = true := by
    decide +kernel
  have finds : engine.finds (spaced [token, quoted name]) (fun matcher => decide
      (matcher.representative.meta? = some { Meta.blank with displayName := some name, unbreakable := true } ∧
        matcher.accepts stack = .ok false)) = true := by
    decide +kernel
  obtain ⟨base, looked, notEmpty, decided⟩ := (finds_eq_true_iff _ _).1 findsBase
  obtain ⟨found, lookedQuoted, foundNotEmpty, decidedQuoted⟩ := (finds_eq_true_iff _ _).1 finds
  exact ⟨by decide, by decide, by decide, ⟨base, looked, notEmpty, of_decide_eq_true decided⟩,
    found, lookedQuoted, foundNotEmpty, of_decide_eq_true decidedQuoted⟩

end ItemSpec.Engine
