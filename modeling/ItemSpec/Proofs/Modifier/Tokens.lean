import ItemSpec.Proofs.Modifier.BuiltIn
import ItemSpec.Proofs.Modifier.DisplayName
import ItemSpec.Proofs.Text.Case
set_option autoImplicit false

/-! What modifier tokens ask for, said of the tokens as a whole. Of the levels for an enchantment and
of the model data the last that is well formed counts, flags add up, and tokens that no parser
understands, or that are malformed, count for nothing wherever they stand. -/

namespace ItemSpec.Modifier

/-- The last of the tokens that ask for something asks for this. -/
def Last {Value : Type} (asks : Text → Value → Prop) (tokens : List Text) (value : Value) : Prop :=
  ∃ before token after, tokens = before ++ token :: after ∧ asks token value ∧
    ∀ later ∈ after, ∀ other, ¬asks later other

section Last

variable {Value : Type} {asks : Text → Value → Prop}

theorem not_last_nil (value : Value) : ¬Last asks [] value := by
  intro ⟨before, token, after, split, _⟩
  exact absurd split.symm (List.append_ne_nil_of_right_ne_nil before (List.cons_ne_nil token after))

theorem last_cons (token : Text) (others : List Text) (value : Value) :
    Last asks (token :: others) value ↔
      Last asks others value ∨ asks token value ∧ ∀ later ∈ others, ∀ other, ¬asks later other := by
  constructor
  · intro ⟨before, last, after, split, asked, silent⟩
    cases before with
    | nil =>
        obtain ⟨rfl, rfl⟩ := List.cons.inj split
        exact .inr ⟨asked, silent⟩
    | cons first before =>
        obtain ⟨rfl, rfl⟩ := List.cons.inj split
        exact .inl ⟨before, last, after, rfl, asked, silent⟩
  · rintro (⟨before, last, after, rfl, asked, silent⟩ | ⟨asked, silent⟩)
    · exact ⟨token :: before, last, after, rfl, asked, silent⟩
    · exact ⟨[], token, others, rfl, asked, silent⟩

/-- What stands at the end of a scan that takes the last value and starts with one already: the rule
for one more token in front. -/
private theorem last_or_start_cons {token : Text} {others : List Text} {start next : Option Value}
    (takes : (∀ value, ¬asks token value) ∧ next = start ∨
      ∃ value, (∀ other, asks token other ↔ other = value) ∧ next = some value) (value : Value) :
    (Last asks others value ∨ next = some value ∧ ∀ later ∈ others, ∀ other, ¬asks later other) ↔
      (Last asks (token :: others) value ∨
        start = some value ∧ ∀ later ∈ token :: others, ∀ other, ¬asks later other) := by
  rw [last_cons, List.forall_mem_cons]
  rcases takes with ⟨silent, rfl⟩ | ⟨taken, asksTaken, rfl⟩
  · simp only [silent, false_and, or_false, not_false_eq_true, implies_true, true_and]
  · have speaks : ¬∀ other : Value, ¬other = taken := fun silent => silent taken rfl
    simp only [asksTaken, Option.some.injEq, speaks, false_and, and_false, or_false]
    rw [eq_comm (a := taken)]

end Last

/-! ### Enchantments -/

namespace Enchanting

def Asks (enchantment : Enchantment) (token : Text) (level : Int) : Prop :=
  ∃ written, Text.cut ':' (Text.lower token) = [enchantment.name, written] ∧
    Number.read written = .ok (some level) ∧ 1 ≤ level

theorem named?_eq_some_iff (token : Text) (enchantment : Enchantment) (written : Text) :
    named? token = some (enchantment, written) ↔
      Text.cut ':' (Text.lower token) = [enchantment.name, written] := by
  constructor
  · intro found
    unfold named? at found
    split at found
    · rename_i name level parts
      obtain ⟨known, named, same⟩ := Option.map_eq_some_iff.1 found
      obtain ⟨rfl, rfl⟩ := Prod.mk.inj same
      rw [parts, Enchantment.name_eq_of_ofName? named]
    · cases found
  · intro parts
    simp only [named?, parts, Enchantment.ofName?_name, Option.map_some]

private theorem level?_eq_some_iff (written : Text) (level : Int) :
    level? written = .ok (some level) ↔ Number.read written = .ok (some level) ∧ 1 ≤ level := by
  unfold level?
  cases Number.read written with
  | error fault => simp
  | ok number? => simp [Option.filter_eq_some_iff]

/-- A scan that comes to an end has the level of the last token for each enchantment, and where there
is no such token the level that it started with. -/
theorem collect_level? {tokens : List Text} {start levels : Levels}
    (collected : (collect tokens start).outcome = .ok levels) (enchantment : Enchantment) (level : Int) :
    levels.level? enchantment = some level ↔
      Last (Asks enchantment) tokens level ∨ start.level? enchantment = some level ∧
        ∀ token ∈ tokens, ∀ other, ¬Asks enchantment token other := by
  induction tokens generalizing start with
  | nil =>
      cases collected
      simp [not_last_nil]
  | cons token others ih =>
      unfold collect at collected
      split at collected
      · rename_i unnamed
        rw [ih collected]
        refine last_or_start_cons (.inl ⟨?_, rfl⟩) level
        intro other ⟨written, parts, _⟩
        rw [(named?_eq_some_iff token enchantment written).2 parts] at unnamed
        cases unnamed
      · rename_i known written named
        have parts := (named?_eq_some_iff token known written).1 named
        have onlyKnown : ∀ other, Asks enchantment token other →
            enchantment = known ∧ level? written = .ok (some other) := by
          intro other ⟨shown, otherParts, number, positive⟩
          have same := (named?_eq_some_iff token enchantment shown).2 otherParts
          rw [named] at same
          obtain ⟨rfl, rfl⟩ := Prod.mk.inj (Option.some.inj same)
          exact ⟨rfl, (level?_eq_some_iff _ other).2 ⟨number, positive⟩⟩
        cases wanted : level? written with
        | error fault => simp [wanted] at collected
        | ok level? =>
            cases level? with
            | none =>
                simp only [wanted, Traced.outcome_bind, Traced.outcome_lift, Traced.outcome_note,
                  Fault.ok_bind] at collected
                rw [ih collected]
                refine last_or_start_cons (.inl ⟨fun other asks => ?_, rfl⟩) level
                rw [wanted] at onlyKnown
                cases (onlyKnown other asks).2
            | some taken =>
                simp only [wanted, Traced.outcome_bind, Traced.outcome_lift, Fault.ok_bind] at collected
                rw [ih collected]
                refine last_or_start_cons ?_ level
                rw [Levels.level?_set]
                by_cases same : enchantment = known
                · subst same
                  refine .inr ⟨taken, fun other => ⟨fun asks => ?_, ?_⟩, if_pos rfl⟩
                  · have agreed := (onlyKnown other asks).2
                    rw [wanted] at agreed
                    exact (Option.some.inj (Except.ok.inj agreed)).symm
                  · rintro rfl
                    exact ⟨written, parts, (level?_eq_some_iff written other).1 wanted⟩
                · exact .inl ⟨fun other asks => same (onlyKnown other asks).1, if_neg same⟩

theorem request_outcome (tokens : List Text) :
    (rule.request tokens).outcome = (collect tokens .empty).outcome.map fun levels =>
      if levels.isEmpty then none else some levels := by
  show (collect tokens .empty >>= fun levels =>
    pure (if levels.isEmpty then none else some levels)).outcome = _
  rw [Traced.outcome_bind]
  cases (collect tokens .empty).outcome <;> rfl

theorem request_levels {tokens : List Text} {request? : Option Levels}
    (requested : (rule.request tokens).outcome = .ok request?) :
    (∀ enchantment level, Last (Asks enchantment) tokens level ↔
        ∃ levels, request? = some levels ∧ levels.level? enchantment = some level) ∧
      ∀ levels, request? = some levels → ∃ enchantment level, levels.level? enchantment = some level := by
  rw [request_outcome] at requested
  cases collected : (collect tokens .empty).outcome with
  | error fault =>
      rw [collected] at requested
      cases requested
  | ok levels =>
      have scanned := collect_level? collected
      simp only [Levels.level?_empty, reduceCtorEq, false_and, or_false] at scanned
      rw [collected, Fault.ok_map] at requested
      rw [← Except.ok.inj requested]
      cases isEmpty : levels.isEmpty with
      | true =>
          rw [(Levels.isEmpty_iff levels).1 isEmpty] at scanned
          simp [← scanned]
      | false =>
          refine ⟨fun enchantment level => by simp [scanned], fun kept same => ?_⟩
          simp only [Bool.false_eq_true, if_false, Option.some.injEq] at same
          subst same
          obtain ⟨enchantment, _, present⟩ := List.all_eq_false.1 isEmpty
          rw [Bool.not_eq_true, Option.isNone_eq_false_iff, Option.isSome_iff_exists] at present
          exact ⟨enchantment, present⟩

end Enchanting

/-! ### Model data -/

namespace ModelData

def Asks (token : Text) (number : Int) : Prop :=
  ∃ head written, token = head ++ written ∧ Text.lower head = opening ∧
    Number.read written = .ok (some number)

theorem written?_eq_some_iff (token written : Text) :
    written? token = some written ↔ ∃ head, token = head ++ written ∧ Text.lower head = opening := by
  have lone : ∀ letter ∈ opening, Text.isLone letter = true := List.all_eq_true.1 (by decide)
  have cutBehind : ∀ head rest : Text, Text.lower head = opening →
      (head ++ rest).drop opening.length = rest := by
    intro head rest lowers
    rw [← Text.length_of_lower lone lowers, List.drop_left]
  unfold written?
  split
  · rename_i begins
    obtain ⟨head, rest, rfl, lowers⟩ :=
      (Text.prefix_lower_iff lone token).1 (List.isPrefixOf_iff_prefix.1 begins)
    rw [cutBehind head rest lowers, Option.some.injEq]
    constructor
    · rintro rfl
      exact ⟨head, rfl, lowers⟩
    · intro ⟨other, split, otherLowers⟩
      rw [← cutBehind head rest lowers, split, cutBehind other written otherLowers]
  · rename_i apart
    constructor
    · intro found
      cases found
    · rintro ⟨head, rfl, lowers⟩
      exact absurd (List.isPrefixOf_iff_prefix.2
        ((Text.prefix_lower_iff lone _).2 ⟨head, written, rfl, lowers⟩)) apart

private theorem asks_iff (token : Text) (number : Int) :
    Asks token number ↔ ∃ written, written? token = some written ∧
      Number.read written = .ok (some number) := by
  constructor
  · intro ⟨head, written, split, lowers, read⟩
    exact ⟨written, (written?_eq_some_iff token written).2 ⟨head, split, lowers⟩, read⟩
  · intro ⟨written, found, read⟩
    obtain ⟨head, split, lowers⟩ := (written?_eq_some_iff token written).1 found
    exact ⟨head, written, split, lowers, read⟩

/-- A scan that comes to an end has the number of the last token, and without such a token the number
that it started with. -/
theorem collect_eq_some_iff {tokens : List Text} {start request? : Option Int}
    (collected : (collect tokens start).outcome = .ok request?) (number : Int) :
    request? = some number ↔
      Last Asks tokens number ∨ start = some number ∧ ∀ token ∈ tokens, ∀ other, ¬Asks token other := by
  induction tokens generalizing start with
  | nil =>
      cases collected
      simp [not_last_nil]
  | cons token others ih =>
      unfold collect at collected
      split at collected
      · rename_i unopened
        rw [ih collected]
        refine last_or_start_cons (.inl ⟨fun other asks => ?_, rfl⟩) number
        obtain ⟨written, found, _⟩ := (asks_iff token other).1 asks
        rw [unopened] at found
        cases found
      · rename_i written opened
        have asksWritten : ∀ other, Asks token other ↔ Number.read written = .ok (some other) := by
          intro other
          simp only [asks_iff, opened, Option.some.injEq, exists_eq_left']
        cases read : Number.read written with
        | error fault => simp [read] at collected
        | ok number? =>
            simp only [read, Traced.outcome_bind, Traced.outcome_lift, Fault.ok_bind] at collected
            rw [ih collected]
            refine last_or_start_cons ?_ number
            cases number? with
            | none =>
                refine .inl ⟨fun other asks => ?_, Option.none_or⟩
                rw [asksWritten, read] at asks
                cases asks
            | some taken =>
                refine .inr ⟨taken, fun other => ?_, Option.some_or⟩
                rw [asksWritten, read, Except.ok.injEq, Option.some.injEq, eq_comm]

theorem request_eq_some_iff {tokens : List Text} {request? : Option Int}
    (requested : (rule.request tokens).outcome = .ok request?) (number : Int) :
    request? = some number ↔ Last Asks tokens number := by
  have collected : (collect tokens none).outcome = .ok request? := requested
  rw [collect_eq_some_iff collected]
  simp

end ModelData

/-! ### Unbreakable stacks, flags and names -/

theorem Unbreakable.request_outcome (tokens : List Text) :
    (Unbreakable.rule.request tokens).outcome =
      .ok (if ∃ token ∈ tokens, Text.lower token = word then some () else none) := by
  show Except.ok (if (tokens.any fun token => decide (Text.lower token = word)) = true then _ else _) = _
  simp only [List.any_eq_true, decide_eq_true_eq]

theorem BuiltIn.asked_unbreakable (tokens : List Text) : BuiltIn.unbreakable.asked tokens =
    if ∃ token ∈ tokens, Text.lower token = Unbreakable.word then some () else none := by
  unfold asked
  rw [show (BuiltIn.unbreakable.rule.request tokens).outcome = _ from Unbreakable.request_outcome tokens]

private theorem Flag.flag?_eq_some_iff (token : Text) (flag : ItemFlag) :
    flag? token = some flag ↔ Text.cut ':' (Text.lower token) = [word, flag.name] := by
  constructor
  · intro found
    unfold flag? at found
    split at found
    · rename_i first name parts
      split at found
      · rename_i atWord
        rw [parts, atWord, ItemFlag.name_eq_of_ofName? found]
      · cases found
    · cases found
  · intro parts
    simp only [flag?, parts, if_true, ItemFlag.ofName?_name]

theorem Flag.request_flags {tokens : List Text} {request? : Option FlagSet}
    (requested : (Flag.rule.request tokens).outcome = .ok request?) :
    (∀ flag : ItemFlag, (∃ token ∈ tokens, Text.cut ':' (Text.lower token) = [word, flag.name]) ↔
        ∃ flags, request? = some flags ∧ flags.has flag = true) ∧
      ∀ flags, request? = some flags → ∃ flag, flags.has flag = true := by
  have listed : ∀ flag, (FlagSet.ofList (tokens.filterMap flag?)).has flag = true ↔
      ∃ token ∈ tokens, Text.cut ':' (Text.lower token) = [word, flag.name] := by
    intro flag
    simp only [FlagSet.has_ofList, List.mem_filterMap, flag?_eq_some_iff]
  have asked : (if (FlagSet.ofList (tokens.filterMap flag?)).isEmpty then none
      else some (FlagSet.ofList (tokens.filterMap flag?))) = request? := Except.ok.inj requested
  rw [← asked]
  cases isEmpty : (FlagSet.ofList (tokens.filterMap flag?)).isEmpty with
  | true =>
      rw [(FlagSet.isEmpty_iff _).1 isEmpty] at listed
      simp [← listed]
  | false =>
      refine ⟨fun flag => by simp [listed], fun kept same => ?_⟩
      simp only [Bool.false_eq_true, if_false, Option.some.injEq] at same
      subst same
      obtain ⟨flag, _, present⟩ := List.all_eq_false.1 isEmpty
      exact ⟨flag, by simpa using present⟩

/-! ### What a stack has to be -/

structure Meets (tokens : List Text) (stack : Stack) : Prop where
  enchants : ∀ enchantment level, Last (Enchanting.Asks enchantment) tokens level →
    ∃ data, stack.meta? = some data ∧ level ≤ data.enchants.level enchantment
  modelData : ∀ number, Last ModelData.Asks tokens number →
    ∃ data, stack.meta? = some data ∧ data.customModelData = some number
  unbreakable : (∃ token ∈ tokens, Text.lower token = Unbreakable.word) →
    ∃ data, stack.meta? = some data ∧ data.unbreakable = true
  flags : ∀ flag : ItemFlag, (∃ token ∈ tokens, Text.cut ':' (Text.lower token) = [Flag.word, flag.name]) →
    ∃ data, stack.meta? = some data ∧ data.flags.has flag = true
  displayName : ∀ name, DisplayName.Asks (Text.join [' '] tokens) name →
    ∃ data, stack.meta? = some data ∧ data.displayName = some name

section Meets

variable {tokens : List Text} {stack : Stack}

def Passes (tokens : List Text) (stack : Stack) (kind : BuiltIn) : Prop :=
  ∀ request, kind.asked tokens = some request →
    ∃ data, stack.meta? = some data ∧ kind.rule.holds request data = true

private theorem passes_enchantment_iff
    (read : (Enchanting.rule.request tokens).outcome = .ok (BuiltIn.enchantment.asked tokens)) :
    Passes tokens stack .enchantment ↔
      ∀ enchantment level, Last (Enchanting.Asks enchantment) tokens level →
        ∃ data, stack.meta? = some data ∧ level ≤ data.enchants.level enchantment := by
  obtain ⟨lastIff, hasLevel⟩ := Enchanting.request_levels read
  constructor
  · intro passes enchantment level last
    obtain ⟨levels, asked, present⟩ := (lastIff enchantment level).1 last
    obtain ⟨data, held, reaches⟩ := passes levels asked
    exact ⟨data, held, (Levels.reaches_iff _ _).1 reaches enchantment level present⟩
  · intro every levels asked
    have reached : ∀ enchantment level, Levels.level? levels enchantment = some level →
        ∃ data, stack.meta? = some data ∧ level ≤ data.enchants.level enchantment :=
      fun enchantment level present =>
        every enchantment level ((lastIff enchantment level).2 ⟨levels, asked, present⟩)
    obtain ⟨someEnchantment, someLevel, somePresent⟩ := hasLevel levels asked
    obtain ⟨data, held, _⟩ := reached someEnchantment someLevel somePresent
    refine ⟨data, held, (Levels.reaches_iff _ _).2 fun enchantment level present => ?_⟩
    obtain ⟨same, heldSame, high⟩ := reached enchantment level present
    rw [held] at heldSame
    exact (Option.some.inj heldSame) ▸ high

private theorem passes_flag_iff
    (read : (Flag.rule.request tokens).outcome = .ok (BuiltIn.flag.asked tokens)) :
    Passes tokens stack .flag ↔
      ∀ flag : ItemFlag, (∃ token ∈ tokens, Text.cut ':' (Text.lower token) = [Flag.word, flag.name]) →
        ∃ data, stack.meta? = some data ∧ data.flags.has flag = true := by
  obtain ⟨namedIff, hasFlag⟩ := Flag.request_flags read
  constructor
  · intro passes flag named
    obtain ⟨flags, asked, present⟩ := (namedIff flag).1 named
    obtain ⟨data, held, includes⟩ := passes flags asked
    exact ⟨data, held, (FlagSet.includes_iff _ _).1 includes flag present⟩
  · intro every flags asked
    have included : ∀ flag, FlagSet.has flags flag = true →
        ∃ data, stack.meta? = some data ∧ data.flags.has flag = true :=
      fun flag present => every flag ((namedIff flag).2 ⟨flags, asked, present⟩)
    obtain ⟨someFlag, somePresent⟩ := hasFlag flags asked
    obtain ⟨data, held, _⟩ := included someFlag somePresent
    refine ⟨data, held, (FlagSet.includes_iff _ _).2 fun flag present => ?_⟩
    obtain ⟨same, heldSame, flagged⟩ := included flag present
    rw [held] at heldSame
    exact (Option.some.inj heldSame) ▸ flagged

private theorem passes_modelData_iff
    (read : (ModelData.rule.request tokens).outcome = .ok (BuiltIn.modelData.asked tokens)) :
    Passes tokens stack .modelData ↔
      ∀ number, Last ModelData.Asks tokens number →
        ∃ data, stack.meta? = some data ∧ data.customModelData = some number := by
  refine forall_congr' fun (number : Int) => ?_
  refine imp_congr (ModelData.request_eq_some_iff read number)
    (exists_congr fun data => and_congr_right fun _ => ?_)
  exact decide_eq_true_iff

private theorem passes_unbreakable_iff :
    Passes tokens stack .unbreakable ↔
      ((∃ token ∈ tokens, Text.lower token = Unbreakable.word) →
        ∃ data, stack.meta? = some data ∧ data.unbreakable = true) := by
  constructor
  · intro passes named
    exact passes () ((BuiltIn.asked_unbreakable tokens).trans (if_pos named))
  · intro named request present
    rw [BuiltIn.asked_unbreakable] at present
    split at present
    · rename_i isNamed
      exact named isNamed
    · cases present

private theorem passes_displayName_iff :
    Passes tokens stack .displayName ↔
      ∀ name, DisplayName.Asks (Text.join [' '] tokens) name →
        ∃ data, stack.meta? = some data ∧ data.displayName = some name := by
  refine forall_congr' fun (name : Text) => ?_
  refine imp_congr (DisplayName.wanted?_eq_some_iff _ name)
    (exists_congr fun data => and_congr_right fun _ => ?_)
  exact decide_eq_true_iff

theorem meets_iff
    (read : ∀ kind : BuiltIn, (kind.rule.request tokens).outcome = .ok (kind.asked tokens)) :
    Meets tokens stack ↔ ∀ kind, Passes tokens stack kind := by
  constructor
  · intro meets kind
    cases kind with
    | enchantment => exact (passes_enchantment_iff (read .enchantment)).2 meets.enchants
    | modelData => exact (passes_modelData_iff (read .modelData)).2 meets.modelData
    | unbreakable => exact passes_unbreakable_iff.2 meets.unbreakable
    | flag => exact (passes_flag_iff (read .flag)).2 meets.flags
    | displayName => exact passes_displayName_iff.2 meets.displayName
  · intro passes
    exact {
      enchants := (passes_enchantment_iff (read .enchantment)).1 (passes .enchantment)
      modelData := (passes_modelData_iff (read .modelData)).1 (passes .modelData)
      unbreakable := passes_unbreakable_iff.1 (passes .unbreakable)
      flags := (passes_flag_iff (read .flag)).1 (passes .flag)
      displayName := passes_displayName_iff.1 (passes .displayName) }

end Meets

end ItemSpec.Modifier
