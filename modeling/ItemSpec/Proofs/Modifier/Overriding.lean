import ItemSpec.Proofs.Modifier.Legibility
import ItemSpec.Proofs.Modifier.Wishes
set_option autoImplicit false

/-! Tokens behind other tokens. A parser that looks at each token by itself reads two lists in a row as it reads
them one after the other: it leaves the same metadata, and in what it asks for the later tokens override the
earlier ones. So tokens that it takes no notice of may be put in anywhere. -/

namespace ItemSpec

namespace Levels

private theorem update_empty (levels : Levels) : levels.update empty = levels := rfl

private theorem empty_update (levels : Levels) : empty.update levels = levels :=
  Levels.ext (funext fun _ => Option.or_none)

private theorem update_assoc (first second third : Levels) :
    (first.update second).update third = first.update (second.update third) :=
  Levels.ext (funext fun _ => Option.or_assoc.symm)

private theorem update_set (levels overriding : Levels) (enchantment : Enchantment) (level : Int) :
    (levels.update overriding).set enchantment level = levels.update (overriding.set enchantment level) := by
  refine Levels.ext (funext fun sought => ?_)
  simp only [level?_set, level?_update]
  split <;> rfl

private theorem eq_empty_of_update {levels overriding : Levels}
    (updateEmpty : levels.update overriding = empty) :
    levels = empty := by
  refine Levels.ext (funext fun sought => ?_)
  have absent := congrArg (fun updated => updated.level? sought) updateEmpty
  rw [level?_update, level?_empty, Option.or_eq_none_iff] at absent
  exact absent.2

end Levels

namespace FlagSet

private theorem union_empty (flags : FlagSet) : flags.union empty = flags :=
  FlagSet.ext (funext fun _ => Bool.or_false _)

private theorem empty_union (flags : FlagSet) : empty.union flags = flags := rfl

private theorem union_assoc (first second third : FlagSet) :
    (first.union second).union third = first.union (second.union third) :=
  FlagSet.ext (funext fun _ => Bool.or_assoc _ _ _)

private theorem ofList_append (flags others : List ItemFlag) :
    ofList (flags ++ others) = (ofList flags).union (ofList others) := by
  refine FlagSet.ext (funext fun sought => ?_)
  rw [Bool.eq_iff_iff, has_union, Bool.or_eq_true]
  simp only [has_ofList, List.mem_append]

private theorem eq_empty_of_union {flags others : FlagSet} (unionEmpty : flags.union others = empty) :
    flags = empty := by
  refine FlagSet.ext (funext fun sought => ?_)
  have absent := congrArg (fun joined => joined.has sought) unionEmpty
  rw [has_union, has_empty, Bool.or_eq_false_iff] at absent
  exact absent.1

end FlagSet

namespace Modifier

private theorem merge_present {Value : Type} {join : Value → Value → Value} {isEmpty : Value → Bool}
    {empty : Value} (isEmpty_iff : ∀ value, isEmpty value = true ↔ value = empty)
    (empty_join : ∀ value, join empty value = value) (join_empty : ∀ value, join value empty = value)
    (eq_empty : ∀ value other, join value other = empty → value = empty) (value other : Value) :
    (if isEmpty (join value other) then none else some (join value other)) =
      Option.merge join (if isEmpty value then none else some value) (if isEmpty other then none else some other) := by
  by_cases valueEmpty : isEmpty value = true
  · rw [if_pos valueEmpty, (isEmpty_iff value).1 valueEmpty, empty_join, Option.merge_none_left]
  · rw [if_neg valueEmpty]
    by_cases otherEmpty : isEmpty other = true
    · rw [if_pos otherEmpty, (isEmpty_iff other).1 otherEmpty, join_empty, if_neg valueEmpty, Option.merge_none_right]
    · have notEmpty : ¬isEmpty (join value other) = true := by
        rw [isEmpty_iff] at valueEmpty ⊢
        exact fun joinEmpty => valueEmpty (eq_empty value other joinEmpty)
      rw [if_neg otherEmpty, if_neg notEmpty]
      rfl

/-- A scan that works on top of what it starts with reads two lists in a row as it reads each of them alone. -/
private theorem scan_append {State Request : Type} {collect : List Text → State → Traced State}
    {join : State → State → State} {empty : State} {ask : State → Option Request}
    {override : Request → Request → Request} {tokens others : List Text}
    (append : collect (tokens ++ others) empty = collect tokens empty >>= collect others)
    (onTop : ∀ state, collect others state = join state <$> collect others empty)
    (merged : ∀ earlier later, ask (join earlier later) = Option.merge override (ask earlier) (ask later)) :
    (collect (tokens ++ others) empty).outcome.map ask =
      (collect tokens empty).outcome.map ask >>= fun earlier? =>
        ((collect others empty).outcome.map ask).map (Option.merge override earlier?) := by
  have later : (fun state => (collect others state).outcome) =
      fun state => (collect others empty).outcome.map (join state) :=
    funext fun state => by rw [onTop, Traced.map_eq]
  rw [append, Traced.outcome_bind, later]
  cases (collect tokens empty).outcome with
  | error fault => rfl
  | ok earlier =>
      cases (collect others empty).outcome with
      | error fault => rfl
      | ok later => exact congrArg Except.ok (merged earlier later)

/-! ### Enchantments -/

namespace Enchanting

private theorem collect_append (tokens others : List Text) (levels : Levels) :
    collect (tokens ++ others) levels = collect tokens levels >>= collect others := by
  induction tokens generalizing levels with
  | nil => exact (pure_bind levels _).symm
  | cons token rest ih =>
      rw [List.cons_append, collect, collect]
      cases named? token with
      | none => exact ih levels
      | some named =>
          simp only [bind_assoc]
          refine congrArg _ (funext fun level? => ?_)
          cases level? with
          | none => simp only [bind_assoc, ih]
          | some level => exact ih _

/-- The levels that were there before the scan stay below those that it comes to. -/
theorem collect_update (tokens : List Text) (start levels : Levels) :
    collect tokens (start.update levels) = start.update <$> collect tokens levels := by
  induction tokens generalizing levels with
  | nil => exact (map_pure start.update levels).symm
  | cons token rest ih =>
      rw [collect, collect]
      cases named? token with
      | none => exact ih levels
      | some named =>
          simp only [map_bind]
          refine congrArg _ (funext fun level? => ?_)
          cases level? with
          | none => simp only [map_bind, ih]
          | some level => simp only [Levels.update_set, ih]

private theorem request_append (tokens others : List Text) :
    (rule.request (tokens ++ others)).outcome = (rule.request tokens).outcome >>= fun earlier? =>
      (rule.request others).outcome.map (Option.merge Levels.update earlier?) := by
  have onTop : ∀ levels, collect others levels = levels.update <$> collect others .empty := by
    intro levels
    rw [← collect_update, Levels.update_empty]
  simp only [request_outcome]
  exact scan_append (collect_append tokens others .empty) onTop
    (merge_present Levels.isEmpty_iff Levels.empty_update Levels.update_empty fun _ _ => Levels.eq_empty_of_update)

end Enchanting

/-! ### Model data -/

namespace ModelData

private theorem collect_append (tokens others : List Text) (wanted : Option Int) :
    collect (tokens ++ others) wanted = collect tokens wanted >>= collect others := by
  induction tokens generalizing wanted with
  | nil => exact (pure_bind wanted _).symm
  | cons token rest ih =>
      rw [List.cons_append, collect, collect]
      cases written? token with
      | none => exact ih wanted
      | some written => simp only [bind_assoc, ih]

private theorem collect_or (tokens : List Text) (start wanted : Option Int) :
    collect tokens (wanted.or start) = (fun later? => later?.or start) <$> collect tokens wanted := by
  induction tokens generalizing wanted with
  | nil => exact (map_pure (f := Traced) (fun later? => later?.or start) wanted).symm
  | cons token rest ih =>
      rw [collect, collect]
      cases written? token with
      | none => exact ih wanted
      | some written => simp only [map_bind, ← Option.or_assoc, ih]

private theorem request_append (tokens others : List Text) :
    (rule.request (tokens ++ others)).outcome = (rule.request tokens).outcome >>= fun earlier? =>
      (rule.request others).outcome.map (Option.merge (fun _ later => later) earlier?) := by
  have unchanged : ∀ tokens, (rule.request tokens).outcome = (collect tokens none).outcome.map id :=
    fun tokens => (id_map (collect tokens none).outcome).symm
  have onTop : ∀ earlier?, collect others earlier? = (fun later? => later?.or earlier?) <$> collect others none := by
    intro earlier?
    rw [← collect_or, Option.none_or]
  have merged : ∀ earlier? later? : Option Int,
      later?.or earlier? = Option.merge (fun _ later => later) earlier? later? := by
    intro earlier? later?
    cases earlier? <;> cases later? <;> rfl
  simp only [unchanged]
  exact scan_append (collect_append tokens others none) onTop merged

end ModelData

/-! ### Unbreakable stacks and flags -/

private theorem Unbreakable.request_append (tokens others : List Text) :
    (rule.request (tokens ++ others)).outcome = (rule.request tokens).outcome >>= fun earlier? =>
      (rule.request others).outcome.map (Option.merge (fun _ later => later) earlier?) := by
  show Except.ok (if (tokens ++ others).any _ then _ else _) =
    Except.ok (Option.merge _ (if tokens.any _ then _ else _) (if others.any _ then _ else _))
  rw [List.any_append]
  cases tokens.any _ <;> cases others.any _ <;> rfl

private theorem Flag.request_append (tokens others : List Text) :
    (rule.request (tokens ++ others)).outcome = (rule.request tokens).outcome >>= fun earlier? =>
      (rule.request others).outcome.map (Option.merge FlagSet.union earlier?) := by
  show Except.ok (if (FlagSet.ofList ((tokens ++ others).filterMap flag?)).isEmpty then _ else _) = Except.ok _
  rw [List.filterMap_append, FlagSet.ofList_append]
  exact congrArg _ (merge_present FlagSet.isEmpty_iff FlagSet.empty_union FlagSet.union_empty
    (fun _ _ => FlagSet.eq_empty_of_union) _ _)

/-! ### The library's parsers -/

def Wish.kind : Wish → BuiltIn
  | .level .. => .enchantment
  | .modelData _ => .modelData
  | .unbreakable => .unbreakable
  | .flag _ => .flag

/-- The second list has more tokens than the first, put in anywhere, and all of them are of one sort. -/
inductive Inserted (extra : Text → Prop) : List Text → List Text → Prop where
  | nil : Inserted extra [] []
  | keep {tokens longer : List Text} (token : Text) (others : Inserted extra tokens longer) :
      Inserted extra (token :: tokens) (token :: longer)
  | insert {tokens longer : List Text} {token : Text} (isExtra : extra token)
      (others : Inserted extra tokens longer) : Inserted extra tokens (token :: longer)

namespace BuiltIn

/-- One request for two that are written one after the other: levels are overridden enchantment by enchantment,
flags add up, and of anything else the later request counts. -/
def override : (kind : BuiltIn) → kind.Request → kind.Request → kind.Request
  | .enchantment, earlier, later => Levels.update earlier later
  | .modelData, _, later => later
  | .unbreakable, _, later => later
  | .flag, earlier, later => FlagSet.union earlier later
  | .displayName, _, later => later

/-- A parser finds nothing to ask for in a token that it is given alone. -/
def Ignores (kind : BuiltIn) (token : Text) : Prop :=
  (kind.rule.request [token]).outcome = .ok none

private theorem rule_write_override (kind : BuiltIn) (earlier later : kind.Request) (data : Meta) :
    kind.rule.write (kind.override earlier later) data = kind.rule.write later (kind.rule.write earlier data) := by
  cases kind with
  | enchantment =>
      exact congrArg (fun enchants => { data with enchants }) (data.enchants.update_assoc earlier later).symm
  | flag => exact congrArg (fun flags => { data with flags }) (data.flags.union_assoc earlier later).symm
  | modelData => rfl
  | unbreakable => rfl
  | displayName => rfl

variable {kind : BuiltIn} {tokens others : List Text}

private theorem asked_of_requested {request? : Option kind.Request}
    (requested : (kind.rule.request tokens).outcome = .ok request?) : kind.asked tokens = request? := by
  rw [asked, requested]

private theorem apply_outcome_of_legible (legible : kind.Legible tokens) (data : Meta) :
    (kind.parser.apply tokens data).result.outcome = .ok ((kind.asked tokens).map kind.rule.test) := by
  rw [(kind.apply_outcome tokens data).1, requested_of_legible legible, Fault.ok_map]

/-- The tokens as a whole ask for nothing exactly if none of them is a wish of this kind. -/
theorem asked_eq_none_iff (untitled : kind ≠ .displayName) (legible : kind.Legible tokens) :
    kind.asked tokens = none ↔ ∀ wish : Wish, wish.kind = kind → ¬Wishes tokens wish := by
  have requested := requested_of_legible legible
  cases kind with
  | enchantment =>
      obtain ⟨lastIff, hasLevel⟩ := Enchanting.request_levels requested
      constructor
      · rintro unasked (⟨enchantment, level⟩ | _ | _ | _) same wished
        · obtain ⟨levels, asked, _⟩ := (lastIff enchantment level).1 wished
          rw [unasked] at asked
          cases asked
        all_goals cases same
      · intro unwished
        refine Option.eq_none_iff_forall_ne_some.2 fun levels asked => ?_
        obtain ⟨enchantment, level, present⟩ := hasLevel levels asked
        exact unwished (.level enchantment level) rfl ((lastIff enchantment level).2 ⟨levels, asked, present⟩)
  | modelData =>
      have lastIff := ModelData.request_eq_some_iff requested
      constructor
      · rintro unasked (_ | number | _ | _) same wished
        · cases same
        · rw [unasked] at lastIff
          cases (lastIff number).2 wished
        all_goals cases same
      · intro unwished
        refine Option.eq_none_iff_forall_ne_some.2 fun number asked => ?_
        exact unwished (.modelData number) rfl ((lastIff number).1 asked)
  | unbreakable =>
      rw [asked_unbreakable]
      constructor
      · rintro unasked (_ | _ | _ | _) same wished
        · cases same
        · cases same
        · have named : ∃ token ∈ tokens, Text.lower token = Unbreakable.word := wished
          rw [if_pos named] at unasked
          cases unasked
        · cases same
      · intro unwished
        exact if_neg (unwished .unbreakable rfl)
  | flag =>
      obtain ⟨namedIff, hasFlag⟩ := Flag.request_flags requested
      constructor
      · rintro unasked (_ | _ | _ | flag) same wished
        · cases same
        · cases same
        · cases same
        · obtain ⟨flags, asked, _⟩ := (namedIff flag).1 wished
          rw [unasked] at asked
          cases asked
      · intro unwished
        refine Option.eq_none_iff_forall_ne_some.2 fun flags asked => ?_
        obtain ⟨flag, present⟩ := hasFlag flags asked
        exact unwished (.flag flag) rfl ((namedIff flag).2 ⟨flags, asked, present⟩)
  | displayName => exact absurd rfl untitled

/-! ### One list behind the other -/

private theorem request_append (untitled : kind ≠ .displayName) (tokens others : List Text) :
    (kind.rule.request (tokens ++ others)).outcome = (kind.rule.request tokens).outcome >>= fun earlier? =>
      (kind.rule.request others).outcome.map (Option.merge kind.override earlier?) := by
  cases kind with
  | enchantment => exact Enchanting.request_append tokens others
  | modelData => exact ModelData.request_append tokens others
  | unbreakable => exact Unbreakable.request_append tokens others
  | flag => exact Flag.request_append tokens others
  | displayName => exact absurd rfl untitled

section Append

variable (untitled : kind ≠ .displayName) (legible : kind.Legible (tokens ++ others))

include untitled legible

private theorem asked_append :
    kind.asked (tokens ++ others) = Option.merge kind.override (kind.asked tokens) (kind.asked others) := by
  obtain ⟨legibleTokens, legibleOthers⟩ := List.forall_mem_append.1 legible
  refine asked_of_requested ?_
  rw [request_append untitled, requested_of_legible legibleTokens, requested_of_legible legibleOthers]
  rfl

private theorem write_append (data : Meta) :
    write (tokens ++ others) data kind = write others (write tokens data kind) kind := by
  unfold write
  rw [asked_append untitled legible]
  cases kind.asked tokens with
  | none => cases kind.asked others <;> rfl
  | some earlier =>
      cases kind.asked others with
      | none => rfl
      | some later => exact kind.rule_write_override earlier later data

end Append

/-! ### Tokens put in -/

private theorem request_inserted (untitled : kind ≠ .displayName) {longer : List Text}
    (inserted : Inserted kind.Ignores tokens longer) :
    (kind.rule.request longer).outcome = (kind.rule.request tokens).outcome := by
  induction inserted with
  | nil => rfl
  | @keep tokens longer token _ ih =>
      rw [← List.singleton_append, request_append untitled, ih, ← request_append untitled, List.singleton_append]
  | @insert tokens longer token ignored _ ih =>
      have unread : (kind.rule.request [token]).outcome = .ok none := ignored
      rw [← List.singleton_append, request_append untitled, unread, Fault.ok_bind, ih]
      cases (kind.rule.request tokens).outcome with
      | error fault => rfl
      | ok request? => exact congrArg Except.ok Option.merge_none_left

private theorem apply_inserted (untitled : kind ≠ .displayName) {longer : List Text}
    (inserted : Inserted kind.Ignores tokens longer) (data : Meta) :
    (kind.parser.apply longer data).data = (kind.parser.apply tokens data).data ∧
      (kind.parser.apply longer data).result.outcome = (kind.parser.apply tokens data).result.outcome := by
  have requested := request_inserted untitled inserted
  obtain ⟨outcomeLonger, dataLonger⟩ := kind.apply_outcome longer data
  obtain ⟨outcomeTokens, dataTokens⟩ := kind.apply_outcome tokens data
  refine ⟨?_, by rw [outcomeLonger, outcomeTokens, requested]⟩
  rw [dataLonger, dataTokens]
  unfold write asked
  rw [requested]

private theorem wishes_singleton_iff (token : Text) (wish : Wish) :
    Wishes [token] wish ↔ Voices token wish := by
  have lastIff {Value : Type} {asks : Text → Value → Prop} (value : Value) :
      Last asks [token] value ↔ asks token value := by
    rw [last_cons, or_iff_right (not_last_nil value)]
    exact and_iff_left fun later member => absurd member List.not_mem_nil
  cases wish with
  | level enchantment level => exact lastIff level
  | modelData number => exact lastIff number
  | unbreakable => simp only [Wishes, Voices, List.mem_singleton, exists_eq_left]
  | flag wanted => simp only [Wishes, Voices, List.mem_singleton, exists_eq_left]

/-- A parser takes no notice of a token exactly if the token asks for nothing of its kind: its name is unknown, its
level or number is malformed or out of range, or it is something else altogether. -/
theorem ignores_iff (untitled : kind ≠ .displayName) {token : Text} (legible : kind.Legible [token]) :
    kind.Ignores token ↔ ∀ wish : Wish, wish.kind = kind → ¬Voices token wish := by
  have silentIff := asked_eq_none_iff untitled legible
  simp only [wishes_singleton_iff] at silentIff
  rw [← silentIff, Ignores, requested_of_legible legible, Except.ok.injEq]

/-- Lists of tokens act on metadata one after the other. What the first asks for is overridden by what the second
asks for, and tokens that ask for nothing of the kind count for nothing wherever they stand. -/
theorem apply_append_overrides (untitled : kind ≠ .displayName) (data : Meta) :
    ((kind.parser.apply [] data).data = data ∧ (kind.parser.apply [] data).result.outcome = .ok none) ∧
      (∀ tokens others, kind.Legible (tokens ++ others) →
        (kind.parser.apply (tokens ++ others) data).data =
            (kind.parser.apply others (kind.parser.apply tokens data).data).data ∧
          (kind.parser.apply tokens data).result.outcome = .ok ((kind.asked tokens).map kind.rule.test) ∧
          (kind.parser.apply others data).result.outcome = .ok ((kind.asked others).map kind.rule.test) ∧
          (kind.parser.apply (tokens ++ others) data).result.outcome =
            .ok ((Option.merge kind.override (kind.asked tokens) (kind.asked others)).map kind.rule.test) ∧
          ((kind.parser.apply (tokens ++ others) data).result.outcome = .ok none ↔
            (kind.parser.apply tokens data).result.outcome = .ok none ∧
              (kind.parser.apply others data).result.outcome = .ok none)) ∧
      (∀ token, kind.Legible [token] →
        (kind.Ignores token ↔ ∀ wish : Wish, wish.kind = kind → ¬Voices token wish)) ∧
      ∀ tokens longer, Inserted kind.Ignores tokens longer →
        (kind.parser.apply longer data).data = (kind.parser.apply tokens data).data ∧
          (kind.parser.apply longer data).result.outcome = (kind.parser.apply tokens data).result.outcome := by
  refine ⟨?_, fun tokens others legible => ?_, fun token => ignores_iff untitled,
    fun tokens longer inserted => apply_inserted untitled inserted data⟩
  · obtain ⟨outcome, written⟩ := kind.apply_outcome [] data
    rw [outcome, written, write, asked_nil]
    cases kind <;> exact ⟨rfl, rfl⟩
  · obtain ⟨legibleTokens, legibleOthers⟩ := List.forall_mem_append.1 legible
    have written : ∀ tokens data, (kind.parser.apply tokens data).data = write tokens data kind :=
      fun tokens data => (kind.apply_outcome tokens data).2
    rw [apply_outcome_of_legible legible, apply_outcome_of_legible legibleTokens,
      apply_outcome_of_legible legibleOthers, asked_append untitled legible]
    refine ⟨?_, rfl, rfl, rfl, ?_⟩
    · simp only [written]
      exact write_append untitled legible data
    · simp only [Except.ok.injEq, Option.map_eq_none_iff, Option.merge_eq_none_iff]

/-- A level is lowered by a later token, and a name that is unknown and a level of zero are passed over. -/
theorem apply_append_overrides_sharpness :
    BuiltIn.enchantment ≠ .displayName ∧
      BuiltIn.enchantment.Legible (["sharpness:5".toList, "smite:2".toList] ++ ["Sharpness:3".toList]) ∧
      BuiltIn.enchantment.Legible ["luck:9".toList] ∧
      Inserted BuiltIn.enchantment.Ignores ["sharpness:5".toList]
        ["luck:9".toList, "sharpness:5".toList, "smite:0".toList] ∧
      (BuiltIn.enchantment.parser.apply (["sharpness:5".toList, "smite:2".toList] ++ ["Sharpness:3".toList])
          .blank).data =
        (BuiltIn.enchantment.parser.apply ["Sharpness:3".toList]
          (BuiltIn.enchantment.parser.apply ["sharpness:5".toList, "smite:2".toList] .blank).data).data ∧
      (BuiltIn.enchantment.Ignores "luck:9".toList ↔
        ∀ wish : Wish, wish.kind = .enchantment → ¬Voices "luck:9".toList wish) ∧
      (BuiltIn.enchantment.parser.apply ["luck:9".toList, "sharpness:5".toList, "smite:0".toList] .blank).data =
        (BuiltIn.enchantment.parser.apply ["sharpness:5".toList] .blank).data := by
  have brief : ∀ tokens : List Text, (∀ token ∈ tokens, token.length ≤ Fault.digitCapacity) →
      BuiltIn.enchantment.Legible tokens := fun tokens short => legible_of_readable
      (fun token member => not_unreadable_of_brief (Text.brief_of_length (short token member))) _
  have legible := brief (["sharpness:5".toList, "smite:2".toList] ++ ["Sharpness:3".toList]) (by decide)
  have legibleToken := brief ["luck:9".toList] (by decide)
  have inserted : Inserted BuiltIn.enchantment.Ignores ["sharpness:5".toList]
      ["luck:9".toList, "sharpness:5".toList, "smite:0".toList] :=
    .insert rfl (.keep _ (.insert rfl .nil))
  have untitled : BuiltIn.enchantment ≠ .displayName := by decide
  obtain ⟨_, appended, ignoresIff, insertedAny⟩ := apply_append_overrides untitled .blank
  exact ⟨untitled, legible, legibleToken, inserted, (appended _ _ legible).1, ignoresIff _ legibleToken,
    (insertedAny _ _ inserted).1⟩

end BuiltIn

end Modifier

end ItemSpec
