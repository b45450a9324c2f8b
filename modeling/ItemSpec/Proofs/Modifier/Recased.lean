import ItemSpec.Proofs.Modifier.Tokens
import ItemSpec.Proofs.Text.Recased
set_option autoImplicit false

/-! Modifier tokens that differ in the case of ASCII letters only. Four of the library's parsers read them to
the same request; the fifth, which is after a display name, finds one in both or in neither, with the letters
in the case in which they are written. -/

namespace ItemSpec

open Text (Recased folded)

def Meta.titled (data : Meta) (name : Text) : Meta :=
  { data with displayName := some name }

namespace Modifier

/-! ### Requests that no case matters to -/

private theorem Enchanting.collect_folded (tokens : List Text) (levels : Levels) :
    (collect (tokens.map folded) levels).outcome = (collect tokens levels).outcome := by
  induction tokens generalizing levels with
  | nil => rfl
  | cons token others ih =>
      have sameName : named? (folded token) = named? token := by rw [named?, named?, Text.lower_folded]
      rw [List.map_cons, collect, collect, sameName]
      cases named? token with
      | none => exact ih levels
      | some named =>
          simp only [Traced.outcome_bind]
          refine congrArg _ (funext fun level? => ?_)
          cases level? with
          | none =>
              simp only [Traced.outcome_bind, Traced.outcome_note, Fault.ok_bind]
              exact ih levels
          | some level => exact ih _

private theorem Enchanting.request_folded (tokens : List Text) :
    (rule.request (tokens.map folded)).outcome = (rule.request tokens).outcome := by
  rw [request_outcome, request_outcome, collect_folded]

private theorem ModelData.written?_folded (token : Text) :
    written? (folded token) = (written? token).map folded := by
  rw [written?, written?, Text.lower_folded]
  split
  · simp only [folded, List.map_drop, Option.map_some]
  · rfl

private theorem ModelData.collect_folded (tokens : List Text) (wanted : Option Int) :
    (collect (tokens.map folded) wanted).outcome = (collect tokens wanted).outcome := by
  induction tokens generalizing wanted with
  | nil => rfl
  | cons token others ih =>
      rw [List.map_cons, collect, collect, written?_folded]
      cases written? token with
      | none => exact ih wanted
      | some written =>
          simp only [Option.map_some, Number.read_folded, Traced.outcome_bind]
          exact congrArg _ (funext fun number? => ih _)

private theorem Unbreakable.request_folded (tokens : List Text) :
    (rule.request (tokens.map folded)).outcome = (rule.request tokens).outcome := by
  rw [request_outcome, request_outcome]
  simp only [List.mem_map, exists_exists_and_eq_and, Text.lower_folded]

private theorem Flag.request_folded (tokens : List Text) :
    rule.request (tokens.map folded) = rule.request tokens := by
  have sameFlag : ∀ token, flag? (folded token) = flag? token := by
    intro token
    rw [flag?, flag?, Text.lower_folded]
  have sameFlags : (tokens.map folded).filterMap flag? = tokens.filterMap flag? := by
    rw [List.filterMap_map]
    exact List.filterMap_congr fun token _ => sameFlag token
  show pure (if (FlagSet.ofList _).isEmpty then _ else _) = pure (if (FlagSet.ofList _).isEmpty then _ else _)
  rw [sameFlags]

/-! ### Display names -/

namespace DisplayName

private theorem behindOpening?_folded (text : Text) :
    behindOpening? (folded text) = (behindOpening? text).map folded := by
  have sameHead : ((folded text).take opening.length).map Char.toLower =
      (text.take opening.length).map Char.toLower := by
    rw [folded, ← List.map_take]
    exact Text.folded_folded _
  rw [behindOpening?, behindOpening?, sameHead]
  split
  · simp only [folded, List.map_drop, Option.map_some]
  · rfl

private theorem quoted?_folded (text : Text) : quoted? (folded text) = (quoted? text).map folded := by
  have noLetter : quoteMark.isAlpha = false := by decide
  rw [quoted?, quoted?, behindOpening?_folded]
  cases behindOpening? text with
  | none => rfl
  | some behind =>
      cases behind with
      | nil => rfl
      | cons mark rest =>
          have sameMark := Text.mem_folded_iff noLetter rest
          simp only [folded] at sameMark
          simp only [Option.map_some, folded, List.map_cons, Text.toLower_eq_iff noLetter, sameMark]
          split
          · simp only [List.takeWhile_map, Function.comp_def, ne_eq, Text.toLower_eq_iff noLetter]
            rfl
          · rfl

private theorem bare?_folded (text : Text) : bare? (folded text) = (bare? text).map folded := by
  have noLetter : quoteMark.isAlpha = false := by decide
  rw [bare?, bare?, behindOpening?_folded]
  cases behindOpening? text with
  | none => rfl
  | some behind =>
      simp only [Option.map_some, folded, List.takeWhile_map, Function.comp_def, Text.isBlank_toLower, ne_eq,
        Text.toLower_eq_iff noLetter]
      cases behind.takeWhile fun letter => !Text.isBlank letter && decide (letter ≠ quoteMark) with
      | nil => rfl
      | cons letter others => rfl

private theorem first?_folded {name? : Text → Option Text}
    (same : ∀ text, name? (folded text) = (name? text).map folded) (text : Text) :
    first? name? (folded text) = (first? name? text).map folded := by
  have sameBehind : afterBlank? name? (folded text) = (afterBlank? name? text).map folded := by
    induction text with
    | nil => rfl
    | cons head rest ih =>
        rw [folded, List.map_cons, ← folded, afterBlank?, afterBlank?, Text.isBlank_toLower, same, ih]
        split
        · exact Option.map_or.symm
        · rfl
  rw [first?, first?, same, sameBehind]
  exact Option.map_or.symm

private theorem wanted?_folded (text : Text) : wanted? (folded text) = (wanted? text).map folded := by
  rw [wanted?, wanted?, first?_folded quoted?_folded, first?_folded bare?_folded]
  exact Option.map_or.symm

private theorem Asks.recased {text other name : Text} (asks : Asks text name)
    (recased : Recased text other) :
    ∃ nameOther, Asks other nameOther ∧ Recased name nameOther := by
  rw [Text.recased_iff] at recased
  simp only [← wanted?_eq_some_iff, Text.recased_iff] at asks ⊢
  have same := wanted?_folded other
  rw [← recased, wanted?_folded, asks] at same
  obtain ⟨nameOther, wanted, folds⟩ := Option.map_eq_some_iff.1 same.symm
  exact ⟨nameOther, wanted, folds.symm⟩

end DisplayName

/-! ### Runs of the library's parsers -/

namespace BuiltIn

/-- The tokens ask one of the parsers for this display name. -/
def Titles (kinds : List BuiltIn) (tokens : List Text) (name : Text) : Prop :=
  .displayName ∈ kinds ∧ DisplayName.Asks (Text.join [' '] tokens) name

theorem titles_iff {kinds : List BuiltIn} (member : .displayName ∈ kinds) (tokens : List Text) (name : Text) :
    Titles kinds tokens name ↔ asked tokens .displayName = some name :=
  (and_iff_right member).trans (DisplayName.wanted?_eq_some_iff _ name).symm

private theorem request_folded {kind : BuiltIn} (untitled : kind ≠ .displayName) (tokens : List Text) :
    (kind.rule.request (tokens.map folded)).outcome = (kind.rule.request tokens).outcome := by
  cases kind with
  | enchantment => exact Enchanting.request_folded tokens
  | modelData => exact ModelData.collect_folded tokens none
  | unbreakable => exact Unbreakable.request_folded tokens
  | flag => exact congrArg Traced.outcome (Flag.request_folded tokens)
  | displayName => exact absurd rfl untitled

section Recased

variable {tokens others : List Text} (alike : List.Forall₂ Recased tokens others)

include alike

private theorem request_recased {kind : BuiltIn} (untitled : kind ≠ .displayName) :
    (kind.rule.request others).outcome = (kind.rule.request tokens).outcome := by
  rw [Text.forall₂_recased_iff] at alike
  rw [← request_folded untitled others, ← alike, request_folded untitled]

private theorem asked_recased {kind : BuiltIn} (untitled : kind ≠ .displayName) :
    kind.asked others = kind.asked tokens := by
  rw [asked, asked, request_recased alike untitled]

theorem requested_recased (kind : BuiltIn) :
    (kind.rule.request others).outcome = .ok (kind.asked others) ↔
      (kind.rule.request tokens).outcome = .ok (kind.asked tokens) := by
  by_cases titles : kind = .displayName
  · rw [titles]
    exact iff_of_true rfl rfl
  · rw [request_recased alike titles, asked_recased alike titles]

theorem Titles.recased {kinds : List BuiltIn} {name : Text} (titles : Titles kinds tokens name) :
    ∃ nameOther, Titles kinds others nameOther ∧ Recased name nameOther := by
  obtain ⟨member, asks⟩ := titles
  obtain ⟨nameOther, asksOther, alikeName⟩ := asks.recased (Text.join_recased alike)
  exact ⟨nameOther, ⟨member, asksOther⟩, alikeName⟩

private theorem asked_recased_of_untitled {kinds : List BuiltIn}
    (untitled : ∀ name, ¬Titles kinds tokens name) :
    ∀ kind ∈ kinds, kind.asked others = kind.asked tokens := by
  intro kind member
  by_cases titles : kind = .displayName
  · rw [titles] at member ⊢
    have silent : asked tokens .displayName = none := by
      apply Option.eq_none_iff_forall_ne_some.2
      intro name wanted
      exact untitled name ((titles_iff member tokens name).2 wanted)
    have silentOther : asked others .displayName = none := by
      apply Option.eq_none_iff_forall_ne_some.2
      intro nameOther wanted
      have titlesOther := (titles_iff member others nameOther).2 wanted
      obtain ⟨name, titles, _⟩ := titlesOther.recased (Text.recased_symm alike)
      exact untitled name titles
    rw [silent, silentOther]
  · exact asked_recased alike titles

theorem run_recased_of_untitled {kinds : List BuiltIn} (untitled : ∀ name, ¬Titles kinds tokens name)
    (data : Meta) : kinds.flatMap (added others) = kinds.flatMap (added tokens) ∧
      writeAll kinds others data = writeAll kinds tokens data := by
  have same := asked_recased_of_untitled alike untitled
  constructor
  · exact List.flatMap_congr fun kind member => by rw [added, added, same kind member]
  · exact List.foldl_ext _ _ _ fun written kind member => by rw [write, write, same kind member]

/-- But for the display name, each parser writes the same. -/
theorem write_recased (name : Text) {data other : Meta} (same : data.titled name = other.titled name)
    (kind : BuiltIn) : (write tokens data kind).titled name = (write others other kind).titled name := by
  by_cases titles : kind = .displayName
  · have unseen : ∀ (tokens : List Text) (data : Meta),
        (write tokens data .displayName).titled name = data.titled name := by
      intro tokens data
      unfold write
      cases asked tokens .displayName <;> rfl
    rw [titles, unseen, unseen, same]
  · have apart : ∀ (request : kind.Request) (data : Meta),
        (kind.rule.write request data).titled name = kind.rule.write request (data.titled name) := by
      intro request data
      cases kind with
      | displayName => exact absurd rfl titles
      | _ => rfl
    rw [write, write, asked_recased alike titles]
    cases kind.asked tokens with
    | none => exact same
    | some request => rw [apart, apart, same]

private theorem writeAll_recased (kinds : List BuiltIn) (name : Text) {data other : Meta}
    (same : data.titled name = other.titled name) :
    (writeAll kinds tokens data).titled name = (writeAll kinds others other).titled name := by
  induction kinds generalizing data other with
  | nil => exact same
  | cons kind rest ih => exact ih (write_recased alike name same kind)

theorem writeAll_of_titles {kinds : List BuiltIn} {name : Text} (titles : Titles kinds others name) (data : Meta) :
    writeAll kinds others data = (writeAll kinds tokens data).titled name := by
  have wanted := (titles_iff titles.1 others name).1 titles
  have holds := satisfied_writeAll kinds others data .displayName titles.1 name wanted
  have written : (writeAll kinds others data).displayName = some name := of_decide_eq_true holds
  rw [writeAll_recased alike kinds name rfl, Meta.titled, ← written]

end Recased

end BuiltIn

end Modifier

end ItemSpec
