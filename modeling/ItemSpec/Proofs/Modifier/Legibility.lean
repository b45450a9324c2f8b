import ItemSpec.Proofs.Modifier.Tokens
import ItemSpec.Proofs.Text.Brief
set_option autoImplicit false

/-! Tokens that can be read. Two of the parsers read numbers, and they give up on a numeral that is too long.
Where a parser comes across no such numeral, it comes to an end. -/

namespace ItemSpec.Modifier

open Text (Brief cut lower)

def BuiltIn.numeral? : BuiltIn → Text → Option Text
  | .enchantment, token => (Enchanting.named? token).map Prod.snd
  | .modelData, token => ModelData.written? token
  | _, _ => none

/-- The number reader gives up on none of the numerals that a parser reads in the tokens. -/
def BuiltIn.Legible (kind : BuiltIn) (tokens : List Text) : Prop :=
  ∀ token ∈ tokens, ∀ written, kind.numeral? token = some written → ∃ number?, Number.read written = .ok number?

/-- A token has a numeral that is too long, as the level of an enchantment or as model data. -/
inductive Unreadable (token : Text) : Prop where
  | level {enchantment : Enchantment} {written digits : Text}
      (parts : cut ':' (lower token) = [enchantment.name, written]) (overlong : Number.Overlong written digits)
  | modelData {head written digits : Text} (split : token = head ++ written)
      (opened : lower head = ModelData.opening) (overlong : Number.Overlong written digits)

theorem not_unreadable_of_brief {token : Text} (brief : Brief token) : ¬Unreadable token := by
  intro unreadable
  cases unreadable with
  | @level _ written _ parts overlong =>
      have inside : written ∈ cut ':' (lower token) := by
        rw [parts]
        exact List.mem_cons_of_mem _ (List.mem_singleton_self written)
      exact Number.not_overlong (brief.lower.part (Text.infix_of_mem_cut inside)) overlong
  | modelData split opened overlong =>
      exact Number.not_overlong (brief.part (split ▸ (List.suffix_append _ _).isInfix)) overlong

variable {tokens : List Text}

theorem BuiltIn.legible_of_readable (readable : ∀ token ∈ tokens, ¬Unreadable token) (kind : BuiltIn) :
    kind.Legible tokens := by
  intro token member written found
  refine Number.read_of_not_overlong fun digits overlong => readable token member ?_
  cases kind with
  | enchantment =>
      obtain ⟨⟨enchantment, _⟩, named, rfl⟩ := Option.map_eq_some_iff.1 found
      exact .level ((Enchanting.named?_eq_some_iff token enchantment _).1 named) overlong
  | modelData =>
      obtain ⟨head, split, lowers⟩ := (ModelData.written?_eq_some_iff token written).1 found
      exact .modelData split lowers overlong
  | unbreakable => cases found
  | flag => cases found
  | displayName => cases found

/-! ### Parsers that come to an end -/

private theorem Enchanting.collect_of_legible (legible : BuiltIn.enchantment.Legible tokens)
    (start : Levels) :
    ∃ levels, (collect tokens start).outcome = .ok levels := by
  induction tokens generalizing start with
  | nil => exact ⟨start, rfl⟩
  | cons token others ih =>
      obtain ⟨legibleToken, legibleOthers⟩ := List.forall_mem_cons.1 legible
      unfold collect
      split
      · exact ih legibleOthers start
      · rename_i enchantment written named
        obtain ⟨number?, number⟩ := legibleToken written (Option.map_eq_some_iff.2 ⟨_, named, rfl⟩)
        simp only [level?, number, Fault.ok_map, Traced.outcome_bind, Traced.outcome_lift, Fault.ok_bind]
        split
        · exact ih legibleOthers _
        · simp only [Traced.outcome_bind, Traced.outcome_note, Fault.ok_bind]
          exact ih legibleOthers start

private theorem ModelData.collect_of_legible (legible : BuiltIn.modelData.Legible tokens)
    (start : Option Int) :
    ∃ wanted?, (collect tokens start).outcome = .ok wanted? := by
  induction tokens generalizing start with
  | nil => exact ⟨start, rfl⟩
  | cons token others ih =>
      obtain ⟨legibleToken, legibleOthers⟩ := List.forall_mem_cons.1 legible
      unfold collect
      split
      · exact ih legibleOthers start
      · rename_i written opened
        obtain ⟨number?, number⟩ := legibleToken written opened
        simp only [number, Traced.outcome_bind, Traced.outcome_lift, Fault.ok_bind]
        exact ih legibleOthers _

theorem BuiltIn.requested_of_legible {kind : BuiltIn} (legible : kind.Legible tokens) :
    (kind.rule.request tokens).outcome = .ok (kind.asked tokens) := by
  have finishes : ∃ request?, (kind.rule.request tokens).outcome = .ok request? := by
    cases kind with
    | enchantment =>
        obtain ⟨levels, collected⟩ := Enchanting.collect_of_legible legible .empty
        have requested := Enchanting.request_outcome tokens
        rw [collected] at requested
        exact ⟨_, requested⟩
    | modelData => exact ModelData.collect_of_legible legible none
    | unbreakable => exact ⟨_, rfl⟩
    | flag => exact ⟨_, rfl⟩
    | displayName => exact ⟨_, rfl⟩
  obtain ⟨request?, requested⟩ := finishes
  simp only [asked, requested]

theorem BuiltIn.requested_of_readable (readable : ∀ token ∈ tokens, ¬Unreadable token) (kind : BuiltIn) :
    (kind.rule.request tokens).outcome = .ok (kind.asked tokens) :=
  requested_of_legible (legible_of_readable readable kind)

end ItemSpec.Modifier
