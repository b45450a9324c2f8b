import ItemSpec.Proofs.Modifier.Tokens
import ItemSpec.Proofs.Text.Alignment
set_option autoImplicit false

/-! Tokens whose lower case is longer than they are, or depends on what stands around a letter. One parser looks
for its opening in the lower case and takes the number from the token as it is written, and two cut the lower
case at its colons: neither is led astray. -/

namespace ItemSpec

open Text (Recased cut folded lower oneSigma)

private theorem find?_name_oneSigma {Value : Type} {all : List Value} {name : Value → Text}
    (ascii : ∀ value ∈ all, 'σ' ∉ name value ∧ 'ς' ∉ name value) (written : Text) :
    all.find? (fun value => name value = oneSigma written) = all.find? fun value => name value = written := by
  induction all with
  | nil => rfl
  | cons value others ih =>
      obtain ⟨⟨noSmall, noFinal⟩, asciiOthers⟩ := List.forall_mem_cons.1 ascii
      have sameName : name value = oneSigma written ↔ name value = written := by
        rw [eq_comm, Text.oneSigma_eq_iff noSmall noFinal, eq_comm]
      rw [List.find?_cons, List.find?_cons, decide_eq_decide.2 sameName, ih asciiOthers]

private theorem Enchantment.ofName?_oneSigma (written : Text) :
    ofName? (oneSigma written) = ofName? written :=
  find?_name_oneSigma (by decide) written

private theorem ItemFlag.ofName?_oneSigma (written : Text) : ofName? (oneSigma written) = ofName? written :=
  find?_name_oneSigma (by decide) written

namespace Modifier

/-! ### Model data -/

private theorem ModelData.opening_prefix_lower_iff (token : Text) :
    opening <+: lower token ↔ Recased (token.take opening.length) opening := by
  have every : opening.all (fun shown => decide (Text.IsPlain shown)) = true := by decide
  have plain : ∀ shown ∈ opening, Text.IsPlain shown :=
    fun shown member => of_decide_eq_true (List.all_eq_true.1 every shown member)
  have small : folded opening = opening := by decide
  rw [Text.plain_prefix_lower_iff plain, Text.recased_iff, small]

private theorem ModelData.request_of_opening {token : Text} (opened : opening <+: lower token) :
    (rule.request [token]).outcome = Number.read (token.drop opening.length) := by
  have found : written? token = some (token.drop opening.length) :=
    if_pos (List.isPrefixOf_iff_prefix.2 opened)
  show (collect [token] none).outcome = _
  simp only [collect, found, Traced.outcome_bind, Traced.outcome_lift]
  cases Number.read (token.drop opening.length) with
  | error fault => rfl
  | ok number? => cases number? <;> rfl

/-! ### Enchantments and flags -/

/-- The enchantment that the parts of a token name, and what comes of reading its level. -/
def Enchanting.recognised? : List Text → Option (Enchantment × Except Fault (Option Int))
  | [name, written] => (Enchantment.ofName? name).map fun enchantment => (enchantment, level? written)
  | _ => none

def Flag.recognised? : List Text → Option ItemFlag
  | [first, name] => if first = word then ItemFlag.ofName? name else none
  | _ => none

private theorem Enchanting.recognised?_oneSigma (parts : List Text) :
    recognised? (parts.map oneSigma) = recognised? parts := by
  match parts with
  | [name, written] =>
      simp only [List.map_cons, List.map_nil, recognised?, Enchantment.ofName?_oneSigma, level?, Number.read_oneSigma]
  | [] => rfl
  | [_] => rfl
  | _ :: _ :: _ :: _ => rfl

private theorem Flag.recognised?_oneSigma (parts : List Text) :
    recognised? (parts.map oneSigma) = recognised? parts := by
  match parts with
  | [first, name] =>
      have sameWord : oneSigma first = word ↔ first = word := Text.oneSigma_eq_iff (by decide) (by decide) first
      simp only [List.map_cons, List.map_nil, recognised?, ItemFlag.ofName?_oneSigma, sameWord]
  | [] => rfl
  | [_] => rfl
  | _ :: _ :: _ :: _ => rfl

/-- What does not tell the small sigmas apart reads the pieces of the lower case as the lower cases of the
pieces. -/
private theorem cut_lower_aligned {Value : Type} {read : List Text → Value}
    (same : ∀ parts, read (parts.map oneSigma) = read parts) (token : Text) :
    read (cut ':' (lower token)) = read ((cut ':' token).map lower) := by
  rw [← same, Text.oneSigma_cut_lower, same]

private theorem Enchanting.recognised?_cut_lower (token : Text) :
    recognised? (cut ':' (lower token)) = recognised? ((cut ':' token).map lower) :=
  cut_lower_aligned recognised?_oneSigma token

private theorem Flag.recognised?_cut_lower (token : Text) :
    recognised? (cut ':' (lower token)) = recognised? ((cut ':' token).map lower) :=
  cut_lower_aligned recognised?_oneSigma token

/-! ### Requests of the parts -/

def Enchanting.setRecognised (levels : Levels) :
    Option (Enchantment × Except Fault (Option Int)) → Except Fault Levels
  | none => .ok levels
  | some (enchantment, level) => level.map fun level? => level?.elim levels (levels.set enchantment)

private theorem Enchanting.recognised?_of_named? (token : Text) :
    recognised? (cut ':' (lower token)) = (named? token).map fun named => (named.1, level? named.2) := by
  unfold named?
  split
  · rename_i name written parts
    rw [parts, recognised?, Option.map_map]
    rfl
  · rename_i otherwise
    unfold recognised?
    split
    · rename_i name written parts
      exact absurd parts (otherwise name written)
    · rfl

private theorem Enchanting.collect_outcome (tokens : List Text) (start : Levels) :
    (collect tokens start).outcome =
      (tokens.map fun token => recognised? ((cut ':' token).map lower)).foldlM setRecognised start := by
  simp only [← recognised?_cut_lower]
  induction tokens generalizing start with
  | nil => rfl
  | cons token others ih =>
      rw [collect, List.map_cons, List.foldlM_cons, recognised?_of_named?]
      cases named? token with
      | none => exact ih start
      | some named =>
          simp only [Option.map_some, setRecognised, Traced.outcome_bind, Traced.outcome_lift]
          cases level? named.2 with
          | error fault => rfl
          | ok level? =>
              cases level? with
              | none =>
                  simp only [Traced.outcome_bind, Traced.outcome_note, Fault.ok_bind, Fault.ok_map]
                  exact ih start
              | some level => exact ih _

private theorem Enchanting.request_of_parts (tokens : List Text) : (rule.request tokens).outcome =
    ((tokens.map fun token => recognised? ((cut ':' token).map lower)).foldlM setRecognised .empty).map
      fun levels => if levels.isEmpty then none else some levels := by
  rw [request_outcome, collect_outcome]

private theorem Flag.request_of_parts (tokens : List Text) : (rule.request tokens).outcome =
    .ok (let flags := FlagSet.ofList (tokens.filterMap fun token => recognised? ((cut ':' token).map lower))
      if flags.isEmpty then none else some flags) := by
  simp only [← recognised?_cut_lower]
  rfl

/-- The lower case of a token begins with the opening of model data exactly if the token does, in any case of its
letters, and the number is read in what stands behind that. Enchantments, their levels and flags are what one
would find by cutting the token first and lowering the parts. -/
theorem lower_aligned :
    (∀ token, (ModelData.opening <+: lower token ↔
        Recased (token.take ModelData.opening.length) ModelData.opening) ∧
      (ModelData.opening <+: lower token →
        (ModelData.rule.request [token]).outcome = Number.read (token.drop ModelData.opening.length))) ∧
    (∀ token, Enchanting.recognised? (cut ':' (lower token)) = Enchanting.recognised? ((cut ':' token).map lower) ∧
      Flag.recognised? (cut ':' (lower token)) = Flag.recognised? ((cut ':' token).map lower)) ∧
    ∀ tokens,
      (Enchanting.rule.request tokens).outcome =
        ((tokens.map fun token => Enchanting.recognised? ((cut ':' token).map lower)).foldlM
          Enchanting.setRecognised .empty).map (fun levels => if levels.isEmpty then none else some levels) ∧
      (Flag.rule.request tokens).outcome =
        .ok (let flags := FlagSet.ofList (tokens.filterMap fun token => Flag.recognised? ((cut ':' token).map lower))
          if flags.isEmpty then none else some flags) :=
  ⟨fun token => ⟨ModelData.opening_prefix_lower_iff token, ModelData.request_of_opening⟩,
    fun token => ⟨Enchanting.recognised?_cut_lower token, Flag.recognised?_cut_lower token⟩,
    fun tokens => ⟨Enchanting.request_of_parts tokens, Flag.request_of_parts tokens⟩⟩

/-- The lower case of the token is longer than the token, behind the opening. -/
theorem lower_aligned_dotted :
    ModelData.opening <+: lower "Custom-MODEL-data:İ7".toList ∧
      (ModelData.rule.request ["Custom-MODEL-data:İ7".toList]).outcome = Number.read "İ7".toList := by
  have opened : ModelData.opening <+: lower "Custom-MODEL-data:İ7".toList := by decide +kernel
  exact ⟨opened, (lower_aligned.1 _).2 opened⟩

end Modifier

end ItemSpec
