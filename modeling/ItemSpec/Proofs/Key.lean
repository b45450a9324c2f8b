import ItemSpec.Fault
import ItemSpec.Proofs.Text.Lowering
set_option autoImplicit false

/-! Keys as they are written. A host reads `scope:name` by cutting first and lowering the parts; a lookup
lowers the whole token and cuts then. The two readings differ where a capital sigma beside the colon is
final in one of the parts and not in the whole, or the other way round. -/

namespace ItemSpec.Key

open Text (lower cut startsCased endsCased lowerWithin lowerAfter ClosesInSigma OpensInSigma)

def ofToken? (token : Text) : Option Key :=
  match cut ':' (lower token) with
  | [scope, name] => some (of scope name)
  | _ => none

/-- A capital sigma at the end of the scope before a name that begins cased, or at the beginning of the
name behind a scope that ends cased. -/
def SigmaTorn (scope name : Text) : Prop :=
  (startsCased name = true ∧ ClosesInSigma scope) ∨ (endsCased false scope = true ∧ OpensInSigma name)

theorem parse_eq_ok_iff (written : Text) (key : Key) :
    parse written = .ok key ↔ ∃ scope name, written = scope ++ ':' :: name ∧
      (scope ≠ [] ∧ name ≠ []) ∧ (':' ∉ scope ∧ ':' ∉ name) ∧ key = of scope name := by
  constructor
  · intro parsed
    have joined := Text.join_cut ':' written
    have whole : ∀ part ∈ cut ':' written, ':' ∉ part := fun _ => Text.not_mem_of_mem_cut
    unfold parse parse? at parsed
    split at parsed
    · rename_i found reading
      split at reading
      · rename_i scope name parts
        rw [parts] at joined whole
        obtain ⟨wholeScope, wholeName, _⟩ := by simpa only [List.forall_mem_cons] using whole
        split at reading
        · cases reading
        · rename_i proper
          rw [not_or] at proper
          cases reading
          cases parsed
          exact ⟨scope, name, by simpa [Text.join] using joined.symm, proper, ⟨wholeScope, wholeName⟩, rfl⟩
      · cases reading
    · cases parsed
  · rintro ⟨scope, name, rfl, proper, ⟨wholeScope, wholeName⟩, rfl⟩
    have parts : cut ':' (scope ++ ':' :: name) = [scope, name] := by
      rw [Text.cut_append wholeScope, Text.cut_of_not_mem wholeName]
    unfold parse parse?
    rw [parts]
    simp only [if_neg (not_or.2 proper)]

theorem ofToken?_eq_some_iff (token : Text) (key : Key) :
    ofToken? token = some key ↔
      ∃ scope name, cut ':' (lower token) = [scope, name] ∧ of scope name = key := by
  unfold ofToken?
  split
  · rename_i scope name parts
    rw [parts, Option.some.injEq]
    constructor
    · intro same
      exact ⟨scope, name, rfl, same⟩
    · rintro ⟨_, _, sameParts, same⟩
      cases sameParts
      exact same
  · rename_i otherwise
    constructor
    · intro impossible
      cases impossible
    · rintro ⟨scope, name, parts, _⟩
      exact absurd parts (otherwise scope name)

/-- The parts are lowered where they stand in the token; that they are lowered again changes nothing. -/
theorem ofToken?_pair {scope name : Text} (wholeScope : ':' ∉ scope) (wholeName : ':' ∉ name) :
    ofToken? (scope ++ ':' :: name) =
      some ⟨lowerWithin false (startsCased name) scope, lowerAfter (endsCased false scope) name⟩ := by
  unfold ofToken?
  simp only [Text.cut_lower wholeScope wholeName, of, Text.lower_lowerWithin, Text.lower_lowerAfter]

theorem ofToken?_eq_of_iff {scope name : Text} (wholeScope : ':' ∉ scope) (wholeName : ':' ∉ name) :
    ofToken? (scope ++ ':' :: name) = some (of scope name) ↔ ¬SigmaTorn scope name := by
  rw [ofToken?_pair wholeScope wholeName, of, Option.some.injEq, Key.mk.injEq,
    Text.lowerWithin_eq_lower_iff, Text.lowerAfter_eq_lower_iff, SigmaTorn, not_or]

end ItemSpec.Key
