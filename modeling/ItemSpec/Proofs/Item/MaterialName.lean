import ItemSpec.Item.Catalog
import ItemSpec.Proofs.Text.Lowering
set_option autoImplicit false

/-! Names of materials in other cases of their letters. A name that is put into lower case first denotes
the same material, but for one sign: the Kelvin sign is no letter of any name, and its lower case is. -/

namespace ItemSpec.Material

open Text (Foreign kelvinSign upper lower)

private theorem name_not_foreign (material : Material) : ¬Foreign material.name := by
  have every : ∀ listed ∈ all, ¬Foreign listed.name := by decide
  exact every material (mem_all material)

theorem name_ne_nil (material : Material) : material.name ≠ [] := by
  have every : ∀ listed ∈ all, listed.name ≠ [] := by decide
  exact every material (mem_all material)

theorem name_injective : Function.Injective name :=
  Function.IsPartialInv.injective fun material _ =>
    ⟨name_eq_of_ofName?, fun same => same ▸ ofName?_name material⟩

theorem upper_name (material : Material) : upper material.name = material.name := by
  have low : ∀ listed ∈ all, listed.name.all (fun letter => letter.toNat < 0x61) = true := by decide
  refine Text.upper_of_lt fun letter member => ?_
  exact of_decide_eq_true (List.all_eq_true.1 (low material (mem_all material)) letter member)

theorem resolve_name {material : Material} (solid : material ≠ air) : resolve material.name = some material := by
  rw [resolve, upper_name, ofName?_name]
  split
  · rename_i isAir
    exact absurd (Option.some.inj isAir) solid
  · rfl

private theorem not_doubled_in_name (material : Material) : ¬['S', 'S'] <:+: material.name := by
  have every : ∀ listed ∈ all, ¬['S', 'S'] <:+: listed.name := by decide +kernel
  exact every material (mem_all material)

theorem name_of_resolve {written : Text} {material : Material} (resolved : resolve written = some material) :
    material.name = upper written := by
  unfold resolve at resolved
  split at resolved
  · cases resolved
  · exact name_eq_of_ofName? resolved

private theorem resolve_eq_none {written : Text}
    (strange : ∀ material : Material, material.name ≠ upper written) :
    resolve written = none :=
  Option.eq_none_iff_forall_ne_some.2 fun material resolved => strange material (name_of_resolve resolved)

private theorem resolve_of_foreign {written : Text} (foreign : Foreign (upper written)) :
    resolve written = none := by
  refine resolve_eq_none fun material same => ?_
  rw [← same] at foreign
  exact material.name_not_foreign foreign

theorem resolve_ne_air (written : Text) : resolve written ≠ some air := by
  unfold resolve
  split
  · exact fun impossible => nomatch impossible
  · rename_i notAir
    exact notAir

theorem resolve_of_kelvinSign {written : Text} (member : kelvinSign ∈ written) :
    resolve written = none :=
  resolve_of_foreign (.flatMap member (by decide))

/-- The lower case of a name denotes the same material, where there is no Kelvin sign. -/
theorem resolve_lower {written : Text} (noKelvin : kelvinSign ∉ written) :
    resolve (lower written) = resolve written := by
  by_cases sharp : 'ẞ' ∈ written
  · have doubled : ['S', 'S'] <:+: upper (lower written) := by
      obtain ⟨before, after, split⟩ := List.append_of_mem sharp
      rw [lower, Text.upper_lowerAfter, split, List.flatMap_append, List.flatMap_cons]
      have twice : upper (Text.lowerLetter 'ẞ') = ['S', 'S'] := by decide
      rw [twice, ← List.append_assoc]
      exact ⟨_, _, rfl⟩
    rw [resolve_of_foreign (.flatMap sharp (by decide))]
    refine resolve_eq_none fun material same => ?_
    rw [← same] at doubled
    exact material.not_doubled_in_name doubled
  · rcases Text.upper_lower noKelvin sharp with same | ⟨foreignLower, foreignUpper⟩
    · rw [resolve, same, resolve]
    · rw [resolve_of_foreign foreignLower, resolve_of_foreign foreignUpper]

end ItemSpec.Material
