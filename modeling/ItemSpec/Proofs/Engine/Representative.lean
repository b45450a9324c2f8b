import ItemSpec.Proofs.Engine.Genuine
import ItemSpec.Proofs.Modifier.Revision
set_option autoImplicit false

/-! The representative of what a lookup finds, beside that of what was named: another amount if one is asked
for, revised metadata, and nothing else. -/

namespace ItemSpec.Engine

open Modifier (BuiltIn Revises)

/-- A stack as an order turns it into another. An amount of one is no amount that is asked for. -/
structure Order.Changes (order : Order) (before after : Stack) : Prop where
  material : after.material = before.material
  amount : after.amount = if order.amount = 1 then before.amount else order.amount
  data : Option.Rel (Revises order.modifiers) before.meta? after.meta?

private theorem Order.Changes.unique {order : Order} {before after other : Stack}
    (changes : order.Changes before after)
    (changesOther : order.Changes before other) : after = other := by
  obtain ⟨sameMaterial, sameAmount, revised⟩ := changes
  obtain ⟨otherMaterial, otherAmount, revisedOther⟩ := changesOther
  have sameData : ∀ {before? after? other? : Option Meta},
      Option.Rel (Revises order.modifiers) before? after? →
      Option.Rel (Revises order.modifiers) before? other? → after? = other? := by
    intro before? after? other? revised revisedOther
    cases revised with
    | none =>
        cases revisedOther
        rfl
    | some revises =>
        cases revisedOther with
        | some revisesOther => exact congrArg some (revises.unique revisesOther)
  have sameData := sameData revised revisedOther
  obtain ⟨material, amount, meta?⟩ := after
  obtain ⟨_, _, _⟩ := other
  dsimp only at sameMaterial sameAmount otherMaterial otherAmount sameData
  rw [sameMaterial, sameAmount, sameData, otherMaterial, otherAmount]

theorem Order.Changes.iff_eq {order : Order} {before after : Stack} (changes : order.Changes before after)
    (other : Stack) : order.Changes before other ↔ other = after := by
  constructor
  · intro changesOther
    exact changesOther.unique changes
  · rintro rfl
    exact changes

theorem Fills.revises {engine : Engine} {order : Order} {found : Found}
    (fills : engine.Fills BuiltIn.all order found) :
    ∃ before after, order.base.found.matcher.representative.meta? = some before ∧
      found.matcher.representative.meta? = some after ∧ Revises order.modifiers before after := by
  have read : ∀ kind : BuiltIn, (kind.rule.request order.modifiers).outcome = .ok (kind.asked order.modifiers) :=
    fun kind => fills.requested kind kind.mem_all
  obtain ⟨data, readable⟩ := fills.genuine.readable
  refine ⟨data, _, readable, ?_, BuiltIn.revises_writeAll data read⟩
  rw [fills.representative]
  simp only [Order.edit, readable, Option.map_some]

theorem Fills.changes {engine : Engine} {order : Order} {found : Found}
    (fills : engine.Fills BuiltIn.all order found) :
    order.Changes order.base.found.matcher.representative found.matcher.representative := by
  obtain ⟨before, after, shown, revised, revises⟩ := fills.revises
  refine ⟨?_, ?_, ?_⟩
  · rw [fills.representative]
    rfl
  · rw [fills.representative]
    rfl
  · rw [shown, revised]
    exact .some revises

end ItemSpec.Engine
