import ItemSpec.Item.Meta
set_option autoImplicit false

/-! Item stacks. Air has no metadata and everything else has some; `Stack.settle` restores that rule,
and every copy of a stack is settled. A stack whose fields a host overwrote may break it. -/

namespace ItemSpec

structure Stack where
  material : Material
  amount : Int
  meta? : Option Meta
deriving DecidableEq

namespace Stack

/-- The rule of stacks: air has no metadata, everything else has some. -/
def Settled (stack : Stack) : Prop :=
  stack.material = .air ↔ stack.meta? = none

/-- The stack with its metadata dropped if it is air, and with empty metadata if it lacks some. -/
def settle (stack : Stack) : Stack :=
  if stack.material = .air then { stack with meta? := none }
  else { stack with meta? := some (stack.meta?.getD .blank) }

def of (material : Material) (amount : Int := 1) : Stack :=
  settle ⟨material, amount, none⟩

/-- The stack with other metadata; without any, empty metadata is put on. Air stays as it is. -/
def setMeta (stack : Stack) (meta? : Option Meta) : Stack :=
  if stack.material = .air then stack else { stack with meta? := some (meta?.getD .blank) }

theorem settle_settled (stack : Stack) : stack.settle.Settled := by
  unfold settle Settled
  split <;> simp_all

theorem settle_of_settled {stack : Stack} (settled : stack.Settled) : stack.settle = stack := by
  cases stack with
  | mk material amount meta? =>
    cases meta? with
    | none =>
      have isAir : material = .air := settled.2 rfl
      simp [settle, isAir]
    | some data =>
      have notAir : material ≠ .air := fun isAir => by simpa using settled.1 isAir
      simp [settle, notAir]

theorem settle_material (stack : Stack) : stack.settle.material = stack.material := by
  unfold settle
  split <;> rfl

theorem settle_amount (stack : Stack) : stack.settle.amount = stack.amount := by
  unfold settle
  split <;> rfl

end Stack

end ItemSpec
