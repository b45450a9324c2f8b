set_option autoImplicit false

/-! Two ways to list a property of code points: spans for the members of a class, and runs for a
mapping that moves many code points by the same shift. Membership is computed on natural numbers with
Boolean comparisons, so that a fact about a whole table can be settled by evaluation. -/

namespace ItemSpec

structure CodeSpan where
  first : Nat
  last : Nat

namespace CodeSpan

def contains (span : CodeSpan) (code : Nat) : Bool :=
  span.first.ble code && code.ble span.last

def covers (spans : List CodeSpan) (code : Nat) : Bool :=
  spans.any fun span => span.contains code

end CodeSpan

/-- The code points `first`, `first + step`, up to `last`, which a mapping moves by one shift:
`first` goes to `image`. -/
structure CodeRun where
  first : Nat
  last : Nat
  step : Nat
  image : Nat

namespace CodeRun

def contains (run : CodeRun) (code : Nat) : Bool :=
  run.first.ble code && (code.ble run.last && ((code - run.first) % run.step).beq 0)

def apply : List CodeRun → Nat → Nat
  | [], code => code
  | run :: others, code =>
    match run.contains code with
    | true => run.image + (code - run.first)
    | false => apply others code

theorem contains_iff (run : CodeRun) (code : Nat) :
    run.contains code = true ↔
      run.first ≤ code ∧ code ≤ run.last ∧ (code - run.first) % run.step = 0 := by
  simp [contains]

theorem apply_eq (runs : List CodeRun) (code : Nat) :
    (apply runs code = code ∧ ∀ run ∈ runs, run.contains code = false) ∨
      ∃ run ∈ runs, run.contains code = true ∧ apply runs code = run.image + (code - run.first) := by
  induction runs with
  | nil => exact .inl ⟨rfl, fun _ member => nomatch member⟩
  | cons run others ih =>
    cases held : run.contains code with
    | true =>
      refine .inr ⟨run, List.mem_cons_self, held, ?_⟩
      simp only [apply, held]
    | false =>
      have same : apply (run :: others) code = apply others code := by
        simp only [apply, held]
      rcases ih with ⟨stays, absent⟩ | ⟨other, member, contained, moved⟩
      · refine .inl ⟨same.trans stays, ?_⟩
        intro other member
        rcases List.mem_cons.1 member with isRun | inOthers
        · exact isRun ▸ held
        · exact absent other inOthers
      · exact .inr ⟨other, List.mem_cons_of_mem _ member, contained, same.trans moved⟩

end CodeRun

end ItemSpec
