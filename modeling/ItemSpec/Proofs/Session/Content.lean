import ItemSpec.Session.Command
set_option autoImplicit false

/-! What an object is made of, whichever cells hold it. -/

namespace ItemSpec

/-- What an object is made of, all the way down. -/
inductive Content where
  | nothing
  | data (data : Meta)
  | stack (material : Material) (amount : Int) (carried : Content)

namespace Content

def ofStack (stack : Stack) : Content :=
  .stack stack.material stack.amount (stack.meta?.elim .nothing .data)

def inAmount (amount? : Option Int) : Content → Content
  | .stack material amount carried => .stack material (amount?.getD amount) carried
  | content => content

/-- Air carries nothing and everything else carries something, all the way down. -/
def Settled : Content → Prop
  | .stack material _ carried => (material = .air ↔ carried = .nothing) ∧ carried.Settled
  | _ => True

def Readable : Content → Prop
  | .stack material _ carried => material ≠ .air ∧ carried ≠ .nothing
  | _ => False

def depth : Content → Nat
  | .stack _ _ carried => carried.depth + 1
  | _ => 0

theorem settled_of_ofStack {stack : Stack} (settled : (ofStack stack).Settled) : stack.Settled := by
  refine settled.1.trans ?_
  cases stack.meta? <;> simp

theorem ofStack_inj {stack other : Stack} (same : ofStack stack = ofStack other) : stack = other := by
  obtain ⟨material, amount, meta?⟩ := stack
  obtain ⟨otherMaterial, otherAmount, otherMeta?⟩ := other
  injection same with sameMaterial sameAmount sameCarried
  cases meta? <;> cases otherMeta? <;> simp_all

theorem settled_ofStack {stack : Stack} (settled : stack.Settled) : (ofStack stack).Settled := by
  obtain ⟨material, amount, meta?⟩ := stack
  cases meta? with
  | none => exact ⟨settled.trans (iff_of_true rfl rfl), trivial⟩
  | some data => exact ⟨settled.trans (iff_of_false nofun nofun), trivial⟩

private theorem readable_of_carries {material : Material} {amount : Int} {carried : Content}
    (settled : (stack material amount carried).Settled) (carries : carried ≠ .nothing) :
    (stack material amount carried).Readable :=
  ⟨fun isAir => carries (settled.1.1 isAir), carries⟩

theorem readable_ofStack {stack : Stack} (settled : (ofStack stack).Settled) (readable : stack.meta?.isSome) :
    (ofStack stack).Readable := by
  refine readable_of_carries settled ?_
  obtain ⟨data, isData⟩ := Option.isSome_iff_exists.1 readable
  rw [isData]
  nofun

theorem settled_inAmount {content : Content} (settled : content.Settled) (amount? : Option Int) :
    (content.inAmount amount?).Settled := by
  cases content <;> exact settled

end Content

namespace Session

variable {session : Session}

inductive Shows (session : Session) : Entity → Content → Prop where
  | nothing : Shows session .nothing .nothing
  | data {cell : Nat} (inRange : cell < session.dataCells.length) :
      Shows session (.data cell) (.data (session.dataAt cell))
  | stack {cell : Nat} {carried : Content} (inRange : cell < session.stackCells.length)
      (inside : Shows session (session.cellAt cell).carried carried) :
      Shows session (.stack cell)
        (.stack (session.cellAt cell).material (session.cellAt cell).amount carried)

namespace Shows

variable {object : Entity} {content : Content}

theorem unique {other : Content} (shows : session.Shows object content)
    (showsOther : session.Shows object other) : content = other := by
  induction shows generalizing other with
  | nothing =>
      cases showsOther
      rfl
  | data inRange =>
      cases showsOther
      rfl
  | stack inRange inside ih =>
      cases showsOther with
      | stack _ insideOther => rw [ih insideOther]

theorem of_cell {cell : Nat} {contents : StackCell} {inner : Content}
    (inRange : cell < session.stackCells.length) (held : session.cellAt cell = contents)
    (inside : session.Shows contents.carried inner) :
    session.Shows (.stack cell) (.stack contents.material contents.amount inner) := by
  subst held
  exact .stack inRange inside

theorem something (shows : session.Shows object content) (something : object ≠ .nothing) :
    content ≠ .nothing := by
  cases shows with
  | nothing => exact absurd rfl something
  | data inRange => nofun
  | stack inRange inside => nofun

/-- What can be taken for a plain stack is made as one, and the other way round. -/
theorem slot_eq_iff (shows : session.Shows object content) (stack : Stack) :
    session.slot object = .stack stack ↔ content = .ofStack stack := by
  obtain ⟨material, amount, meta?⟩ := stack
  cases shows with
  | nothing => exact iff_of_false nofun nofun
  | data inRange => exact iff_of_false nofun nofun
  | @stack cell inner inRange inside =>
      simp only [slot]
      generalize session.cellAt cell = contents at inside ⊢
      obtain ⟨held, number, carried⟩ := contents
      cases inside with
      | nothing => cases meta? <;> simp [dataSlot, Content.ofStack]
      | data => cases meta? <;> simp [dataSlot, Content.ofStack]
      | stack => cases meta? <;> simp [dataSlot, Content.ofStack]

theorem readable {cell : Nat} (shows : session.Shows (.stack cell) content) (settled : content.Settled)
    (other : ∀ stack, session.slot (.stack cell) ≠ .stack stack) : content.Readable := by
  have notPlain := fun stack => mt (shows.slot_eq_iff stack).2 (other stack)
  cases shows with
  | stack inRange inside =>
      refine Content.readable_of_carries settled ?_
      rintro rfl
      exact notPlain ⟨_, _, none⟩ rfl

end Shows

end Session

end ItemSpec
