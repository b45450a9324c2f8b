import ItemSpec.Proofs.Session.Custody
set_option autoImplicit false

/-! Actions that mind what is kept. Each elementary action leaves a ledger that is in order and comes after
the one before it, and so does every action put together from such ones. New objects go to the host or into
keeping; an object of which a copy is made may be of either sort. -/

namespace ItemSpec

namespace Session

variable (session : Session)

private theorem dataAt_append (data : Meta) {cell : Nat} (inRange : cell < session.dataCells.length) :
    { session with dataCells := session.dataCells ++ [data] : Session }.dataAt cell =
      session.dataAt cell := by
  simp only [dataAt, List.getElem?_append_left inRange]

theorem cellAt_append (contents : StackCell) (cell : Nat) :
    { session with stackCells := session.stackCells ++ [contents] : Session }.cellAt cell =
      if cell = session.stackCells.length then contents else session.cellAt cell := by
  simp only [cellAt]
  split
  · rename_i isNew
    rw [isNew, List.getElem?_concat_length]
    rfl
  · rename_i isOld
    rcases Nat.lt_or_gt_of_ne isOld with inRange | beyond
    · rw [List.getElem?_append_left inRange]
    · rw [List.getElem?_eq_none (by simp only [List.length_append, List.length_singleton]; omega),
        List.getElem?_eq_none (Nat.le_of_lt beyond)]

end Session

namespace Action

variable {Result Later : Type}

/-! ### What comes of an action -/

theorem on_get_bind (next : Session → Action Result) (session : Session) :
    (get >>= next).on session = (next session).on session := rfl

theorem on_bind (first : Action Result) (next : Result → Action Later) (session : Session) :
    (first >>= next).on session =
      match first.on session with
      | (.ok result, after) => (next result).on after
      | (.error failure, after) => (.error failure, after) := by
  simp only [on, ExceptT.run_bind, StateT.run_bind]
  rcases StateT.run (ExceptT.run first) session with ⟨outcome, after⟩
  cases outcome <;> rfl

theorem on_bind_of_ok {first : Action Result} {session after : Session} {result : Result}
    (finished : first.on session = (.ok result, after)) (next : Result → Action Later) :
    (first >>= next).on session = (next result).on after := by
  rw [on_bind, finished]

theorem on_bind_of_error {first : Action Result} {session after : Session} {failure : Failure}
    (failed : first.on session = (.error failure, after)) (next : Result → Action Later) :
    (first >>= next).on session = (.error failure, after) := by
  rw [on_bind, failed]

theorem record_on (events : List Event) (session : Session) :
    (record events).on session = (.ok (), { session with journal := session.journal ++ events }) :=
  rfl

theorem settle_ok_on (result : Result) (session : Session) :
    (settle (.ok result)).on session = (.ok result, session) := by
  show (Except.ok result, { session with journal := session.journal ++ [] }) = _
  rw [List.append_nil]

theorem settle_error_on (fault : Fault) (session : Session) :
    (settle (.error fault) : Action Result).on session = (.error (.fault fault), session) := by
  show (Except.error _, { session with journal := session.journal ++ [] }) = _
  rw [List.append_nil]

end Action

open ItemSpec.Action

/-- The two sorts of objects: those of the host and those in keeping. -/
inductive Place where
  | host
  | keeping

def Ledger.At (ledger : Ledger) : Place → Entity → Prop
  | .host => ledger.Open
  | .keeping => ledger.kept

def Ledger.Fits (ledger : Ledger) : Place → StackCell → Prop
  | .host, contents => ledger.Open contents.carried
  | .keeping, contents =>
    (contents.material = .air ↔ contents.carried = .nothing) ∧
      (contents.carried ≠ .nothing → ledger.kept contents.carried)

namespace Custody

/-- An action that is carried out in custody leaves a ledger in order behind, and a result, if it has one,
that is as it should be there. -/
def Keeps {Result : Type} (custody : Custody) (action : Action Result)
    (gives : Custody → Result → Prop) : Prop :=
  ∃ later : Custody, later.session = (action.on custody.session).2 ∧ custody.Before later.toLedger ∧
    ∀ result, (action.on custody.session).1 = .ok result → gives later result

namespace Keeps

variable {Result Later : Type} {custody : Custody} {gives : Custody → Result → Prop}

/-! ### Actions put together -/

theorem pure {result : Result} (given : gives custody result) : custody.Keeps (pure result) gives :=
  ⟨custody, rfl, .refl _, fun _ same => Except.ok.inj same ▸ given⟩

theorem fail (failure : Failure) : custody.Keeps (Action.fail failure) gives :=
  ⟨custody, rfl, .refl _, fun _ same => nomatch same⟩

theorem failLacking (object : Entity) (part : String) :
    custody.Keeps (Action.failLacking object part) gives :=
  fail _

theorem bind {first : Action Result} {next : Result → Action Later}
    {givesLater : Custody → Later → Prop} (kept : custody.Keeps first gives)
    (keptNext : ∀ later : Custody, custody.Before later.toLedger → ∀ result, gives later result →
      later.Keeps (next result) givesLater) :
    custody.Keeps (first >>= next) givesLater := by
  obtain ⟨later, left, before, given⟩ := kept
  rcases ran : first.on custody.session with ⟨outcome, after⟩
  simp only [ran] at left given
  cases outcome with
  | error failure =>
      refine ⟨later, ?_, before, ?_⟩
      · rw [left, on_bind_of_error ran]
      · intro result same
        rw [on_bind_of_error ran] at same
        cases same
  | ok result =>
      obtain ⟨last, leftLast, beforeLast, givenLast⟩ := keptNext later before result (given result rfl)
      rw [left] at leftLast givenLast
      rw [← on_bind_of_ok ran next] at leftLast givenLast
      exact ⟨last, leftLast, before.trans beforeLast, givenLast⟩

theorem get_bind {next : Session → Action Result}
    (kept : custody.Keeps (next custody.session) gives) : custody.Keeps (get >>= next) gives :=
  kept

theorem pure_bind {result : Result} {next : Result → Action Later} {givesLater : Custody → Later → Prop}
    (kept : custody.Keeps (next result) givesLater) :
    custody.Keeps (Pure.pure result >>= next) givesLater :=
  kept

theorem weaken {weaker : Custody → Result → Prop} {action : Action Result}
    (kept : custody.Keeps action gives)
    (implies : ∀ later : Custody, custody.Before later.toLedger → ∀ result, gives later result →
      weaker later result) : custody.Keeps action weaker := by
  obtain ⟨later, left, before, given⟩ := kept
  exact ⟨later, left, before, fun result same => implies later before result (given result same)⟩

theorem then_pure {first : Action Result} {result : Later} {givesLater : Custody → Later → Prop}
    (kept : custody.Keeps first gives)
    (given : ∀ later : Custody, custody.Before later.toLedger → givesLater later result) :
    custody.Keeps (first >>= fun _ => Pure.pure result) givesLater :=
  kept.bind fun later before _ _ => .pure (given later before)

theorem bind_answer {first : Action Result} {answer : Result → Later}
    (kept : custody.Keeps first gives) :
    custody.Keeps (first >>= fun result => Pure.pure (answer result)) fun _ _ => True :=
  kept.bind fun _ _ _ _ => .pure trivial

theorem discard {action : Action Result} (kept : custody.Keeps action gives) :
    custody.Keeps (Functor.discard action) fun _ _ => True := by
  show custody.Keeps ((fun _ => PUnit.unit) <$> action) _
  rw [map_eq_pure_bind]
  exact kept.bind_answer

theorem of_change {action : Action Result} {after : Ledger} {outcome : Except Failure Result}
    (change : custody.Change after) (ran : action.on custody.session = (outcome, after.session))
    (given : ∀ result, outcome = .ok result → gives change.custody result) :
    custody.Keeps action gives := by
  refine ⟨change.custody, ?_, change.before, ?_⟩
  · rw [ran]
    rfl
  · intro result same
    rw [ran] at same
    exact given result same

end Keeps

/-! ### Events and verdicts -/

variable {Result : Type} (custody : Custody)

theorem keeps_record (events : List Event) :
    custody.Keeps (record events) fun later _ => later.known = custody.known :=
  let after := { custody.toLedger with
    session := { custody.session with journal := custody.session.journal ++ events } }
  have change : custody.Change after := { before := {}, known_le := custody.known_le }
  .of_change change rfl fun _ _ => rfl

theorem keeps_trace (traced : Traced Result) :
    custody.Keeps (trace traced) fun later result =>
      traced.outcome = .ok result ∧ later.known = custody.known := by
  refine .bind (custody.keeps_record traced.events) fun later _ _ sameKnown => ?_
  cases outcome : traced.outcome with
  | ok result => exact .pure ⟨rfl, sameKnown⟩
  | error fault => exact .fail _

theorem keeps_settle (outcome : Except Fault Result) :
    custody.Keeps (settle outcome) fun _ result => outcome = .ok result :=
  (custody.keeps_trace (.lift outcome)).weaken fun _ _ _ given => given.1

/-! ### Serial numbers -/

def learned : Custody :=
  let after := { custody.toLedger with known := custody.session.nextSerial }
  have change : custody.Change after :=
    { before := { known := custody.known_le }, known_le := Nat.le_refl _ }
  change.custody

private theorem before_learned : custody.Before custody.learned.toLedger where
  known := custody.known_le

theorem Keeps.pure_learned {custody : Custody} {gives : Custody → Result → Prop} {result : Result}
    (given : gives custody.learned result) : custody.Keeps (Pure.pure result) gives :=
  ⟨custody.learned, rfl, custody.before_learned, fun _ same => Except.ok.inj same ▸ given⟩

theorem keeps_freshSerial :
    custody.Keeps freshSerial fun later serial =>
      later.known ≤ serial ∧ serial < later.session.nextSerial :=
  let after := { custody.toLedger with
    session := { custody.session with nextSerial := custody.session.nextSerial + 1 } }
  have change : custody.Change after :=
    { before := { serials := Nat.le_succ _ }, known_le := Nat.le_succ_of_le custody.known_le }
  .of_change change rfl fun _ same => Except.ok.inj same ▸ ⟨custody.known_le, Nat.lt_succ_self _⟩

/-- Only a matcher that nobody has come across is given an exhibit. -/
theorem keeps_keepExhibit {serial : Nat} {exhibit : Entity} (unknown : custody.known ≤ serial)
    (handedOut : serial < custody.session.nextSerial) (kept : custody.kept exhibit) :
    custody.Keeps (keepExhibit serial exhibit) fun later _ =>
      later.session.exhibits.lookup serial = some exhibit := by
  let after := { custody.toLedger with
    session := { custody.session with exhibits := (serial, exhibit) :: custody.session.exhibits } }
  have sameBelow : ∀ other, other < custody.known →
      after.session.exhibits.lookup other = custody.session.exhibits.lookup other := by
    intro other below
    have apart : (other == serial) = false := by
      rw [beq_eq_false_iff_ne]
      exact Nat.ne_of_lt (Nat.lt_of_lt_of_le below unknown)
    simp only [after, List.lookup_cons, apart]
  have change : custody.Change after :=
    { before := { exhibits := sameBelow }
      known_le := custody.known_le
      exhibits := fun entry member => (List.mem_cons.1 member).elim
        (fun same => .inr (same ▸ ⟨Nat.lt_of_lt_of_le custody.positive unknown, handedOut, kept⟩)) .inl }
  exact .of_change change rfl fun _ _ => List.lookup_cons_self

/-! ### Cells -/

theorem keeps_newData (place : Place) (data : Meta) :
    custody.Keeps (newData data) fun later object => later.At place object := by
  let new := custody.session.dataCells.length
  let session := { custody.session with dataCells := custody.session.dataCells ++ [data] }
  have longer : custody.session.dataCells.length < session.dataCells.length := by
    simp only [session, List.length_append, List.length_singleton]
    exact Nat.lt_succ_self _
  have sameData : ∀ cell, custody.kept (.data cell) → session.dataAt cell = custody.session.dataAt cell :=
    fun cell kept => custody.session.dataAt_append data (custody.stored _ kept)
  cases place with
  | host =>
      have change : custody.Change { custody.toLedger with session } :=
        { before := { dataCells := Nat.le_of_lt longer, dataAt := sameData }
          known_le := custody.known_le }
      refine .of_change change rfl fun object same => ?_
      cases same
      exact ⟨longer, fun kept => Nat.lt_irrefl new (custody.stored _ kept), nofun⟩
  | keeping =>
      let after : Ledger := ⟨session, fun object => custody.kept object ∨ object = .data new, custody.known⟩
      have change : custody.Change after :=
        { before :=
            { dataCells := Nat.le_of_lt longer
              kept := fun _ => .inl
              fresh := by
                rintro object (kept | rfl) made
                · exact kept
                · exact absurd made (Nat.lt_irrefl new)
              dataAt := sameData }
          known_le := custody.known_le
          stored := by
            rintro object (kept | rfl)
            · exact .inl kept
            · exact .inr longer }
      refine .of_change change rfl fun object same => ?_
      cases same
      exact .inr rfl

theorem keeps_newCell (place : Place) {contents : StackCell} (fits : custody.Fits place contents) :
    custody.Keeps (newCell contents) fun later object => later.At place object := by
  let new := custody.session.stackCells.length
  let session := { custody.session with stackCells := custody.session.stackCells ++ [contents] }
  have longer : custody.session.stackCells.length < session.stackCells.length := by
    simp only [session, List.length_append, List.length_singleton]
    exact Nat.lt_succ_self _
  have cells : ∀ cell, session.cellAt cell = if cell = new then contents else custody.session.cellAt cell :=
    custody.session.cellAt_append contents
  have sameCell : ∀ cell, custody.kept (.stack cell) →
      session.cellAt cell = custody.session.cellAt cell := by
    intro cell kept
    rw [cells, if_neg (Nat.ne_of_lt (custody.stored _ kept).1)]
  cases place with
  | host =>
      have before : custody.Before { custody.toLedger with session } :=
        { stackCells := Nat.le_of_lt longer, cellAt := sameCell }
      have change : custody.Change { custody.toLedger with session } :=
        { before
          known_le := custody.known_le
          carried := by
            intro cell _
            show (session.cellAt cell).carried = _ ∨ Ledger.Open _ (session.cellAt cell).carried
            rw [cells]
            split
            · exact .inr (before.isOpen fits)
            · exact .inl rfl }
      refine .of_change change rfl fun object same => ?_
      cases same
      exact ⟨longer, fun kept => Nat.lt_irrefl new (custody.stored _ kept).1, nofun⟩
  | keeping =>
      let after : Ledger := ⟨session, fun object => custody.kept object ∨ object = .stack new, custody.known⟩
      have before : custody.Before after :=
        { stackCells := Nat.le_of_lt longer
          kept := fun _ => .inl
          fresh := by
            rintro object (kept | rfl) made
            · exact kept
            · exact absurd made (Nat.lt_irrefl new)
          cellAt := sameCell }
      have change : custody.Change after :=
        { before
          known_le := custody.known_le
          carried := by
            intro cell unkept
            have old : cell ≠ new := fun isNew => unkept (.inr (isNew ▸ rfl))
            show (session.cellAt cell).carried = _ ∨ _
            rw [cells, if_neg old]
            exact .inl rfl
          stored := by
            rintro object (kept | rfl)
            · exact .inl kept
            refine .inr ?_
            show _ ∧ ((session.cellAt new).material = .air ↔ (session.cellAt new).carried = .nothing) ∧
              ((session.cellAt new).carried ≠ .nothing → after.kept (session.cellAt new).carried) ∧
              ∀ inner, (session.cellAt new).carried = .stack inner → inner < new
            rw [cells, if_pos rfl]
            refine ⟨longer, fits.1, fun something => .inl (fits.2 something), ?_⟩
            intro inner isStack
            have keptInner := fits.2 (isStack ▸ nofun)
            rw [isStack] at keptInner
            exact (custody.stored _ keptInner).1 }
      refine .of_change change rfl fun object same => ?_
      cases same
      exact .inr rfl

end Custody

end ItemSpec
