import ItemSpec.Proofs.Engine.Genuine
import ItemSpec.Proofs.Session.Isolation
set_option autoImplicit false

/-! Modifiers on objects. A matcher that shows a plain stack is given modifiers cell by cell: its shown stack
and two copies of the metadata are made, the parsers work on the second copy, and what comes of it is what
the engine computes from the values alone. -/

namespace ItemSpec

namespace Modifier

/-- On metadata the parsers do in place what they do on a value. -/
theorem readAllSlot_data (parsers : List Parser) (tokens : List Text) (data : Meta) :
    readAllSlot parsers tokens (.data data) =
      ⟨.data (readAll parsers tokens data).data, (readAll parsers tokens data).result⟩ := by
  induction parsers generalizing data with
  | nil => rfl
  | cons parser others ih =>
      simp only [readAllSlot, readAll] at ih
      simp only [readAllSlot, readAll, inTurn]
      have applied : parser.settle (parser.readSlot tokens (.data data)) =
          ⟨.data (parser.apply tokens data).data, (parser.apply tokens data).result⟩ := rfl
      rw [applied]
      cases (parser.apply tokens data).result.outcome with
      | error fault => rfl
      | ok test? => simp only [ih]

end Modifier

open ItemSpec.Action

namespace Session

variable (session : Session)

def grown (datas : List Meta) (cells : List StackCell) : Session :=
  { session with
    dataCells := session.dataCells ++ datas
    stackCells := session.stackCells ++ cells }

def newDataAt (place : Nat) : Entity := .data (session.dataCells.length + place)

def newStackAt (place : Nat) : Entity := .stack (session.stackCells.length + place)

variable {session} {datas : List Meta} {cells : List StackCell}

private theorem dataAt_grown (place : Nat) :
    (session.grown datas cells).dataAt (session.dataCells.length + place) = datas[place]?.getD .blank := by
  simp only [dataAt, grown, List.getElem?_append_right (Nat.le_add_right _ _), Nat.add_sub_cancel_left]

private theorem cellAt_grown (place : Nat) :
    (session.grown datas cells).cellAt (session.stackCells.length + place) =
      cells[place]?.getD ⟨.air, 1, .nothing⟩ := by
  simp only [cellAt, grown, List.getElem?_append_right (Nat.le_add_right _ _), Nat.add_sub_cancel_left]

private theorem newData_on_grown (data : Meta) :
    (newData data).on (session.grown datas cells) =
      (.ok (session.newDataAt datas.length), session.grown (datas ++ [data]) cells) := by
  show (Except.ok (Entity.data (session.dataCells ++ datas).length), _) = _
  rw [List.length_append]
  simp only [grown, newDataAt, List.append_assoc]

private theorem newCell_on_grown (contents : StackCell) :
    (newCell contents).on (session.grown datas cells) =
      (.ok (session.newStackAt cells.length), session.grown datas (cells ++ [contents])) := by
  show (Except.ok (Entity.stack (session.stackCells ++ cells).length), _) = _
  rw [List.length_append]
  simp only [grown, newStackAt, List.append_assoc]

private theorem putData_on_grown (place : Nat) (data : Meta) :
    (putData (session.dataCells.length + place) data).on (session.grown datas cells) =
      (.ok (), session.grown (datas.set place data) cells) := by
  show (Except.ok (), { session.grown datas cells with
    dataCells := (session.dataCells ++ datas).set (session.dataCells.length + place) data }) = _
  rw [List.set_append_right _ _ (Nat.le_add_right _ _), Nat.add_sub_cancel_left]
  rfl

private theorem changeStack_on_grown (place : Nat) (change : StackCell → StackCell) :
    (changeStack (session.stackCells.length + place) change).on (session.grown datas cells) =
      (.ok (), session.grown datas
        (cells.set place (change (cells[place]?.getD ⟨.air, 1, .nothing⟩)))) := by
  rw [changeStack_on, cellAt_grown]
  simp only [grown, List.set_append_right _ _ (Nat.le_add_right _ _), Nat.add_sub_cancel_left]

private theorem copy_data_on_grown (place : Nat) :
    (copy (session.newDataAt place)).on (session.grown datas cells) =
      (.ok (session.newDataAt datas.length),
        session.grown (datas ++ [datas[place]?.getD .blank]) cells) := by
  rw [← newData_on_grown, ← @dataAt_grown session datas cells]
  exact copyAsFar_data _ _

/-! ### The steps of giving modifiers -/

variable {material : Material} {amount : Int}

theorem makes_plain_iff {data : Meta} {shown : Entity} {after : Session} :
    session.Makes (.stack material amount (.data data)) shown after ↔
      shown = session.newStackAt 0 ∧
        after = session.grown [data] [⟨material, amount, session.newDataAt 0⟩] := by
  constructor
  · intro makes
    cases makes with
    | stack _ _ inside =>
        cases inside
        exact ⟨rfl, rfl⟩
  · rintro ⟨rfl, rfl⟩
    exact .stack material amount (.data data)

private theorem readMeta_on_grown {place carried : Nat}
    (carries : cells[place]? = some ⟨material, amount, session.newDataAt carried⟩) :
    (readMeta (session.stackCells.length + place)).on (session.grown datas cells) =
      (.ok (session.newDataAt datas.length),
        session.grown (datas ++ [datas[carried]?.getD .blank]) cells) := by
  rw [← copy_data_on_grown]
  simp only [readMeta, on_get_bind, cellAt_grown, carries, Option.getD_some]
  rfl

private theorem readModifiers_on_grown (tokens : List Text) (place : Nat) :
    let reading := Modifier.readAll session.engine.parsers tokens (datas[place]?.getD .blank)
    (readModifiers tokens (session.newDataAt place)).on (session.grown datas cells) =
      (.ok reading.result, session.grown (datas.set place reading.data) cells) := by
  intro reading
  have read : Modifier.readAllSlot (session.grown datas cells).engine.parsers tokens
      ((session.grown datas cells).dataSlot (session.newDataAt place)) =
        ⟨.data reading.data, reading.result⟩ := by
    show Modifier.readAllSlot session.engine.parsers tokens (.data _) = _
    rw [Modifier.readAllSlot_data, dataAt_grown]
  simp only [readModifiers, on_get_bind, read]
  exact on_bind_of_ok (putData_on_grown place reading.data) _

private theorem unchanged_on_grown (tests : List Test) (one other : Nat) :
    (modified.unchanged tests (session.newDataAt one) (session.newDataAt other)).on
        (session.grown datas cells) =
      (.ok (tests.isEmpty && decide (datas[one]?.getD .blank = datas[other]?.getD .blank)),
        session.grown datas cells) := by
  unfold modified.unchanged
  cases tests.isEmpty with
  | false => rfl
  | true =>
      have compared : (session.grown datas cells).equal (session.newDataAt one) (session.newDataAt other) =
          .ok (decide (datas[one]?.getD .blank = datas[other]?.getD .blank)) := by
        rw [← @dataAt_grown session datas cells one, ← @dataAt_grown session datas cells other]
        rfl
      rw [if_pos rfl, on_get_bind, compared, settle_ok_on, Bool.true_and]

private theorem writeMeta_on_grown (solid : material ≠ .air) {carried : Entity} (given : Nat) :
    (writeMeta (session.stackCells.length + 0) (session.newDataAt given)).on
        (session.grown datas [⟨material, amount, carried⟩]) =
      (.ok (), session.grown (datas ++ [datas[given]?.getD .blank])
        [⟨material, amount, session.newDataAt datas.length⟩]) := by
  simp only [writeMeta, on_get_bind, cellAt_grown, List.getElem?_cons_zero, Option.getD_some]
  rw [if_pos solid, newDataAt]
  refine (on_bind_of_ok (copy_data_on_grown given) _).trans ?_
  exact changeStack_on_grown 0 fun contents => { contents with carried := session.newDataAt datas.length }

def showing (session : Session) (exhibit : Entity) : Session :=
  { session with
    nextSerial := session.nextSerial + 1
    exhibits := (session.nextSerial, exhibit) :: session.exhibits }

def numbered (session : Session) : Session :=
  { session with nextSerial := session.nextSerial + 1 }

theorem newCounted_on (handle : Handle) (amount : Int) (policy : StackPolicy) :
    (newCounted (.matcher handle) amount policy).on session =
      (.ok (.matcher ⟨session.nextSerial, .counted handle.matcher amount policy⟩),
        match session.exhibit? (.matcher handle) with
        | none => session.numbered
        | some exhibit => session.showing exhibit) := by
  have sameExhibit : session.numbered.exhibit? (.matcher handle) = session.exhibit? (.matcher handle) := rfl
  have fresh : freshSerial.on session = (.ok session.nextSerial, session.numbered) := rfl
  simp only [newCounted, on_get_bind, newShowingAs]
  rw [on_bind_of_ok fresh, on_get_bind, sameExhibit]
  cases session.exhibit? (.matcher handle) with
  | none => rfl
  | some exhibit => rfl

private theorem copy_stack_on_grown (solid : material ≠ .air) (carried : Nat) :
    (copy (session.newStackAt 0)).on
        (session.grown datas [⟨material, amount, session.newDataAt carried⟩]) =
      (.ok (session.newStackAt 1), session.grown (datas ++ [datas[carried]?.getD .blank])
        [⟨material, amount, session.newDataAt carried⟩,
          ⟨material, amount, session.newDataAt datas.length⟩]) := by
  let before := session.grown datas [⟨material, amount, session.newDataAt carried⟩]
  have held : before.cellAt (session.stackCells.length + 0) =
      ⟨material, amount, session.newDataAt carried⟩ := cellAt_grown 0
  have depth : before.stackCells.length = session.stackCells.length + 1 := by
    simp only [before, grown, List.length_append, List.length_singleton]
  have carries : (before.cellAt (session.stackCells.length + 0)).carried = session.newDataAt carried := by
    rw [held]
  show (copyAsFar before.stackCells.length (session.newStackAt 0)).on before = _
  rw [depth, newStackAt, copyAsFar_stack _ _ carries nofun, held]
  have copied := (copyAsFar_data session.stackCells.length (session.dataCells.length + carried)).trans
    (newData_on_grown (before.dataAt (session.dataCells.length + carried)))
  rw [dataAt_grown] at copied
  have something : session.newDataAt datas.length ≠ .nothing := by
    rw [newDataAt]
    nofun
  rw [newDataAt, on_bind_of_ok copied, assemble_of_solid solid amount something]
  exact newCell_on_grown _

theorem shows_grown {place carried : Nat} {data : Meta}
    (held : cells[place]? = some ⟨material, amount, session.newDataAt carried⟩)
    (isData : datas[carried]? = some data) :
    (session.grown datas cells).Shows (session.newStackAt place) (.stack material amount (.data data)) := by
  have inRange : session.stackCells.length + place < (session.grown datas cells).stackCells.length := by
    simp only [grown, List.length_append]
    exact Nat.add_lt_add_left (List.getElem?_eq_some_iff.1 held).1 _
  have dataInRange : session.dataCells.length + carried < (session.grown datas cells).dataCells.length := by
    simp only [grown, List.length_append]
    exact Nat.add_lt_add_left (List.getElem?_eq_some_iff.1 isData).1 _
  have cell : (session.grown datas cells).cellAt (session.stackCells.length + place) =
      ⟨material, amount, session.newDataAt carried⟩ := by
    rw [cellAt_grown, held, Option.getD_some]
  have inside := Shows.data dataInRange
  rw [dataAt_grown, isData, Option.getD_some] at inside
  exact .of_cell inRange cell inside

private theorem slot_on_grown {place carried : Nat}
    (held : cells[place]? = some ⟨material, amount, session.newDataAt carried⟩) :
    (session.grown datas cells).slot (session.newStackAt place) =
      .stack ⟨material, amount, some (datas[carried]?.getD .blank)⟩ := by
  rw [← @dataAt_grown session datas cells]
  simp only [newStackAt, slot, cellAt_grown, held, Option.getD_some, newDataAt, dataSlot]

private theorem newModified_on_grown (solid : material ≠ .air) (handle : Handle) (test : Test)
    (carried : Nat) :
    (newModified (.matcher handle) test (session.newStackAt 0)).on
        (session.grown datas [⟨material, amount, session.newDataAt carried⟩]) =
      (.ok (.matcher ⟨session.nextSerial, .modified handle.matcher test
          ⟨material, amount, some (datas[carried]?.getD .blank)⟩⟩),
        (session.showing (session.newStackAt 1)).grown (datas ++ [datas[carried]?.getD .blank])
          [⟨material, amount, session.newDataAt carried⟩,
            ⟨material, amount, session.newDataAt datas.length⟩]) := by
  let kept := (session.showing (session.newStackAt 1)).grown (datas ++ [datas[carried]?.getD .blank])
    [⟨material, amount, session.newDataAt carried⟩, ⟨material, amount, session.newDataAt datas.length⟩]
  have shown : kept.slot (session.newStackAt 1) =
      .stack ⟨material, amount, some (datas[carried]?.getD .blank)⟩ := by
    refine (@slot_on_grown (session.showing _) _ _ _ _ 1 datas.length rfl).trans ?_
    rw [List.getElem?_concat_length]
    rfl
  unfold newModified
  rw [on_bind_of_ok (copy_stack_on_grown solid carried), on_get_bind]
  show (Except.ok (Entity.matcher ⟨session.nextSerial, .modified handle.matcher test
    (kept.slot (session.newStackAt 1)).standIn⟩), kept) = _
  rw [shown]
  rfl

/-! ### Modifiers, from the stack that is shown to the new matcher -/

variable {object : Entity} (tokens : List Text) {data : Meta}

theorem modified_without_parsers (noParsers : session.engine.parsers.isEmpty = true) :
    (modified object tokens).on session = (.ok (some object), session) := by
  simp only [modified, on_get_bind]
  rw [if_pos noParsers]
  rfl

theorem modified_of_bare (hasParsers : session.engine.parsers.isEmpty = false)
    {shown : Entity} {after : Session}
    (ran : (representative object).on session = (.ok shown, after))
    (makes : session.Makes (.stack material amount .nothing) shown after) :
    (modified object tokens).on session = (.ok (some object), after) := by
  cases makes with
  | bare =>
      simp only [modified, on_get_bind]
      rw [if_neg (by simp [hasParsers]), on_bind_of_ok ran]
      have held := session.cellAt_append ⟨material, amount, .nothing⟩ session.stackCells.length
      rw [if_pos rfl] at held
      have unread : (readMeta session.stackCells.length).on { session with
          stackCells := session.stackCells ++ [⟨material, amount, .nothing⟩] } =
            (.ok .nothing, { session with
              stackCells := session.stackCells ++ [⟨material, amount, .nothing⟩] }) := by
        simp only [readMeta, on_get_bind, held]
        rfl
      exact on_bind_of_ok unread _
  | stack _ _ inside => cases inside

def noting (session : Session) (events : List Event) : Session :=
  { session with journal := session.journal ++ events }

/-- The session once the parsers have read the modifiers, before anything comes of it. -/
def parsed (session : Session) (material : Material) (amount : Int) (before after : Meta) : Session :=
  session.grown [before, before, after] [⟨material, amount, session.newDataAt 0⟩]

theorem modified_until_parsed (hasParsers : session.engine.parsers.isEmpty = false)
    (shown : (representative object).on session =
      (.ok (session.newStackAt 0), session.grown [data] [⟨material, amount, session.newDataAt 0⟩])) :
    let reading := Modifier.readAll session.engine.parsers tokens data
    let parsed := session.parsed material amount data reading.data
    (modified object tokens).on session =
      match reading.result.outcome with
      | .error _ => (.ok none, parsed.noting
          (reading.result.events ++ [.notice (.parserFailed tokens (parsed.text object))]))
      | .ok tests => (do
          if ← modified.unchanged tests (session.newDataAt 2) (session.newDataAt 1) then pure (some object)
          else
            writeMeta (session.stackCells.length + 0) (session.newDataAt 2)
            some <$> newModified object (Test.all tests) (session.newStackAt 0)).on
              (parsed.noting reading.result.events) := by
  intro reading parsed
  have originalRead : (readMeta (session.stackCells.length + 0)).on
      (session.grown [data] [⟨material, amount, session.newDataAt 0⟩]) =
        (.ok (session.newDataAt 1), session.grown [data, data] [⟨material, amount, session.newDataAt 0⟩]) :=
    @readMeta_on_grown session [data] _ material amount 0 0 rfl
  have snapshotMade : (copy (session.newDataAt 1)).on
      (session.grown [data, data] [⟨material, amount, session.newDataAt 0⟩]) =
        (.ok (session.newDataAt 2),
          session.grown [data, data, data] [⟨material, amount, session.newDataAt 0⟩]) :=
    copy_data_on_grown 1
  have read : (readModifiers tokens (session.newDataAt 2)).on
      (session.grown [data, data, data] [⟨material, amount, session.newDataAt 0⟩]) =
        (.ok reading.result, parsed) :=
    readModifiers_on_grown tokens 2
  simp only [modified, on_get_bind]
  rw [if_neg (by simp [hasParsers]), on_bind_of_ok shown]
  simp only [newStackAt]
  rw [on_bind_of_ok originalRead]
  simp only [newDataAt] at snapshotMade read ⊢
  rw [on_bind_of_ok snapshotMade, on_bind_of_ok read]
  cases reading.result.outcome with
  | error fault => rfl
  | ok tests => rfl

theorem modified_from_parsed (solid : material ≠ .air) (handle : Handle) (tests : List Test)
    (before after : Meta) :
    (do
      if ← modified.unchanged tests (session.newDataAt 2) (session.newDataAt 1) then
        pure (some (Entity.matcher handle))
      else
        writeMeta (session.stackCells.length + 0) (session.newDataAt 2)
        some <$> newModified (.matcher handle) (Test.all tests) (session.newStackAt 0)).on
          (session.parsed material amount before after) =
      if tests.isEmpty && decide (after = before) then
        (.ok (some (.matcher handle)), session.parsed material amount before after)
      else
        (.ok (some (.matcher ⟨session.nextSerial, .modified handle.matcher (Test.all tests)
            ⟨material, amount, some after⟩⟩)),
          (session.showing (session.newStackAt 1)).grown [before, before, after, after, after]
            [⟨material, amount, session.newDataAt 3⟩, ⟨material, amount, session.newDataAt 4⟩]) := by
  have compared : (modified.unchanged tests (session.newDataAt 2) (session.newDataAt 1)).on
      (session.parsed material amount before after) =
        (.ok (tests.isEmpty && decide (after = before)), session.parsed material amount before after) :=
    unchanged_on_grown tests 2 1
  rw [on_bind_of_ok compared]
  split
  · rfl
  · have written : (writeMeta (session.stackCells.length + 0) (session.newDataAt 2)).on
        (session.parsed material amount before after) =
          (.ok (), session.grown [before, before, after, after]
            [⟨material, amount, session.newDataAt 3⟩]) :=
      writeMeta_on_grown solid 2
    rw [on_bind_of_ok written, map_eq_pure_bind]
    have made := @newModified_on_grown session [before, before, after, after] material amount solid handle
      (Test.all tests) 3
    rw [on_bind_of_ok made]
    rfl

end Session

end ItemSpec
