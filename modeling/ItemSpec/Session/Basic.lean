import ItemSpec.Session.Object
set_option autoImplicit false

/-! Actions: computations on a session that may be given up. -/

namespace ItemSpec

inductive Failure where
  | fault (fault : Fault)
  | unbound (name : Text)

/-- A computation on a session. What it did to the session stays done if it fails. -/
abbrev Action := ExceptT Failure (StateM Session)

namespace Action

def on {Result : Type} (action : Action Result) (session : Session) :
    Except Failure Result × Session :=
  StateT.run (ExceptT.run action) session

def fail {Result : Type} (failure : Failure) : Action Result :=
  throw failure

def failLacking {Result : Type} (entity : Entity) (part : String) : Action Result :=
  fail (.fault (.lacks entity.form part.toList))

def record (events : List Event) : Action Unit :=
  modify fun session => { session with journal := session.journal ++ events }

def trace {Result : Type} (traced : Traced Result) : Action Result := do
  record traced.events
  match traced.outcome with
  | .ok result => pure result
  | .error fault => fail (.fault fault)

def settle {Result : Type} (outcome : Except Fault Result) : Action Result :=
  trace (.lift outcome)

/-! ### New objects -/

def freshSerial : Action Nat := do
  let session ← get
  set { session with nextSerial := session.nextSerial + 1 }
  pure session.nextSerial

def newData (data : Meta) : Action Entity := do
  let session ← get
  set { session with dataCells := session.dataCells ++ [data] }
  pure (.data session.dataCells.length)

def newCell (contents : StackCell) : Action Entity := do
  let session ← get
  set { session with stackCells := session.stackCells ++ [contents] }
  pure (.stack session.stackCells.length)

/-- A new stack that carries an object. It is settled: air carries nothing, whatever it is given, and
anything else gets blank metadata where it is given nothing. -/
def assemble (material : Material) (amount : Int) (carried : Entity) : Action Entity := do
  if material = .air then newCell ⟨material, amount, .nothing⟩
  else match carried with
    | .nothing => newCell ⟨material, amount, ← newData .blank⟩
    | object => newCell ⟨material, amount, object⟩

def newStack (stack : Stack) : Action Entity := do
  match stack.meta? with
  | none => newCell ⟨stack.material, stack.amount, .nothing⟩
  | some data => newCell ⟨stack.material, stack.amount, ← newData data⟩

/-- A copy of an object. Stacks inside of stacks are followed to this depth, since they may come round again. -/
def copyAsFar : Nat → Entity → Action Entity
  | _, .data cell => do newData ((← get).dataAt cell)
  | depth + 1, .stack cell => do
    let contents := (← get).cellAt cell
    let carried ← match contents.carried with
      | .nothing => pure .nothing
      | object => copyAsFar depth object
    assemble contents.material contents.amount carried
  | 0, .stack _ => fail (.fault (.endless []))
  | _, object => failLacking object "copy"

def copy (object : Entity) : Action Entity := do
  copyAsFar (← get).stackCells.length object

def newMatcher (matcher : Matcher) : Action Entity := do
  pure (.matcher ⟨← freshSerial, matcher⟩)

def keepExhibit (serial : Nat) (exhibit : Entity) : Action Unit :=
  modify fun session => { session with exhibits := (serial, exhibit) :: session.exhibits }

/-- A new object that keeps an exhibit, which nothing else refers to. It is made of its serial number and
the stack to show; where the exhibit is no plain stack, a plain one stands in for it. -/
def newShowing (exhibit : Entity) (make : Nat → Stack → Entity) : Action Entity := do
  let serial ← freshSerial
  keepExhibit serial exhibit
  pure (make serial ((← get).slot exhibit).standIn)

def newShowingAs (base : Entity) (make : Nat → Entity) : Action Entity := do
  let serial ← freshSerial
  match (← get).exhibit? base with
  | none => pure ()
  | some exhibit => keepExhibit serial exhibit
  pure (make serial)

/-- Modifiers of an object, as a new object. It keeps a copy of what it is given to show. -/
def newModified (base : Entity) (test : Test) (given : Entity) : Action Entity := do
  let exhibit ← copy given
  let session ← get
  newShowing exhibit fun serial stack =>
    match base with
    | .matcher handle => .matcher ⟨serial, .modified handle.matcher test stack⟩
    | other => .hollow serial (.modified (session.hollow other) stack)

def newCounted (base : Entity) (amount : Int) (policy : StackPolicy) : Action Entity := do
  let session ← get
  newShowingAs base fun serial =>
    match base with
    | .matcher handle => .matcher ⟨serial, .counted handle.matcher amount policy⟩
    | other => .hollow serial (.counted (session.hollow other) amount policy)

/-! ### Changes in place -/

def putData (cell : Nat) (data : Meta) : Action Unit :=
  modify fun session => { session with dataCells := session.dataCells.set cell data }

def changeStack (cell : Nat) (change : StackCell → StackCell) : Action Unit :=
  modify fun session =>
    { session with stackCells := session.stackCells.set cell (change (session.cellAt cell)) }

def changeExtras (object : Entity) (change : Extras → Extras) : Action Unit :=
  modify fun session =>
    { session with extras := (object, change (session.extrasOf object)) :: session.extras }

def putDataSlot : Entity → DataSlot → Action Unit
  | .data cell, .data data => putData cell data
  | object, .other edited =>
    changeExtras object fun extras => { extras with parts := edited.parts, held := edited.held }
  | _, _ => pure ()

def putAmount (object : Entity) (amount : Int) : Action Unit :=
  match object with
  | .stack cell => changeStack cell fun contents => { contents with amount }
  | .nothing => failLacking object "amount"
  | _ =>
    if object.ownAmount?.isSome then fail (.fault (.fixed object.form "amount".toList))
    else changeExtras object fun extras => { extras with amount? := some amount }

def putMaterial (object : Entity) (material : Material) : Action Unit :=
  match object with
  | .stack cell => changeStack cell fun contents => { contents with material }
  | .nothing => failLacking object "material"
  | _ =>
    if object.ownMaterial?.isSome then fail (.fault (.fixed object.form "material".toList))
    else changeExtras object fun extras => { extras with material? := some material }

def putCarried (object carried : Entity) : Action Unit :=
  match object with
  | .stack cell => changeStack cell fun contents => { contents with carried }
  | .nothing => failLacking object "meta"
  | _ => changeExtras object fun extras => { extras with carried? := some carried }

/-! ### The metadata of a stack -/

def readMeta (cell : Nat) : Action Entity := do
  match ((← get).cellAt cell).carried with
  | .nothing => pure .nothing
  | carried => copy carried

/-- Puts a copy of metadata on a stack, and blank metadata where none is given. Air stays as it is. -/
def writeMeta (cell : Nat) (given : Entity) : Action Unit := do
  if ((← get).cellAt cell).material ≠ .air then
    let carried ← match given with
      | .nothing => newData .blank
      | object => copy object
    putCarried (.stack cell) carried

/-! ### Names -/

def find (name : Text) : Action Entity := do
  match (← get).find? name with
  | some entity => pure entity
  | none => fail (.unbound name)

def keep (name? : Option Text) (entity : Entity) : Action Unit :=
  match name? with
  | none => pure ()
  | some name => modify fun session => { session with names := (name, entity) :: session.names }

/-! ### Matchers -/

def registered (key : Key) : Action Entity := do
  match (← get).engine.registry.get? key with
  | some handle => pure (.matcher handle)
  | none => pure .nothing

/-- What is shown for a matcher, as a new object: a copy of what the matcher keeps, in the matcher's own
amount if it has one. -/
def representative (object : Entity) : Action Entity := do
  match (← get).exhibit? object with
  | some exhibit =>
    let shown ← copy exhibit
    match object.ownAmount? with
    | none => pure ()
    | some amount => putAmount shown amount
    pure shown
  | none =>
    match object with
    | .matcher handle => newStack handle.matcher.representative
    | .hollow _ wrapper => do newStack (← settle wrapper.representative)
    | other => failLacking other "get_item"

end Action

end ItemSpec
