import ItemSpec.Engine.Lookup
import ItemSpec.Item.Written
import ItemSpec.Session.Hollow
set_option autoImplicit false

/-! The objects that a host holds while it works with an engine. Stacks and metadata are cells: they can
be edited, and several stacks may carry one and the same metadata. Matchers are values; a serial number
tells which of them are one and the same object.

A host may put parts in place on any object, and may take an object of any sort for a stack or for
metadata. What such an object is taken for depends on the parts that it has by then. -/

namespace ItemSpec

inductive Entity where
  | data (cell : Nat)
  | stack (cell : Nat)
  | matcher (handle : Handle)
  | hollow (serial : Nat) (wrapper : Hollow)
  | nothing

namespace Entity

def form : Entity → Text
  | .data _ => "ItemMeta".toList
  | .stack _ => "ItemStack".toList
  | .matcher handle => handle.matcher.form
  | .hollow _ wrapper => wrapper.form
  | .nothing => Fault.noForm

def ownMaterial? : Entity → Option Material
  | .matcher ⟨_, .material wanted⟩ => some wanted
  | _ => none

def ownAmount? : Entity → Option Int
  | .matcher ⟨_, .counted _ amount _⟩ => some amount
  | .hollow _ (.counted _ amount _) => some amount
  | _ => none

def isEmpty : Entity → Bool
  | .matcher handle => handle.matcher.isEmpty
  | _ => false

def same : Entity → Entity → Bool
  | .data cell, .data other => cell == other
  | .stack cell, .stack other => cell == other
  | .matcher handle, .matcher other => handle.serial == other.serial
  | .hollow serial _, .hollow other _ => serial == other
  | .nothing, .nothing => true
  | _, _ => false

end Entity

/-- The contents of a stack cell. What it carries as its metadata is an object of its own. -/
structure StackCell where
  material : Material
  amount : Int
  carried : Entity

/-- Parts that were put in place on an object whose sort has no such parts. -/
structure Extras where
  material? : Option Material := none
  amount? : Option Int := none
  carried? : Option Entity := none
  parts : List DataPart := []
  held : Meta := .blank

structure Session where
  engine : Engine := {}
  dataCells : List Meta := []
  stackCells : List StackCell := []
  /-- The extra parts of objects, those that count first. -/
  extras : List (Entity × Extras) := []
  /-- What matchers keep to show copies of, by their serial numbers. -/
  exhibits : List (Nat × Entity) := []
  names : List (Text × Entity) := []
  nextSerial : Nat := 1
  journal : List Event := []

namespace Session

def dataAt (session : Session) (cell : Nat) : Meta :=
  (session.dataCells[cell]?).getD .blank

def cellAt (session : Session) (cell : Nat) : StackCell :=
  (session.stackCells[cell]?).getD ⟨.air, 1, .nothing⟩

def extrasOf (session : Session) (object : Entity) : Extras :=
  match session.extras.find? fun entry => entry.1.same object with
  | some entry => entry.2
  | none => {}

def carried? (session : Session) : Entity → Option Entity
  | .stack cell => some (session.cellAt cell).carried
  | object => (session.extrasOf object).carried?

def dataSlot (session : Session) : Entity → DataSlot
  | .nothing => .nothing
  | .data cell => .data (session.dataAt cell)
  | object =>
    let extras := session.extrasOf object
    .other ⟨object.form, extras.parts, extras.held⟩

def slot (session : Session) : Entity → Slot
  | .nothing => .nothing
  | .stack cell =>
    let contents := session.cellAt cell
    match session.dataSlot contents.carried with
    | .nothing => .stack ⟨contents.material, contents.amount, none⟩
    | .data data => .stack ⟨contents.material, contents.amount, some data⟩
    | other =>
      .other ⟨(Entity.stack cell).form, some contents.material, some contents.amount, some other⟩
  | object =>
    let extras := session.extrasOf object
    .other ⟨object.form, object.ownMaterial?.or extras.material?, object.ownAmount?.or extras.amount?,
      extras.carried?.map session.dataSlot⟩

/-- What a matcher keeps to show copies of. One that shows a new stack each time keeps nothing. -/
def exhibit? (session : Session) : Entity → Option Entity
  | .matcher handle => session.exhibits.lookup handle.serial
  | .hollow serial _ => session.exhibits.lookup serial
  | _ => none

/-- The written form of an object inside of these stacks, further stacks being followed to this depth. A
stack that comes round again is not written again. -/
private def writtenInside (session : Session) (around : List Nat) : Nat → Entity → Text
  | _, .data cell => (session.dataAt cell).written
  | 0, .stack _ => "...".toList
  | depth + 1, .stack cell =>
    if cell ∈ around then "...".toList
    else
      let contents := session.cellAt cell
      Stack.writtenOf contents.material contents.amount
        (session.writtenInside (cell :: around) depth contents.carried)
  | _, .matcher handle => handle.matcher.text
  | _, .hollow _ wrapper => wrapper.text
  | _, .nothing => "None".toList

def text (session : Session) (object : Entity) : Text :=
  session.writtenInside [] (session.stackCells.length + 1) object

def hollow (session : Session) : Entity → Hollow
  | .hollow _ wrapper => wrapper
  | object => .other object.form (session.text object)

/-- Whether two objects are equal, stacks inside of stacks being followed to this depth. Stacks are equal if
their parts are, and so is metadata; other objects are equal to themselves alone. -/
private def equalAsFar (session : Session) : Nat → Entity → Entity → Except Fault Bool
  | _, .data cell, .data other => .ok (decide (session.dataAt cell = session.dataAt other))
  | 0, .stack _, .stack _ => .error (.endless " in comparison".toList)
  | depth + 1, .stack cell, .stack other =>
    let one := session.cellAt cell
    let another := session.cellAt other
    if one.carried.same another.carried then
      .ok (decide (one.material = another.material ∧ one.amount = another.amount))
    else if one.material = another.material ∧ one.amount = another.amount then
      session.equalAsFar depth one.carried another.carried
    else .ok false
  | _, object, other => .ok (object.same other)

def equal (session : Session) (one other : Entity) : Except Fault Bool :=
  let cells := session.stackCells.length
  session.equalAsFar (cells * cells + 1) one other

def find? (session : Session) (name : Text) : Option Entity :=
  session.names.lookup name

def noticesSince (session : Session) (past : Nat) : List Notice :=
  (session.journal.drop past).filterMap fun
    | .notice notice => some notice
    | .given .. => none

def recorded (session : Session) : List (Text × List Text × Option Meta) :=
  session.journal.filterMap fun
    | .notice _ => none
    | .given label tokens data? => some (label, tokens, data?)

end Session

end ItemSpec
