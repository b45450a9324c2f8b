import ItemSpec.Session.Lookup
set_option autoImplicit false

/-! How a command names or builds the things that it works with. Sources are evaluated each time they
are used, inner ones before the one that contains them; a source that is a name gives the very object
that the name stands for. -/

namespace ItemSpec

inductive DataSource where
  | nothing
  | named (name : Text)
  | new (data : Named Meta)

inductive StackSource where
  | nothing
  | named (name : Text)
  /-- A new stack. It shares the metadata cell of its source, unless it is air. -/
  | new (material : Named Material) (amount : Int) (data : DataSource)

inductive MatcherSource where
  | named (name : Text)
  | empty
  | material (wanted : Named Material)
  | custom (key : Key) (test : Condition) (item : StackSource)
  | composed (key : Key) (definition : MatcherSource) (item : StackSource)
  | wrapped (key : Key) (definition : MatcherSource)
  | modified (base : MatcherSource) (test : Condition) (shown : StackSource)
  | counted (base : MatcherSource) (amount : Int) (policy : Named StackPolicy)
  | lookup (spec : Text)
  | registered (key : Key)

namespace DataSource

def entity : DataSource → Action Entity
  | .nothing => pure .nothing
  | .named name => Action.find name
  | .new data => do Action.newData (← Action.settle data)

end DataSource

namespace StackSource

def entity : StackSource → Action Entity
  | .nothing => pure .nothing
  | .named name => Action.find name
  | .new wanted amount data => do
    let carried ← data.entity
    Action.assemble (← Action.settle wanted) amount carried

def slot (source : StackSource) : Action Slot := do
  let object ← source.entity
  pure ((← get).slot object)

end StackSource

namespace MatcherSource

/-- A custom item that keeps a copy of what it is given. A stack that carries another object than metadata
can be kept too, if the definition accepts it. -/
def newCustom (key : Key) (definition : Definition) (given : Entity) : Action Entity := do
  let exhibit ← Action.copy given
  match exhibit with
  | .stack _ =>
    match (← get).slot exhibit with
    | .stack stack =>
      let made ← Action.trace (CustomItem.create (← Action.freshSerial) key definition stack)
      Action.keepExhibit made.serial exhibit
      pure (.matcher made.handle)
    | slot =>
      if ← Action.settle (definition.judge slot) then
        Action.newShowing exhibit fun serial stack =>
          .matcher ⟨serial, definition.toMatcher serial key stack⟩
      else
        Action.trace do
          Traced.note (.unmatchedItem key)
          Traced.fail (.unmatchedItem key)
  | object => Action.failLacking object "get_item_meta"

/-- The definition by what stands where a matcher or a test is needed. -/
def definitionBy : Entity → Definition
  | .matcher handle => .matcher handle.matcher
  | .hollow _ wrapper => .test wrapper.verdict
  | other => .test fun _ => .error (.notCallable other.form)

def entity : MatcherSource → Action Entity
  | .named name => Action.find name
  | .empty => Action.newMatcher .empty
  | .material wanted => do Action.newMatcher (.material (← Action.settle wanted))
  | .custom key test item => do newCustom key (.test test.test) (← item.entity)
  | .composed key definition item => do
    let defining ← definition.entity
    newCustom key (definitionBy defining) (← item.entity)
  | .wrapped key definition => do
    let defining ← definition.entity
    newCustom key (definitionBy defining) (← Action.representative defining)
  | .modified base test shown => do
    let below ← base.entity
    Action.newModified below test.test (← shown.entity)
  | .counted base amount policy => do
    let below ← base.entity
    Action.newCounted below amount (← Action.settle policy)
  | .lookup spec => Action.lookup spec
  | .registered key => Action.registered key

end MatcherSource

end ItemSpec
