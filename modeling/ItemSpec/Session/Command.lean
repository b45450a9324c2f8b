import ItemSpec.Modifier.Scripted
import ItemSpec.Session.Edit
import ItemSpec.Text.Sorted
set_option autoImplicit false

/-! The commands of a session and their answers. A command that gives a new object a name does so as
soon as the object exists, before the object is described. -/

namespace ItemSpec

inductive Command where
  | make (source : MatcherSource) (name? : Option Text)
  | lookup (spec : Text) (name? : Option Text)
  | get (key : Key) (name? : Option Text)
  | register (key : Key) (source : MatcherSource)
  | registerOwn (source : MatcherSource)
  | remove (key : Key)
  | clear
  | count
  | items
  | keys
  | isCustom (slot : StackSource)
  | findCustom (slot : StackSource) (name? : Option Text)
  | accepts (source : MatcherSource) (slot : StackSource)
  | representative (source : MatcherSource) (name? : Option Text)
  | inspect (source : MatcherSource)
  | same (first second : MatcherSource)
  | stack (source : StackSource) (name? : Option Text)
  | plainStack (named : Named Material) (amount : Int) (name? : Option Text)
  | data (source : DataSource) (name? : Option Text)
  | copy (target : Text) (name? : Option Text)
  | readData (target : Text) (name? : Option Text)
  | writeData (target : Text) (data : DataSource)
  /-- Edits what a name stands for, or the metadata of the stack that it stands for. -/
  | edit (target : Text) (throughStack : Bool) (edits : List Edit)
  | showEntity (target : Text)
  | equal (first second : Text)
  | addParser (offer : Modifier.Offer)
  | addDefaultParsers
  | parserNames
  | clearParsers
  | parse (tokens : List Text) (data : DataSource) (slots : List StackSource)
  | recorded
  | resolve (name : Text)
  | engine

structure Description where
  kind : Text
  text : Text
  tree : List Text
  item : Stack
  reflexive : Bool

inductive Detail where
  | none
  | material (material : Material)
  | custom (key : Key)
  | modified (base : Text)
  | counted (base : Text) (amount : Int) (policy : StackPolicy)

namespace Matcher

def describe (matcher : Matcher) (item : Stack) (reflexive : Bool) : Description :=
  { kind := matcher.kind, text := matcher.text, tree := matcher.tree.map Matcher.kind, item, reflexive }

def detail : Matcher → Detail
  | .empty => .none
  | .material wanted => .material wanted
  | .custom _ key _ _ => .custom key
  | .composed _ key _ _ => .custom key
  | .modified base _ _ => .modified base.text
  | .counted base amount policy => .counted base.text amount policy

end Matcher

namespace Hollow

def detail : Hollow → Detail
  | .other .. => .none
  | .modified base _ => .modified base.text
  | .counted base amount policy => .counted base.text amount policy

end Hollow

inductive Answer where
  | nothing
  | description (description : Description)
  | truth (value : Bool)
  | number (value : Nat)
  | texts (values : List Text)
  | stack (stack : Stack)
  | data (data : Meta)
  | material (material : Material)
  | custom (key : Text) (text : Text)
  | inspection (kind : Text) (children : List Text) (detail : Detail)
  | parsed (tests : Nat) (data? : Option Meta) (verdicts : List (List Bool))
  | recorded (records : List (Text × List Text × Option Meta))
  | engine (policy : StackPolicy) (items parsers : Nat)

namespace Action

def stackAnswer (object : Entity) : Action Answer := do
  pure (.stack (← settle ((← get).slot object).shown))

def dataAnswer (object : Entity) : Action Answer := do
  match ← settle ((← get).dataSlot object).shown with
  | some data => pure (.data data)
  | none => pure .nothing

/-- Describes what stands where a matcher is looked for. What it shows comes first; the tree of a hollow
matcher cannot be told. -/
def describe : Entity → Action Answer
  | .matcher handle => do
    let shown ← representative (.matcher handle)
    let slot := (← get).slot shown
    let item ← settle slot.shown
    pure (.description (handle.matcher.describe item (← settle (handle.matcher.matchesSlot slot))))
  | .hollow serial wrapper => do
    discard (representative (.hollow serial wrapper))
    fail (.fault wrapper.treeFault)
  | .nothing => pure .nothing
  | other => failLacking other "get_item"

def display : Entity → Action Answer
  | .stack cell => stackAnswer (.stack cell)
  | .data cell => dataAnswer (.data cell)
  | object => describe object

def keepMatcher (name? : Option Text) (object : Entity) : Action Answer := do
  keep name? object
  describe object

def keepStack (name? : Option Text) (object : Entity) : Action Answer := do
  keep name? object
  stackAnswer object

def keepData (name? : Option Text) (object : Entity) : Action Answer := do
  keep name? object
  dataAnswer object

def contents : Entity → Action Answer
  | .stack cell => stackAnswer (.stack cell)
  | object => dataAnswer object

def countAnswer : Action Answer := do
  pure (.number (← get).engine.registry.count)

def putEngine (engine : Engine) : Action Unit :=
  modify fun session => { session with engine }

def bind (key : Key) (item : Handle) : Action Answer := do
  putEngine (← trace ((← get).engine.register key item))
  countAnswer

def register (key : Key) : Entity → Action Answer
  | .matcher handle => bind key handle
  | .hollow _ wrapper => fail (.fault wrapper.treeFault)
  | other => failLacking other "iter_tree"

/-- The key that a custom item has of its own; no other matcher has one. -/
def ownKey (item : Handle) : Action Key := do
  match item.matcher.key? with
  | some key => pure key
  | none => failLacking (.matcher item) "key"

def registerOwn : Entity → Action Answer
  | .matcher handle => do bind (← ownKey handle) handle
  | other => failLacking other "key"

def judgement : Entity → Action Test
  | .matcher handle => pure handle.matcher.matchesSlot
  | .hollow _ wrapper => pure wrapper.verdict
  | other => failLacking other "matches"

def inspect : Entity → Action Answer
  | .matcher handle =>
    let matcher := handle.matcher
    pure (.inspection matcher.kind (matcher.children.map Matcher.kind) matcher.detail)
  | .hollow _ wrapper => do
    pure (.inspection (← settle wrapper.kind) (← settle wrapper.childKinds) wrapper.detail)
  | other => failLacking other "kind"

def editTarget (throughStack : Bool) (target : Entity) : Action Entity := do
  if throughStack then
    match (← get).carried? target with
    | some carried => pure carried
    | none => failLacking target "meta"
  else pure target

def edit (target : Text) (throughStack : Bool) (edits : List Edit) : Action Answer := do
  let object ← find target
  let edited ← editTarget throughStack object
  edits.forM (Edit.apply edited)
  contents object

/-- Runs the engine's parsers on what stands in the place of metadata, in place. The first fault of the
tests stands for all. -/
def parse (tokens : List Text) (data : DataSource) (slots : List StackSource) :
    Action Answer := do
  let object ← data.entity
  let tests ← trace (← readModifiers tokens object)
  let shown? ← settle ((← get).dataSlot object).shown
  let held ← slots.mapM StackSource.slot
  let verdicts ← settle (held.mapM fun slot => tests.mapM fun test => test slot)
  pure (.parsed tests.length shown? verdicts)

def perform : Command → Action Answer
  | .make source name? => do keepMatcher name? (← source.entity)
  | .lookup spec name? => do keepMatcher name? (← lookup spec)
  | .get key name? => do keepMatcher name? (← registered key)
  | .register key source => do register key (← source.entity)
  | .registerOwn source => do registerOwn (← source.entity)
  | .remove key => do
    putEngine (← trace ((← get).engine.remove key))
    countAnswer
  | .clear => do
    modify fun session => { session with engine := { session.engine with registry := .empty } }
    countAnswer
  | .count => countAnswer
  | .items => do
    let items := (← get).engine.registry.items
    pure (.texts (Text.sort (items.map fun item => item.matcher.text)))
  | .keys => do pure (.texts ((← get).engine.registry.keys.map Key.text))
  | .isCustom slot => do
    let held ← slot.slot
    pure (.truth (← settle ((← get).engine.registry.contains held)))
  | .findCustom slot name? => do
    let held ← slot.slot
    match ← settle ((← get).engine.registry.find? held) with
    | none =>
      keep name? .nothing
      pure .nothing
    | some item =>
      keep name? (.matcher item)
      pure (.custom (← ownKey item).text item.matcher.text)
  | .accepts source slot => do
    let judge ← judgement (← source.entity)
    let held ← slot.slot
    pure (.truth (← settle (judge held)))
  | .representative source name? => do keepStack name? (← representative (← source.entity))
  | .inspect source => do inspect (← source.entity)
  | .same first second => do
    let one ← first.entity
    let other ← second.entity
    pure (.truth (one.same other))
  | .stack source name? => do keepStack name? (← source.entity)
  | .plainStack named amount name? => do
    keepStack name? (← newStack (.of (← settle named) amount))
  | .data source name? => do keepData name? (← source.entity)
  | .copy target name? => do
    let copied ← copy (← find target)
    keep name? copied
    contents copied
  | .readData target name? => do
    match ← find target with
    | .stack cell => do keepData name? (← readMeta cell)
    | other => failLacking other "get_item_meta"
  | .writeData target data => do
    match ← find target with
    | .stack cell =>
      writeMeta cell (← data.entity)
      stackAnswer (.stack cell)
    | other => failLacking other "set_item_meta"
  | .edit target throughStack edits => edit target throughStack edits
  | .showEntity target => do display (← find target)
  | .equal first second => do
    let one ← find first
    let other ← find second
    pure (.truth (← settle ((← get).equal one other)))
  | .addParser offer => do
    putEngine (← trace ((← get).engine.addParser offer))
    pure (.number (← get).engine.parsers.length)
  | .addDefaultParsers => do
    putEngine (← trace ((← get).engine.addParsers Engine.defaultOffers))
    pure (.number (← get).engine.parsers.length)
  | .parserNames => do pure (.texts ((← get).engine.parsers.map Modifier.Parser.name))
  | .clearParsers => do
    modify fun session => { session with engine := { session.engine with parsers := [] } }
    pure (.number (← get).engine.parsers.length)
  | .parse tokens data slots => parse tokens data slots
  | .recorded => do pure (.recorded (← get).recorded)
  | .resolve name => do
    match (← get).engine.resolve name with
    | some material => pure (.material material)
    | none => pure .nothing
  | .engine => do
    let engine := (← get).engine
    pure (.engine engine.policy engine.registry.count engine.parsers.length)

end Action

namespace Session

def step (session : Session) (command : Command) : Session × Except Failure Answer :=
  let done := (Action.perform command).on session
  (done.2, done.1)

def run (session : Session) (commands : List Command) : Session :=
  commands.foldl (fun before command => (before.step command).1) session

structure Setup where
  offers : List Modifier.Offer := Engine.defaultOffers
  resolve : Named Resolver := .ok Resolver.catalogue
  policy : Named StackPolicy := .ok .atLeast
  items : List MatcherSource := []

def prepare (setup : Setup) : Action Unit := do
  let engine ← Action.trace (Engine.addParsers {} setup.offers)
  let resolve ← Action.settle setup.resolve
  let policy ← Action.settle setup.policy
  Action.putEngine { engine with resolve, policy }
  setup.items.forM fun source => discard (Action.perform (.registerOwn source))

def start (setup : Setup) : Except Failure Session :=
  match (prepare setup).on {} with
  | (.ok (), session) => .ok session
  | (.error failure, _) => .error failure

end Session

end ItemSpec
