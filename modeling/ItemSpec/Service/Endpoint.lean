import ItemSpec.Engine.Lookup
import ItemSpec.Service.Schema
import ItemSpec.Settings
import ItemSpec.Text.Sorted
set_option autoImplicit false

/-! The service: requests by method and path, and their answers. A service without an engine still
answers whether it is well, and nothing else. -/

namespace ItemSpec.Service

structure Request where
  method : Text
  path : Text
  query : List (Text × Text) := []
  body? : Option Json := none

inductive Response where
  | json (status : Nat) (body : Json)
  | bare (status : Nat)
  | rejected (problems : List Problem)
  | broken

inductive Endpoint where
  | health | lookup | matching | custom

namespace Endpoint

def all : List Endpoint := [.health, .lookup, .matching, .custom]

def path : Endpoint → Text
  | .health => "/health".toList
  | .lookup => "/items/lookup".toList
  | .matching => "/items/match".toList
  | .custom => "/items/custom".toList

def method : Endpoint → Text
  | .matching => "POST".toList
  | _ => "GET".toList

/-- The endpoint of a path. A path with slashes at its end leads to the endpoint of the path without
them. -/
def ofPath? (path : Text) : Option Endpoint :=
  all.find? fun endpoint => endpoint.path = path ∨ endpoint.path = Text.dropTrailing '/' path

end Endpoint

def detail (status : Nat) (message : Text) : Response :=
  .json status (.object [("detail".toList, .text message)])

private def number (count : Nat) : Json := .integer count

def health (engine? : Option Engine) : Response :=
  let state (status : String) (items parsers : Nat) : Response :=
    .json 200 (.object [("status".toList, .text status.toList),
      ("custom_items".toList, number items), ("arg_parsers".toList, number parsers)])
  match engine? with
  | none => state "error" 0 0
  | some engine => state "ok" engine.registry.count engine.parsers.length

def lookup (engine : Engine) (spec : Text) : Response :=
  match (engine.lookup spec).outcome with
  | .error _ => .broken
  | .ok found =>
    let matcher := found.matcher
    .json 200 (.object [
      ("spec".toList, .text spec),
      ("resolved".toList, .bool (!matcher.isEmpty)),
      ("kind".toList, .text matcher.kind),
      ("item".toList, if matcher.isEmpty then .null else matcher.representative.toJson)])

/-- The material that a request names. Air may be named here: it is the empty slot. -/
def material? (engine : Engine) (name : Text) : Option Material :=
  if Text.upper name = Material.air.name then some .air else engine.resolve name

/-- Whether a stack matches a spec. The name of its material is looked at first. -/
def judge (engine : Engine) (form : MatchForm) : Response :=
  match material? engine form.item.material with
  | none => detail 422 ("Unknown material: ".toList ++ form.item.material)
  | some material =>
    match (engine.lookup form.spec).outcome with
    | .error _ => .broken
    | .ok found =>
      match found.matcher.accepts (form.item.toStack material) with
      | .error _ => .broken
      | .ok verdict =>
        .json 200 (.object [("spec".toList, .text form.spec), ("matches".toList, .bool verdict)])

def custom (engine : Engine) : Response :=
  let keys := Text.sort (engine.registry.keys.map Key.text)
  .json 200 (.object [("keys".toList, .array (keys.map .text)),
    ("count".toList, number keys.length)])

/-- The parameter of a query; of several of one name the last counts. -/
def parameter? (request : Request) (name : Text) : Option Text :=
  request.query.reverse.lookup name

/-- Answers a request for an endpoint. Without an engine, requests that need one break down before
they are looked at. -/
def answer (engine? : Option Engine) (request : Request) : Endpoint → Response
  | .health => health engine?
  | .lookup =>
    match engine? with
    | none => .broken
    | some engine =>
      match parameter? request "spec".toList with
      | some spec => lookup engine spec
      | none => .rejected [⟨[.field "query".toList, .field "spec".toList], .missing⟩]
  | .matching =>
    match engine? with
    | none => .broken
    | some engine =>
      let place := [Step.field "body".toList]
      match request.body? with
      | none => .rejected [⟨place, .missing⟩]
      | some .null => .rejected [⟨place, .missing⟩]
      | some body =>
        match MatchForm.check place body with
        | .faulty problems => .rejected problems
        | .sound form => judge engine form
  | .custom =>
    match engine? with
    | none => .broken
    | some engine => custom engine

private def turnAway (request : Request) (status : Nat) (message : Text) : Response :=
  if Text.upper request.method = "HEAD".toList then .bare status else detail status message

def respond (engine? : Option Engine) (request : Request) : Response :=
  match Endpoint.ofPath? request.path with
  | none => turnAway request 404 "Not Found".toList
  | some endpoint =>
    if Text.upper request.method = endpoint.method then answer engine? request endpoint
    else turnAway request 405 "Method Not Allowed".toList

end ItemSpec.Service
