import ItemSpec.Modifier.BuiltIn
import ItemSpec.Registry
set_option autoImplicit false

/-! The engine: what a lookup works with. A host makes one, adds custom items and parsers to it, and
may give it a resolver of its own for the names of materials. -/

namespace ItemSpec

abbrev Resolver := Text → Option Material

namespace Resolver

def catalogue : Resolver := Material.resolve

def denying (denied : List Material) : Resolver := fun name =>
  (Material.resolve name).filter fun material => decide (material ∉ denied)

def table (names : List (Text × Material)) : Resolver := fun name => names.lookup name

end Resolver

structure Engine where
  registry : Registry := .empty
  parsers : List Modifier.Parser := []
  resolve : Resolver := Resolver.catalogue
  policy : StackPolicy := .atLeast

namespace Engine

/-- Adds what is offered behind the parsers that are there; an offer that is no parser is refused. -/
def addParser (engine : Engine) : Modifier.Offer → Traced Engine
  | .other value => Traced.fail (.notParser value.written)
  | .parser parser => do
    Traced.note (.parserAdded parser.name)
    pure { engine with parsers := engine.parsers ++ [parser] }

def addParsers (engine : Engine) : List Modifier.Offer → Traced Engine
  | [] => pure engine
  | offer :: others => do
    let extended ← engine.addParser offer
    extended.addParsers others

def defaultOffers : List Modifier.Offer :=
  Modifier.BuiltIn.all.map fun builtIn => .parser builtIn.parser

def register (engine : Engine) (key : Key) (item : Handle) : Traced Engine := do
  let registry ← engine.registry.register key item
  pure { engine with registry }

def remove (engine : Engine) (key : Key) : Traced Engine := do
  let registry ← engine.registry.remove key
  pure { engine with registry }

def clear (engine : Engine) : Engine :=
  { engine with registry := .empty, parsers := [] }

end Engine

end ItemSpec
