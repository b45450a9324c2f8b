import ItemSpec.Engine.Basic
import ItemSpec.LogSetup
import ItemSpec.Service.Validation
set_option autoImplicit false

/-! The settings of the service, read from environment variables. Names of variables count in any case
of their letters, values are taken as they are written, and variables of other names are passed over. -/

namespace ItemSpec

structure Settings where
  debug : Bool := false
  logLevel : Text := LogSetup.defaultName
  policy : StackPolicy := .atLeast
  defaultParsers : Bool := true

namespace Settings

/-- The value of a variable; of variables that differ in case alone the last counts. -/
def value? (environment : List (Text × Text)) (name : Text) : Option Text :=
  let sought := Text.lower name
  (environment.reverse.find? fun entry => Text.lower entry.1 = sought).map Prod.snd

def setting {Value : Type} (environment : List (Text × Text)) (name : String) (default : Value)
    (check : Check Value) : Checked Value :=
  match value? environment name.toList with
  | some written => check [.field name.toList] (.text written)
  | none => .sound default

def ofEnvironment (environment : List (Text × Text)) : Checked Settings :=
  let defaults : Settings := {}
  Settings.mk
    <$> setting environment "DEBUG" defaults.debug Check.truth
    <*> setting environment "LOG_LEVEL" defaults.logLevel Check.text
    <*> setting environment "STACK_MATCH_POLICY" defaults.policy Check.policy
    <*> setting environment "REGISTER_DEFAULT_ARG_PARSERS" defaults.defaultParsers Check.truth

def engine (settings : Settings) : Engine :=
  { policy := settings.policy
    parsers := if settings.defaultParsers then
      Modifier.BuiltIn.all.map Modifier.BuiltIn.parser else [] }

end Settings

end ItemSpec
