import ItemSpec.Traced
import ItemSpec.Text.Case
set_option autoImplicit false

/-! The set-up of the log: which notices are kept, by the name of a level. -/

namespace ItemSpec.LogSetup

def levels : List (Text × Nat) :=
  [("CRITICAL".toList, 50), ("FATAL".toList, 50), ("ERROR".toList, 40), ("WARNING".toList, 30),
   ("WARN".toList, 30), ("INFO".toList, 20), ("DEBUG".toList, 10), ("NOTSET".toList, 0)]

def defaultName : Text := "INFO".toList

/-- The level that stands in for one of an unknown name. -/
def fallback : Nat := 20

def run (name : Text) : Nat × List Notice :=
  match levels.lookup (Text.upper name) with
  | some level => (level, [])
  | none => (fallback, [.unknownLogLevel name])

end ItemSpec.LogSetup
