import ItemSpec.Modifier.Rule
set_option autoImplicit false

/-! `flag:hide_dye`: the stack has this item flag. Several tokens ask for all of their flags. -/

namespace ItemSpec.Modifier.Flag

def word : Text := "flag".toList

def flag? (token : Text) : Option ItemFlag :=
  match Text.cut ':' (Text.lower token) with
  | [first, name] => if first = word then ItemFlag.ofName? name else none
  | _ => none

def rule : Rule FlagSet where
  name := "FlagArgParser".toList
  part := .flags
  request tokens :=
    let flags := FlagSet.ofList (tokens.filterMap flag?)
    pure (if flags.isEmpty then none else some flags)
  write flags data := { data with flags := data.flags.union flags }
  holds flags data := data.flags.includes flags

end ItemSpec.Modifier.Flag
