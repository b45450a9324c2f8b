import ItemSpec.CustomItem
set_option autoImplicit false

/-! Matchers as objects. Matchers are values, and equal ones cannot be told apart; where it matters
whether two of them are one and the same object, each comes with a serial number. -/

namespace ItemSpec

/-- A matcher as an object: two handles are of one object exactly when their serial numbers agree. -/
structure Handle where
  serial : Nat
  matcher : Matcher

namespace Handle

def sharedEmpty : Handle := ⟨0, .empty⟩

end Handle

def CustomItem.handle (item : CustomItem) : Handle :=
  ⟨item.serial, item.toMatcher⟩

end ItemSpec
