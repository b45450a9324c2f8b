import ItemSpec.Text.Basic
set_option autoImplicit false

/-! The blank characters: the white space of the Unicode standard together with the four separators
of the ASCII control block. -/

namespace ItemSpec.Text

def isBlank (letter : Char) : Bool :=
  let code := letter.toNat
  (0x09 ≤ code && code ≤ 0x0D) || (0x1C ≤ code && code ≤ 0x20) || code == 0x85 || code == 0xA0 ||
    code == 0x1680 || (0x2000 ≤ code && code ≤ 0x200A) || code == 0x2028 || code == 0x2029 ||
    code == 0x202F || code == 0x205F || code == 0x3000

/-- The white space of the Unicode standard: the blank characters without the ASCII separators. -/
def isWhiteSpace (letter : Char) : Bool :=
  isBlank letter && !(0x1C ≤ letter.toNat && letter.toNat ≤ 0x1F)

def trim (text : Text) : Text :=
  ((text.dropWhile isWhiteSpace).reverse.dropWhile isWhiteSpace).reverse

end ItemSpec.Text
