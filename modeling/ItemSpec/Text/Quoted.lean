import ItemSpec.Text.Basic
import ItemSpec.Text.PrintableTable
set_option autoImplicit false

/-! Quoted text, for messages: between single quotes, or between double quotes where the text has a
single quote and no double one. The quote in use and the backslash are escaped, and letters without a
visible form are written by their code point. -/

namespace ItemSpec.Text

private def singleQuote : Char := Char.ofNat 0x27

private def doubleQuote : Char := Char.ofNat 0x22

private def backslash : Char := Char.ofNat 0x5C

/-- Whether a letter has a visible form; the space counts as visible. -/
def isPrintable (letter : Char) : Bool :=
  !CodeSpan.covers PrintableTable.invisible letter.toNat

private def hexDigit (digit : Nat) : Char :=
  if digit < 10 then Char.ofNat (48 + digit) else Char.ofNat (87 + digit)

def hexDigits : Nat → Nat → Text
  | 0, _ => []
  | width + 1, number => hexDigits width (number / 16) ++ [hexDigit (number % 16)]

/-- A code point by its number, in the shortest of the three widths that holds it. -/
def escapeCode (code : Nat) : Text :=
  if code < 0x100 then backslash :: 'x' :: hexDigits 2 code
  else if code < 0x10000 then backslash :: 'u' :: hexDigits 4 code
  else backslash :: 'U' :: hexDigits 8 code

def escapeLetter (mark : Char) (letter : Char) : Text :=
  if letter = mark ∨ letter = backslash then [backslash, letter]
  else if letter = '\n' then [backslash, 'n']
  else if letter = '\r' then [backslash, 'r']
  else if letter = '\t' then [backslash, 't']
  else if isPrintable letter then [letter]
  else escapeCode letter.toNat

def quoteMark (text : Text) : Char :=
  if singleQuote ∈ text ∧ doubleQuote ∉ text then doubleQuote else singleQuote

def quote (text : Text) : Text :=
  quoteMark text :: text.flatMap (escapeLetter (quoteMark text)) ++ [quoteMark text]

def quoteList (texts : List Text) : Text :=
  '[' :: join [',', ' '] (texts.map quote) ++ [']']

end ItemSpec.Text
