import FieldRules.Text.Basic
import FieldRules.Text.Printable

/-!
# Quoted text

The form in which a message shows a text that it has been given: between double quotes, with
the backslash, the double quote and the common controls written as two characters, and every
other character that would not be seen as itself written as its code point.
-/

namespace FieldRules.Text

def escapeCodePoint (c : Char) : Text :=
  ['\\', 'u', '{'] ++ Nat.toDigits 16 c.toNat ++ ['}']

/-- The quoted form of one character.  A single quote stands for itself. -/
def quoteChar (c : Char) : Text :=
  if c = '\x00' then ['\\', '0']
  else if c = '\t' then ['\\', 't']
  else if c = '\r' then ['\\', 'r']
  else if c = '\n' then ['\\', 'n']
  else if c = '\\' || c = '"' then ['\\', c]
  else if isPrintable c && !extendsGrapheme c then [c]
  else escapeCodePoint c

def quoted (t : Text) : Text := ['"'] ++ t.flatMap quoteChar ++ ['"']

end FieldRules.Text
