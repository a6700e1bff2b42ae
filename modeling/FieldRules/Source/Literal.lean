import FieldRules.Source.Tree

/-!
# String literals

What a string literal stands for.  In a plain literal a backslash begins an escape, and one at
the end of a line skips the white space that follows; a raw literal is taken as it is.
-/

namespace FieldRules.Source

def hexDigit? (c : Char) : Option Nat :=
  if '0' ≤ c ∧ c ≤ '9' then some (c.toNat - '0'.toNat)
  else if 'a' ≤ c ∧ c ≤ 'f' then some (c.toNat - 'a'.toNat + 10)
  else if 'A' ≤ c ∧ c ≤ 'F' then some (c.toNat - 'A'.toNat + 10)
  else none

def simpleEscape? : Char → Option Char
  | 'n' => some '\n'
  | 'r' => some '\r'
  | 't' => some '\t'
  | '0' => some '\x00'
  | '\\' => some '\\'
  | '\'' => some '\''
  | '"' => some '"'
  | _ => none

/-- The ASCII white space that a line may begin with after a continued one. -/
def isContinuationBlank (c : Char) : Bool := c == ' ' || c == '\t' || c == '\n' || c == '\r'

namespace StringLiteral

inductive Mode where
  | plain
  | escape
  | codePoint (value : Nat)
  | byte (first : Option Nat)
  | continuation

def cooked : Mode → Text → Text
  | _, [] => []
  | .plain, '"' :: _ => []
  | .plain, '\\' :: rest => cooked .escape rest
  | .plain, '\r' :: rest => cooked .plain rest
  | .plain, c :: rest => c :: cooked .plain rest
  | .escape, 'x' :: rest => cooked (.byte none) rest
  | .escape, 'u' :: rest => cooked (.codePoint 0) rest
  | .escape, c :: rest =>
    match simpleEscape? c with
    | some escaped => escaped :: cooked .plain rest
    | none => cooked .continuation rest
  | .byte none, c :: rest => cooked (.byte (some ((hexDigit? c).getD 0))) rest
  | .byte (some high), c :: rest =>
    Char.ofNat (high * 16 + (hexDigit? c).getD 0) :: cooked .plain rest
  | .codePoint value, '}' :: rest => Char.ofNat value :: cooked .plain rest
  | .codePoint value, c :: rest =>
    match hexDigit? c with
    | some digit => cooked (.codePoint (value * 16 + digit)) rest
    | none => cooked (.codePoint value) rest
  | .continuation, '"' :: _ => []
  | .continuation, '\\' :: rest => cooked .escape rest
  | .continuation, c :: rest =>
    if isContinuationBlank c then cooked .continuation rest else c :: cooked .plain rest

/-- The value of a literal as written, if it is a string literal.  What follows the closing quote
is a suffix, which does not belong to the value. -/
def value? : Text → Option Text
  | '"' :: rest => some (cooked .plain rest)
  | 'r' :: rest =>
    match rest.dropWhile (· == '#') with
    | '"' :: inside =>
      some ((inside.reverse.dropWhile (· ≠ '"')).drop 1).reverse
    | _ => none
  | _ => none

end StringLiteral

def isPlainInteger (text : Text) : Bool := !text.isEmpty && text.all Char.isDigit

def splitFraction? (text : Text) : Option (Text × Text) :=
  match Text.splitOnce? '.' text with
  | some (whole, fraction) =>
    if isPlainInteger whole && (fraction.isEmpty || isPlainInteger fraction)
    then some (whole, fraction) else none
  | none => none

end FieldRules.Source
