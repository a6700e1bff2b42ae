import FieldRules.Text.Basic

/-!
# Integer numerals

Reading a signed 64-bit integer.  A numeral is an optional sign followed by at least one decimal
digit.  Digits are taken from left to right, and the first one that is no digit, or that leads
out of the range, decides how the reading fails.
-/

namespace FieldRules

inductive NumeralFault where
  | empty
  | invalidDigit
  | tooLarge
  | tooSmall
deriving Repr, DecidableEq

namespace NumeralFault

def message : NumeralFault → Text
  | empty => "cannot parse integer from empty string".toList
  | invalidDigit => "invalid digit found in string".toList
  | tooLarge => "number too large to fit in target type".toList
  | tooSmall => "number too small to fit in target type".toList

end NumeralFault

namespace Text

/-- The least number that a numeral may stand for. -/
def minInt64 : Int := -9223372036854775808

/-- The greatest number that a numeral may stand for. -/
def maxInt64 : Int := 9223372036854775807

def digit? (c : Char) : Option Nat :=
  if '0' ≤ c ∧ c ≤ '9' then some (c.toNat - '0'.toNat) else none

/-- Continues a non-negative numeral whose digits so far have the given value. -/
def readUp (value : Int) : Text → Except NumeralFault Int
  | [] => .ok value
  | c :: rest =>
    match digit? c with
    | none => .error .invalidDigit
    | some d =>
      if value * 10 + d ≤ maxInt64 then readUp (value * 10 + d) rest else .error .tooLarge

def readDown (value : Int) : Text → Except NumeralFault Int
  | [] => .ok value
  | c :: rest =>
    match digit? c with
    | none => .error .invalidDigit
    | some d =>
      if minInt64 ≤ value * 10 - d then readDown (value * 10 - d) rest else .error .tooSmall

def readInt64 : Text → Except NumeralFault Int
  | [] => .error .empty
  | ['+'] => .error .invalidDigit
  | ['-'] => .error .invalidDigit
  | '+' :: rest => readUp 0 rest
  | '-' :: rest => readDown 0 rest
  | t => readUp 0 t

end Text
end FieldRules
