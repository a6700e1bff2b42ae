import FieldRules.Json.Basic

/-!
# Printing JSON

A value is printed over several lines, two blanks for each level.  Strings escape the double quote,
the backslash and control characters, and nothing else.
-/

namespace FieldRules.Json

def hexPair (n : Nat) : Text := [Nat.digitChar (n / 16), Nat.digitChar (n % 16)]

def escape (c : Char) : Text :=
  if c = '"' then ['\\', '"']
  else if c = '\\' then ['\\', '\\']
  else if c = '\n' then ['\\', 'n']
  else if c = '\r' then ['\\', 'r']
  else if c = '\t' then ['\\', 't']
  else if c = '\x08' then ['\\', 'b']
  else if c = '\x0c' then ['\\', 'f']
  else if c < ' ' then ['\\', 'u', '0', '0'] ++ hexPair c.toNat
  else [c]

def printString (t : Text) : Text := '"' :: t.flatMap escape ++ ['"']

def lineStart (level : Nat) : Text := '\n' :: List.replicate (2 * level) ' '

mutual

def printAt (level : Nat) : Json → Text
  | .null => "null".toList
  | .bool true => "true".toList
  | .bool false => "false".toList
  | .number numeral => numeral
  | .string text => printString text
  | .array [] => ['[', ']']
  | .array (element :: rest) =>
    '[' :: lineStart (level + 1) ++ printElements (level + 1) (element :: rest)
      ++ lineStart level ++ [']']
  | .object [] => ['{', '}']
  | .object (entry :: rest) =>
    '{' :: lineStart (level + 1) ++ printMembers (level + 1) (entry :: rest)
      ++ lineStart level ++ ['}']
  | .unreadable => "\"\\ud800\"".toList

def printElements (level : Nat) : List Json → Text
  | [] => []
  | [element] => printAt level element
  | element :: second :: rest =>
    printAt level element ++ ',' :: lineStart level ++ printElements level (second :: rest)

def printMembers (level : Nat) : List (Text × Json) → Text
  | [] => []
  | [(name, value)] => printString name ++ ':' :: ' ' :: printAt level value
  | (name, value) :: second :: rest =>
    printString name ++ ':' :: ' ' :: printAt level value
      ++ ',' :: lineStart level ++ printMembers level (second :: rest)

end

def print (value : Json) : Text := printAt 0 value

end FieldRules.Json
