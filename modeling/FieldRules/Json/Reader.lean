import FieldRules.Json.Basic
import FieldRules.Source.Literal

/-!
# Reading JSON

A reader takes a value from the beginning of a text and answers it with what is left.  Each value
takes at least one character, so that the length of the text bounds the depth of the reading.
-/

namespace FieldRules.Json

open Source (hexDigit?)

def isBlank (c : Char) : Bool := c == ' ' || c == '\n' || c == '\t' || c == '\r'

def skipBlanks (t : Text) : Text := t.dropWhile isBlank

/-! ## Strings -/

def shortEscape? : Char → Option Char
  | '"' => some '"'
  | '\\' => some '\\'
  | '/' => some '/'
  | 'b' => some '\x08'
  | 'f' => some '\x0c'
  | 'n' => some '\n'
  | 'r' => some '\r'
  | 't' => some '\t'
  | _ => none

/-- A part of a string: a character, or a half of a surrogate pair. -/
inductive Unit16 where
  | char (c : Char)
  | high (value : Nat)
  | low (value : Nat)

def Unit16.ofNat (n : Nat) : Unit16 :=
  if 0xD800 ≤ n ∧ n < 0xDC00 then .high (n - 0xD800)
  else if 0xDC00 ≤ n ∧ n < 0xE000 then .low (n - 0xDC00)
  else .char (Char.ofNat n)

def hexQuad? (a b c d : Char) : Option Nat := do
  let a ← hexDigit? a
  let b ← hexDigit? b
  let c ← hexDigit? c
  let d ← hexDigit? d
  return ((a * 16 + b) * 16 + c) * 16 + d

def readUnits : Text → Option (List Unit16 × Text)
  | '"' :: rest => some ([], rest)
  | '\\' :: 'u' :: a :: b :: c :: d :: rest => do
    let value ← hexQuad? a b c d
    let (units, left) ← readUnits rest
    return (.ofNat value :: units, left)
  | '\\' :: c :: rest => do
    let escaped ← shortEscape? c
    let (units, left) ← readUnits rest
    return (.char escaped :: units, left)
  | c :: rest =>
    if c < ' ' then none
    else do
      let (units, left) ← readUnits rest
      return (.char c :: units, left)
  | [] => none

/-- The text of a string, if no half of a surrogate pair stands alone in it. -/
def pairUnits : List Unit16 → Option Text
  | [] => some []
  | .char c :: rest => (pairUnits rest).map (c :: ·)
  | .high high :: .low low :: rest =>
    (pairUnits rest).map (Char.ofNat (0x10000 + high * 0x400 + low) :: ·)
  | _ => none

/-! ## Numbers -/

def takeDigits? (t : Text) : Option (Text × Text) :=
  match t.takeWhile Char.isDigit with
  | [] => none
  | digits => some (digits, t.dropWhile Char.isDigit)

def takeWhole? (t : Text) : Option (Text × Text) :=
  match takeDigits? t with
  | some ('0' :: _ :: _, _) => none
  | result => result

def takeFraction? (t : Text) : Option (Text × Text) :=
  match t with
  | '.' :: rest => (takeDigits? rest).map fun parts => ('.' :: parts.1, parts.2)
  | _ => some ([], t)

def takeExponent? (t : Text) : Option (Text × Text) :=
  match t with
  | [] => some ([], [])
  | mark :: rest =>
    if mark = 'e' ∨ mark = 'E' then
      match rest with
      | '+' :: more => (takeDigits? more).map fun parts => (mark :: '+' :: parts.1, parts.2)
      | '-' :: more => (takeDigits? more).map fun parts => (mark :: '-' :: parts.1, parts.2)
      | _ => (takeDigits? rest).map fun parts => (mark :: parts.1, parts.2)
    else some ([], t)

def takeUnsigned? (t : Text) : Option (Text × Text) := do
  let (whole, rest) ← takeWhole? t
  let (fraction, rest) ← takeFraction? rest
  let (exponent, rest) ← takeExponent? rest
  return (whole ++ fraction ++ exponent, rest)

def takeNumber? (t : Text) : Option (Text × Text) :=
  match t with
  | '-' :: rest => (takeUnsigned? rest).map fun parts => ('-' :: parts.1, parts.2)
  | _ => takeUnsigned? t

/-! ## Values -/

def ofMembers (members : List (Option Text × Json)) : Json :=
  match members.mapM fun entry => entry.1.map fun name => (name, entry.2) with
  | some members => .object members
  | none => .unreadable

mutual

/-- Reads a value that begins the text, nested at most so deep. -/
def readValue : Nat → Text → Option (Json × Text)
  | 0, _ => none
  | depth + 1, t =>
    match t with
    | 'n' :: 'u' :: 'l' :: 'l' :: rest => some (.null, rest)
    | 't' :: 'r' :: 'u' :: 'e' :: rest => some (.bool true, rest)
    | 'f' :: 'a' :: 'l' :: 's' :: 'e' :: rest => some (.bool false, rest)
    | '"' :: rest =>
      match readUnits rest with
      | some (units, rest) =>
        match pairUnits units with
        | some text => some (.string text, rest)
        | none => some (.unreadable, rest)
      | none => none
    | '[' :: rest =>
      match skipBlanks rest with
      | ']' :: rest => some (.array [], rest)
      | first => (readElements depth first).map fun parts => (.array parts.1, parts.2)
    | '{' :: rest =>
      match skipBlanks rest with
      | '}' :: rest => some (.object [], rest)
      | first => (readMembers depth first).map fun parts => (ofMembers parts.1, parts.2)
    | _ => (takeNumber? t).map fun parts => (.number parts.1, parts.2)

def readElements : Nat → Text → Option (List Json × Text)
  | 0, _ => none
  | depth + 1, t =>
    match readValue depth t with
    | none => none
    | some (element, rest) =>
      match skipBlanks rest with
      | ']' :: rest => some ([element], rest)
      | ',' :: rest =>
        (readElements depth (skipBlanks rest)).map fun parts => (element :: parts.1, parts.2)
      | _ => none

def readMembers : Nat → Text → Option (List (Option Text × Json) × Text)
  | 0, _ => none
  | depth + 1, t =>
    match t with
    | '"' :: rest =>
      match readUnits rest with
      | none => none
      | some (units, rest) =>
        match skipBlanks rest with
        | ':' :: rest =>
          match readValue depth (skipBlanks rest) with
          | none => none
          | some (value, rest) =>
            match skipBlanks rest with
            | '}' :: rest => some ([(pairUnits units, value)], rest)
            | ',' :: rest =>
              (readMembers depth (skipBlanks rest)).map fun parts =>
                ((pairUnits units, value) :: parts.1, parts.2)
            | _ => none
        | _ => none
    | _ => none

end

def read? (t : Text) : Option Json :=
  match readValue (2 * t.length + 2) (skipBlanks t) with
  | some (value, rest) => if (skipBlanks rest).isEmpty then some value else none
  | none => none

end FieldRules.Json
