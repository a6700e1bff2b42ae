import FieldRules.Text.Basic

/-!
# JSON values

Numbers are kept as they are written, and objects as the list of their members, so that nothing is
lost between a text and its value.
-/

namespace FieldRules

inductive Json where
  | null
  | bool (value : Bool)
  | number (numeral : Text)
  | string (text : Text)
  | array (elements : List Json)
  | object (members : List (Text × Json))
  /-- A string, or an object with a name, in which half of a surrogate pair stands alone.  It can
  be passed over, but it has no value. -/
  | unreadable
deriving Repr

namespace Json

def natural? : Json → Option Nat
  | .number numeral =>
    if numeral.all Char.isDigit then
      let value := numeral.foldl (fun value c => value * 10 + (c.toNat - '0'.toNat)) 0
      if value < 18446744073709551616 then some value else none
    else none
  | _ => none

def text? : Json → Option Text
  | .string text => some text
  | _ => none

def listOf? {α : Type} (read : Json → Option α) : Json → Option (List α)
  | .array elements => elements.mapM read
  | _ => none

/-- The values of the fields of a structure.  They are given by an object in which each name stands
once, with any other members, or by an array in the order of the names. -/
def fields? (names : List Text) : Json → Option (List Json)
  | .object members =>
    names.mapM fun name =>
      match members.filter fun entry => entry.1 = name with
      | [(_, value)] => some value
      | _ => none
  | .array elements => if elements.length = names.length then some elements else none
  | _ => none

end Json
end FieldRules
