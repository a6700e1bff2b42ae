import FieldRules.Text.Basic

/-!
# Values

What rules look at: a view of a value, which keeps the shape of data and forgets its types.  A
record is a named list of fields, each with its annotation, if it has one.
-/

namespace FieldRules

inductive Kind where
  | nil
  | bool
  | int
  | uint
  | float
  | text
  | list
  | array
  | map
  | optional
  | record
deriving Repr, DecidableEq

namespace Kind

def name : Kind → Text
  | nil => "nil".toList
  | bool => "bool".toList
  | int => "int".toList
  | uint => "uint".toList
  | float => "float".toList
  | text => "text".toList
  | list => "list".toList
  | array => "array".toList
  | map => "map".toList
  | optional => "optional".toList
  | record => "record".toList

end Kind

structure Field (α : Type) where
  name : Text
  annotation : Option Text
  value : α

inductive Value where
  | nil
  | bool (value : Bool)
  /-- A signed integer of at most 64 bits. -/
  | int (value : Int)
  /-- An unsigned integer of at most 64 bits. -/
  | uint (value : Nat)
  /-- A 64-bit float, by its bits. -/
  | float (bits : UInt64)
  | text (value : Text)
  | list (elements : List Value)
  | array (elements : List Value)
  /-- A map, of which only the number of entries shows. -/
  | map (size : Nat)
  | optional (inner : Value)
  | record (name : Text) (fields : List (Field Value))

namespace Value

def kind : Value → Kind
  | nil => .nil
  | bool _ => .bool
  | int _ => .int
  | uint _ => .uint
  | float _ => .float
  | text _ => .text
  | list _ => .list
  | array _ => .array
  | map _ => .map
  | optional _ => .optional
  | record _ _ => .record

/-- The value without one level of optionality. -/
def resolve : Value → Value
  | optional inner => inner
  | other => other

/-- How long a value is: a text in bytes of UTF-8, a sequence or map in entries. -/
def length? : Value → Option Nat
  | text value => some value.byteLength
  | list elements => some elements.length
  | array elements => some elements.length
  | map size => some size
  | _ => none

def elements? : Value → Option (List Value)
  | list elements => some elements
  | array elements => some elements
  | _ => none

def text? : Value → Option Text
  | text value => some value
  | _ => none

def recordName? : Value → Option Text
  | record name _ => some name
  | _ => none

def isNil : Value → Bool
  | nil => true
  | _ => false

mutual

/-- The value is the zero of its shape.  Arrays and records are zero when all that they hold is;
lists and maps when they are empty; an optional value never is.  A float is zero only if all its
bits are clear, so negative zero is not. -/
def isZero : Value → Bool
  | nil => true
  | bool value => !value
  | int value => value == 0
  | uint value => value == 0
  | float bits => bits == 0
  | text value => value.isEmpty
  | list elements => elements.isEmpty
  | array elements => allZero elements
  | map size => size == 0
  | optional _ => false
  | record _ fields => allFieldsZero fields

def allZero : List Value → Bool
  | [] => true
  | value :: rest => value.isZero && allZero rest

def allFieldsZero : List (Field Value) → Bool
  | [] => true
  | ⟨_, _, value⟩ :: rest => value.isZero && allFieldsZero rest

end

end Value
end FieldRules
