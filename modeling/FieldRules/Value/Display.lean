import FieldRules.Value.Basic
import FieldRules.Float64

/-!
# The text of a value

How a message shows the value that it complains about.  Sequences stand in brackets and records
in braces, both with blanks between their parts; an optional value looks like what it holds.
-/

namespace FieldRules.Value

mutual

def display : Value → Text
  | nil => "<nil>".toList
  | bool true => "true".toList
  | bool false => "false".toList
  | int value => Text.ofInt value
  | uint value => Text.ofNat value
  | float bits => Float64.text bits
  | text value => value
  | list elements => '[' :: displayElements elements ++ [']']
  | array elements => '[' :: displayElements elements ++ [']']
  | map size => "map[len=".toList ++ Text.ofNat size ++ [']']
  | optional inner => inner.display
  | record _ fields => '{' :: displayFields fields ++ ['}']

/-- The texts of elements, with a blank before all but the first. -/
def displayElements : List Value → Text
  | [] => []
  | [value] => value.display
  | value :: second :: rest => value.display ++ ' ' :: displayElements (second :: rest)

def displayFields : List (Field Value) → Text
  | [] => []
  | [⟨_, _, value⟩] => value.display
  | ⟨_, _, value⟩ :: second :: rest => value.display ++ ' ' :: displayFields (second :: rest)

end

@[simp] theorem display_list (elements : List Value) :
    (list elements).display = '[' :: displayElements elements ++ [']'] := rfl

@[simp] theorem display_array (elements : List Value) :
    (array elements).display = '[' :: displayElements elements ++ [']'] := rfl

@[simp] theorem display_optional (inner : Value) : (optional inner).display = inner.display := rfl

@[simp] theorem display_record (name : Text) (fields : List (Field Value)) :
    (record name fields).display = '{' :: displayFields fields ++ ['}'] := rfl

/-- The texts of the elements, joined by blanks. -/
theorem displayElements_eq_intercalate :
    ∀ elements : List Value, displayElements elements = [' '].intercalate (elements.map display)
  | [] => rfl
  | [value] => by
      rw [List.map_singleton, List.intercalate_singleton]
      rfl
  | value :: second :: rest => by
      have hrest := displayElements_eq_intercalate (second :: rest)
      rw [List.map_cons] at hrest
      rw [List.map_cons, List.map_cons, List.intercalate_cons_cons, ← hrest, List.append_assoc]
      rfl

theorem displayFields_eq_intercalate :
    ∀ fields : List (Field Value),
      displayFields fields = [' '].intercalate (fields.map fun field => field.value.display)
  | [] => rfl
  | [field] => by
      rw [List.map_singleton, List.intercalate_singleton]
      rfl
  | field :: second :: rest => by
      have hrest := displayFields_eq_intercalate (second :: rest)
      rw [List.map_cons] at hrest
      rw [List.map_cons, List.map_cons, List.intercalate_cons_cons, ← hrest, List.append_assoc]
      rfl

end FieldRules.Value
