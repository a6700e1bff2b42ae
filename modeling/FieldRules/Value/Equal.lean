import FieldRules.Value.Basic

/-!
# Sameness of values

Two views are the same when they have the same shape and the same parts.  Floats are compared as
numbers: a NaN is not the same as itself, and the two zeros are the same.
-/

namespace FieldRules.Value

mutual

def same : Value → Value → Bool
  | nil, nil => true
  | bool a, bool b => a == b
  | int a, int b => a == b
  | uint a, uint b => a == b
  | float a, float b => Float.ofBits a == Float.ofBits b
  | text a, text b => a == b
  | list as, list bs => sameElements as bs
  | array as, array bs => sameElements as bs
  | map a, map b => a == b
  | optional a, optional b => same a b
  | record a as, record b bs => a == b && sameFields as bs
  | _, _ => false

def sameElements : List Value → List Value → Bool
  | [], [] => true
  | a :: as, b :: bs => same a b && sameElements as bs
  | _, _ => false

def sameFields : List (Field Value) → List (Field Value) → Bool
  | [], [] => true
  | ⟨nameA, annotationA, a⟩ :: as, ⟨nameB, annotationB, b⟩ :: bs =>
    nameA == nameB && annotationA == annotationB && same a b && sameFields as bs
  | _, _ => false

end

end FieldRules.Value
