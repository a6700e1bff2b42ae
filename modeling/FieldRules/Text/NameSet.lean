import FieldRules.Text.Basic

/-!
# Sets of names

A set of names is kept as the list of its members in order, each of them once.
-/

namespace FieldRules.Text

def insertName (name : Text) : List Text → List Text
  | [] => [name]
  | other :: rest =>
    match Text.compare name other with
    | .lt => name :: other :: rest
    | .eq => other :: rest
    | .gt => other :: insertName name rest

def nameSet (names : List Text) : List Text := names.foldr insertName []

@[simp] theorem mem_insertName {name other : Text} {names : List Text} :
    other ∈ insertName name names ↔ other = name ∨ other ∈ names := by
  induction names with
  | nil => simp [insertName]
  | cons first rest ih =>
    unfold insertName
    split
    · simp
    · next heq =>
      obtain rfl := compare_eq_eq_iff.1 heq
      simp
    · rw [List.mem_cons, ih, List.mem_cons]
      exact or_left_comm

@[simp] theorem mem_nameSet {name : Text} {names : List Text} :
    name ∈ nameSet names ↔ name ∈ names := by
  induction names with
  | nil => simp [nameSet]
  | cons first rest ih =>
    rw [nameSet, List.foldr_cons, mem_insertName, ← nameSet, ih, List.mem_cons]

end FieldRules.Text
