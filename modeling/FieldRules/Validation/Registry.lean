import FieldRules.Validation.Rule

/-!
# Registries

A registry holds rules by name, at most one under each.  Registering under a name that is taken
replaces the rule that was there.
-/

namespace FieldRules

structure Registry where
  entries : List (Text × Rule)
  nodup_names : (entries.map Prod.fst).Nodup

namespace Registry

def empty : Registry := ⟨[], by simp⟩

def register (registry : Registry) (name : Text) (rule : Rule) : Registry where
  entries := (name, rule) :: registry.entries.filter fun entry => entry.1 ≠ name
  nodup_names := by
    have hrest : ((registry.entries.filter fun entry => entry.1 ≠ name).map Prod.fst).Nodup :=
      registry.nodup_names.sublist (List.filter_sublist.map _)
    simp only [List.map_cons, List.nodup_cons]
    refine ⟨?_, hrest⟩
    simp

def get? (registry : Registry) (name : Text) : Option Rule :=
  (registry.entries.find? fun entry => entry.1 = name).map Prod.snd

def contains (registry : Registry) (name : Text) : Bool := (registry.get? name).isSome

def names (registry : Registry) : List Text := registry.entries.map Prod.fst

def sortedNames (registry : Registry) : List Text :=
  registry.names.mergeSort fun a b => (Text.compare a b).isLE

def size (registry : Registry) : Nat := registry.entries.length

def isEmpty (registry : Registry) : Bool := registry.entries.isEmpty

def registerAll (registry : Registry) (rules : List (Text × Rule)) : Registry :=
  rules.foldl (fun current entry => current.register entry.1 entry.2) registry

def builtin : Registry := empty.registerAll Rule.builtins

def describe (registry : Registry) : Text :=
  "Registry \x7b validators: [".toList
    ++ [',', ' '].intercalate (registry.sortedNames.map Text.quoted) ++ "] \x7d".toList

@[simp] theorem get?_register_self (registry : Registry) (name : Text) (rule : Rule) :
    (registry.register name rule).get? name = some rule := by
  simp [register, get?]

theorem get?_register_of_ne (registry : Registry) {name other : Text} (rule : Rule)
    (h : other ≠ name) : (registry.register name rule).get? other = registry.get? other := by
  have hkeep (entry : Text × Rule) : entry.1 ≠ name ∧ entry.1 = other ↔ entry.1 = other :=
    ⟨And.right, fun hentry => ⟨hentry ▸ h, hentry⟩⟩
  simp [register, get?, List.find?_filter, Ne.symm h, hkeep]

/-- What is found after a registration is the new rule or was there before. -/
theorem of_get?_register (registry : Registry) {name other : Text} {rule found : Rule}
    (h : (registry.register name rule).get? other = some found) :
    other = name ∧ rule = found ∨ other ≠ name ∧ registry.get? other = some found := by
  by_cases hsame : other = name
  · rw [hsame, get?_register_self] at h
    exact .inl ⟨hsame, Option.some.inj h⟩
  · rw [registry.get?_register_of_ne rule hsame] at h
    exact .inr ⟨hsame, h⟩

end Registry
end FieldRules
