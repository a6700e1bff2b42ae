import FieldRules.Text.Basic

/-!
# Sites

Where in a record a rule is at work: a field of the record, and inside it the element that the
surrounding each-clauses have come to.
-/

namespace FieldRules

structure Site where
  record : Text
  field : Text
  /-- The annotation of the field, as written. -/
  annotation : Text
  /-- The positions of elements, that of the outermost clause first. -/
  indices : List Nat
deriving Repr, DecidableEq

namespace Site

def ofField (record field annotation : Text) : Site := ⟨record, field, annotation, []⟩

def element (site : Site) (index : Nat) : Site :=
  { site with indices := site.indices ++ [index] }

def bracketed (index : Nat) : Text := '[' :: Text.ofNat index ++ [']']

def path (site : Site) : Text := site.field ++ site.indices.flatMap bracketed

end Site
end FieldRules
