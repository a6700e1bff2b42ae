import FieldRules.Text.NameSet
import Mathlib.Data.List.Sort

/-!
# The order of texts

Texts are compared by their code points, which is a linear order.  A set of names
is therefore determined by its members: it lists them in ascending order, each
once, in whatever order they came.
-/

namespace FieldRules

/-- A comparison by a part is transitive if the comparison of the parts is. -/
theorem transCmp_of_part {α β : Type} (cmp : β → β → Ordering) [Std.TransCmp cmp] (part : α → β) :
    Std.TransCmp fun a b => cmp (part a) (part b) where
  eq_swap := Std.OrientedCmp.eq_swap
  isLE_trans := Std.TransCmp.isLE_trans

namespace Text

theorem compare_eq_compareLex :
    Text.compare = List.compareLex fun a b : Char => compare a.toNat b.toNat := by
  funext s t
  induction s generalizing t with
  | nil => cases t <;> rfl
  | cons a s ih =>
      cases t with
      | nil => rfl
      | cons b t => rw [Text.compare, List.compareLex_cons_cons, ih]

instance : Std.TransCmp Text.compare := by
  have hchars : Std.TransCmp fun a b : Char => compare a.toNat b.toNat :=
    transCmp_of_part compare Char.toNat
  rw [compare_eq_compareLex]
  infer_instance

instance : Std.LawfulEqCmp Text.compare where
  compare_self := compare_eq_eq_iff.mpr rfl
  eq_of_compare := compare_eq_eq_iff.mp

/-! ## Sets of names -/

/-- In order, and each name once. -/
def Ascending (names : List Text) : Prop :=
  names.Pairwise fun a b => Text.compare a b = .lt

theorem Ascending.insertName
    {names : List Text} (hnames : Ascending names) (name : Text) :
    Ascending (insertName name names) := by
  induction names with
  | nil => simp [Text.insertName, Ascending]
  | cons first rest ih =>
      obtain ⟨hfirst, hrest⟩ := List.pairwise_cons.mp hnames
      unfold Text.insertName
      split
      · next hlt =>
          refine List.pairwise_cons.mpr ⟨?_, hnames⟩
          intro other hother
          rcases List.mem_cons.mp hother with rfl | htail
          · exact hlt
          · exact Std.TransCmp.lt_trans hlt (hfirst other htail)
      · exact hnames
      · next hgt =>
          refine List.pairwise_cons.mpr ⟨?_, ih hrest⟩
          intro other hother
          rcases mem_insertName.mp hother with rfl | htail
          · exact Std.OrientedCmp.gt_iff_lt.mp hgt
          · exact hfirst other htail

theorem nameSet_ascending (names : List Text) : Ascending (nameSet names) := by
  induction names with
  | nil => exact List.Pairwise.nil
  | cons first rest ih => exact ih.insertName first

theorem Ascending.eq_of_mem_iff
    {names others : List Text} (hnames : Ascending names) (hothers : Ascending others)
    (h : ∀ name, name ∈ names ↔ name ∈ others) : names = others := by
  have hirrefl : Std.Irrefl fun a b : Text => Text.compare a b = .lt := by
    constructor
    intro a hlt
    simp [compare_eq_eq_iff.mpr rfl] at hlt
  have hantisymm : Std.Antisymm fun a b : Text => Text.compare a b = .lt := by
    constructor
    intro a b hlt hgt
    exact absurd (Std.TransCmp.lt_trans hlt hgt) (hirrefl.irrefl a)
  exact List.Pairwise.eq_of_mem_iff hnames hothers h

theorem nameSet_eq_of_mem_iff {names others : List Text}
    (h : ∀ name, name ∈ names ↔ name ∈ others) : nameSet names = nameSet others := by
  apply (nameSet_ascending names).eq_of_mem_iff (nameSet_ascending others)
  intro name
  rw [mem_nameSet, mem_nameSet, h]

end Text
end FieldRules
