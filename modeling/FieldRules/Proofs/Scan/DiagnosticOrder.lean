import FieldRules.Proofs.Text.Order
import FieldRules.Scan.Diagnostic

/-!
# The order of diagnostics

Diagnostics are compared by what a key holds of them, which is all but the spelling
of the path.  On keys the order is linear, so sorted lists with the same keys agree
key by key.  Sorting is stable, and therefore commutes with leaving diagnostics
out.
-/

namespace FieldRules

namespace FilePath

namespace Component

theorem compare_eq_then (a b : Component) :
    a.compare b = (Ord.compare a.rank b.rank).then (Text.compare a.text b.text) := by
  cases a <;> cases b <;> rfl

instance : Std.TransCmp Component.compare := by
  have hrank : Std.TransCmp fun a b : Component => Ord.compare a.rank b.rank :=
    transCmp_of_part compare rank
  have htext : Std.TransCmp fun a b : Component => Text.compare a.text b.text :=
    transCmp_of_part Text.compare text
  have hboth : Component.compare =
      compareLex (fun a b => Ord.compare a.rank b.rank)
        (fun a b => Text.compare a.text b.text) := by
    funext a b
    exact compare_eq_then a b
  rw [hboth]
  infer_instance

instance : Std.LawfulEqCmp Component.compare where
  compare_self := by
    intro a
    rw [compare_eq_then]
    simp
  eq_of_compare := by
    intro a b h
    rw [compare_eq_then, Ordering.then_eq_eq, Nat.compare_eq_eq,
      Text.compare_eq_eq_iff] at h
    cases a <;> cases b <;> simp_all [rank, text]

end Component

theorem compareComponents_eq_compareLex :
    compareComponents = List.compareLex Component.compare := by
  funext s t
  induction s generalizing t with
  | nil => cases t <;> rfl
  | cons a s ih =>
      cases t with
      | nil => rfl
      | cons b t => rw [compareComponents, List.compareLex_cons_cons, ih]

instance : Std.TransCmp compareComponents := by
  rw [compareComponents_eq_compareLex]
  infer_instance

instance : Std.LawfulEqCmp compareComponents := by
  rw [compareComponents_eq_compareLex]
  infer_instance

theorem same_iff {a b : FilePath} : a.same b = true ↔ a.components = b.components := by
  rw [same, beq_iff_eq]

end FilePath

/-! ## Keys -/

/-- What counts of a diagnostic when it is compared with another. -/
structure DiagnosticKey where
  file : List FilePath.Component
  line : Nat
  column : Nat
  record : Text
  field : Text
  annotation : Text
  message : Text

namespace DiagnosticKey

protected def compare : DiagnosticKey → DiagnosticKey → Ordering :=
  compareLex (fun a b => FilePath.compareComponents a.file b.file) <|
  compareLex (fun a b => Ord.compare a.line b.line) <|
  compareLex (fun a b => Ord.compare a.column b.column) <|
  compareLex (fun a b => Text.compare a.record b.record) <|
  compareLex (fun a b => Text.compare a.field b.field) <|
  compareLex (fun a b => Text.compare a.annotation b.annotation) fun a b =>
  Text.compare a.message b.message

instance : Std.TransCmp DiagnosticKey.compare := by
  have hfile := transCmp_of_part FilePath.compareComponents DiagnosticKey.file
  have hline := transCmp_of_part (compare : Nat → Nat → Ordering) DiagnosticKey.line
  have hcolumn := transCmp_of_part (compare : Nat → Nat → Ordering) DiagnosticKey.column
  have hrecord := transCmp_of_part Text.compare DiagnosticKey.record
  have hfield := transCmp_of_part Text.compare DiagnosticKey.field
  have hannotation := transCmp_of_part Text.compare DiagnosticKey.annotation
  have hmessage := transCmp_of_part Text.compare DiagnosticKey.message
  unfold DiagnosticKey.compare
  infer_instance

instance : Std.LawfulEqCmp DiagnosticKey.compare where
  compare_self := by
    intro a
    simp [DiagnosticKey.compare, compareLex, Std.ReflCmp.compare_self]
  eq_of_compare := by
    intro a b h
    simp only [DiagnosticKey.compare, compareLex, Ordering.then_eq_eq,
      Std.LawfulEqCmp.compare_eq_iff_eq] at h
    obtain ⟨hfile, hline, hcolumn, hrecord, hfield, hannotation, hmessage⟩ := h
    cases a
    cases b
    simp_all

end DiagnosticKey

namespace Diagnostic

def key (diagnostic : Diagnostic) : DiagnosticKey where
  file := diagnostic.file.components
  line := diagnostic.line
  column := diagnostic.column
  record := diagnostic.record
  field := diagnostic.field
  annotation := diagnostic.annotation
  message := diagnostic.message

instance : Std.TransCmp Diagnostic.compare :=
  transCmp_of_part DiagnosticKey.compare key

theorem same_iff_key {a b : Diagnostic} : a.same b = true ↔ a.key = b.key := by
  simp [same, key, FilePath.same_iff, and_assoc]

/-- The first diagnostic does not come after the second. -/
def NotAfter (a b : Diagnostic) : Prop := (a.compare b).isLE = true

theorem NotAfter.trans
    {a b c : Diagnostic} (hab : a.NotAfter b) (hbc : b.NotAfter c) : a.NotAfter c :=
  Std.TransCmp.isLE_trans hab hbc

theorem notAfter_total (a b : Diagnostic) : a.NotAfter b ∨ b.NotAfter a := by
  unfold NotAfter
  cases h : a.compare b with
  | lt => exact .inl rfl
  | eq => exact .inl rfl
  | gt =>
      have hlt : b.compare a = .lt := Std.OrientedCmp.gt_iff_lt.mp h
      rw [hlt]
      exact .inr rfl

/-! ## Sorting -/

theorem isLE_trans (a b c : Diagnostic) :
    (a.compare b).isLE = true → (b.compare c).isLE = true → (a.compare c).isLE = true :=
  NotAfter.trans

theorem isLE_total (a b : Diagnostic) : ((a.compare b).isLE || (b.compare a).isLE) = true := by
  rw [Bool.or_eq_true]
  exact notAfter_total a b

theorem sort_perm (diagnostics : List Diagnostic) : (sort diagnostics).Perm diagnostics :=
  List.mergeSort_perm diagnostics _

theorem sort_sorted (diagnostics : List Diagnostic) :
    (sort diagnostics).Pairwise NotAfter :=
  List.pairwise_mergeSort isLE_trans isLE_total diagnostics

/-- Ordered lists with the same diagnostics have the same keys in the same places. -/
theorem map_key_eq_of_pairwise
    {diagnostics others : List Diagnostic} (h : diagnostics.Perm others)
    (hdiagnostics : diagnostics.Pairwise NotAfter) (hothers : others.Pairwise NotAfter) :
    diagnostics.map key = others.map key := by
  have hkeys {list : List Diagnostic} (hlist : list.Pairwise NotAfter) :
      (list.map key).Pairwise fun a b => (DiagnosticKey.compare a b).isLE = true := by
    rw [List.pairwise_map]
    exact hlist
  refine List.Perm.eq_of_pairwise ?_ (hkeys hdiagnostics) (hkeys hothers) (h.map key)
  intro a b _ _ hab hba
  exact Std.LawfulEqCmp.eq_of_compare (Std.OrientedCmp.isLE_antisymm hab hba)

/-- Lists with the same diagnostics in a different order are sorted to the same keys. -/
theorem map_key_sort
    {diagnostics others : List Diagnostic} (h : diagnostics.Perm others) :
    (sort diagnostics).map key = (sort others).map key :=
  map_key_eq_of_pairwise (((sort_perm diagnostics).trans h).trans (sort_perm others).symm)
    (sort_sorted diagnostics) (sort_sorted others)

/-- A new diagnostic comes before the first of those that it is not after. -/
theorem sort_cons (first : Diagnostic) (rest : List Diagnostic) :
    ∃ before after, sort (first :: rest) = before ++ first :: after ∧
      sort rest = before ++ after ∧
      (∀ other ∈ before, ¬first.NotAfter other) ∧ ∀ other ∈ after, first.NotAfter other := by
  obtain ⟨before, after, hwhole, hrest, hbefore⟩ :=
    List.mergeSort_cons isLE_trans isLE_total first rest
  have hsorted := sort_sorted (first :: rest)
  rw [sort, hwhole] at hsorted
  refine ⟨before, after, hwhole, hrest, ?_, ?_⟩
  · intro other hother
    simpa [NotAfter] using hbefore other hother
  · exact (List.pairwise_cons.mp (List.pairwise_append.mp hsorted).2.1).1

/-- Where a list is cut before what a diagnostic is not after, it can be cut in one way only. -/
theorem cut_unique
    {first : Diagnostic} {before after before' after' : List Diagnostic}
    (heq : before ++ after = before' ++ after')
    (hbefore : ∀ other ∈ before, ¬first.NotAfter other)
    (hafter : ∀ other ∈ after, first.NotAfter other)
    (hbefore' : ∀ other ∈ before', ¬first.NotAfter other)
    (hafter' : ∀ other ∈ after', first.NotAfter other) :
    before = before' ∧ after = after' := by
  induction before generalizing before' with
  | nil =>
      cases before' with
      | nil => exact ⟨rfl, heq⟩
      | cons head tail =>
          have hmem : head ∈ after := by
            rw [List.nil_append] at heq
            rw [heq]
            exact List.mem_cons_self
          exact absurd (hafter head hmem) (hbefore' head List.mem_cons_self)
  | cons head tail ih =>
      cases before' with
      | nil =>
          have hmem : head ∈ after' := by
            rw [List.nil_append] at heq
            rw [← heq]
            exact List.mem_cons_self
          exact absurd (hafter' head hmem) (hbefore head List.mem_cons_self)
      | cons head' tail' =>
          obtain ⟨rfl, htail⟩ := List.cons.inj heq
          obtain ⟨rfl, rfl⟩ := ih htail (List.forall_mem_cons.mp hbefore).2
            (List.forall_mem_cons.mp hbefore').2
          exact ⟨rfl, rfl⟩

/-- It makes no difference whether diagnostics are left out before or after sorting. -/
theorem filter_sort (keep : Diagnostic → Bool) (diagnostics : List Diagnostic) :
    (sort diagnostics).filter keep = sort (diagnostics.filter keep) := by
  induction diagnostics with
  | nil => simp [sort]
  | cons first rest ih =>
      obtain ⟨before, after, hwhole, hrest, hbefore, hafter⟩ := sort_cons first rest
      rw [hrest, List.filter_append] at ih
      rw [hwhole, List.filter_append]
      by_cases hkeep : keep first = true
      · obtain ⟨before', after', hwhole', hrest', hbefore', hafter'⟩ :=
          sort_cons first (rest.filter keep)
        rw [hrest'] at ih
        obtain ⟨hfront, hback⟩ := cut_unique ih
          (fun other hother => hbefore other (List.mem_of_mem_filter hother))
          (fun other hother => hafter other (List.mem_of_mem_filter hother)) hbefore' hafter'
        rw [List.filter_cons_of_pos hkeep, List.filter_cons_of_pos hkeep, hwhole', hfront, hback]
      · rw [List.filter_cons_of_neg hkeep, List.filter_cons_of_neg hkeep, ih]

end Diagnostic
end FieldRules
