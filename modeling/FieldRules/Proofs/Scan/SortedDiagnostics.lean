import FieldRules.Proofs.Scan.PathSpellings
import Mathlib.Data.List.Lex

/-!
# Sorted diagnostics

A diagnostic comes before another by the first of seven parts in which they differ,
where the files differ only if their components do.  The comparison answers that they
are equal exactly when no part differs.  So sorting leaves nothing open but the spelling
of the paths, and diagnostics that are found in another order are sorted to the same.
-/

namespace FieldRules

/-- The text has the smaller code point at the first place where they differ, or the other goes on
where it ends. -/
def Text.Before (s t : Text) : Prop := List.Lex (fun a b : Char => a.toNat < b.toNat) s t

namespace FilePath

/-- The kind of the component comes first, or both are names and the text does. -/
inductive Component.Before : Component → Component → Prop where
  | rank {a b : Component} (h : a.rank < b.rank) : Before a b
  | name {s t : Text} (h : s.Before t) : Before (.name s) (.name t)

/-- The path has the component that comes first where they differ, or the other goes on where it
ends. -/
def Before (a b : FilePath) : Prop := List.Lex Component.Before a.components b.components

end FilePath

/-- The parts are the same up to one, in which the first diagnostic comes before the second. -/
inductive Diagnostic.Before (a b : Diagnostic) : Prop where
  | file (h : a.file.Before b.file)
  | line (hfile : a.file.same b.file = true) (h : a.line < b.line)
  | column (hfile : a.file.same b.file = true) (hline : a.line = b.line) (h : a.column < b.column)
  | record (hfile : a.file.same b.file = true) (hline : a.line = b.line)
      (hcolumn : a.column = b.column) (h : a.record.Before b.record)
  | field (hfile : a.file.same b.file = true) (hline : a.line = b.line)
      (hcolumn : a.column = b.column) (hrecord : a.record = b.record)
      (h : a.field.Before b.field)
  | tag (hfile : a.file.same b.file = true) (hline : a.line = b.line)
      (hcolumn : a.column = b.column) (hrecord : a.record = b.record) (hfield : a.field = b.field)
      (h : a.annotation.Before b.annotation)
  | message (hfile : a.file.same b.file = true) (hline : a.line = b.line)
      (hcolumn : a.column = b.column) (hrecord : a.record = b.record) (hfield : a.field = b.field)
      (htag : a.annotation = b.annotation) (h : a.message.Before b.message)

/-! ## What the comparisons answer -/

theorem compareLex_eq_lt_iff
    {α : Type} {cmp : α → α → Ordering} [Std.LawfulEqCmp cmp] {s t : List α} :
    List.compareLex cmp s t = .lt ↔ List.Lex (fun a b => cmp a b = .lt) s t := by
  induction s generalizing t with
  | nil =>
      cases t with
      | nil => simp [List.compareLex_nil_nil, List.not_lex_nil]
      | cons b t => exact iff_of_true List.compareLex_nil_cons .nil
  | cons a s ih =>
      cases t with
      | nil => simp [List.compareLex_cons_nil, List.not_lex_nil]
      | cons b t =>
          rw [List.compareLex_cons_cons, Ordering.then_eq_lt, ih, List.cons_lex_cons_iff,
            Std.LawfulEqCmp.compare_eq_iff_eq]

theorem Text.compare_eq_lt_iff {s t : Text} : Text.compare s t = .lt ↔ s.Before t := by
  have hchars : Std.LawfulEqCmp fun a b : Char => compare a.toNat b.toNat :=
    { compare_self := Nat.compare_eq_eq.mpr rfl
      eq_of_compare := fun h => Char.toNat_inj.mp (Nat.compare_eq_eq.mp h) }
  rw [compare_eq_compareLex, compareLex_eq_lt_iff]
  simp only [Nat.compare_eq_lt]
  rfl

namespace FilePath

theorem Component.compare_eq_lt_iff {a b : Component} : a.compare b = .lt ↔ a.Before b := by
  constructor
  · intro h
    cases a with
    | name s =>
        cases b with
        | name t => exact .name (Text.compare_eq_lt_iff.mp h)
        | _ => exact .rank (Nat.compare_eq_lt.mp h)
    | _ => exact .rank (Nat.compare_eq_lt.mp h)
  · rintro (hrank | htext)
    · rw [compare_eq_then, Ordering.then_eq_lt, Nat.compare_eq_lt]
      exact .inl hrank
    · exact Text.compare_eq_lt_iff.mpr htext

theorem compare_eq_lt_iff {a b : FilePath} : a.compare b = .lt ↔ a.Before b := by
  rw [FilePath.compare, compareComponents_eq_compareLex, compareLex_eq_lt_iff]
  simp only [Component.compare_eq_lt_iff]
  rfl

theorem compare_eq_eq_iff {a b : FilePath} : a.compare b = .eq ↔ a.same b = true := by
  rw [same_iff, FilePath.compare, Std.LawfulEqCmp.compare_eq_iff_eq]

end FilePath

namespace Diagnostic

theorem compare_eq_lt_iff {a b : Diagnostic} : a.compare b = .lt ↔ a.Before b := by
  simp only [Diagnostic.compare, Ordering.then_eq_lt, FilePath.compare_eq_lt_iff,
    FilePath.compare_eq_eq_iff, Nat.compare_eq_lt, Nat.compare_eq_eq, Text.compare_eq_lt_iff,
    Text.compare_eq_eq_iff]
  constructor
  · rintro (h | ⟨hfile, h | ⟨hline, h | ⟨hcolumn, h | ⟨hrecord, h | ⟨hfield, h |
      ⟨htag, h⟩⟩⟩⟩⟩⟩)
    · exact .file h
    · exact .line hfile h
    · exact .column hfile hline h
    · exact .record hfile hline hcolumn h
    · exact .field hfile hline hcolumn hrecord h
    · exact .tag hfile hline hcolumn hrecord hfield h
    · exact .message hfile hline hcolumn hrecord hfield htag h
  · intro h
    cases h <;> simp [*]

theorem compare_eq_eq_iff {a b : Diagnostic} : a.compare b = .eq ↔ a.same b = true := by
  have hkeys : DiagnosticKey.compare a.key b.key = .eq ↔ a.key = b.key :=
    Std.LawfulEqCmp.compare_eq_iff_eq
  rw [same_iff_key]
  exact hkeys

/-! ## Files below a directory and files beside it -/

end Diagnostic

theorem Text.before_append_of_ne_nil (name : Text) {more : Text} (hmore : more ≠ []) :
    name.Before (name ++ more) := by
  unfold Text.Before
  induction name with
  | nil =>
      cases more with
      | nil => contradiction
      | cons c more => exact .nil
  | cons c name ih => exact .cons ih

/-- What is in a directory comes before what is beside it under a longer name, even where the
separator comes after the next character of that name. -/
theorem FilePath.before_of_longer_name
    (directory : FilePath) {name more : Text} (hname : IsEntryName name)
    (hlonger : IsEntryName (name ++ more)) (hmore : more ≠ []) (rest : Text) :
    FilePath.Before ⟨(directory.join name).text ++ '/' :: rest⟩
      (directory.join (name ++ more)) := by
  have hjoined : (directory.join name).text ≠ [] := by
    unfold join
    split <;> simp [hname.ne_nil]
  have hfirst : Component.Before (.name name) (.name (name ++ more)) :=
    .name (Text.before_append_of_ne_nil name hmore)
  rw [Before, components_append_separator hjoined, components_join directory hlonger]
  have hcomponents := components_join directory hname
  change components ⟨(directory.join name).text⟩ = _ at hcomponents
  rw [hcomponents, List.append_assoc]
  exact .append_left _ (.rel hfirst) _

namespace Diagnostic

/-! ## Ordered lists -/

theorem same_of_notAfter {a b : Diagnostic} (hab : a.NotAfter b) (hba : b.NotAfter a) :
    a.same b = true :=
  compare_eq_eq_iff.mp (Std.OrientedCmp.isLE_antisymm hab hba)

theorem forall₂_same_of_pairwise
    {diagnostics others : List Diagnostic} (h : diagnostics.Perm others)
    (hdiagnostics : diagnostics.Pairwise NotAfter) (hothers : others.Pairwise NotAfter) :
    List.Forall₂ (fun a b => a.same b = true) diagnostics others := by
  have hkeys : List.Forall₂ Eq (diagnostics.map key) (others.map key) := by
    rw [List.forall₂_eq_eq_eq]
    exact map_key_eq_of_pairwise h hdiagnostics hothers
  rw [List.forall₂_map_left_iff, List.forall₂_map_right_iff] at hkeys
  exact hkeys.imp fun _ _ => same_iff_key.mpr

/-- Files are the same exactly when their paths are spellings of one path, and what is in a
directory comes before what is beside it under a longer name.  The comparison of diagnostics
answers by the first part in which they differ, and that they are equal exactly when none does;
so it is a linear order up to the spelling of paths.  Sorting orders a list, and every ordering of
what the list holds agrees with it place by place. -/
theorem compare_linear :
    (∀ a b : FilePath, a.same b = true ↔ a.Respells b) ∧
    (∀ (directory : FilePath) (name more rest : Text), IsEntryName name →
      IsEntryName (name ++ more) → more ≠ [] →
      FilePath.Before ⟨(directory.join name).text ++ '/' :: rest⟩
        (directory.join (name ++ more))) ∧
    (∀ x y : Diagnostic, (x.compare y = .lt ↔ x.Before y) ∧
      (x.compare y = .eq ↔ x.same y = true) ∧ (x.compare y = .gt ↔ y.Before x)) ∧
    (∀ x y : Diagnostic, (x.NotAfter y ∨ y.NotAfter x) ∧
      (x.NotAfter y → y.NotAfter x → x.same y = true)) ∧
    (∀ x y z : Diagnostic, x.NotAfter y → y.NotAfter z → x.NotAfter z) ∧
    ∀ diagnostics : List Diagnostic,
      (sort diagnostics).Perm diagnostics ∧ (sort diagnostics).Pairwise NotAfter ∧
      (∀ others, others.Perm diagnostics →
        List.Forall₂ (fun a b => a.same b = true) (sort diagnostics) (sort others)) ∧
      ∀ ordered, ordered.Perm diagnostics → ordered.Pairwise NotAfter →
        List.Forall₂ (fun a b => a.same b = true) (sort diagnostics) ordered := by
  refine ⟨fun _ _ => FilePath.same_iff_respells, ?_, ?_, ?_, fun _ _ _ => NotAfter.trans, ?_⟩
  · intro directory name more rest hname hlonger hmore
    exact directory.before_of_longer_name hname hlonger hmore rest
  · intro x y
    refine ⟨compare_eq_lt_iff, compare_eq_eq_iff, ?_⟩
    rw [← compare_eq_lt_iff]
    exact Std.OrientedCmp.gt_iff_lt
  · intro x y
    exact ⟨notAfter_total x y, same_of_notAfter⟩
  intro diagnostics
  have hsorted := sort_sorted diagnostics
  have hperm := sort_perm diagnostics
  refine ⟨hperm, hsorted, ?_, ?_⟩
  · intro others hothers
    exact forall₂_same_of_pairwise ((hperm.trans hothers.symm).trans (sort_perm others).symm)
      hsorted (sort_sorted others)
  · intro ordered hordered hpairwise
    exact forall₂_same_of_pairwise (hperm.trans hordered.symm) hsorted hpairwise

/-- A file below a directory, spelled in two ways, and the file beside the directory, whose path
comes first as a text. -/
theorem compare_linear_below :
    let below : FilePath := ⟨"src/a/b.rs".toList⟩
    let respelled : FilePath := ⟨"src//a/./b.rs/".toList⟩
    let beside : FilePath := ⟨"src/a.rs".toList⟩
    let problem (file : FilePath) (line : Nat) : Diagnostic :=
      ⟨file, line, 5, "User".toList, "names".toList, "min".toList, "is not valid".toList⟩
    let found := [problem beside 2, problem respelled 7, problem below 7, problem below 3]
    let ordered := [problem below 3, problem below 7, problem respelled 7, problem beside 2]
    respelled.Respells below ∧ below.Before beside ∧ beside.text.Before below.text ∧
      (problem below 7).compare (problem respelled 7) = .eq ∧
      (problem below 3).NotAfter (problem beside 2) ∧
      List.Forall₂ (fun a b => a.same b = true) (sort found) ordered ∧
      List.Forall₂ (fun a b => a.same b = true) (sort found) (sort ordered) := by
  intro below respelled beside problem found ordered
  obtain ⟨hsame, hbelow, hanswers, _, htrans, hsort⟩ := compare_linear
  have hpath : below.Before beside :=
    hbelow ⟨"src".toList⟩ "a".toList ".rs".toList "b.rs".toList (by decide) (by decide) (by decide)
  have hequal : (problem below 7).compare (problem respelled 7) = .eq :=
    (hanswers _ _).2.1.mpr (by decide)
  have hfirst : (problem below 3).NotAfter (problem below 7) := by
    rw [NotAfter, (hanswers _ _).1.mpr (.line rfl (by decide))]
    rfl
  have hlast : (problem below 7).NotAfter (problem beside 2) := by
    rw [NotAfter, (hanswers _ _).1.mpr (.file hpath)]
    rfl
  have hperm : ordered.Perm found := by decide
  have hordered : ordered.Pairwise fun a b => (a.compare b).isLE = true := by decide
  obtain ⟨_, _, hothers, hunique⟩ := hsort found
  have htext : beside.text.Before below.text := Text.compare_eq_lt_iff.mp (by decide)
  exact ⟨(hsame _ _).mp (by decide), hpath, htext, hequal, htrans _ _ _ hfirst hlast,
    hunique ordered hperm hordered, hothers ordered hperm⟩

end Diagnostic
end FieldRules
