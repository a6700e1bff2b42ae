import FieldRules.Proofs.Scan.JoinedPaths
import Mathlib.Logic.Relation

/-!
# Spellings of one path

A path can be spelled with more separators and dots than it needs.  Three rules take them
away: one of two separators in a row, a dot between separators, and a separator at the
end.  None of them changes the components, and by them every path is led to one spelling
that depends on its components alone.  So paths have the same components exactly when
the rules lead from one to the other.
-/

namespace FieldRules.FilePath

/-- The second path is the first without a separator, or a dot and a separator, that does not
count. -/
inductive ShortensTo : FilePath → FilePath → Prop where
  | repeated (s t : Text) : ShortensTo ⟨s ++ '/' :: '/' :: t⟩ ⟨s ++ '/' :: t⟩
  | dot (s t : Text) : ShortensTo ⟨s ++ '/' :: '.' :: '/' :: t⟩ ⟨s ++ '/' :: t⟩
  | trailing {s : Text} (hs : s ≠ []) : ShortensTo ⟨s ++ ['/']⟩ ⟨s⟩

/-- The paths are spellings of the same path. -/
abbrev Respells (a b : FilePath) : Prop := Relation.EqvGen ShortensTo a b

/-- A spelling that depends on the components alone: one separator between any two of them. -/
def spelling : List Component → FilePath
  | .root :: steps => (steps.map Component.text).foldl join ⟨['/']⟩
  | steps => (steps.map Component.text).foldl join ⟨[]⟩

/-! ## The components stay -/

/-- What counts behind a separator depends on the pieces there. -/
theorem components_append_separator_congr
    (s : Text) {t u : Text}
    (h : (pieces t).filterMap component? = (pieces u).filterMap component?) :
    components ⟨s ++ '/' :: t⟩ = components ⟨s ++ '/' :: u⟩ := by
  by_cases hs : s = []
  · subst hs
    rw [List.nil_append, List.nil_append, components_separator_cons, components_separator_cons, h]
  · rw [components_append_separator hs, components_append_separator hs, h]

theorem ShortensTo.components_eq {a b : FilePath} (h : a.ShortensTo b) :
    a.components = b.components := by
  cases h with
  | repeated s t =>
      refine components_append_separator_congr s ?_
      rw [← List.nil_append ('/' :: t), pieces_append_separator, List.filterMap_append]
      rfl
  | dot s t =>
      refine components_append_separator_congr s ?_
      rw [← List.singleton_append, pieces_append_separator, List.filterMap_append]
      rfl
  | trailing hs =>
      rw [components_append_separator hs]
      exact List.append_nil _

theorem Respells.components_eq {a b : FilePath} (h : a.Respells b) :
    a.components = b.components := by
  induction h with
  | rel _ _ hstep => exact hstep.components_eq
  | refl _ => rfl
  | symm _ _ _ ih => exact ih.symm
  | trans _ _ _ _ _ ihfirst ihsecond => exact ihfirst.trans ihsecond

/-! ## Every path has the spelling of its components -/

theorem ShortensTo.append_separator {a b : FilePath} (h : a.ShortensTo b) (t : Text) :
    ShortensTo ⟨a.text ++ '/' :: t⟩ ⟨b.text ++ '/' :: t⟩ := by
  cases h with
  | repeated s u => simpa using ShortensTo.repeated s (u ++ '/' :: t)
  | dot s u => simpa using ShortensTo.dot s (u ++ '/' :: t)
  | @trailing s hs => simpa using ShortensTo.repeated s t

theorem Respells.append_separator {a b : FilePath} (h : a.Respells b) (t : Text) :
    Respells ⟨a.text ++ '/' :: t⟩ ⟨b.text ++ '/' :: t⟩ := by
  induction h with
  | rel _ _ hstep => exact .rel _ _ (hstep.append_separator t)
  | refl _ => exact .refl _
  | symm _ _ _ ih => exact .symm _ _ ih
  | trans _ _ _ _ _ ihfirst ihsecond => exact .trans _ _ _ ihfirst ihsecond

/-- A dot at the end is a dot between separators as soon as one is put behind it. -/
theorem respells_dot (s : Text) : Respells ⟨s ++ ['/', '.']⟩ ⟨s ++ ['/']⟩ := by
  have hlonger : ShortensTo ⟨(s ++ ['/', '.']) ++ ['/']⟩ ⟨s ++ ['/', '.']⟩ := .trailing (by simp)
  rw [List.append_assoc] at hlonger
  exact .trans _ _ _ (.symm _ _ (.rel _ _ hlonger)) (.rel _ _ (.dot s []))

theorem respells_of_component?_none {piece : Text} (hnone : component? piece = none) (s : Text) :
    Respells ⟨s ++ '/' :: piece⟩ ⟨s ++ ['/']⟩ := by
  have hpiece : piece = [] ∨ piece = ['.'] := by
    by_contra hne
    rw [component?, if_neg hne] at hnone
    split at hnone <;> contradiction
  rcases hpiece with rfl | rfl
  · exact .refl _
  · exact respells_dot s

theorem text_of_component? {piece : Text} {component : Component}
    (hsome : component? piece = some component) : component.text = piece := by
  unfold component? at hsome
  split at hsome
  · contradiction
  · split at hsome
    next hparent =>
      cases hsome
      exact hparent.symm
    next =>
      cases hsome
      rfl

theorem respells_join {directory : FilePath} (hdirectory : directory.text ≠ []) (name : Text) :
    Respells ⟨directory.text ++ '/' :: name⟩ (directory.join name) := by
  unfold join
  split
  next hempty =>
    obtain ⟨front, hfront⟩ := List.getLast?_eq_some_iff.mp (hempty.resolve_left hdirectory)
    rw [hfront, List.append_assoc, List.append_assoc]
    exact .rel _ _ (.repeated front name)
  next => exact .refl _

theorem exists_components_of_no_separator {t : Text} (ht : t ≠ []) (hplain : '/' ∉ t) :
    ∃ component, components ⟨t⟩ = [component] ∧ component ≠ .root ∧ component.text = t := by
  by_cases hdot : t = ['.']
  · subst hdot
    exact ⟨.current, rfl, by decide, rfl⟩
  · by_cases hdots : t = ['.', '.']
    · subst hdots
      exact ⟨.parent, rfl, by decide, rfl⟩
    · have hname : IsEntryName t := ⟨ht, hdot, hdots, hplain⟩
      exact ⟨.name t, components_of_isEntryName hname, by simp, rfl⟩

theorem components_ne_nil {t : Text} (ht : t ≠ []) : components ⟨t⟩ ≠ [] := by
  by_cases hplain : '/' ∈ t
  · obtain ⟨front, rest, rfl, hfront⟩ := List.eq_append_cons_of_mem hplain
    by_cases hempty : front = []
    · subst hempty
      rw [List.nil_append, components_separator_cons]
      exact List.cons_ne_nil _ _
    · obtain ⟨component, hcomponents, _⟩ := exists_components_of_no_separator hempty hfront
      rw [components_append_separator hempty, hcomponents]
      exact List.cons_ne_nil _ _
  · obtain ⟨component, hcomponents, _⟩ := exists_components_of_no_separator ht hplain
    rw [hcomponents]
    exact List.cons_ne_nil _ _

theorem spelling_append_singleton
    {components : List Component} (hne : components ≠ []) (last : Component) :
    spelling (components ++ [last]) = (spelling components).join last.text := by
  cases components with
  | nil => contradiction
  | cons first rest => cases first <;> simp [spelling]

theorem Respells.text_ne_nil_iff {a b : FilePath} (h : a.Respells b) :
    a.text ≠ [] ↔ b.text ≠ [] := by
  induction h with
  | rel _ _ hstep =>
      cases hstep with
      | repeated s t => simp
      | dot s t => simp
      | trailing hs => simp [hs]
  | refl _ => exact Iff.rfl
  | symm _ _ _ ih => exact ih.symm
  | trans _ _ _ _ _ ihfirst ihsecond => exact ihfirst.trans ihsecond

theorem exists_last_separator {t : Text} (hmem : '/' ∈ t) :
    ∃ front piece, t = front ++ '/' :: piece ∧ '/' ∉ piece := by
  obtain ⟨after, before, hreverse, hplain⟩ :=
    List.eq_append_cons_of_mem (List.mem_reverse.mpr hmem)
  refine ⟨before.reverse, after.reverse, ?_, mt List.mem_reverse.mp hplain⟩
  rw [← List.reverse_reverse t, hreverse]
  simp

theorem respells_spelling_of_no_separator {t : Text} (hplain : '/' ∉ t) :
    Respells ⟨t⟩ (spelling (components ⟨t⟩)) := by
  by_cases ht : t = []
  · subst ht
    exact .refl _
  · obtain ⟨component, hcomponents, hroot, htext⟩ := exists_components_of_no_separator ht hplain
    have hspelled : spelling [component] = ⟨t⟩ := by
      cases component with
      | root => contradiction
      | _ => simpa [spelling, join] using htext
    rw [hcomponents, hspelled]
    exact .refl _

theorem respells_spelling_of_root {piece : Text} (hpiece : '/' ∉ piece) :
    Respells ⟨'/' :: piece⟩ (spelling (components ⟨'/' :: piece⟩)) := by
  rw [components_separator_cons, pieces_of_no_separator hpiece]
  cases hcomponent : component? piece with
  | none =>
      rw [List.filterMap_cons_none hcomponent]
      exact respells_of_component?_none hcomponent []
  | some component =>
      have hjoin : (⟨['/']⟩ : FilePath).join piece = ⟨'/' :: piece⟩ := by simp [join]
      rw [List.filterMap_cons_some hcomponent]
      simp only [spelling, List.filterMap_nil, List.map_cons, List.map_nil, List.foldl_cons,
        List.foldl_nil, text_of_component? hcomponent, hjoin]
      exact .refl _

theorem respells_spelling_append
    {front piece : Text} (hfront : front ≠ []) (hpiece : '/' ∉ piece)
    (h : Respells ⟨front⟩ (spelling (components ⟨front⟩))) :
    Respells ⟨front ++ '/' :: piece⟩ (spelling (components ⟨front ++ '/' :: piece⟩)) := by
  rw [components_append_separator hfront, pieces_of_no_separator hpiece]
  cases hcomponent : component? piece with
  | none =>
      rw [List.filterMap_cons_none hcomponent, List.filterMap_nil, List.append_nil]
      have hshorter : Respells ⟨front ++ ['/']⟩ ⟨front⟩ := .rel _ _ (.trailing hfront)
      exact .trans _ _ _ (respells_of_component?_none hcomponent front) (.trans _ _ _ hshorter h)
  | some component =>
      rw [List.filterMap_cons_some hcomponent, List.filterMap_nil,
        spelling_append_singleton (components_ne_nil hfront), text_of_component? hcomponent]
      have hspelled := h.text_ne_nil_iff.mp hfront
      exact .trans _ _ _ (h.append_separator piece) (respells_join hspelled piece)

/-- The induction takes the last piece off, since it is the one that is put behind the others. -/
theorem respells_spelling (t : Text) : Respells ⟨t⟩ (spelling (components ⟨t⟩)) := by
  by_cases hmem : '/' ∈ t
  · obtain ⟨front, piece, rfl, hpiece⟩ := exists_last_separator hmem
    by_cases hfront : front = []
    · subst hfront
      exact respells_spelling_of_root hpiece
    · exact respells_spelling_append hfront hpiece (respells_spelling front)
  · exact respells_spelling_of_no_separator hmem
termination_by t.length

theorem same_iff_respells {a b : FilePath} : a.same b = true ↔ a.Respells b := by
  rw [same_iff]
  constructor
  · intro h
    have hb := respells_spelling b.text
    rw [← h] at hb
    exact .trans _ _ _ (respells_spelling a.text) (.symm _ _ hb)
  · exact Respells.components_eq

end FieldRules.FilePath
