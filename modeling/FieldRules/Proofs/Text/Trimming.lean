import FieldRules.Text.Blank
import Mathlib.Data.List.TakeWhile

/-!
# Trimmed texts

Trimming is a pair of searches for the first character that is not blank.  This
file says what it finds without mentioning the search: a text is its trimmed core
with blanks on both sides, and there is only one such core.  Cutting a text at the
first occurrence of a character is described in the same way.
-/

namespace FieldRules
namespace Text

/-- Nothing but white space. -/
def Blank (t : Text) : Prop :=
  ∀ c ∈ t, isBlank c = true

/-- No white space at either end. -/
structure Trimmed (t : Text) : Prop where
  head : ∀ c, t.head? = some c → isBlank c = false
  last : ∀ c, t.getLast? = some c → isBlank c = false

/-- The text is the trimmed core with white space around it. -/
structure Pads (t core : Text) : Prop where
  trimmed : core.Trimmed
  around : ∃ left right, Blank left ∧ Blank right ∧ t = left ++ core ++ right

@[simp] theorem blank_nil : Blank [] := by
  simp [Blank]

theorem Blank.not_mem
    {t : Text} {c : Char} (hblank : t.Blank) (hc : isBlank c = false) :
    c ∉ t := by
  intro hmem
  have htrue := hblank c hmem
  rw [hc] at htrue
  contradiction

/-! ## Blanks at one end -/

theorem trimLeft_blank_append
    {left : Text} (hleft : left.Blank) (t : Text) :
    trimLeft (left ++ t) = trimLeft t := by
  unfold trimLeft
  exact List.dropWhile_append_of_pos hleft

theorem trimRight_append_blank
    {right : Text} (hright : right.Blank) (t : Text) :
    trimRight (t ++ right) = trimRight t := by
  unfold trimRight
  rw [List.reverse_append, List.dropWhile_append_of_pos]
  intro c hc
  exact hright c (List.mem_reverse.mp hc)

theorem Blank.trimLeft_eq_nil
    {t : Text} (hblank : t.Blank) : trimLeft t = [] := by
  have hempty := trimLeft_blank_append hblank []
  rw [List.append_nil] at hempty
  rw [hempty]
  rfl

theorem trim_blank_append
    {left : Text} (hleft : left.Blank) (t : Text) :
    trim (left ++ t) = trim t := by
  unfold trim
  rw [trimLeft_blank_append hleft]

theorem trim_append_blank
    {right : Text} (hright : right.Blank) (t : Text) :
    trim (t ++ right) = trim t := by
  unfold trim
  have hcases : trimLeft (t ++ right) = trimLeft t ++ right ∨
      (trimLeft (t ++ right) = [] ∧ trimLeft t = []) := by
    unfold trimLeft
    rw [List.dropWhile_append]
    by_cases hempty : (t.dropWhile isBlank).isEmpty
    · right
      rw [if_pos hempty]
      exact ⟨hright.trimLeft_eq_nil, by simpa using hempty⟩
    · left
      rw [if_neg hempty]
  rcases hcases with happend | ⟨hall, hnone⟩
  · rw [happend, trimRight_append_blank hright]
  · rw [hall, hnone]

/-! ## The core of a text -/

theorem trimRight_isPrefix (t : Text) : trimRight t <+: t := by
  have hsuffix : t.reverse.dropWhile isBlank <:+ t.reverse :=
    List.dropWhile_suffix isBlank
  simpa [trimRight] using List.reverse_prefix.mpr hsuffix

theorem trim_trimmed (t : Text) : (trim t).Trimmed := by
  constructor
  · intro c hc
    obtain ⟨rest, hrest⟩ := trimRight_isPrefix (trimLeft t)
    have hhead : (t.dropWhile isBlank).head? = some c := by
      change (trimLeft t).head? = some c
      rw [← hrest, List.head?_append]
      simp only [trim] at hc
      rw [hc]
      rfl
    have hnot := List.head?_dropWhile_not isBlank t
    rw [hhead] at hnot
    simpa using hnot
  · intro c hc
    have hhead : ((trimLeft t).reverse.dropWhile isBlank).head? = some c := by
      simpa [trim, trimRight] using hc
    have hnot := List.head?_dropWhile_not isBlank (trimLeft t).reverse
    rw [hhead] at hnot
    simpa using hnot

theorem pads_trim (t : Text) : t.Pads t.trim := by
  refine ⟨trim_trimmed t, t.takeWhile isBlank,
    ((trimLeft t).reverse.takeWhile isBlank).reverse, ?_, ?_, ?_⟩
  · intro c hc
    exact List.mem_takeWhile_imp hc
  · intro c hc
    exact List.mem_takeWhile_imp (List.mem_reverse.mp hc)
  · have hright : trim t ++ ((trimLeft t).reverse.takeWhile isBlank).reverse =
        trimLeft t := by
      unfold trim trimRight
      rw [← List.reverse_append, List.takeWhile_append_dropWhile,
        List.reverse_reverse]
    rw [List.append_assoc, hright]
    exact List.takeWhile_append_dropWhile.symm

theorem trim_isInfix (t : Text) : t.trim <:+: t := by
  obtain ⟨left, right, _, _, ht⟩ := (pads_trim t).around
  exact ⟨left, right, ht.symm⟩

theorem Trimmed.trim_eq {t : Text} (h : t.Trimmed) : trim t = t := by
  have hleft : trimLeft t = t := by
    unfold trimLeft
    cases t with
    | nil => rfl
    | cons c rest =>
        have hc : isBlank c = false := h.head c rfl
        rw [List.dropWhile_cons, hc]
        simp
  have hright : trimRight t = t := by
    unfold trimRight
    cases hreverse : t.reverse with
    | nil => simpa using hreverse.symm
    | cons c rest =>
        have hc : isBlank c = false := by
          apply h.last c
          rw [List.getLast?_eq_head?_reverse, hreverse]
          rfl
        rw [List.dropWhile_cons, hc]
        simp [← hreverse]
  unfold trim
  rw [hleft, hright]

theorem trim_eq_self_iff {t : Text} : trim t = t ↔ t.Trimmed := by
  constructor
  · intro h
    rw [← h]
    exact trim_trimmed t
  · exact Trimmed.trim_eq

instance (t : Text) : Decidable t.Trimmed :=
  decidable_of_iff (trim t = t) trim_eq_self_iff

theorem Pads.trim_eq {t core : Text} (h : t.Pads core) : trim t = core := by
  obtain ⟨left, right, hleft, hright, rfl⟩ := h.around
  rw [trim_append_blank hright, trim_blank_append hleft]
  exact h.trimmed.trim_eq

theorem pads_iff_trim_eq {t core : Text} : t.Pads core ↔ trim t = core := by
  constructor
  · exact Pads.trim_eq
  · rintro rfl
    exact pads_trim t

@[simp] theorem trim_trim (t : Text) : trim (trim t) = trim t :=
  (trim_trimmed t).trim_eq

theorem trim_eq_nil_iff {t : Text} : trim t = [] ↔ t.Blank := by
  constructor
  · intro hnil
    obtain ⟨left, right, hleft, hright, ht⟩ := (pads_trim t).around
    rw [hnil, List.append_nil] at ht
    rw [ht]
    intro c hc
    rcases List.mem_append.mp hc with hmem | hmem
    · exact hleft c hmem
    · exact hright c hmem
  · intro hblank
    unfold trim
    rw [hblank.trimLeft_eq_nil]
    rfl

theorem Pads.not_mem
    {t core : Text} {c : Char} (h : t.Pads core) (hc : isBlank c = false)
    (hcore : c ∉ core) : c ∉ t := by
  obtain ⟨left, right, hleft, hright, rfl⟩ := h.around
  simp [hleft.not_mem hc, hcore, hright.not_mem hc]

theorem Pads.mem {t core : Text} {c : Char} (h : t.Pads core) (hcore : c ∈ core) :
    c ∈ t := by
  obtain ⟨left, right, _, _, rfl⟩ := h.around
  simp [hcore]

/-! ## Cutting at a character -/

theorem splitOnce?_eq_some_iff {mark : Char} {t left right : Text} :
    splitOnce? mark t = some (left, right) ↔
      mark ∉ left ∧ t = left ++ mark :: right := by
  induction t generalizing left with
  | nil => simp [splitOnce?]
  | cons c rest ih =>
      by_cases hc : c = mark
      · subst c
        cases left with
        | nil => simp [splitOnce?, eq_comm]
        | cons d left =>
            simp only [splitOnce?, if_true, Option.some.injEq, Prod.mk.injEq,
              List.mem_cons, not_or, List.cons_append, List.cons.injEq]
            constructor
            · rintro ⟨hnil, _⟩
              exact absurd hnil (by simp)
            · rintro ⟨⟨hne, _⟩, heq, _⟩
              exact absurd heq hne
      · rw [splitOnce?, if_neg hc]
        cases left with
        | nil => simp [hc]
        | cons d left =>
            simp only [Option.map_eq_some_iff, Prod.exists, Prod.mk.injEq,
              List.cons.injEq, List.mem_cons, not_or, List.cons_append]
            constructor
            · rintro ⟨found, after, hfound, ⟨rfl, rfl⟩, rfl⟩
              obtain ⟨hmem, hrest⟩ := ih.mp hfound
              exact ⟨⟨Ne.symm hc, hmem⟩, rfl, hrest⟩
            · rintro ⟨⟨_, hmem⟩, rfl, hrest⟩
              exact ⟨left, right, ih.mpr ⟨hmem, hrest⟩, ⟨rfl, rfl⟩, rfl⟩

theorem mark_append_inj
    {mark : Char} {s t left right : Text} (hs : mark ∉ s) (ht : mark ∉ t)
    (heq : s ++ mark :: left = t ++ mark :: right) : s = t ∧ left = right := by
  have hleft : splitOnce? mark (s ++ mark :: left) = some (s, left) :=
    splitOnce?_eq_some_iff.mpr ⟨hs, rfl⟩
  have hright : splitOnce? mark (s ++ mark :: left) = some (t, right) :=
    splitOnce?_eq_some_iff.mpr ⟨ht, heq⟩
  have hparts := Option.some.inj (hleft.symm.trans hright)
  exact Prod.mk.inj hparts

theorem splitOnce?_eq_none_iff {mark : Char} {t : Text} :
    splitOnce? mark t = none ↔ mark ∉ t := by
  induction t with
  | nil => simp [splitOnce?]
  | cons c rest ih =>
      by_cases hc : c = mark
      · subst c
        simp [splitOnce?]
      · rw [splitOnce?, if_neg hc, Option.map_eq_none_iff, ih, List.mem_cons]
        simp [Ne.symm hc]

theorem dropStart?_eq_some_iff {start t rest : Text} :
    dropStart? start t = some rest ↔ t = start ++ rest := by
  induction start generalizing t with
  | nil => simp [dropStart?, eq_comm]
  | cons c start ih =>
      cases t with
      | nil => simp [dropStart?]
      | cons d t =>
          rw [dropStart?]
          by_cases hc : c = d
          · rw [if_pos hc, ih, hc, List.cons_append, List.cons.injEq]
            simp
          · rw [if_neg hc, List.cons_append, List.cons.injEq]
            simp [Ne.symm hc]

theorem dropEnd?_eq_some_iff {ending t rest : Text} :
    dropEnd? ending t = some rest ↔ t = rest ++ ending := by
  rw [dropEnd?, Option.map_eq_some_iff]
  constructor
  · rintro ⟨start, hdrop, rfl⟩
    rw [← List.reverse_inj, List.reverse_append, List.reverse_reverse]
    exact dropStart?_eq_some_iff.mp hdrop
  · rintro rfl
    exact ⟨rest.reverse, dropStart?_eq_some_iff.mpr List.reverse_append, List.reverse_reverse rest⟩

end Text
end FieldRules
