import FieldRules.Proofs.Text.Braces
import Mathlib.Algebra.Ring.Int.Defs
import Mathlib.Algebra.Ring.Nat
import Mathlib.Data.List.Forall2
import Mathlib.Data.List.Induction

/-!
# Segments by byte offsets

A text may also be cut by one scan from left to right, which remembers where the
segment at hand begins and how deep it is in braces, and takes a slice of the text
at each outer comma.  Offsets count bytes and the depth is a machine number, so two
things could go wrong: a slice could begin or end inside of a character, and the
depth could overflow.  Neither happens to a text with fewer than `2 ^ 31` braces.
Its slices are the segments, and these are the only cut that there is.
-/

namespace FieldRules
namespace Text

/-- What a scan remembers of the text that it has read. -/
structure SegmentScan where
  /-- The number of bytes that have been read. -/
  position : Nat
  segmentStart : Nat
  depth : Int32
  wentNegative : Bool
  /-- Where the slices begin and end that have been taken, in bytes. -/
  taken : List (Nat × Nat)
deriving Repr, DecidableEq

namespace SegmentScan

def start : SegmentScan := ⟨0, 0, 0, false, []⟩

/-- Reads one more character, behind which the next position is. -/
def step (scan : SegmentScan) (c : Char) : SegmentScan :=
  let position := scan.position + c.utf8Size
  if c = '{' then { scan with position, depth := scan.depth + 1 }
  else if c = '}' then
    { scan with
      position
      depth := scan.depth - 1
      wentNegative := scan.wentNegative || scan.depth - 1 < 0 }
  else if c = ',' ∧ scan.depth = 0 then
    { scan with
      position
      segmentStart := scan.position + 1
      taken := scan.taken ++ [(scan.segmentStart, scan.position)] }
  else { scan with position }

def run (t : Text) : SegmentScan := t.foldl step start

/-- All slices that are taken of a text, the one behind the last outer comma included. -/
def slices (t : Text) : List (Nat × Nat) :=
  (run t).taken ++ [((run t).segmentStart, byteLength t)]

/-- The answer of a scan that has read the whole text and has the given parts. -/
def answer (scan : SegmentScan) (t : Text) (parts : List Text) :
    Except GrammarError (List Text) :=
  if scan.wentNegative then .error (.unopenedBraces t)
  else if scan.depth > 0 then .error (.unclosedBraces t)
  else .ok parts

end SegmentScan

/-- The part of the text between two offsets in bytes, both of which are between characters. -/
def IsSlice (t : Text) (slice : Nat × Nat) (part : Text) : Prop :=
  ∃ before after, t = before ++ part ++ after ∧
    byteLength before = slice.1 ∧ byteLength (before ++ part) = slice.2

/-- The texts are a cut of the whole: its parts between outer commas. -/
structure IsCut (t : Text) (parts : List Text) : Prop where
  nonempty : parts ≠ []
  closed : ∀ part ∈ parts, part.Closed
  join : [','].intercalate parts = t

/-! ## One more character -/

theorem byteLength_append (s t : Text) : byteLength (s ++ t) = byteLength s + byteLength t := by
  induction s with
  | nil => simp [byteLength]
  | cons c s ih => simp [byteLength, ih, Nat.add_assoc]

theorem byteLength_concat (t : Text) (c : Char) :
    byteLength (t ++ [c]) = byteLength t + c.utf8Size := by
  simp [byteLength_append, byteLength]

theorem excess_concat (t : Text) (c : Char) : excess (t ++ [c]) = excess t + braceStep c := by
  simp

theorem dipsBelow_concat (depth : Int) (t : Text) (c : Char) :
    dipsBelow depth (t ++ [c]) =
      (dipsBelow depth t || decide (depth + excess t + braceStep c < 0)) := by
  induction t generalizing depth with
  | nil => simp [dipsBelow]
  | cons d t ih =>
      rw [List.cons_append, dipsBelow, ih, dipsBelow, excess_cons, Bool.or_assoc, Int.add_assoc depth]

theorem dipsBelow_of_excess_neg {t : Text} (hneg : excess t < 0) : dipsBelow 0 t = true := by
  rw [← Bool.not_eq_false, dipsBelow_eq_false_iff (Int.le_refl 0)]
  intro hstays
  have hend := hstays.le.2
  omega

/-- A character that does not close a brace leads no deeper below zero. -/
theorem dipsBelow_concat_of_nonneg {t : Text} {c : Char} (hstep : 0 ≤ braceStep c) :
    dipsBelow 0 (t ++ [c]) = dipsBelow 0 t := by
  rw [dipsBelow_concat]
  by_cases hneg : excess t < 0
  · simp [dipsBelow_of_excess_neg hneg]
  · have hnot : ¬(0 + excess t + braceStep c < 0) := by omega
    rw [decide_eq_false hnot, Bool.or_false]

/-- A further character begins a new part if it is an outer comma, and belongs to the last part
otherwise. -/
theorem exists_cutCommas_concat (depth : Int) (t : Text) :
    ∃ front last, cutCommas depth t = front ++ [last] ∧
      ∀ c, cutCommas depth (t ++ [c]) =
        if c = ',' ∧ depth + excess t = 0 then front ++ [last] ++ [[]]
        else front ++ [last ++ [c]] := by
  induction t generalizing depth with
  | nil =>
      refine ⟨[], [], rfl, ?_⟩
      intro c
      by_cases houter : c = ',' ∧ depth = 0
      · simp [cutCommas, houter]
      · simp [cutCommas, houter]
  | cons d t ih =>
      by_cases houter : d = ',' ∧ depth = 0
      · obtain ⟨front, last, hcut, hnext⟩ := ih depth
        have hsame : depth + excess (d :: t) = depth + excess t := by simp [houter.1]
        refine ⟨[] :: front, last, ?_, ?_⟩
        · rw [cutCommas, if_pos houter, hcut, List.cons_append]
        · intro c
          rw [List.cons_append, cutCommas, if_pos houter, hnext, hsame]
          split <;> simp
      · obtain ⟨front, last, hcut, hnext⟩ := ih (depth + braceStep d)
        have hsame : depth + excess (d :: t) = depth + braceStep d + excess t := by
          rw [excess_cons, Int.add_assoc]
        cases front with
        | nil =>
            refine ⟨[], d :: last, ?_, ?_⟩
            · rw [cutCommas, if_neg houter, hcut]
              rfl
            · intro c
              rw [List.cons_append, cutCommas, if_neg houter, hnext, hsame]
              by_cases hnew : c = ',' ∧ depth + braceStep d + excess t = 0
              · simp [if_pos hnew]
              · simp [if_neg hnew]
        | cons first front =>
            refine ⟨(d :: first) :: front, last, ?_, ?_⟩
            · rw [cutCommas, if_neg houter, hcut]
              rfl
            · intro c
              rw [List.cons_append, cutCommas, if_neg houter, hnext, hsame]
              by_cases hnew : c = ',' ∧ depth + braceStep d + excess t = 0
              · simp [if_pos hnew]
              · simp [if_neg hnew]

theorem cutCommas_concat
    {t last : Text} {front : List Text} (hcut : cutCommas 0 t = front ++ [last]) (c : Char) :
    cutCommas 0 (t ++ [c]) =
      if c = ',' ∧ 0 + excess t = 0 then front ++ [last] ++ [[]] else front ++ [last ++ [c]] := by
  obtain ⟨front', last', hcut', hnext⟩ := exists_cutCommas_concat 0 t
  obtain ⟨rfl, hlast⟩ := List.append_inj' (hcut.symm.trans hcut') rfl
  obtain rfl := List.singleton_inj.mp hlast
  exact hnext c

/-! ## Slices -/

theorem IsSlice.append {t part : Text} {slice : Nat × Nat} (h : IsSlice t slice part)
    (more : Text) : IsSlice (t ++ more) slice part := by
  obtain ⟨before, after, ht, hfirst, hlast⟩ := h
  exact ⟨before, after ++ more, by simp [ht], hfirst, hlast⟩

theorem forall₂_concat {α β : Type} {related : α → β → Prop} {as : List α} {bs : List β}
    {a : α} {b : β} (hfront : List.Forall₂ related as bs) (hlast : related a b) :
    List.Forall₂ related (as ++ [a]) (bs ++ [b]) := by
  induction hfront with
  | nil => exact .cons hlast .nil
  | cons hhead _ ih => exact .cons hhead ih

/-! ## The scan -/

/-- What a scan remembers is right about the text that it has read. -/
structure SegmentScan.After (scan : SegmentScan) (t : Text) : Prop where
  position : scan.position = byteLength t
  depth : scan.depth.toInt = excess t
  wentNegative : scan.wentNegative = dipsBelow 0 t
  parts : ∃ before last front, t = before ++ last ∧ scan.segmentStart = byteLength before ∧
    cutCommas 0 t = front ++ [last] ∧ List.Forall₂ (IsSlice before) scan.taken front

def braceCount (t : Text) : Nat := t.count '{' + t.count '}'

theorem excess_bounds (t : Text) : -(braceCount t : Int) ≤ excess t ∧ excess t ≤ braceCount t := by
  unfold excess braceCount
  push_cast
  omega

theorem braceCount_append (s t : Text) :
    braceCount (s ++ t) = braceCount s + braceCount t := by
  simp only [braceCount, List.count_append]
  omega

namespace SegmentScan

theorem start_after : start.After [] := by
  refine ⟨rfl, by decide, rfl, [], [], [], rfl, rfl, rfl, .nil⟩

/-- A depth that stays in the range of the machine is counted exactly. -/
theorem toInt_add_one {depth : Int32} (hrange : depth.toInt + 1 < 2 ^ 31) :
    (depth + 1).toInt = depth.toInt + 1 := by
  have hone : (1 : Int32).toInt = 1 := by decide
  have hlow := depth.le_toInt
  rw [Int32.toInt_add, hone]
  apply Int.bmod_eq_of_le <;> omega

theorem toInt_sub_one {depth : Int32} (hrange : -2 ^ 31 ≤ depth.toInt - 1) :
    (depth - 1).toInt = depth.toInt - 1 := by
  have hone : (1 : Int32).toInt = 1 := by decide
  have hhigh := depth.toInt_lt
  rw [Int32.toInt_sub, hone]
  apply Int.bmod_eq_of_le <;> omega

namespace After

variable {scan : SegmentScan} {t : Text}

theorem position_concat (h : scan.After t) (c : Char) :
    scan.position + c.utf8Size = byteLength (t ++ [c]) := by
  rw [h.position, byteLength_concat]

theorem depth_eq_zero_iff (h : scan.After t) : scan.depth = 0 ↔ excess t = 0 := by
  rw [← h.depth, ← Int32.toInt_inj]
  rfl

theorem wentNegative_concat (h : scan.After t) {c : Char} (hstep : 0 ≤ braceStep c) :
    scan.wentNegative = dipsBelow 0 (t ++ [c]) := by
  rw [h.wentNegative, dipsBelow_concat_of_nonneg hstep]

/-- A character that is no outer comma belongs to the part at hand. -/
theorem parts_of_inner (h : scan.After t) {c : Char} (hinner : ¬(c = ',' ∧ excess t = 0)) :
    ∃ before last front, t ++ [c] = before ++ last ∧ scan.segmentStart = byteLength before ∧
      cutCommas 0 (t ++ [c]) = front ++ [last] ∧
      List.Forall₂ (IsSlice before) scan.taken front := by
  obtain ⟨before, last, front, ht, hstart, hcut, htaken⟩ := h.parts
  refine ⟨before, last ++ [c], front, ?_, hstart, ?_, htaken⟩
  · rw [ht, List.append_assoc]
  · rw [cutCommas_concat hcut, if_neg (by simpa using hinner)]

/-- An outer comma ends the part at hand, which the slice up to it stands for. -/
theorem parts_of_comma (h : scan.After t) (houter : excess t = 0) :
    ∃ before last front, t ++ [','] = before ++ last ∧
      scan.position + 1 = byteLength before ∧ cutCommas 0 (t ++ [',']) = front ++ [last] ∧
      List.Forall₂ (IsSlice before) (scan.taken ++ [(scan.segmentStart, scan.position)])
        front := by
  obtain ⟨before, last, front, ht, hstart, hcut, htaken⟩ := h.parts
  have hslice : IsSlice (t ++ [',']) (scan.segmentStart, scan.position) last := by
    rw [hstart, h.position, ht]
    exact ⟨before, [','], rfl, rfl, rfl⟩
  refine ⟨t ++ [','], [], front ++ [last], ?_, ?_, ?_, ?_⟩
  · rw [List.append_nil]
  · exact h.position_concat ','
  · rw [cutCommas_concat hcut, if_pos ⟨rfl, by simpa using houter⟩]
  · refine forall₂_concat (htaken.imp ?_) hslice
    intro slice part hpart
    have hlonger := hpart.append (last ++ [','])
    rwa [← List.append_assoc, ← ht] at hlonger

/-- A step keeps what a scan remembers right, as long as the braces can be counted. -/
theorem step (h : scan.After t) (c : Char) (hbraces : braceCount (t ++ [c]) < 2 ^ 31) :
    (scan.step c).After (t ++ [c]) := by
  have hdepth := h.depth
  obtain ⟨hlow, hhigh⟩ := excess_bounds (t ++ [c])
  rw [excess_concat] at hlow hhigh
  unfold SegmentScan.step
  split_ifs with hopen hclose hcomma
  · subst hopen
    have hstep : braceStep '{' = 1 := by decide
    rw [hstep] at hhigh
    refine ⟨h.position_concat _, ?_, h.wentNegative_concat (by decide),
      h.parts_of_inner (by simp)⟩
    rw [toInt_add_one (by omega), hdepth, excess_concat, hstep]
  · subst hclose
    have hstep : braceStep '}' = -1 := by decide
    rw [hstep] at hlow
    have hnext : (scan.depth - 1).toInt = excess t + -1 := by
      rw [toInt_sub_one (by omega), hdepth, Int.sub_eq_add_neg]
    have hneg : scan.depth - 1 < 0 ↔ excess t + -1 < 0 := by
      rw [Int32.lt_iff_toInt_lt, hnext]
      rfl
    refine ⟨h.position_concat _, ?_, ?_, h.parts_of_inner (by simp)⟩
    · rw [hnext, excess_concat, hstep]
    · simp only [h.wentNegative, dipsBelow_concat, hstep, Int.zero_add, hneg]
  · obtain ⟨rfl, hzero⟩ := hcomma
    refine ⟨h.position_concat _, ?_, h.wentNegative_concat (by decide),
      h.parts_of_comma (h.depth_eq_zero_iff.mp hzero)⟩
    rw [hdepth, excess_concat, braceStep_comma, Int.add_zero]
  · have hstep : braceStep c = 0 := by simp [braceStep, hopen, hclose]
    refine ⟨h.position_concat _, ?_, h.wentNegative_concat (Int.le_of_eq hstep.symm),
      h.parts_of_inner ?_⟩
    · rw [hdepth, excess_concat, hstep, Int.add_zero]
    · rintro ⟨rfl, houter⟩
      exact hcomma ⟨rfl, h.depth_eq_zero_iff.mpr houter⟩

end After

theorem run_concat (t : Text) (c : Char) : run (t ++ [c]) = (run t).step c := by
  rw [run, List.foldl_append]
  rfl

theorem run_after {t : Text} (hbraces : braceCount t < 2 ^ 31) : (run t).After t := by
  induction t using List.reverseRecOn with
  | nil => exact start_after
  | append_singleton t c ih =>
      have hshorter : braceCount t < 2 ^ 31 := by
        rw [braceCount_append] at hbraces
        omega
      rw [run_concat]
      exact (ih hshorter).step c hbraces

/-- The slices that are taken stand for the parts between outer commas. -/
theorem forall₂_slices {t : Text} (hbraces : braceCount t < 2 ^ 31) :
    List.Forall₂ (IsSlice t) (slices t) (cutCommas 0 t) := by
  obtain ⟨before, last, front, ht, hstart, hcut, htaken⟩ := (run_after hbraces).parts
  have hslice : IsSlice t ((run t).segmentStart, byteLength t) last := by
    refine ⟨before, [], ?_, hstart.symm, ?_⟩
    · rw [List.append_nil, ht]
    · rw [ht]
  rw [slices, hcut]
  refine forall₂_concat (htaken.imp ?_) hslice
  intro slice part hpart
  rw [ht]
  exact hpart.append last

theorem segments_eq_answer {t : Text} (hbraces : braceCount t < 2 ^ 31) :
    t.segments = (run t).answer t (cutCommas 0 t) := by
  have hafter := run_after hbraces
  have hopen : (run t).depth > 0 ↔ braceDepth 0 t > 0 := by
    rw [gt_iff_lt, Int32.lt_iff_toInt_lt, hafter.depth, braceDepth_eq, Int.zero_add]
    rfl
  rw [segments, answer, hafter.wentNegative]
  simp only [hopen]

end SegmentScan

/-! ## The answers -/

/-- Some beginning of the text closes more braces than it opens. -/
def ClosesUnopened (t : Text) : Prop :=
  ∃ start, start <+: t ∧ start.count '{' < start.count '}'

theorem closesUnopened_iff {t : Text} :
    t.ClosesUnopened ↔ ∃ start, start <+: t ∧ excess start < 0 := by
  have hexcess (start : Text) : excess start < 0 ↔ start.count '{' < start.count '}' := by
    unfold excess
    omega
  simp only [ClosesUnopened, hexcess]

theorem excess_pos_iff {t : Text} : 0 < excess t ↔ t.count '}' < t.count '{' := by
  unfold excess
  omega

theorem segments_of_closesUnopened {t : Text} (h : t.ClosesUnopened) :
    t.segments = .error (.unopenedBraces t) :=
  segments_of_dips (closesUnopened_iff.mp h)

theorem segments_of_unclosed
    {t : Text} (hcloses : ¬t.ClosesUnopened) (hopen : t.count '}' < t.count '{') :
    t.segments = .error (.unclosedBraces t) := by
  refine segments_of_open ?_ (excess_pos_iff.mpr hopen)
  intro start hstart
  by_contra hneg
  exact hcloses (closesUnopened_iff.mpr ⟨start, hstart, Int.not_le.mp hneg⟩)

theorem balanced_of_not
    {t : Text} (hcloses : ¬t.ClosesUnopened) (hopen : ¬t.count '}' < t.count '{') :
    t.Balanced := by
  rcases t.balanced_or_dips_or_open with hbalanced | hdips | ⟨_, hpos⟩
  · exact hbalanced
  · exact absurd (closesUnopened_iff.mpr hdips) hcloses
  · exact absurd (excess_pos_iff.mp hpos) hopen

theorem isCut_iff {t : Text} {parts : List Text} : t.IsCut parts ↔ t.segments = .ok parts := by
  rw [segments_eq_ok_iff]
  constructor
  · intro h
    exact ⟨h.nonempty, h.closed, h.join⟩
  · rintro ⟨hparts, hclosed, hjoin⟩
    exact ⟨hparts, hclosed, hjoin⟩

/-- A text is refused for a brace that is closed without being open, else for one that stays open,
and is otherwise cut in the only way there is.  A scan by byte offsets finds the same. -/
theorem segments_exact (t : Text) (hbraces : braceCount t < 2 ^ 31) :
    (t.segments = .error (.unopenedBraces t) ↔ t.ClosesUnopened) ∧
    (t.segments = .error (.unclosedBraces t) ↔
      ¬t.ClosesUnopened ∧ t.count '}' < t.count '{') ∧
    (¬t.ClosesUnopened → ¬t.count '}' < t.count '{' →
      ∃ parts, t.segments = .ok parts ∧ ∀ others, t.IsCut others ↔ others = parts) ∧
    ∃ parts, List.Forall₂ t.IsSlice (SegmentScan.slices t) parts ∧
      t.segments = (SegmentScan.run t).answer t parts := by
  have hok (hcloses : ¬t.ClosesUnopened) (hopen : ¬t.count '}' < t.count '{') :
      t.segments = .ok (cutCommas 0 t) :=
    segments_of_balanced (balanced_of_not hcloses hopen)
  refine ⟨⟨?_, segments_of_closesUnopened⟩, ⟨?_, ?_⟩, ?_, ?_⟩
  · intro herror
    by_contra hcloses
    by_cases hopen : t.count '}' < t.count '{'
    · rw [segments_of_unclosed hcloses hopen] at herror
      cases herror
    · rw [hok hcloses hopen] at herror
      cases herror
  · intro herror
    have hcloses : ¬t.ClosesUnopened := by
      intro hcloses
      rw [segments_of_closesUnopened hcloses] at herror
      cases herror
    refine ⟨hcloses, ?_⟩
    by_contra hopen
    rw [hok hcloses hopen] at herror
    cases herror
  · rintro ⟨hcloses, hopen⟩
    exact segments_of_unclosed hcloses hopen
  · intro hcloses hopen
    refine ⟨cutCommas 0 t, hok hcloses hopen, ?_⟩
    intro others
    rw [isCut_iff, hok hcloses hopen, Except.ok.injEq, eq_comm]
  · exact ⟨cutCommas 0 t, SegmentScan.forall₂_slices hbraces,
      SegmentScan.segments_eq_answer hbraces⟩

/-- Characters of two bytes, and commas on both sides of braces. -/
theorem segments_exact_wide :
    let t : Text := "é={ü,ö},ß".toList
    braceCount t < 2 ^ 31 ∧
      SegmentScan.slices t = [(0, 10), (11, 13)] ∧
      (∀ others, t.IsCut others ↔ others = ["é={ü,ö}".toList, "ß".toList]) ∧
      ∃ parts, List.Forall₂ t.IsSlice [(0, 10), (11, 13)] parts ∧ t.segments = .ok parts := by
  intro t
  have hbraces : braceCount t < 2 ^ 31 := by decide
  have hsegments : t.segments = .ok ["é={ü,ö}".toList, "ß".toList] := by decide
  have hslices : SegmentScan.slices t = [(0, 10), (11, 13)] := by decide
  obtain ⟨hunopened, hunclosed, hcut, parts, hparts, hanswer⟩ := segments_exact t hbraces
  have hcloses : ¬t.ClosesUnopened := by
    rw [← hunopened, hsegments]
    simp
  obtain ⟨found, hfound, hunique⟩ := hcut hcloses (by decide)
  rw [hsegments, Except.ok.injEq] at hfound
  rw [← hfound] at hunique
  rw [hslices] at hparts
  rw [SegmentScan.answer, if_neg (by decide), if_neg (by decide)] at hanswer
  exact ⟨hbraces, hslices, hunique, parts, hparts, hanswer⟩

end Text
end FieldRules
