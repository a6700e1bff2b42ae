import FieldRules.Proofs.Annotation.Layout
import FieldRules.Proofs.Text.Scanning

/-!
# How far reading goes down

Reading a text goes on with the body of every each-clause among its segments.  A clause
spends at least four bytes on its name and one more on its mark, so bodies get shorter
from one level to the next whether or not they can be read.  Levels that lie deeper
than the length of the text allows are never asked for, and what is read is a tree that
is no deeper and no larger than that.
-/

namespace FieldRules

open Text

/-! ## Bytes -/

namespace Text

theorem byteLength_le_of_isInfix {part t : Text} (h : part <:+: t) :
    byteLength part ≤ byteLength t := by
  obtain ⟨before, after, rfl⟩ := h
  rw [byteLength_append, byteLength_append]
  omega

theorem length_le_byteLength (t : Text) : t.length ≤ byteLength t := by
  induction t with
  | nil => exact Nat.le_refl 0
  | cons c rest ih =>
      have hc := c.utf8Size_pos
      rw [List.length_cons, byteLength]
      omega

theorem Pads.byteLength_le {t core : Text} (h : t.Pads core) : byteLength core ≤ byteLength t := by
  rw [← h.trim_eq]
  exact byteLength_le_of_isInfix (trim_isInfix t)

theorem byteLength_each : byteLength RuleName.each = 4 := by
  decide

theorem byteLength_mark_cons (mark : Char) (hmark : mark.utf8Size = 1) (t : Text) :
    byteLength (mark :: t) = byteLength t + 1 := by
  rw [byteLength, hmark, Nat.add_comm]

/-- Every part has a comma behind it but the last. -/
theorem byteLength_intercalate_comma {parts : List Text} (hparts : parts ≠ []) :
    byteLength ([','].intercalate parts) + 1 =
      (parts.map fun part => byteLength part + 1).sum := by
  induction parts with
  | nil => exact absurd rfl hparts
  | cons first rest ih =>
      cases rest with
      | nil => simp
      | cons second rest =>
          have hcomma : byteLength [','] = 1 := by decide
          rw [List.intercalate_cons_cons, byteLength_append, byteLength_append, hcomma,
            List.map_cons, List.sum_cons, ← ih (by simp)]
          omega

end Text

/-! ## Clauses among the segments of a text -/

/-- The clause is a segment of the text, so reading the text goes on with the body of the clause. -/
inductive HasClause (source : Text) (clause : Invocation) : Prop where
  | intro {segments : List Text} {segment : Text}
      (hcut : source.segments = .ok segments) (hsegment : segment ∈ segments)
      (hread : Invocation.ofSegment segment = clause) (hname : clause.name = RuleName.each) :
      HasClause source clause

/-- The bytes that a clause takes at least for itself: its name, and the mark of a parameter. -/
def Invocation.ownBytes (clause : Invocation) : Nat :=
  byteLength clause.name + if clause.param.isSome then 1 else 0

theorem Invocation.byteLength_eachBody_ofSegment (segment : Text) :
    byteLength (ofSegment segment).eachBody + (ofSegment segment).ownBytes ≤
      byteLength segment := by
  rcases segment_cases segment with hmark | ⟨left, right, hmark, rfl⟩
  · have hname := (pads_trim segment).byteLength_le
    rw [ofSegment_of_not_mem hmark]
    simpa [eachBody, ownBytes, byteLength] using hname
  · have hname := (pads_trim left).byteLength_le
    have hbody := byteLength_le_of_isInfix
      ((stripBraces_isInfix (trim_trimmed right)).trans (trim_isInfix right))
    rw [ofSegment_append hmark, byteLength_append, byteLength_mark_cons '=' (by decide)]
    simp only [eachBody, ownBytes, Option.isSome_some, if_true]
    omega

theorem HasClause.byteLength_eachBody {source : Text} {clause : Invocation}
    (h : HasClause source clause) :
    byteLength clause.eachBody + clause.ownBytes ≤ byteLength source := by
  obtain ⟨hcut, hsegment, rfl, _⟩ := h
  obtain ⟨_, _, rfl⟩ := segments_eq_ok_iff.mp hcut
  exact Nat.le_trans (Invocation.byteLength_eachBody_ofSegment _)
    (byteLength_le_of_isInfix (isInfix_intercalate hsegment))

theorem HasClause.ownBytes_eq {source : Text} {clause : Invocation} (h : HasClause source clause) :
    clause.ownBytes = if clause.param.isSome then 5 else 4 := by
  obtain ⟨_, _, _, hname⟩ := h
  rw [Invocation.ownBytes, hname, byteLength_each]
  split <;> rfl

/-! ## Levels of reading -/

namespace Directive

variable {read other : Text → Except GrammarError (List Directive)}

theorem ofSegment_congr_read {segment : Text}
    (h : (Invocation.ofSegment segment).name = RuleName.each →
      read (Invocation.ofSegment segment).eachBody =
        other (Invocation.ofSegment segment).eachBody) :
    ofSegment read segment = ofSegment other segment := by
  by_cases hname : (Invocation.ofSegment segment).name = RuleName.each
  · simp only [ofSegment, h hname]
  · rw [ofSegment_of_name_ne_each hname, ofSegment_of_name_ne_each hname]

theorem ofSegments_congr_read {segments : List Text}
    (h : ∀ segment ∈ segments, ofSegment read segment = ofSegment other segment) :
    ofSegments read segments = ofSegments other segments := by
  induction segments with
  | nil => rfl
  | cons segment rest ih =>
      obtain ⟨hsegment, hrest⟩ := List.forall_mem_cons.mp h
      rw [ofSegments, ofSegments, ih hrest, ofSegment_trim, ofSegment_trim, hsegment]

/-- All that reading a text asks of the level below are the bodies of its clauses. -/
theorem readSegments_congr {t : Text}
    (h : ∀ clause, HasClause t clause → read clause.eachBody = other clause.eachBody) :
    readSegments read t = readSegments other t := by
  unfold readSegments
  cases hcut : t.segments with
  | error fault => rfl
  | ok segments =>
      apply ofSegments_congr_read
      intro segment hsegment
      apply ofSegment_congr_read
      intro hname
      exact h _ ⟨hcut, hsegment, rfl, hname⟩

/-- Whatever stands below the levels that a text of this length can reach, it is not asked. -/
theorem iterate_readSegments_eq_parseList {levels : Nat} {t : Text}
    (hlevels : byteLength t + 1 < 5 * levels) :
    readSegments^[levels] read t = parseList t := by
  induction levels generalizing t with
  | zero => omega
  | succ levels ih =>
      have hparse : parseList t = readSegments parseList t := parseList_eq_ofSegments t
      rw [Function.iterate_succ_apply', hparse]
      apply readSegments_congr
      intro clause hclause
      apply ih
      have hbody := hclause.byteLength_eachBody
      rw [hclause.ownBytes_eq] at hbody
      cases hparam : clause.param with
      | some param =>
          rw [hparam, Option.isSome_some, if_pos rfl] at hbody
          omega
      | none =>
          rw [hparam, Option.isSome_none, if_neg Bool.false_ne_true] at hbody
          rw [Invocation.eachBody, hparam, byteLength]
          omega

/-! ## The tree that is read -/

mutual

/-- How many each-clauses stand inside each other. -/
def clauseDepth : Directive → Nat
  | .invoke _ => 0
  | .each body => clauseDepthIn body + 1

def clauseDepthIn : List Directive → Nat
  | [] => 0
  | directive :: rest => max directive.clauseDepth (clauseDepthIn rest)

end

mutual

/-- The number of directives, those in the bodies of clauses included. -/
def size : Directive → Nat
  | .invoke _ => 1
  | .each body => sizeIn body + 1

def sizeIn : List Directive → Nat
  | [] => 0
  | directive :: rest => directive.size + sizeIn rest

end

end Directive

open Directive (clauseDepthIn sizeIn)

def Annotation.clauseDepth (rules : Annotation) : Nat := clauseDepthIn rules.directives

def Annotation.size (rules : Annotation) : Nat := sizeIn rules.directives

mutual

theorem Layout.bounds
    {t : Text} {directives : List Directive} :
    Layout t directives →
      5 * clauseDepthIn directives ≤ byteLength t + 1 ∧
        2 * sizeIn directives ≤ byteLength t + 1
  | .join hne _ hsegments => by
      rw [byteLength_intercalate_comma hne]
      exact hsegments.bounds

theorem SegmentsLayout.bounds
    {segments : List Text} {directives : List Directive} :
    SegmentsLayout segments directives →
      5 * clauseDepthIn directives ≤ (segments.map fun part => byteLength part + 1).sum ∧
        2 * sizeIn directives ≤ (segments.map fun part => byteLength part + 1).sum
  | .nil => by simp [clauseDepthIn, sizeIn]
  | .skip _ hrest => by
      obtain ⟨hdepth, hsize⟩ := hrest.bounds
      rw [List.map_cons, List.sum_cons]
      omega
  | .cons hvisible hfirst hrest => by
      obtain ⟨hdepth, hsize⟩ := hfirst.bounds hvisible
      obtain ⟨hdepths, hsizes⟩ := hrest.bounds
      rw [List.map_cons, List.sum_cons, clauseDepthIn, sizeIn]
      omega

theorem SegmentLayout.bounds
    {segment : Text} {directive : Directive} :
    SegmentLayout segment directive → ¬segment.Blank →
      5 * directive.clauseDepth ≤ byteLength segment + 1 ∧
        2 * directive.size ≤ byteLength segment + 1
  | @SegmentLayout.bare segment _ _ _ _, hvisible => by
      have hlength := length_le_byteLength segment
      have hsegment : segment.length ≠ 0 := by
        intro hnil
        rw [List.length_eq_zero_iff.mp hnil] at hvisible
        exact hvisible blank_nil
      rw [Directive.clauseDepth, Directive.size]
      omega
  | .assigned _ _ _ _, _ => by
      rw [Directive.clauseDepth, Directive.size, byteLength_append,
        byteLength_mark_cons '=' (by decide)]
      omega
  | .eachAlone hname, _ => by
      have heach := hname.byteLength_le
      rw [byteLength_each] at heach
      rw [Directive.clauseDepth, Directive.size, clauseDepthIn, sizeIn]
      omega
  | @SegmentLayout.eachBraced _ _ body _ hname hparam hbody, _ => by
      obtain ⟨hdepth, hsize⟩ := hbody.bounds
      have heach := hname.byteLength_le
      have hinside := byteLength_le_of_isInfix
        (show body <:+: '{' :: (body ++ ['}']) from ⟨['{'], ['}'], by simp⟩)
      have hright := hparam.byteLength_le
      rw [byteLength_each] at heach
      rw [Directive.clauseDepth, Directive.size, byteLength_append,
        byteLength_mark_cons '=' (by decide)]
      omega
  | .eachBare hname hparam _ hbody, _ => by
      obtain ⟨hdepth, hsize⟩ := hbody.bounds
      have heach := hname.byteLength_le
      have hright := hparam.byteLength_le
      rw [byteLength_each] at heach
      rw [Directive.clauseDepth, Directive.size, byteLength_append,
        byteLength_mark_cons '=' (by decide)]
      omega

end

namespace Annotation

/-- Reading goes on with texts that are shorter by the bytes of a clause and with nothing else, so
that it comes to an end on every text.  What it gives is no deeper and no larger than the text
has room for. -/
theorem parse_descends (t : Text) :
    (∀ clause, HasClause t clause →
      byteLength clause.eachBody + (if clause.param.isSome then 5 else 4) ≤ byteLength t) ∧
    (∀ read other : Text → Except GrammarError (List Directive),
      (∀ clause, HasClause t clause → read clause.eachBody = other clause.eachBody) →
        Directive.readSegments read t = Directive.readSegments other t) ∧
    (∀ levels, byteLength t + 1 < 5 * levels →
      ∀ read, (Directive.readSegments^[levels] read t).map mk = parse t) ∧
    ∀ rules, parse t = .ok rules →
      5 * rules.clauseDepth ≤ byteLength t + 1 ∧ 2 * rules.size ≤ byteLength t + 1 := by
  refine ⟨?_, ?_, ?_, ?_⟩
  · intro clause hclause
    rw [← hclause.ownBytes_eq]
    exact hclause.byteLength_eachBody
  · intro read other
    exact Directive.readSegments_congr
  · intro levels hlevels read
    rw [Directive.iterate_readSegments_eq_parseList hlevels, parse]
    cases Directive.parseList t <;> rfl
  · intro rules hparse
    exact (layout_of_parse hparse).bounds

/-- Three clauses in the least room that they can have, and a brace that stays open two levels
down, of which the first level speaks already. -/
theorem parse_descends_nested :
    let t : Text := "each=each=each".toList
    let inner : Text := "each=each".toList
    let unclosed : Text := "each=each=\x7b".toList
    let rules : Annotation := ⟨[.each [.each [.each []]]]⟩
    HasClause t ⟨RuleName.each, some inner⟩ ∧ byteLength inner + 5 ≤ byteLength t ∧
      (∀ read, (Directive.readSegments^[4] read t).map mk = .ok rules) ∧
      5 * 3 ≤ byteLength t + 1 ∧ 2 * 3 ≤ byteLength t + 1 ∧
      ∀ read, (Directive.readSegments^[3] read unclosed).map mk =
        .error (.unclosedBraces unclosed) := by
  intro t inner unclosed rules
  have hclause : HasClause t ⟨RuleName.each, some inner⟩ :=
    .intro (rfl : t.segments = .ok [t]) (List.mem_singleton_self t) rfl rfl
  have hparse : parse t = .ok rules := by
    rw [parse_eq_ok_iff, ← Directive.iterate_readSegments 4]
    rfl
  have hunclosed : parse unclosed = .error (.unclosedBraces unclosed) := by
    rw [parse, Directive.parseList_eq_ofSegments]
    rfl
  obtain ⟨hshorter, _, hlevels, hbounds⟩ := parse_descends t
  obtain ⟨hdepth, hsize⟩ := hbounds rules hparse
  refine ⟨hclause, hshorter _ hclause, ?_, hdepth, hsize, ?_⟩
  · intro read
    rw [hlevels 4 (by decide), hparse]
  · intro read
    rw [(parse_descends unclosed).2.2.1 3 (by decide), hunclosed]

end Annotation

end FieldRules
