import FieldRules.Annotation.Parser
import FieldRules.Proofs.Text.Braces
import Mathlib.Logic.Function.Iterate

/-!
# What the parser does with one segment

Each function of the parser is described by an equation on texts whose shape is
known, so that no later proof unfolds it.  The last section shows that white space
around a text has no influence on what is read from it.
-/

namespace FieldRules

open Text

/-! ## Names and parameters -/

namespace Invocation

theorem ofSegment_of_not_mem
    {segment : Text} (hmark : '=' ∉ segment) :
    ofSegment segment = ⟨segment.trim, none⟩ := by
  unfold ofSegment
  rw [splitOnce?_eq_none_iff.mpr hmark]

theorem ofSegment_append
    {left : Text} (hmark : '=' ∉ left) (right : Text) :
    ofSegment (left ++ '=' :: right) = ⟨left.trim, some right.trim⟩ := by
  unfold ofSegment
  rw [splitOnce?_eq_some_iff.mpr ⟨hmark, rfl⟩]

/-- A segment either has no mark or is cut at the first one. -/
theorem segment_cases (segment : Text) :
    '=' ∉ segment ∨ ∃ left right, '=' ∉ left ∧ segment = left ++ '=' :: right := by
  cases hsplit : splitOnce? '=' segment with
  | none => exact .inl (splitOnce?_eq_none_iff.mp hsplit)
  | some parts => exact .inr ⟨parts.1, parts.2, splitOnce?_eq_some_iff.mp hsplit⟩

theorem ofSegment_trim (segment : Text) :
    ofSegment segment.trim = ofSegment segment := by
  obtain ⟨before, after, hbefore, haround, hsegment⟩ := (pads_trim segment).around
  have hnotBefore : '=' ∉ before := hbefore.not_mem (by decide)
  have hnotAfter : '=' ∉ after := haround.not_mem (by decide)
  rcases segment_cases segment.trim with hmark | ⟨left, right, hmark, hcore⟩
  · have hnone : '=' ∉ segment := by
      rw [hsegment]
      simp [hnotBefore, hmark, hnotAfter]
    rw [ofSegment_of_not_mem hmark, ofSegment_of_not_mem hnone, trim_trim]
  · have hleft : '=' ∉ before ++ left := by
      simp [hnotBefore, hmark]
    have hshape : segment = (before ++ left) ++ '=' :: (right ++ after) := by
      rw [hsegment, hcore]
      simp
    rw [hcore, ofSegment_append hmark, hshape, ofSegment_append hleft,
      trim_blank_append hbefore, trim_append_blank haround]

end Invocation

namespace Text

/-- The text begins with an opening brace and ends with a closing one. -/
def Braced (t : Text) : Prop :=
  ∃ body, t = '{' :: (body ++ ['}'])

theorem Braced.trimmed {t : Text} (h : t.Braced) : t.Trimmed := by
  obtain ⟨body, rfl⟩ := h
  constructor
  · intro c hc
    cases hc
    decide
  · intro c hc
    rw [← List.cons_append, List.getLast?_concat] at hc
    cases hc
    decide

theorem stripBraces_braces (body : Text) :
    stripBraces ('{' :: (body ++ ['}'])) = body.trim := by
  have hbraced : Braced ('{' :: (body ++ ['}'])) := ⟨body, rfl⟩
  simp [stripBraces, hbraced.trimmed.trim_eq]

theorem stripBraces_of_not_braced
    {t : Text} (htrimmed : t.Trimmed) (hbare : ¬t.Braced) : t.stripBraces = t := by
  unfold stripBraces
  rw [htrimmed.trim_eq]
  split
  · next rest =>
      have hlast : rest.getLast? ≠ some '}' := by
        intro hlast
        obtain ⟨body, rfl⟩ := List.getLast?_eq_some_iff.mp hlast
        exact hbare ⟨body, rfl⟩
      rw [if_neg hlast]
  · rfl

theorem stripBraces_isInfix {t : Text} (htrimmed : t.Trimmed) : t.stripBraces <:+: t := by
  by_cases hbraced : t.Braced
  · obtain ⟨body, rfl⟩ := hbraced
    rw [stripBraces_braces]
    exact (trim_isInfix body).trans ⟨['{'], ['}'], by simp⟩
  · have hsame := stripBraces_of_not_braced htrimmed hbraced
    simp only [hsame, List.infix_rfl]

end Text

theorem plain_each : Text.Plain RuleName.each := by
  intro c hc
  simp [RuleName.each] at hc
  rcases hc with rfl | rfl | rfl | rfl <;> decide

/-! ## One segment after the other -/

namespace Directive

variable {read : Text → Except GrammarError (List Directive)}

theorem ofSegment_trim (segment : Text) :
    ofSegment read segment.trim = ofSegment read segment := by
  unfold ofSegment
  rw [Invocation.ofSegment_trim]

theorem ofSegment_of_name_ne_each
    {segment : Text} (hname : (Invocation.ofSegment segment).name ≠ RuleName.each) :
    ofSegment read segment = .ok (.invoke (Invocation.ofSegment segment)) := by
  unfold ofSegment
  rw [if_neg hname]

theorem ofSegment_eq_ok_iff_of_name_eq_each
    {segment : Text} {directive : Directive}
    (hname : (Invocation.ofSegment segment).name = RuleName.each) :
    ofSegment read segment = .ok directive ↔
      ∃ body, read (Invocation.ofSegment segment).eachBody = .ok body ∧
        directive = .each body := by
  unfold ofSegment
  rw [if_pos hname]
  cases read (Invocation.ofSegment segment).eachBody with
  | error fault => simp
  | ok body => simp [eq_comm]

theorem ofSegments_cons_blank
    {raw : Text} (hblank : raw.Blank) (rest : List Text) :
    ofSegments read (raw :: rest) = ofSegments read rest := by
  rw [ofSegments, if_pos (trim_eq_nil_iff.mpr hblank)]

theorem ofSegments_cons_eq_ok_iff
    {raw : Text} {rest : List Text} {directives : List Directive} (hvisible : ¬raw.Blank) :
    ofSegments read (raw :: rest) = .ok directives ↔
      ∃ first others, ofSegment read raw = .ok first ∧
        ofSegments read rest = .ok others ∧ directives = first :: others := by
  have hne : raw.trim ≠ [] := fun hnil => hvisible (trim_eq_nil_iff.mp hnil)
  rw [ofSegments, if_neg hne, ofSegment_trim]
  cases hfirst : ofSegment read raw with
  | error fault => simp
  | ok first =>
      cases hrest : ofSegments read rest with
      | error fault => simp
      | ok others => simp [eq_comm]

/-- Only the cores of segments are read. -/
theorem ofSegments_congr
    {raws others : List Text} (h : raws.map trim = others.map trim) :
    ofSegments read raws = ofSegments read others := by
  induction raws generalizing others with
  | nil =>
      cases others with
      | nil => rfl
      | cons other others => simp at h
  | cons raw raws ih =>
      cases others with
      | nil => simp at h
      | cons other others =>
          simp only [List.map_cons, List.cons.injEq] at h
          rw [ofSegments, ofSegments, h.1, ih h.2]

theorem parseList_eq_ok_iff {t : Text} {directives : List Directive} :
    parseList t = .ok directives ↔
      ∃ parts, t.segments = .ok parts ∧ ofSegments parseList parts = .ok directives := by
  rw [parseList_eq_ofSegments]
  cases hcut : t.segments with
  | error fault => simp
  | ok parts => simp

@[simp] theorem parseList_nil : parseList [] = .ok [] := by
  have hcut : Text.segments [] = .ok [[]] := by
    rw [segments_of_balanced balanced_nil]
    rfl
  rw [parseList_eq_ok_iff]
  exact ⟨_, hcut, by rw [ofSegments_cons_blank blank_nil, ofSegments]⟩

/-- Reads a text whose clause bodies are read in a given way. -/
def readSegments (read : Text → Except GrammarError (List Directive)) (t : Text) :
    Except GrammarError (List Directive) :=
  match t.segments with
  | .error fault => .error fault
  | .ok parts => ofSegments read parts

/-- The reader goes down as many clauses as are asked for, so that a given text can be computed
with. -/
theorem iterate_readSegments (depth : Nat) :
    readSegments^[depth] parseList = parseList := by
  apply Function.iterate_fixed
  funext t
  exact (parseList_eq_ofSegments t).symm

theorem balanced_of_parseList
    {t : Text} {directives : List Directive} (h : parseList t = .ok directives) :
    t.Balanced := by
  obtain ⟨parts, hcut, _⟩ := parseList_eq_ok_iff.mp h
  exact balanced_of_segments hcut

end Directive

/-! ## White space around a text -/

namespace Text

theorem segments_blank_append
    {left t first : Text} {rest : List Text} (hleft : left.Blank)
    (h : t.segments = .ok (first :: rest)) :
    (left ++ t).segments = .ok ((left ++ first) :: rest) := by
  obtain ⟨_, hclosed, hjoin⟩ := segments_eq_ok_iff.mp h
  rw [segments_eq_ok_iff]
  refine ⟨by simp, ?_, ?_⟩
  · intro part hpart
    rcases List.mem_cons.mp hpart with rfl | hmem
    · exact (closed_plain_append hleft.plain).mpr (hclosed first List.mem_cons_self)
    · exact hclosed part (List.mem_cons_of_mem first hmem)
  · rw [← hjoin]
    cases rest with
    | nil => simp
    | cons second rest => simp [List.intercalate_cons_cons]

theorem intercalate_comma_concat (parts : List Text) (last right : Text) :
    [','].intercalate (parts ++ [last ++ right]) =
      [','].intercalate (parts ++ [last]) ++ right := by
  by_cases hparts : parts = []
  · simp [hparts]
  · rw [intercalate_comma_append hparts (by simp), intercalate_comma_append hparts (by simp)]
    simp

theorem segments_append_blank
    {right t last : Text} {parts : List Text} (hright : right.Blank)
    (h : t.segments = .ok (parts ++ [last])) :
    (t ++ right).segments = .ok (parts ++ [last ++ right]) := by
  obtain ⟨_, hclosed, hjoin⟩ := segments_eq_ok_iff.mp h
  rw [segments_eq_ok_iff]
  refine ⟨by simp, ?_, ?_⟩
  · intro part hpart
    rcases List.mem_append.mp hpart with hmem | hmem
    · exact hclosed part (List.mem_append_left [last] hmem)
    · rw [List.mem_singleton.mp hmem]
      exact (closed_append_plain hright.plain).mpr (hclosed last (by simp))
  · rw [intercalate_comma_concat, hjoin]

/-- White space around a text ends up around its first and its last segment. -/
theorem segments_pad
    {left right t : Text} {parts : List Text} (hleft : left.Blank) (hright : right.Blank)
    (h : t.segments = .ok parts) :
    ∃ padded, (left ++ t ++ right).segments = .ok padded ∧
      padded.map trim = parts.map trim := by
  have hne : parts ≠ [] := (segments_eq_ok_iff.mp h).1
  obtain ⟨init, last, rfl⟩ := List.eq_nil_or_concat parts |>.resolve_left hne
  rw [List.concat_eq_append] at h
  have hend := segments_append_blank hright h
  rw [List.append_assoc]
  cases init with
  | nil =>
      refine ⟨_, segments_blank_append hleft hend, ?_⟩
      simp [trim_blank_append hleft, trim_append_blank hright]
  | cons first init =>
      refine ⟨_, segments_blank_append hleft hend, ?_⟩
      simp [trim_blank_append hleft, trim_append_blank hright]

end Text

namespace Directive

/-- White space around a text has no influence on what is read from it. -/
theorem parseList_pad_iff
    {left right t : Text} {directives : List Directive}
    (hleft : left.Blank) (hright : right.Blank) :
    parseList (left ++ t ++ right) = .ok directives ↔ parseList t = .ok directives := by
  have hbalanced : Balanced (left ++ t ++ right) ↔ t.Balanced := by
    have hcut := balanced_insert_plain hright.plain (left ++ t) []
    rw [List.append_nil, List.append_nil] at hcut
    rw [hcut]
    simpa using balanced_insert_plain hleft.plain [] t
  by_cases ht : t.Balanced
  · have hcut := segments_of_balanced ht
    obtain ⟨padded, hpadded, htrim⟩ := segments_pad hleft hright hcut
    rw [parseList_eq_ofSegments, parseList_eq_ofSegments, hcut, hpadded]
    simp only
    rw [ofSegments_congr htrim]
  · constructor
    · intro h
      exact absurd (hbalanced.mp (balanced_of_parseList h)) ht
    · intro h
      exact absurd (balanced_of_parseList h) ht

theorem parseList_trim_iff {t : Text} {directives : List Directive} :
    parseList t.trim = .ok directives ↔ parseList t = .ok directives := by
  obtain ⟨left, right, hleft, hright, ht⟩ := (pads_trim t).around
  have hpad : parseList (left ++ t.trim ++ right) = .ok directives ↔
      parseList t.trim = .ok directives := parseList_pad_iff hleft hright
  rw [← ht] at hpad
  exact hpad.symm

end Directive
end FieldRules
