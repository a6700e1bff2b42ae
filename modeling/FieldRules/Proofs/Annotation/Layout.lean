import FieldRules.Proofs.Annotation.Reading

/-!
# Layouts of annotations

The grammar of annotations, as a relation between texts and directives that
mentions neither the cut of a text nor the order in which it is read.  The main
statement is that the parser accepts a text exactly when it lays out some
directives, and then gives those.
-/

namespace FieldRules

open Text

mutual

/-- The text joins closed segments by commas, and those of them that are not blank
stand for the directives, one for each. -/
inductive Layout : Text → List Directive → Prop where
  | join {segments : List Text} {directives : List Directive}
      (hne : segments ≠ [])
      (hclosed : ∀ segment ∈ segments, segment.Closed)
      (hsegments : SegmentsLayout segments directives) :
      Layout ([','].intercalate segments) directives

inductive SegmentsLayout : List Text → List Directive → Prop where
  | nil : SegmentsLayout [] []
  | skip {segment : Text} {segments : List Text} {directives : List Directive}
      (hblank : segment.Blank)
      (hrest : SegmentsLayout segments directives) :
      SegmentsLayout (segment :: segments) directives
  | cons {segment : Text} {segments : List Text}
      {directive : Directive} {directives : List Directive}
      (hvisible : ¬segment.Blank)
      (hfirst : SegmentLayout segment directive)
      (hrest : SegmentsLayout segments directives) :
      SegmentsLayout (segment :: segments) (directive :: directives)

/-- White space may stand around a segment and around its first `=`. -/
inductive SegmentLayout : Text → Directive → Prop where
  | bare {segment name : Text}
      (hname : segment.Pads name) (hmark : '=' ∉ name)
      (hother : name ≠ RuleName.each) :
      SegmentLayout segment (.invoke ⟨name, none⟩)
  | assigned {left right name param : Text}
      (hname : left.Pads name) (hmark : '=' ∉ name)
      (hother : name ≠ RuleName.each)
      (hparam : right.Pads param) :
      SegmentLayout (left ++ '=' :: right) (.invoke ⟨name, some param⟩)
  | eachAlone {segment : Text}
      (hname : segment.Pads RuleName.each) :
      SegmentLayout segment (.each [])
  | eachBraced {left right body : Text} {directives : List Directive}
      (hname : left.Pads RuleName.each)
      (hparam : right.Pads ('{' :: (body ++ ['}'])))
      (hbody : Layout body directives) :
      SegmentLayout (left ++ '=' :: right) (.each directives)
  | eachBare {left right body : Text} {directives : List Directive}
      (hname : left.Pads RuleName.each)
      (hparam : right.Pads body) (hbare : ¬body.Braced)
      (hbody : Layout body directives) :
      SegmentLayout (left ++ '=' :: right) (.each directives)

end

/-! ## A layout is read as its directives -/

theorem mark_not_mem_of_pads_each
    {t : Text} (hname : t.Pads RuleName.each) : '=' ∉ t := by
  apply hname.not_mem
  · decide
  · decide

mutual

theorem Layout.parseList_eq
    {t : Text} {directives : List Directive} :
    Layout t directives → Directive.parseList t = .ok directives
  | .join hne hclosed hsegments => by
      rw [Directive.parseList_eq_ok_iff]
      exact ⟨_, segments_eq_ok_iff.mpr ⟨hne, hclosed, rfl⟩, hsegments.ofSegments_eq⟩

theorem SegmentsLayout.ofSegments_eq
    {segments : List Text} {directives : List Directive} :
    SegmentsLayout segments directives →
      Directive.ofSegments Directive.parseList segments = .ok directives
  | .nil => rfl
  | .skip hblank hrest => by
      rw [Directive.ofSegments_cons_blank hblank]
      exact hrest.ofSegments_eq
  | .cons hvisible hfirst hrest => by
      rw [Directive.ofSegments_cons_eq_ok_iff hvisible]
      exact ⟨_, _, hfirst.ofSegment_eq, hrest.ofSegments_eq, rfl⟩

theorem SegmentLayout.ofSegment_eq
    {segment : Text} {directive : Directive} :
    SegmentLayout segment directive →
      Directive.ofSegment Directive.parseList segment = .ok directive
  | .bare hname hmark hother => by
      have hinvocation := Invocation.ofSegment_of_not_mem
        (hname.not_mem (by decide) hmark)
      rw [hname.trim_eq] at hinvocation
      rw [Directive.ofSegment_of_name_ne_each, hinvocation]
      rw [hinvocation]
      exact hother
  | @SegmentLayout.assigned left right name param hname hmark hother hparam => by
      have hinvocation := Invocation.ofSegment_append
        (hname.not_mem (by decide) hmark) right
      rw [hname.trim_eq, hparam.trim_eq] at hinvocation
      rw [Directive.ofSegment_of_name_ne_each, hinvocation]
      rw [hinvocation]
      exact hother
  | .eachAlone hname => by
      have hinvocation := Invocation.ofSegment_of_not_mem
        (mark_not_mem_of_pads_each hname)
      rw [hname.trim_eq] at hinvocation
      rw [Directive.ofSegment_eq_ok_iff_of_name_eq_each (by rw [hinvocation]), hinvocation]
      exact ⟨[], Directive.parseList_nil, rfl⟩
  | @SegmentLayout.eachBraced left right body directives hname hparam hbody => by
      have hinvocation := Invocation.ofSegment_append
        (mark_not_mem_of_pads_each hname) right
      rw [hname.trim_eq, hparam.trim_eq] at hinvocation
      rw [Directive.ofSegment_eq_ok_iff_of_name_eq_each (by rw [hinvocation]), hinvocation]
      refine ⟨directives, ?_, rfl⟩
      simp only [Invocation.eachBody, stripBraces_braces]
      exact Directive.parseList_trim_iff.mpr hbody.parseList_eq
  | @SegmentLayout.eachBare left right body directives hname hparam hbare hbody => by
      have hinvocation := Invocation.ofSegment_append
        (mark_not_mem_of_pads_each hname) right
      rw [hname.trim_eq, hparam.trim_eq] at hinvocation
      rw [Directive.ofSegment_eq_ok_iff_of_name_eq_each (by rw [hinvocation]), hinvocation]
      refine ⟨directives, ?_, rfl⟩
      simp only [Invocation.eachBody, stripBraces_of_not_braced hparam.trimmed hbare]
      exact hbody.parseList_eq

end

/-! ## What is read is laid out -/

/-- Clause bodies are shorter than their segment, so they may be taken to be laid
out already. -/
theorem segmentLayout_of_ofSegment
    {segment : Text} {directive : Directive}
    (ih : ∀ body directives, body.length < segment.length →
      Directive.parseList body = .ok directives → Layout body directives)
    (hread : Directive.ofSegment Directive.parseList segment = .ok directive) :
    SegmentLayout segment directive := by
  rcases Invocation.segment_cases segment with hmark | ⟨left, right, hmark, rfl⟩
  · have hinvocation := Invocation.ofSegment_of_not_mem hmark
    have hpads := pads_trim segment
    by_cases hname : segment.trim = RuleName.each
    · rw [Directive.ofSegment_eq_ok_iff_of_name_eq_each (by rw [hinvocation, hname]),
        hinvocation] at hread
      obtain ⟨directives, hbody, rfl⟩ := hread
      have hnone : directives = [] := by
        simpa [Invocation.eachBody] using hbody.symm
      rw [hnone]
      rw [hname] at hpads
      exact .eachAlone hpads
    · rw [Directive.ofSegment_of_name_ne_each (by rwa [hinvocation]), hinvocation] at hread
      cases hread
      exact .bare hpads (fun hmem => hmark (hpads.mem hmem)) hname
  · have hinvocation := Invocation.ofSegment_append hmark right
    have hpadsName := pads_trim left
    have hpadsParam := pads_trim right
    by_cases hname : trim left = RuleName.each
    · rw [hname] at hpadsName
      rw [Directive.ofSegment_eq_ok_iff_of_name_eq_each (by rw [hinvocation, hname]),
        hinvocation] at hread
      obtain ⟨directives, hread, rfl⟩ := hread
      simp only [Invocation.eachBody] at hread
      have hlength : (trim right).length < (left ++ '=' :: right).length := by
        have hshort := length_trim_le right
        simp only [List.length_append, List.length_cons]
        omega
      by_cases hbraced : (trim right).Braced
      · obtain ⟨body, hbody⟩ := hbraced
        rw [hbody] at hpadsParam hread hlength
        rw [stripBraces_braces, Directive.parseList_trim_iff] at hread
        have hinner : body.length < (left ++ '=' :: right).length := by
          simp only [List.length_cons, List.length_append] at hlength ⊢
          omega
        exact .eachBraced hpadsName hpadsParam (ih body directives hinner hread)
      · rw [stripBraces_of_not_braced (trim_trimmed right) hbraced] at hread
        exact .eachBare hpadsName hpadsParam hbraced
          (ih (trim right) directives hlength hread)
    · rw [Directive.ofSegment_of_name_ne_each (by rwa [hinvocation]), hinvocation] at hread
      cases hread
      exact .assigned hpadsName (fun hmem => hmark (hpadsName.mem hmem)) hname hpadsParam

theorem segmentsLayout_of_ofSegments
    {segments : List Text} {directives : List Directive}
    (ih : ∀ segment ∈ segments, ∀ body directives, body.length < segment.length →
      Directive.parseList body = .ok directives → Layout body directives)
    (hread : Directive.ofSegments Directive.parseList segments = .ok directives) :
    SegmentsLayout segments directives := by
  induction segments generalizing directives with
  | nil =>
      cases hread
      exact .nil
  | cons segment segments ihrest =>
      have hbodies : ∀ other ∈ segments, ∀ body directives, body.length < other.length →
          Directive.parseList body = .ok directives → Layout body directives := by
        intro other hother
        exact ih other (List.mem_cons_of_mem segment hother)
      by_cases hblank : segment.Blank
      · rw [Directive.ofSegments_cons_blank hblank] at hread
        exact .skip hblank (ihrest hbodies hread)
      · obtain ⟨first, others, hfirst, hothers, rfl⟩ :=
          (Directive.ofSegments_cons_eq_ok_iff hblank).mp hread
        refine .cons hblank ?_ (ihrest hbodies hothers)
        exact segmentLayout_of_ofSegment (ih segment List.mem_cons_self) hfirst

/-- What is read from a text is laid out in it.  The induction is on the length of the text, since
the body of a clause has commas of its own and is no part of the cut. -/
theorem layout_of_parseList
    {t : Text} {directives : List Directive}
    (hread : Directive.parseList t = .ok directives) : Layout t directives := by
  induction hlength : t.length using Nat.strong_induction_on generalizing t directives with
  | _ n ih =>
      obtain ⟨segments, hcut, hsegments⟩ := Directive.parseList_eq_ok_iff.mp hread
      obtain ⟨hne, hclosed, hjoin⟩ := segments_eq_ok_iff.mp hcut
      rw [← hjoin]
      refine .join hne hclosed (segmentsLayout_of_ofSegments ?_ hsegments)
      intro segment hsegment body inner hshort hinner
      have hle := length_le_of_mem_segments hcut hsegment
      exact ih body.length (by omega) hinner rfl

theorem parseList_eq_ok_iff_layout {t : Text} {directives : List Directive} :
    Directive.parseList t = .ok directives ↔ Layout t directives := by
  constructor
  · exact layout_of_parseList
  · exact Layout.parseList_eq

namespace Annotation

theorem parse_eq_ok_iff {t : Text} {rules : Annotation} :
    parse t = .ok rules ↔ Directive.parseList t = .ok rules.directives := by
  unfold parse
  cases hread : Directive.parseList t with
  | error fault => simp
  | ok directives =>
      cases rules with
      | mk others => simp

theorem layout_of_parse {t : Text} {rules : Annotation} (hparse : parse t = .ok rules) :
    Layout t rules.directives :=
  parseList_eq_ok_iff_layout.mp (parse_eq_ok_iff.mp hparse)

/-- The parser accepts exactly the layouts, each with the directives that it lays out. -/
theorem parse_eq_ok_iff_layout (t : Text) (rules : Annotation) :
    parse t = .ok rules ↔ Layout t rules.directives := by
  rw [parse_eq_ok_iff]
  exact parseList_eq_ok_iff_layout

end Annotation

end FieldRules
