import FieldRules.Proofs.Annotation.Layout

/-!
# The canonical text of an annotation

Whatever the parser gives is well formed: names and parameters are trimmed, and
each invocation is written as a closed text.  The canonical text of well-formed
directives lays them out.  Together with the characterisation of the parser by
layouts this proves that the canonical text is read back.
-/

namespace FieldRules

open Text

/-- An invocation that can be the meaning of a segment. -/
structure Invocation.WellFormed (invocation : Invocation) : Prop where
  name_trimmed : invocation.name.Trimmed
  mark_not_mem : '=' ∉ invocation.name
  name_ne_each : invocation.name ≠ RuleName.each
  name_ne_nil : invocation.param = none → invocation.name ≠ []
  param_trimmed : ∀ param, invocation.param = some param → param.Trimmed
  render_closed : invocation.render.Closed

inductive Directive.WellFormed : Directive → Prop where
  | invoke {invocation : Invocation} (hinvocation : invocation.WellFormed) :
      Directive.WellFormed (.invoke invocation)
  | each {body : List Directive}
      (hbody : ∀ directive ∈ body, Directive.WellFormed directive) :
      Directive.WellFormed (.each body)

theorem Directive.wellFormed_each_iff {body : List Directive} :
    (Directive.each body).WellFormed ↔ ∀ directive ∈ body, directive.WellFormed := by
  constructor
  · intro h
    cases h with
    | each hbody => exact hbody
  · exact Directive.WellFormed.each

/-! ## What is read is well formed -/

theorem pads_ne_nil
    {t core : Text} (hpads : t.Pads core) (hvisible : ¬t.Blank) : core ≠ [] := by
  intro hnil
  apply hvisible
  rw [← trim_eq_nil_iff, hpads.trim_eq, hnil]

mutual

theorem Layout.wellFormed
    {t : Text} {directives : List Directive} :
    Layout t directives → ∀ directive ∈ directives, directive.WellFormed
  | .join _ hclosed hsegments => hsegments.wellFormed hclosed

theorem SegmentsLayout.wellFormed
    {segments : List Text} {directives : List Directive} :
    SegmentsLayout segments directives → (∀ segment ∈ segments, segment.Closed) →
      ∀ directive ∈ directives, directive.WellFormed
  | .nil, _ => by
      intro directive hmem
      contradiction
  | .skip _ hrest, hclosed => by
      apply hrest.wellFormed
      intro other hother
      exact hclosed other (List.mem_cons_of_mem _ hother)
  | .cons hvisible hfirst hrest, hclosed => by
      intro directive hmem
      rcases List.mem_cons.mp hmem with heq | htail
      · rw [heq]
        exact hfirst.wellFormed (hclosed _ List.mem_cons_self) hvisible
      · refine hrest.wellFormed ?_ directive htail
        intro other hother
        exact hclosed other (List.mem_cons_of_mem _ hother)

theorem SegmentLayout.wellFormed
    {segment : Text} {directive : Directive} :
    SegmentLayout segment directive → segment.Closed → ¬segment.Blank →
      directive.WellFormed
  | .bare hname hmark hother, hclosed, hvisible => by
      refine .invoke ⟨hname.trimmed, hmark, hother, ?_, ?_, ?_⟩
      · intro _
        exact pads_ne_nil hname hvisible
      · intro param hparam
        contradiction
      · exact hname.closed_iff.mp hclosed
  | .assigned hname hmark hother hparam, hclosed, _ => by
      refine .invoke ⟨hname.trimmed, hmark, hother, ?_, ?_, ?_⟩
      · intro hnone
        contradiction
      · intro param hsome
        cases hsome
        exact hparam.trimmed
      · have hleft := (hname.closed_append_iff _).mp hclosed
        rw [List.append_cons] at hleft
        have hright := (hparam.append_closed_iff _).mp hleft
        rw [← List.append_cons] at hright
        exact hright
  | .eachAlone _, _, _ => by
      apply Directive.WellFormed.each
      intro directive hmem
      contradiction
  | .eachBraced _ _ hbody, _, _ => .each hbody.wellFormed
  | .eachBare _ _ _ hbody, _, _ => .each hbody.wellFormed

end

/-! ## What is well formed is laid out by its canonical text -/

namespace Directive

theorem renderList_eq (directives : List Directive) :
    renderList directives = [','].intercalate (directives.map render) := by
  induction directives with
  | nil => rfl
  | cons first rest ih =>
      cases rest with
      | nil => simp [renderList]
      | cons second rest =>
          rw [renderList, ih]
          simp [List.intercalate_cons_cons]

theorem render_each (body : List Directive) :
    render (.each body) =
      (RuleName.each ++ ['=']) ++ '{' :: (renderList body ++ ['}']) := by
  simp [render]

theorem plain_each_mark : Plain (RuleName.each ++ ['=']) := by
  intro c hc
  rcases List.mem_append.mp hc with heach | hmark
  · exact plain_each c heach
  · rw [List.mem_singleton.mp hmark]
    decide

/-- What is written for a directive is closed: the commas of a clause end up inside its braces, so
that balance is all that its parts need. -/
theorem WellFormed.render_closed
    {directive : Directive} (h : directive.WellFormed) : directive.render.Closed := by
  induction h with
  | invoke hinvocation => simpa [render] using hinvocation.render_closed
  | each hbody ih =>
      rw [render_each, closed_plain_append plain_each_mark]
      apply Balanced.closed_braces
      rw [renderList_eq]
      apply balanced_intercalate_comma
      intro part hpart
      obtain ⟨inner, hinner, rfl⟩ := List.mem_map.mp hpart
      exact (ih inner hinner).balanced

theorem WellFormed.render_not_blank
    {directive : Directive} (h : directive.WellFormed) : ¬directive.render.Blank := by
  cases h with
  | @invoke invocation hinvocation =>
      intro hblank
      obtain ⟨name, param⟩ := invocation
      cases param with
      | none =>
          apply hinvocation.name_ne_nil rfl
          have hnil := trim_eq_nil_iff.mpr hblank
          simpa [render, Invocation.render, hinvocation.name_trimmed.trim_eq] using hnil
      | some param =>
          apply hblank.not_mem (c := '=') (by decide)
          simp [render, Invocation.render]
  | @each body hbody =>
      intro hblank
      apply hblank.not_mem (c := '=') (by decide)
      simp [render]

theorem WellFormed.segments_renderList
    {directives : List Directive}
    (h : ∀ directive ∈ directives, directive.WellFormed)
    (hsegment : ∀ directive ∈ directives, SegmentLayout directive.render directive) :
    SegmentsLayout (directives.map render) directives := by
  induction directives with
  | nil => exact .nil
  | cons first rest ih =>
      refine .cons (h first List.mem_cons_self).render_not_blank
        (hsegment first List.mem_cons_self) (ih ?_ ?_)
      · intro other hother
        exact h other (List.mem_cons_of_mem first hother)
      · intro other hother
        exact hsegment other (List.mem_cons_of_mem first hother)

theorem WellFormed.layout_of_segments
    {directives : List Directive}
    (h : ∀ directive ∈ directives, directive.WellFormed)
    (hsegment : ∀ directive ∈ directives, SegmentLayout directive.render directive) :
    Layout (renderList directives) directives := by
  cases directives with
  | nil =>
      have hempty : Layout ([','].intercalate [[]]) [] := by
        refine .join (by simp) ?_ (.skip blank_nil .nil)
        intro segment hmem
        rw [List.mem_singleton.mp hmem]
        exact closesFrom_zero_iff.mp ⟨Int.le_refl 0, trivial, rfl⟩
      simpa [renderList] using hempty
  | cons first rest =>
      rw [renderList_eq]
      refine .join (by simp) ?_ (WellFormed.segments_renderList h hsegment)
      intro part hpart
      obtain ⟨inner, hinner, rfl⟩ := List.mem_map.mp hpart
      exact (h inner hinner).render_closed

theorem WellFormed.segmentLayout_render
    {directive : Directive} (h : directive.WellFormed) :
    SegmentLayout directive.render directive := by
  induction h with
  | @invoke invocation hinvocation =>
      obtain ⟨name, param⟩ := invocation
      have hname : Pads name name := pads_iff_trim_eq.mpr hinvocation.name_trimmed.trim_eq
      cases param with
      | none => exact .bare hname hinvocation.mark_not_mem hinvocation.name_ne_each
      | some param =>
          have hparam : Pads param param :=
            pads_iff_trim_eq.mpr (hinvocation.param_trimmed param rfl).trim_eq
          exact .assigned hname hinvocation.mark_not_mem hinvocation.name_ne_each hparam
  | @each body hbody ih =>
      have hname : Pads RuleName.each RuleName.each :=
        pads_iff_trim_eq.mpr (by decide)
      have hbraced : Braced ('{' :: (renderList body ++ ['}'])) := ⟨_, rfl⟩
      have hparam := pads_iff_trim_eq.mpr hbraced.trimmed.trim_eq
      have hlayout := SegmentLayout.eachBraced hname hparam
        (WellFormed.layout_of_segments hbody ih)
      simpa [render] using hlayout

theorem layout_renderList
    {directives : List Directive}
    (h : ∀ directive ∈ directives, directive.WellFormed) :
    Layout (renderList directives) directives := by
  apply WellFormed.layout_of_segments h
  intro directive hmem
  exact (h directive hmem).segmentLayout_render

end Directive

/-! ## Reading back -/

namespace Annotation

/-- The canonical text of what was read is read as the same annotation, and is
therefore its own canonical text. -/
theorem parse_render_of_parse
    {t : Text} {rules : Annotation} (hparse : parse t = .ok rules) :
    parse rules.render = .ok rules ∧
      (parse rules.render).map render = .ok rules.render := by
  have hlayout : Layout t rules.directives :=
    parseList_eq_ok_iff_layout.mp (parse_eq_ok_iff.mp hparse)
  have hcanonical : Layout rules.render rules.directives :=
    Directive.layout_renderList hlayout.wellFormed
  have hback : parse rules.render = .ok rules :=
    parse_eq_ok_iff.mpr hcanonical.parseList_eq
  rw [hback]
  exact ⟨rfl, rfl⟩

/-- A name with a brace that its parameter closes, and clauses within clauses. -/
theorem parse_render_of_parse_nested :
    parse " {a=b}, each={ x={1,2} , each = y = z=w },".toList =
        .ok ⟨[.invoke ⟨"\x7ba".toList, some "b\x7d".toList⟩,
          .each [.invoke ⟨"x".toList, some "{1,2}".toList⟩,
            .each [.invoke ⟨"y".toList, some "z=w".toList⟩]]]⟩ ∧
      parse "{a=b},each={x={1,2},each={y=z=w}}".toList =
        .ok ⟨[.invoke ⟨"\x7ba".toList, some "b\x7d".toList⟩,
          .each [.invoke ⟨"x".toList, some "{1,2}".toList⟩,
            .each [.invoke ⟨"y".toList, some "z=w".toList⟩]]]⟩ := by
  have hparse : parse " {a=b}, each={ x={1,2} , each = y = z=w },".toList =
      .ok ⟨[.invoke ⟨"\x7ba".toList, some "b\x7d".toList⟩,
        .each [.invoke ⟨"x".toList, some "{1,2}".toList⟩,
          .each [.invoke ⟨"y".toList, some "z=w".toList⟩]]]⟩ := by
    rw [parse_eq_ok_iff, ← Directive.iterate_readSegments 3]
    rfl
  exact ⟨hparse, (parse_render_of_parse hparse).1⟩

end Annotation

end FieldRules
