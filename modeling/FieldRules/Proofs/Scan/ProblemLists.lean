import FieldRules.Proofs.Annotation.Composition
import FieldRules.Proofs.Scan.UnknownNames
import FieldRules.Proofs.Text.Numerals
import FieldRules.Validation.Validator

/-!
# The list of problems

This file says what is wrong with an invocation in terms of its name and its
parameter, without the order in which the check asks its questions, and that every
invocation of an annotation has its say in the list of problems.  Names that are
known by default are never empty and never a slip, so at most one thing is wrong with
an invocation.

A validation stops at an annotation that cannot be read, whatever the value of its
field is, with the message that the check gives.
-/

namespace FieldRules

namespace Invocation

/-- The message says what is wrong with the invocation. -/
inductive HasProblem (custom : List Text) (invocation : Invocation) : Text → Prop where
  | emptyName (hname : invocation.name = []) :
      HasProblem custom invocation "empty validator name".toList
  /-- A colon in place of the mark of a clause. -/
  | slip {rest : Text} (hunknown : invocation.Unknown custom)
      (hname : invocation.name = "each:".toList ++ rest) :
      HasProblem custom invocation
        ("invalid syntax ".toList ++ invocation.render.quoted ++ " - did you mean \"each=".toList
          ++ Invocation.render ⟨rest, invocation.param⟩ ++ "\"?".toList)
  | unknownName (hunknown : invocation.Unknown custom)
      (hname : ∀ rest, invocation.name ≠ "each:".toList ++ rest) :
      HasProblem custom invocation ("unknown validator ".toList ++ invocation.name.quoted)
  | noLimit (hbound : invocation.name ∈ RuleName.bounds) (hparam : invocation.param = none) :
      HasProblem custom invocation
        (invocation.name ++ " expects integer parameter, got none".toList)
  | badLimit {param : Text} (hbound : invocation.name ∈ RuleName.bounds)
      (hparam : invocation.param = some param) (hlimit : ∀ n, ¬param.WritesInt64 n) :
      HasProblem custom invocation
        (invocation.name ++ " expects integer parameter, got ".toList ++ param.quoted)
  | unusedParam {param : Text} (hname : invocation.name = RuleName.required)
      (hparam : invocation.param = some param) :
      HasProblem custom invocation "required validator does not accept parameters".toList

variable {custom : List Text} {invocation : Invocation} {message : Text}

/-! ## Slips -/

theorem unknownMessage_of_slip {rest : Text} (hname : invocation.name = "each:".toList ++ rest) :
    invocation.unknownMessage =
      "invalid syntax ".toList ++ invocation.render.quoted ++ " - did you mean \"each=".toList
        ++ Invocation.render ⟨rest, invocation.param⟩ ++ "\"?".toList := by
  have hrender := (render_eq_append_iff mark_not_mem_slip).mpr ⟨rest, hname, rfl⟩
  simp only [unknownMessage, Text.dropStart?_eq_some_iff.mpr hrender]

theorem unknownMessage_of_not_slip (hname : ∀ rest, invocation.name ≠ "each:".toList ++ rest) :
    invocation.unknownMessage = "unknown validator ".toList ++ invocation.name.quoted := by
  cases hdrop : Text.dropStart? "each:".toList invocation.render with
  | none => simp only [unknownMessage, hdrop]
  | some rest =>
      have hrender := Text.dropStart?_eq_some_iff.mp hdrop
      obtain ⟨behind, hslip, _⟩ := (render_eq_append_iff mark_not_mem_slip).mp hrender
      exact absurd hslip (hname behind)

/-! ## One thing at most -/

theorem hasProblem_of_boundProblem?
    (hbound : invocation.name ∈ RuleName.bounds)
    (hproblem : invocation.boundProblem? = some message) :
    invocation.HasProblem custom message := by
  rcases boundProblem?_eq_some_iff.mp hproblem with
    ⟨hparam, hmessage⟩ | ⟨param, reason, hparam, hread, hmessage⟩
  · rw [hmessage]
    exact .noLimit hbound hparam
  · rw [hmessage]
    exact .badLimit hbound hparam (Text.exists_readInt64_error_iff.mp ⟨reason, hread⟩)

theorem hasProblem_of_useProblem?
    (hproblem : invocation.useProblem? = some message) :
    invocation.HasProblem custom message := by
  unfold useProblem? at hproblem
  split_ifs at hproblem with hbound hrequired
  · exact hasProblem_of_boundProblem? (by simpa using hbound) hproblem
  · obtain ⟨param, hparam⟩ := Option.isSome_iff_exists.mp hrequired.2
    rw [← Option.some.inj hproblem]
    exact .unusedParam hrequired.1 hparam

theorem hasProblem_of_problem?
    (hproblem : invocation.problem? custom = some message) :
    invocation.HasProblem custom message := by
  by_cases hempty : invocation.name = []
  · rw [problem?_of_empty hempty] at hproblem
    rw [← Option.some.inj hproblem]
    exact .emptyName hempty
  · rcases unknown_or_known custom hempty with hunknown | hknown
    · rw [problem?_of_unknown hunknown] at hproblem
      rw [← Option.some.inj hproblem]
      by_cases hslip : ∃ rest, invocation.name = "each:".toList ++ rest
      · obtain ⟨rest, hname⟩ := hslip
        rw [unknownMessage_of_slip hname]
        exact .slip hunknown hname
      · have hname := not_exists.mp hslip
        rw [unknownMessage_of_not_slip hname]
        exact .unknownName hunknown hname
    · rw [problem?_of_known hempty hknown] at hproblem
      exact hasProblem_of_useProblem? hproblem

theorem problem?_of_hasProblem (h : invocation.HasProblem custom message) :
    invocation.problem? custom = some message := by
  cases h with
  | emptyName hname => exact problem?_of_empty hname
  | slip hunknown hname =>
      rw [problem?_of_unknown hunknown, unknownMessage_of_slip hname]
  | unknownName hunknown hname =>
      rw [problem?_of_unknown hunknown, unknownMessage_of_not_slip hname]
  | noLimit hbound hparam =>
      rw [problem?_of_builtin (name_mem_builtin_of_bound hbound), useProblem?_of_bound hbound]
      exact boundProblem?_eq_some_iff.mpr (.inl ⟨hparam, rfl⟩)
  | badLimit hbound hparam hlimit =>
      obtain ⟨reason, hread⟩ := Text.exists_readInt64_error_iff.mpr hlimit
      rw [problem?_of_builtin (name_mem_builtin_of_bound hbound), useProblem?_of_bound hbound]
      exact boundProblem?_eq_some_iff.mpr (.inr ⟨_, reason, hparam, hread, rfl⟩)
  | unusedParam hname hparam =>
      have hbuiltin : RuleName.required ∈ RuleName.builtin := by decide
      have hnotBound : RuleName.required ∉ RuleName.bounds := by decide
      rw [problem?_of_builtin (by rwa [hname])]
      simp [useProblem?, hname, hnotBound, hparam]

/-- The check says of an invocation exactly what is wrong with it. -/
theorem problem?_eq_some_iff :
    invocation.problem? custom = some message ↔ invocation.HasProblem custom message := by
  constructor
  · exact hasProblem_of_problem?
  · exact problem?_of_hasProblem

end Invocation

/-! ## Annotations made of annotations -/

variable (custom : List Text) {source : Text} {rules : Annotation}

theorem annotationProblems_append_comma
    {more : Text} {others : Annotation} (hparse : Annotation.parse source = .ok rules)
    (hmore : Annotation.parse more = .ok others) :
    annotationProblems custom (source ++ ',' :: more) =
      annotationProblems custom source ++ annotationProblems custom more := by
  have hfirst := Annotation.parse_eq_ok_iff.mp hparse
  have hsecond := Annotation.parse_eq_ok_iff.mp hmore
  obtain ⟨segments, hcut, _⟩ := Directive.parseList_eq_ok_iff.mp hfirst
  have hboth : Annotation.parse (source ++ ',' :: more) =
      .ok ⟨rules.directives ++ others.directives⟩ := by
    apply Annotation.parse_eq_ok_iff.mpr
    apply (Directive.parseList_append_comma_iff hcut).mpr
    exact ⟨_, _, hfirst, hsecond, rfl⟩
  rw [annotationProblems_of_ok hboth, annotationProblems_of_ok hparse,
    annotationProblems_of_ok hmore, ← List.filterMap_append]
  apply congrArg
  exact Directive.invocationsIn_append rules.directives others.directives

theorem annotationProblems_inEach (hparse : Annotation.parse source = .ok rules) :
    annotationProblems custom source.inEach = annotationProblems custom source := by
  have hclause : Annotation.parse source.inEach = .ok ⟨[.each rules.directives]⟩ := by
    apply Annotation.parse_eq_ok_iff.mpr
    apply Directive.parseList_inEach_iff.mpr
    exact Annotation.parse_eq_ok_iff.mp hparse
  rw [annotationProblems_of_ok hclause, annotationProblems_of_ok hparse]
  apply congrArg
  exact Directive.invocationsIn_each rules.directives

/-! ## Annotations that cannot be read -/

theorem Validator.validateWith_of_error
    {fault : GrammarError} (hparse : Annotation.parse source = .error fault)
    (validator : Validator) (formatter : Formatter) (record name : Text) (value : Value)
    (others : List (Field Value)) :
    validator.validateWith formatter (.record record (⟨name, some source, value⟩ :: others)) =
      .report formatter (.ofField record name source) value (.grammar fault) := by
  simp only [validateWith, Value.resolve, List.map_cons, Run.sequence, applyField, hparse]
  rfl

theorem annotationProblems_eq_nil_iff :
    annotationProblems custom source = [] ↔
      ∃ rules, Annotation.parse source = .ok rules ∧
        ∀ invocation ∈ rules.invocations, ∀ message, ¬invocation.HasProblem custom message := by
  cases hparse : Annotation.parse source with
  | error fault => simp [annotationProblems_of_error hparse]
  | ok rules =>
      simp only [annotationProblems_of_ok hparse, List.filterMap_eq_nil_iff, Except.ok.injEq,
        exists_eq_left', ← Invocation.problem?_eq_some_iff, Option.eq_none_iff_forall_ne_some]

/-! ## The whole list -/

/-- An annotation that cannot be read has one problem, which is what the validation of such a field
ends with.  One that can be read has the problems of its invocations, in their order.  So problems
are put together as annotations are. -/
theorem annotationProblems_exact :
    (∀ source fault, Annotation.parse source = .error fault →
      annotationProblems custom source = [(FieldError.grammar fault).message] ∧
      ∀ (validator : Validator) (formatter : Formatter) (record name : Text) (value : Value)
          (others : List (Field Value)),
        validator.validateWith formatter (.record record (⟨name, some source, value⟩ :: others)) =
          .report formatter (.ofField record name source) value (.grammar fault)) ∧
    (∀ source rules, Annotation.parse source = .ok rules →
      annotationProblems custom source =
        rules.invocations.filterMap (Invocation.problem? custom)) ∧
    (∀ (invocation : Invocation) (message : Text),
      invocation.problem? custom = some message ↔ invocation.HasProblem custom message) ∧
    (∀ source, annotationProblems custom source = [] ↔
      ∃ rules, Annotation.parse source = .ok rules ∧
        ∀ invocation ∈ rules.invocations, ∀ message, ¬invocation.HasProblem custom message) ∧
    (∀ source more rules others,
      Annotation.parse source = .ok rules → Annotation.parse more = .ok others →
      annotationProblems custom (source ++ ',' :: more) =
        annotationProblems custom source ++ annotationProblems custom more) ∧
    ∀ source rules, Annotation.parse source = .ok rules →
      annotationProblems custom source.inEach = annotationProblems custom source := by
  refine ⟨?_, ?_, ?_, ?_, ?_, ?_⟩
  · intro source fault hparse
    exact ⟨annotationProblems_of_error hparse, Validator.validateWith_of_error hparse⟩
  · intro source rules hparse
    exact annotationProblems_of_ok hparse
  · intro invocation message
    exact Invocation.problem?_eq_some_iff
  · intro source
    exact annotationProblems_eq_nil_iff custom
  · intro source more rules others hparse hmore
    exact annotationProblems_append_comma custom hparse hmore
  · intro source rules hparse
    exact annotationProblems_inEach custom hparse

/-- A slip with a mark in its braces, and a registered name that is known by default as well. -/
theorem annotationProblems_exact_nested :
    let custom : List Text := ["min".toList, "sku".toList]
    let source : Text := "min=x, each={sku=1, each:{a=b}}".toList
    let more : Text := "required=, =5,".toList
    let broken : Text := "each={a}b{c}".toList
    annotationProblems custom (source ++ ',' :: more).inEach =
        ["min expects integer parameter, got ".toList ++ Text.quoted "x".toList,
          "invalid syntax ".toList ++ Text.quoted "each:{a=b}".toList
            ++ " - did you mean \"each={a=b}\"?".toList,
          "required validator does not accept parameters".toList,
          "empty validator name".toList] ∧
      annotationProblems custom broken =
        ["unopened braces in ".toList ++ Text.quoted "a\x7db\x7bc".toList] ∧
      Validator.new.validate (.record "Order".toList [⟨"id".toList, some broken, .nil⟩]) =
        .report defaultFormatter ⟨"Order".toList, "id".toList, broken, []⟩ .nil
          (.grammar (.unopenedBraces "a\x7db\x7bc".toList)) := by
  intro custom source more broken
  have hsource : Annotation.parse source = .ok ⟨[.invoke ⟨"min".toList, some "x".toList⟩,
      .each [.invoke ⟨"sku".toList, some "1".toList⟩,
        .invoke ⟨"each:\x7ba".toList, some "b\x7d".toList⟩]]⟩ := by
    apply Annotation.parse_eq_ok_iff.mpr
    rw [← Directive.iterate_readSegments 2]
    rfl
  have hmore : Annotation.parse more = .ok ⟨[.invoke ⟨"required".toList, some []⟩,
      .invoke ⟨[], some "5".toList⟩]⟩ := by
    apply Annotation.parse_eq_ok_iff.mpr
    rw [← Directive.iterate_readSegments 1]
    rfl
  have hboth : Annotation.parse (source ++ ',' :: more) =
      .ok ⟨[.invoke ⟨"min".toList, some "x".toList⟩,
        .each [.invoke ⟨"sku".toList, some "1".toList⟩,
          .invoke ⟨"each:\x7ba".toList, some "b\x7d".toList⟩],
        .invoke ⟨"required".toList, some []⟩, .invoke ⟨[], some "5".toList⟩]⟩ := by
    apply Annotation.parse_eq_ok_iff.mpr
    rw [← Directive.iterate_readSegments 2]
    rfl
  have hbroken : Annotation.parse broken =
      .error (.unopenedBraces "a\x7db\x7bc".toList) := by
    apply Annotation.parse_eq_error_iff.mpr
    rw [← Directive.iterate_readSegments 2]
    rfl
  obtain ⟨hfails, hreads, -, -, hjoined, hclause⟩ := annotationProblems_exact custom
  obtain ⟨hmessage, hreport⟩ := hfails broken _ hbroken
  refine ⟨?_, hmessage, hreport _ _ _ _ _ _⟩
  rw [hclause _ _ hboth, hjoined _ _ _ _ hsource hmore, hreads _ _ hsource, hreads _ _ hmore]
  rfl

end FieldRules
