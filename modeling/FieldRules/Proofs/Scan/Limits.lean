import FieldRules.Proofs.Scan.ProblemLists
import FieldRules.Proofs.Validation.Bounds

/-!
# Limits that can be read

The parameter of a bound is read twice, by the check of an annotation and by the rule
itself whenever it is used.  Both read the same text in the same way, so an annotation
with one bound passes the check exactly if no use of the bound finds fault with its
parameter.
-/

namespace FieldRules

/-! ## Reading a limit -/

namespace Bound

variable {context : Context} {param : Text}

theorem readLimit_eq_ok_iff (hparam : context.param = some param) (limit : Int) :
    readLimit context = .ok limit ↔ param.WritesInt64 limit := by
  rw [← Text.readInt64_eq_ok_iff]
  simp only [readLimit, Context.requireParam, hparam]
  cases Text.readInt64 param with
  | ok _ => simp
  | error _ => simp

theorem readLimit_eq_badParameter_iff (hparam : context.param = some param) (reason : NumeralFault) :
    readLimit context = .error (.rejected (.badParameter context.rule param reason)) ↔
      param.RefusedFor reason := by
  rw [← Text.readInt64_eq_error_iff]
  simp only [readLimit, Context.requireParam, hparam]
  cases Text.readInt64 param with
  | ok _ => simp
  | error _ => simp

end Bound

theorem Text.writesInt64_ofInt (n : Int64) : (ofInt n.toInt).WritesInt64 n.toInt := by
  have hmin := n.le_toInt
  have hmax := n.toInt_lt
  refine ⟨writesInt_ofInt n.toInt, ?_, ?_⟩
  · rw [minInt64]
    omega
  · rw [maxInt64]
    omega

/-! ## An annotation with one bound -/

section Single

variable {name param : Text}

theorem plain_bound_mark (hname : name ∈ RuleName.bounds) : Text.Plain (name ++ ['=']) := by
  have hinert : ∀ bound ∈ RuleName.bounds,
      '{' ∉ bound ++ ['='] ∧ '}' ∉ bound ++ ['='] ∧ ',' ∉ bound ++ ['='] := by
    decide
  obtain ⟨hopening, hclosing, hcomma⟩ := hinert name hname
  intro c hc
  exact ⟨ne_of_mem_of_not_mem hc hopening, ne_of_mem_of_not_mem hc hclosing,
    ne_of_mem_of_not_mem hc hcomma⟩

theorem Annotation.parse_bound (hname : name ∈ RuleName.bounds) (hclosed : param.Closed) :
    parse (name ++ '=' :: param) = .ok ⟨[.invoke ⟨name, some param.trim⟩]⟩ := by
  have htrimmed : ∀ bound ∈ RuleName.bounds, bound.trim = bound := by decide
  have hmark : ∀ bound ∈ RuleName.bounds, '=' ∉ bound := by decide
  have heach : ∀ bound ∈ RuleName.bounds, bound ≠ RuleName.each := by decide
  have hcut : (name ++ '=' :: param).Closed := by
    rw [List.append_cons, Text.closed_plain_append (plain_bound_mark hname)]
    exact hclosed
  have hvisible : ¬(name ++ '=' :: param).Blank := by
    intro hblank
    exact hblank.not_mem (c := '=') (by decide) (by simp)
  have hsegment : SegmentLayout (name ++ '=' :: param) (.invoke ⟨name, some param.trim⟩) :=
    .assigned (Text.pads_iff_trim_eq.mpr (htrimmed name hname)) (hmark name hname)
      (heach name hname) (Text.pads_trim param)
  apply parse_eq_ok_iff.mpr
  rw [Directive.parseList_of_segment (Text.segments_eq_self_iff.mpr hcut) hvisible]
  exact hsegment.ofSegment_eq

theorem Invocation.boundProblem?_eq_none_iff :
    Invocation.boundProblem? ⟨name, some param⟩ = none ↔ ∃ limit, param.WritesInt64 limit := by
  simp only [← Text.readInt64_eq_ok_iff, boundProblem?]
  cases Text.readInt64 param with
  | ok limit => simp
  | error reason => simp

theorem annotationProblems_bound_eq_nil_iff
    (hname : name ∈ RuleName.bounds) (hclosed : param.Closed) (custom : List Text) :
    annotationProblems custom (name ++ '=' :: param) = [] ↔
      ∃ limit, param.trim.WritesInt64 limit := by
  have hbuiltin : name ∈ RuleName.builtin := List.mem_cons_of_mem _ hname
  have hinvocations : Annotation.invocations ⟨[.invoke ⟨name, some param.trim⟩]⟩ =
      [⟨name, some param.trim⟩] := rfl
  have hparse := Annotation.parse_bound hname hclosed
  rw [annotationProblems_of_ok hparse, hinvocations]
  simp only [List.filterMap_eq_nil_iff, List.mem_singleton, forall_eq]
  rw [Invocation.problem?_of_builtin hbuiltin, Invocation.useProblem?_of_bound hname,
    Invocation.boundProblem?_eq_none_iff]

theorem Registry.exists_bound_of_mem_bounds (hname : name ∈ RuleName.bounds) :
    ∃ bound : Bound, builtin.get? name = some bound.rule := by
  simp only [RuleName.bounds, List.mem_cons, List.not_mem_nil, or_false] at hname
  rcases hname with rfl | rfl | rfl | rfl
  · exact ⟨.lower, rfl⟩
  · exact ⟨.lower, rfl⟩
  · exact ⟨.upper, rfl⟩
  · exact ⟨.upper, rfl⟩

namespace Validator

theorem rejected_of_format_mem_invoke
    {registry : Registry} {formatter : Formatter} {invocation : Invocation} {value found : Value}
    {site place : Site} {cause : FieldError}
    (hcall : .format place found cause ∈ (invoke registry formatter invocation value site).calls) :
    ∃ rule fault, registry.get? invocation.name = some rule ∧
      rule ⟨value, invocation.param, invocation.name, site⟩ = .error (.rejected fault) ∧
      cause = .rule fault := by
  unfold invoke at hcall
  cases hget : registry.get? invocation.name with
  | none => simp [hget, Run.done] at hcall
  | some rule =>
      cases hresult : rule ⟨value, invocation.param, invocation.name, site⟩ with
      | ok _ => simp [hget, hresult] at hcall
      | error failure =>
          cases failure with
          | aborted missing => simp [hget, hresult] at hcall
          | rejected fault =>
              simp only [hget, hresult, Run.report, List.mem_pair, reduceCtorEq, false_or,
                Call.format.injEq] at hcall
              exact ⟨rule, fault, rfl, hresult, hcall.2.2⟩

theorem format_mem_invoke
    {registry : Registry} {formatter : Formatter} {invocation : Invocation} {value : Value}
    {site : Site} {rule : Rule} {fault : RuleError}
    (hget : registry.get? invocation.name = some rule)
    (hresult : rule ⟨value, invocation.param, invocation.name, site⟩ = .error (.rejected fault)) :
    .format site value (.rule fault) ∈
      (invoke registry formatter invocation value site).calls := by
  simp [invoke, hget, hresult, Run.report]

theorem validateWith_bound
    (hname : name ∈ RuleName.bounds) (hclosed : param.Closed) (formatter : Formatter)
    (record field : Text) (value : Value) :
    new.validateWith formatter (.record record [⟨field, some (name ++ '=' :: param), value⟩]) =
      invoke .builtin formatter ⟨name, some param.trim⟩ value
        (.ofField record field (name ++ '=' :: param)) := by
  simp only [validateWith, Value.resolve, List.map_cons, List.map_nil, Run.sequence, applyField,
    Annotation.parse_bound hname hclosed, applyDirectives, applyDirective, Run.andThen_done]
  rfl

theorem badParameter_mem_validateWith
    (hname : name ∈ RuleName.bounds) (hclosed : param.Closed) {reason : NumeralFault}
    (hrefused : param.trim.RefusedFor reason) (formatter : Formatter) (record field : Text)
    (value : Value) :
    .format (.ofField record field (name ++ '=' :: param)) value
        (.rule (.badParameter name param.trim reason)) ∈
      (new.validateWith formatter
        (.record record [⟨field, some (name ++ '=' :: param), value⟩])).calls := by
  obtain ⟨bound, hget⟩ := Registry.exists_bound_of_mem_bounds hname
  rw [validateWith_bound hname hclosed]
  exact format_mem_invoke hget (Bound.rule_of_refused rfl hrefused)

theorem badParameter_not_mem_validateWith
    (hname : name ∈ RuleName.bounds) (hclosed : param.Closed) {limit : Int}
    (hlimit : param.trim.WritesInt64 limit) (formatter : Formatter) (record field : Text)
    (value : Value) (site : Site) (found : Value) (rule given : Text) (reason : NumeralFault) :
    .format site found (.rule (.badParameter rule given reason)) ∉
      (new.validateWith formatter
        (.record record [⟨field, some (name ++ '=' :: param), value⟩])).calls := by
  obtain ⟨bound, hget⟩ := Registry.exists_bound_of_mem_bounds hname
  rw [validateWith_bound hname hclosed]
  intro hcall
  obtain ⟨used, fault, hused, hresult, hcause⟩ := rejected_of_format_mem_invoke hcall
  rw [hget, Option.some.injEq] at hused
  rw [← hused, Bound.rule_of_limit rfl hlimit, ← FieldError.rule.inj hcause] at hresult
  exact Bound.check_not_misused hresult (.badParameter rule given reason)

end Validator

end Single

/-- Which texts are limits, and why others are not.  The check of an annotation refuses the parameter
of a bound exactly if the bound does, which it does for every value alike. -/
theorem limits_exact :
    (∀ (context : Context) (param : Text), context.param = some param →
      (∀ limit, Bound.readLimit context = .ok limit ↔
        param.WritesInt limit ∧
          -9223372036854775808 ≤ limit ∧ limit ≤ 9223372036854775807) ∧
      ∀ reason,
        Bound.readLimit context = .error (.rejected (.badParameter context.rule param reason)) ↔
          param.RefusedFor reason) ∧
    (∀ (context : Context) (n : Int64), context.param = some (Text.ofInt n.toInt) →
      Bound.readLimit context = .ok n.toInt) ∧
    ∀ (custom : List Text) (name param : Text), name ∈ RuleName.bounds → param.Closed →
      ∀ (formatter : Formatter) (record field : Text) (value : Value),
        let source := name ++ '=' :: param
        let run := Validator.new.validateWith formatter (.record record [⟨field, some source, value⟩])
        (annotationProblems custom source = [] ↔
          ∀ site found rule given reason,
            .format site found (.rule (.badParameter rule given reason)) ∉ run.calls) ∧
        ∀ reason, param.trim.RefusedFor reason →
          .format (.ofField record field source) value
            (.rule (.badParameter name param.trim reason)) ∈ run.calls := by
  refine ⟨?_, ?_, ?_⟩
  · intro context param hparam
    exact ⟨Bound.readLimit_eq_ok_iff hparam, Bound.readLimit_eq_badParameter_iff hparam⟩
  · intro context n hparam
    exact (Bound.readLimit_eq_ok_iff hparam n.toInt).mpr (Text.writesInt64_ofInt n)
  · intro custom name param hname hclosed formatter record field value source run
    have hcalled (reason : NumeralFault) (hrefused : param.trim.RefusedFor reason) :=
      Validator.badParameter_mem_validateWith hname hclosed hrefused formatter record field value
    refine ⟨?_, hcalled⟩
    rw [annotationProblems_bound_eq_nil_iff hname hclosed]
    constructor
    · rintro ⟨limit, hlimit⟩
      exact Validator.badParameter_not_mem_validateWith hname hclosed hlimit formatter record field
        value
    · intro hnever
      by_contra hnot
      obtain ⟨reason, hread⟩ := Text.exists_readInt64_error_iff.mpr (not_exists.mp hnot)
      have hrefused := Text.readInt64_eq_error_iff.mp hread
      exact hnever _ _ _ _ _ (hcalled reason hrefused)

/-- The least limit behind zeros, texts with two faults, and limits with blanks around them. -/
theorem limits_exact_two_faults :
    let site : Site := ⟨"Order".toList, "total".toList, [], []⟩
    let used (param : Text) : Context := ⟨.nil, some param, "min".toList, site⟩
    let least : Text := "-009223372036854775808".toList
    let many : Text := "99999999999999999999x".toList
    let sign : Text := "+-5".toList
    let few : Text := " -9223372036854775809.5 ".toList
    let padded : Text := " +007 ".toList
    let run (source : Text) : Run :=
      Validator.new.validateWith defaultFormatter
        (.record "Order".toList [⟨"total".toList, some source, .bool true⟩])
    Bound.readLimit (used least) = .ok (-9223372036854775808) ∧
      Bound.readLimit (used many) =
        .error (.rejected (.badParameter "min".toList many .tooLarge)) ∧
      Bound.readLimit (used sign) =
        .error (.rejected (.badParameter "min".toList sign .invalidDigit)) ∧
      Bound.readLimit (used (Text.ofInt (-9223372036854775808))) =
        .ok (-9223372036854775808) ∧
      .format ⟨"Order".toList, "total".toList, "max=".toList ++ few, []⟩ (.bool true)
          (.rule (.badParameter "max".toList few.trim .tooSmall)) ∈
        (run ("max=".toList ++ few)).calls ∧
      annotationProblems [] ("max=".toList ++ few) ≠ [] ∧
      annotationProblems [] ("max=".toList ++ padded) = [] ∧
      ∀ site found rule given reason,
        .format site found (.rule (.badParameter rule given reason)) ∉
          (run ("max=".toList ++ padded)).calls := by
  intro site used least many sign few padded run
  obtain ⟨hread, hwritten, hannotation⟩ := limits_exact
  have hname : "max".toList ∈ RuleName.bounds := by decide
  obtain ⟨hfew, hfewCalled⟩ := hannotation [] _ few hname (by decide) defaultFormatter
    "Order".toList "total".toList (.bool true)
  obtain ⟨hpadded, -⟩ := hannotation [] _ padded hname (by decide) defaultFormatter
    "Order".toList "total".toList (.bool true)
  have hcalled := hfewCalled .tooSmall (.tooSmall (by decide))
  have hseven : padded.trim.WritesInt64 7 := Text.readInt64_eq_ok_iff.mp rfl
  have haccepted : annotationProblems [] ("max=".toList ++ padded) = [] :=
    (annotationProblems_bound_eq_nil_iff hname (by decide) []).mpr ⟨7, hseven⟩
  refine ⟨?_, ?_, ?_, ?_, hcalled, ?_, haccepted, hpadded.mp haccepted⟩
  · have hleast : least.WritesInt64 (-9223372036854775808) := Text.readInt64_eq_ok_iff.mp rfl
    exact ((hread (used least) least rfl).1 _).mpr hleast
  · exact ((hread (used many) many rfl).2 .tooLarge).mpr (.tooLarge (by decide))
  · exact ((hread (used sign) sign rfl).2 .invalidDigit).mpr (Text.readInt64_eq_error_iff.mp rfl)
  · exact hwritten (used (Text.ofInt (-9223372036854775808))) Int64.minValue rfl
  · intro hnone
    exact hfew.mp hnone _ _ _ _ _ hcalled

end FieldRules
