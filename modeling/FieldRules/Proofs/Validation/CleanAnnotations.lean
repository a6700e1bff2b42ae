import FieldRules.Proofs.Scan.Problems
import FieldRules.Proofs.Validation.CheckList

/-!
# Annotations without problems

The static check looks at an annotation alone, a validation at the values that it
is applied to.  If the static check finds nothing, then every task that the
annotation leads to, at whatever element, is one that the rules can handle.  So
a validation may still reject values, but it never has to blame an annotation.
-/

namespace FieldRules

/-- The failures of a rule that are the fault of the annotation. -/
inductive RuleFailure.Misused : RuleFailure → Prop where
  | aborted (missing : MissingParameter) : Misused (.aborted missing)
  | badParameter (rule param : Text) (reason : NumeralFault) :
      Misused (.rejected (.badParameter rule param reason))

def Rule.NeverMisused (rule : Rule) : Prop :=
  ∀ context failure, rule context = .error failure → ¬failure.Misused

/-- The built-in names have their usual meaning, and no other rule blames an annotation. -/
structure Registry.Standard (registry : Registry) : Prop where
  builtins : ∀ entry ∈ Rule.builtins, registry.get? entry.1 = some entry.2
  others : ∀ name rule, name ∉ RuleName.builtin → registry.get? name = some rule →
    rule.NeverMisused

def AnnotationsClean (custom : List Text) (fields : List (Field Value)) : Prop :=
  ∀ field ∈ fields, ∀ source, field.annotation = some source →
    annotationProblems custom source = []

/-- The outcomes in which no annotation is to blame. -/
inductive CleanOutcome : Except Halt Unit → Prop where
  | ok : CleanOutcome (.ok ())
  | unsupportedInput (kind : Kind) : CleanOutcome (.error (.invalid (.unsupportedInput kind)))
  | notASequence (path message : Text) (kind : Kind) :
      CleanOutcome (.error (.invalid (.field path message (.notASequence kind))))
  | violation (path message text : Text) :
      CleanOutcome (.error (.invalid (.field path message (.rule (.violation text)))))
  | notApplicable (path message rule : Text) (kind : Kind) :
      CleanOutcome (.error (.invalid (.field path message (.rule (.notApplicable rule kind)))))
  | custom (path message text : Text) (causes : List Text) :
      CleanOutcome (.error (.invalid (.field path message (.rule (.custom text causes)))))

/-- A task that the static check lets pass. -/
inductive Task.Clean (custom : List Text) : Task → Prop where
  | use {context : Context}
      (hproblem : Invocation.problem? custom ⟨context.rule, context.param⟩ = none) :
      Task.Clean custom (.use context)
  | stop (site : Site) (value : Value) (kind : Kind) :
      Task.Clean custom (.stop site value (.notASequence kind))

/-! ## From annotations to tasks -/

mutual

theorem Directive.tasks_clean
    {custom : List Text} :
    ∀ {directive : Directive}, directive.problems custom = [] →
      ∀ (value : Value) (site : Site), ∀ task ∈ directive.tasks value site, task.Clean custom
  | .invoke invocation, hproblems, value, site => by
      intro task htask
      rw [Directive.tasks] at htask
      rw [List.mem_singleton.mp htask]
      apply Task.Clean.use
      simpa [Directive.problems] using hproblems
  | .each body, hproblems, value, site => by
      intro task htask
      rw [Directive.tasks] at htask
      rw [Directive.problems] at hproblems
      cases helements : value.elements? with
      | none =>
          rw [helements] at htask
          rw [List.mem_singleton.mp htask]
          exact .stop site value value.kind
      | some elements =>
          rw [helements] at htask
          obtain ⟨entry, _, hentry⟩ := List.mem_flatMap.mp htask
          exact Directive.tasksOf_clean hproblems entry.1 (site.element entry.2) task hentry

theorem Directive.tasksOf_clean
    {custom : List Text} :
    ∀ {directives : List Directive}, problemsIn custom directives = [] →
      ∀ (value : Value) (site : Site),
        ∀ task ∈ Directive.tasksOf directives value site, task.Clean custom
  | [], _, value, site => by
      intro task htask
      rw [Directive.tasksOf] at htask
      contradiction
  | directive :: rest, hproblems, value, site => by
      intro task htask
      rw [Directive.tasksOf] at htask
      rw [problemsIn] at hproblems
      have hparts := List.append_eq_nil_iff.mp hproblems
      rcases List.mem_append.mp htask with hfirst | hrest
      · exact Directive.tasks_clean hparts.1 value site task hfirst
      · exact Directive.tasksOf_clean hparts.2 value site task hrest

end

theorem Field.tasks_clean
    {custom : List Text} {field : Field Value}
    (hclean : ∀ source, field.annotation = some source → annotationProblems custom source = [])
    (record : Text) :
    ∀ task ∈ field.tasks record, task.Clean custom := by
  intro task htask
  unfold Field.tasks at htask
  cases hsource : field.annotation with
  | none =>
      rw [hsource] at htask
      contradiction
  | some source =>
      have hproblems := hclean source hsource
      unfold annotationProblems at hproblems
      rw [hsource] at htask
      cases hparse : Annotation.parse source with
      | error fault =>
          rw [hparse] at hproblems
          contradiction
      | ok annotation =>
          rw [hparse] at hproblems
          simp only [hparse] at htask
          exact Directive.tasksOf_clean hproblems _ _ task htask

theorem recordTasks_clean
    {custom : List Text} {fields : List (Field Value)}
    (hclean : AnnotationsClean custom fields) (record : Text) :
    ∀ task ∈ recordTasks record fields, task.Clean custom := by
  intro task htask
  obtain ⟨field, hfield, hmem⟩ := List.mem_flatMap.mp htask
  exact Field.tasks_clean (hclean field hfield) record task hmem

/-! ## Rules whose parameter was checked -/

theorem Invocation.name_known
    {custom : List Text} {invocation : Invocation}
    (hproblem : invocation.problem? custom = none) :
    invocation.name ∈ RuleName.builtin ∨ invocation.name ∈ custom := by
  by_cases hempty : invocation.name = []
  · rw [Invocation.problem?_of_empty hempty] at hproblem
    contradiction
  · cases Invocation.unknown_or_known custom hempty with
    | inl hunknown =>
        rw [Invocation.problem?_of_unknown hunknown] at hproblem
        contradiction
    | inr hknown => exact hknown

theorem Invocation.boundProblem?_of_problem?
    {custom : List Text} {invocation : Invocation}
    (hproblem : invocation.problem? custom = none)
    (hbound : invocation.name ∈ RuleName.bounds) :
    invocation.boundProblem? = none := by
  have hbuiltin := Invocation.name_mem_builtin_of_bound hbound
  rwa [Invocation.problem?_of_builtin hbuiltin, Invocation.useProblem?_of_bound hbound] at hproblem

theorem Invocation.limit_of_boundProblem?
    {invocation : Invocation} (hproblem : invocation.boundProblem? = none) :
    ∃ param limit, invocation.param = some param ∧ Text.readInt64 param = .ok limit := by
  unfold Invocation.boundProblem? at hproblem
  cases hparam : invocation.param with
  | none =>
      rw [hparam] at hproblem
      contradiction
  | some param =>
      cases hread : Text.readInt64 param with
      | error reason => simp [hparam, hread] at hproblem
      | ok limit => exact ⟨param, limit, rfl, hread⟩

theorem Task.Clean.limit
    {custom : List Text} {context : Context}
    (hclean : Task.Clean custom (.use context)) (hbound : context.rule ∈ RuleName.bounds) :
    ∃ param limit, context.param = some param ∧ Text.readInt64 param = .ok limit := by
  cases hclean with
  | use hproblem =>
      exact Invocation.limit_of_boundProblem?
        (Invocation.boundProblem?_of_problem? hproblem hbound)

theorem Bound.readLimit_eq_ok
    {context : Context} {param : Text} {limit : Int}
    (hparam : context.param = some param) (hread : Text.readInt64 param = .ok limit) :
    Bound.readLimit context = .ok limit := by
  simp [readLimit, Context.requireParam, hparam, hread]

theorem RuleFailure.eq_of_ite_violation
    {p : Prop} [Decidable p] {text : Text} {failure : RuleFailure}
    (hfailure : (if p then .ok () else .error (.violation text)) =
      (.error failure : Except RuleFailure Unit)) :
    failure = .violation text := by
  by_cases hp : p
  · simp [hp] at hfailure
  · simpa [hp, eq_comm] using hfailure

theorem Bound.check_cases
    {bound : Bound} {rule : Text} {limit : Int} {value : Value} {failure : RuleFailure}
    (hfailure : bound.check rule limit value = .error failure) :
    (∃ text, failure = .violation text) ∨
      failure = .rejected (.notApplicable rule value.kind) := by
  cases value with
  | nil => exact .inl ⟨_, RuleFailure.eq_of_ite_violation hfailure⟩
  | text value => exact .inl ⟨_, RuleFailure.eq_of_ite_violation hfailure⟩
  | list elements => exact .inl ⟨_, RuleFailure.eq_of_ite_violation hfailure⟩
  | array elements => exact .inl ⟨_, RuleFailure.eq_of_ite_violation hfailure⟩
  | map size => exact .inl ⟨_, RuleFailure.eq_of_ite_violation hfailure⟩
  | int number => exact .inl ⟨_, RuleFailure.eq_of_ite_violation hfailure⟩
  | uint number => exact .inl ⟨_, RuleFailure.eq_of_ite_violation hfailure⟩
  | float bits => exact .inl ⟨_, RuleFailure.eq_of_ite_violation hfailure⟩
  | bool value => exact .inr (Except.error.inj hfailure).symm
  | optional inner => exact .inr (Except.error.inj hfailure).symm
  | record name fields => exact .inr (Except.error.inj hfailure).symm

theorem RuleFailure.violation_not_misused (text : Text) :
    ¬(RuleFailure.violation text).Misused := by
  intro hmisused
  cases hmisused

theorem Bound.check_not_misused
    {bound : Bound} {rule : Text} {limit : Int} {value : Value} {failure : RuleFailure}
    (hfailure : bound.check rule limit value = .error failure) :
    ¬failure.Misused := by
  rcases Bound.check_cases hfailure with ⟨text, hviolation⟩ | hkind
  · rw [hviolation]
    exact RuleFailure.violation_not_misused text
  · rw [hkind]
    intro hmisused
    cases hmisused

theorem Rule.required_neverMisused : Rule.required.NeverMisused := by
  intro context failure hfailure
  unfold required at hfailure
  split at hfailure
  · rw [← Except.error.inj hfailure]
    exact RuleFailure.violation_not_misused _
  · contradiction

theorem Rule.builtins_cases
    {entry : Text × Rule} (hentry : entry ∈ Rule.builtins) :
    entry.2 = Rule.required ∨
      entry.1 ∈ RuleName.bounds ∧ ∃ bound : Bound, entry.2 = bound.rule := by
  simp only [builtins, List.mem_cons, List.not_mem_nil, or_false] at hentry
  rcases hentry with rfl | rfl | rfl | rfl | rfl
  · exact .inr ⟨by simp [RuleName.bounds], .lower, rfl⟩
  · exact .inr ⟨by simp [RuleName.bounds], .lower, rfl⟩
  · exact .inr ⟨by simp [RuleName.bounds], .upper, rfl⟩
  · exact .inr ⟨by simp [RuleName.bounds], .upper, rfl⟩
  · exact .inl rfl

theorem Rule.exists_of_mem_builtin
    {name : Text} (hname : name ∈ RuleName.builtin) :
    ∃ entry ∈ Rule.builtins, entry.1 = name := by
  simp only [RuleName.builtin, List.mem_cons, List.not_mem_nil, or_false] at hname
  rcases hname with rfl | rfl | rfl | rfl | rfl <;> simp [builtins]

theorem Rule.name_mem_builtin
    {entry : Text × Rule} (hentry : entry ∈ Rule.builtins) : entry.1 ∈ RuleName.builtin := by
  simp only [builtins, List.mem_cons, List.not_mem_nil, or_false] at hentry
  rcases hentry with rfl | rfl | rfl | rfl | rfl <;> simp [RuleName.builtin]

/-- A standard rule is not misused in clean annotations: only the bounds look at their parameter. -/
theorem Registry.Standard.not_misused
    {registry : Registry} (hstandard : registry.Standard)
    {custom : List Text} {context : Context} {rule : Rule} {failure : RuleFailure}
    (hclean : Task.Clean custom (.use context))
    (hget : registry.get? context.rule = some rule)
    (hfailure : rule context = .error failure) :
    ¬failure.Misused := by
  by_cases hbuiltin : context.rule ∈ RuleName.builtin
  · obtain ⟨entry, hentry, hname⟩ := Rule.exists_of_mem_builtin hbuiltin
    have hrule : entry.2 = rule := by
      have hentryGet := hstandard.builtins entry hentry
      rw [hname, hget] at hentryGet
      exact (Option.some.inj hentryGet).symm
    rcases Rule.builtins_cases hentry with hrequired | ⟨hbound, bound, hlimit⟩
    · rw [← hrule, hrequired] at hfailure
      exact Rule.required_neverMisused context failure hfailure
    · rw [hname] at hbound
      obtain ⟨param, limit, hparam, hread⟩ := hclean.limit hbound
      rw [← hrule, hlimit] at hfailure
      simp only [Bound.rule, Bound.readLimit_eq_ok hparam hread] at hfailure
      exact Bound.check_not_misused hfailure
  · exact hstandard.others context.rule rule hbuiltin hget context failure hfailure

theorem Task.Clean.contains
    {custom : List Text} {registry : Registry} {context : Context}
    (hclean : Task.Clean custom (.use context)) (hstandard : registry.Standard)
    (hcustom : ∀ name ∈ custom, registry.contains name = true) :
    registry.contains context.rule = true := by
  cases hclean with
  | use hproblem =>
      rcases Invocation.name_known hproblem with hbuiltin | hname
      · obtain ⟨entry, hentry, hname⟩ := Rule.exists_of_mem_builtin hbuiltin
        have hget := hstandard.builtins entry hentry
        rw [hname] at hget
        simp [Registry.contains, hget]
      · exact hcustom context.rule hname

/-! ## Outcomes -/

theorem Task.Clean.outcome
    {custom : List Text} {registry : Registry} {task : Task} {check : Check}
    (hclean : task.Clean custom) (hstandard : registry.Standard)
    (hcheck : task.check? registry = some check) :
    CleanOutcome (check.outcome defaultFormatter) := by
  cases hclean with
  | stop site value kind =>
      rw [← Option.some.inj hcheck]
      exact .notASequence _ _ kind
  | @use context hproblem =>
      have huse : Task.Clean custom (.use context) := .use hproblem
      obtain ⟨rule, hget, heq⟩ := Option.map_eq_some_iff.mp hcheck
      rw [← heq]
      cases hresult : rule context with
      | ok _ =>
          simp only [Check.outcome, hresult]
          exact .ok
      | error failure =>
          have hnot := hstandard.not_misused huse hget hresult
          simp only [Check.outcome, hresult]
          cases failure with
          | aborted missing => exact absurd (.aborted missing) hnot
          | rejected fault =>
              cases fault with
              | violation text => exact .violation _ _ text
              | badParameter rule param reason =>
                  exact absurd (.badParameter rule param reason) hnot
              | notApplicable rule kind => exact .notApplicable _ _ rule kind
              | custom text causes => exact .custom _ _ text causes

theorem checkList_outcome_clean
    {custom : List Text} {registry : Registry} {fields : List (Field Value)}
    (hstandard : registry.Standard) (hclean : AnnotationsClean custom fields) (record : Text) :
    ∀ check ∈ checkList registry record fields,
      CleanOutcome (check.outcome defaultFormatter) := by
  intro check hcheck
  obtain ⟨task, htask, hfound⟩ := List.mem_filterMap.mp hcheck
  exact (recordTasks_clean hclean record task htask).outcome hstandard hfound

/-- A validation whose annotations pass the static check neither aborts nor blames an annotation:
its bounds have integers to compare with.  If the custom names that the check was told are
registered, then no name is skipped. -/
theorem Validator.validate_clean
    {custom : List Text} {registry : Registry} {input : Value}
    (hstandard : registry.Standard)
    (hclean : ∀ name fields, input.resolve = .record name fields →
      AnnotationsClean custom fields) :
    CleanOutcome ((ofRegistry registry).validate input).outcome ∧
      ∀ name fields, input.resolve = .record name fields →
        ∀ context, Task.use context ∈ recordTasks name fields →
          (context.rule ∈ RuleName.bounds →
            ∃ param limit, context.param = some param ∧ Text.readInt64 param = .ok limit) ∧
          ((∀ other ∈ custom, registry.contains other = true) →
            registry.contains context.rule = true) := by
  constructor
  · unfold validate
    cases hinput : input.resolve with
    | record name fields =>
        rw [validateWith_record _ _ hinput]
        rcases firstFailing_outcome_cases (ofRegistry registry).formatter
          (checkList (ofRegistry registry).registry name fields) with hok | ⟨check, hmem, heq⟩
        · rw [hok]
          exact .ok
        · rw [heq]
          exact checkList_outcome_clean hstandard (hclean name fields hinput) name check hmem
    | _ =>
        simp only [validateWith, hinput]
        exact .unsupportedInput _
  · intro name fields hinput context hcontext
    have htask : Task.Clean custom (.use context) :=
      recordTasks_clean (hclean name fields hinput) name _ hcontext
    exact ⟨htask.limit, htask.contains hstandard⟩

/-! ## Registries to which this applies -/

theorem Registry.Standard.register
    {registry : Registry} (hstandard : registry.Standard)
    {name : Text} {rule : Rule} (hname : name ∉ RuleName.builtin) (hrule : rule.NeverMisused) :
    (registry.register name rule).Standard := by
  constructor
  · intro entry hentry
    have hne : entry.1 ≠ name := by
      intro heq
      apply hname
      rw [← heq]
      exact Rule.name_mem_builtin hentry
    rw [registry.get?_register_of_ne rule hne]
    exact hstandard.builtins entry hentry
  · intro other found hother hget
    rcases registry.of_get?_register hget with ⟨_, rfl⟩ | ⟨_, hold⟩
    · exact hrule
    · exact hstandard.others other found hother hold

theorem Registry.mem_names_of_get?
    {registry : Registry} {name : Text} {rule : Rule} (hget : registry.get? name = some rule) :
    name ∈ registry.names := by
  obtain ⟨entry, hfind, _⟩ := Option.map_eq_some_iff.mp hget
  have hname : entry.1 = name := by simpa using List.find?_some hfind
  rw [← hname]
  exact List.mem_map_of_mem (List.mem_of_find?_eq_some hfind)

theorem Registry.builtin_standard : Registry.builtin.Standard := by
  constructor
  · intro entry hentry
    simp only [Rule.builtins, List.mem_cons, List.not_mem_nil, or_false] at hentry
    rcases hentry with rfl | rfl | rfl | rfl | rfl <;> rfl
  · intro name rule hname hget
    have hnames : ∀ other ∈ Registry.builtin.names, other ∈ RuleName.builtin := by decide
    exact absurd (hnames name (Registry.mem_names_of_get? hget)) hname

/-- Lists in lists, with a custom rule that rejects what it sees. -/
theorem Validator.validate_clean_nested :
    let reject : Rule := fun _ => .error (.rejected (.custom "unknown".toList []))
    let registry := Registry.builtin.register "sku".toList reject
    let fields : List (Field Value) :=
      [⟨"codes".toList, some "each={each={min=1,sku}}".toList,
        .list [.array [], .array [.text "a".toList]]⟩]
    CleanOutcome
        ((ofRegistry registry).validate (.optional (.record "Order".toList fields))).outcome ∧
      ∀ context, Task.use context ∈ recordTasks "Order".toList fields →
        registry.contains context.rule = true := by
  have hparse : Annotation.parse "each={each={min=1,sku}}".toList =
      .ok ⟨[.each [.each [.invoke ⟨"min".toList, some "1".toList⟩,
        .invoke ⟨"sku".toList, none⟩]]]⟩ := by
    unfold Annotation.parse
    rw [← Directive.iterate_readSegments 3]
    rfl
  have hproblems : annotationProblems ["sku".toList] "each={each={min=1,sku}}".toList = [] := by
    rw [annotationProblems, hparse]
    decide
  intro reject registry fields
  have hstandard : registry.Standard := by
    apply Registry.builtin_standard.register (by decide)
    intro context failure hfailure hmisused
    rw [← Except.error.inj hfailure] at hmisused
    cases hmisused
  have hclean : ∀ name others, Value.resolve (.optional (.record "Order".toList fields)) =
      .record name others → AnnotationsClean ["sku".toList] others := by
    intro name others hinput field hfield source hsource
    obtain ⟨-, rfl⟩ := Value.record.inj hinput
    rw [List.mem_singleton.mp hfield] at hsource
    rw [← Option.some.inj hsource]
    exact hproblems
  have hvalid := validate_clean hstandard hclean
  refine ⟨hvalid.1, fun context hcontext => ?_⟩
  apply (hvalid.2 _ _ rfl context hcontext).2
  intro name hname
  rw [List.mem_singleton.mp hname]
  simp [registry, Registry.contains]

end FieldRules
