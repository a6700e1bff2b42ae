import FieldRules.Validation.Validator

/-!
# The flat list of checks

A record and the annotations of its fields determine a list of tasks: rules to
use, and obstacles at which a validation has to stop.  Nothing of the registry is
needed to write it down.  With a registry the tasks become checks, and this file
proves that a validation is the first failing check of that list: same calls in
the same order, same outcome.
-/

namespace FieldRules

/-- Something that an annotation asks for at a site. -/
inductive Task where
  | use (context : Context)
  /-- The validation cannot go on here. -/
  | stop (site : Site) (value : Value) (cause : FieldError)

mutual

def Directive.tasks : Directive → Value → Site → List Task
  | .invoke invocation, value, site =>
    [.use ⟨value, invocation.param, invocation.name, site⟩]
  | .each body, value, site =>
    match value.elements? with
    | none => [.stop site value (.notASequence value.kind)]
    | some elements =>
      elements.zipIdx.flatMap fun entry => tasksOf body entry.1 (site.element entry.2)

def Directive.tasksOf : List Directive → Value → Site → List Task
  | [], _, _ => []
  | directive :: rest, value, site => directive.tasks value site ++ tasksOf rest value site

end

def Field.tasks (record : Text) (field : Field Value) : List Task :=
  match field.annotation with
  | none => []
  | some source =>
    let site := Site.ofField record field.name source
    match Annotation.parse source with
    | .error fault => [.stop site field.value (.grammar fault)]
    | .ok annotation => Directive.tasksOf annotation.directives field.value site

/-- The tasks of a record, field by field. -/
def recordTasks (record : Text) (fields : List (Field Value)) : List Task :=
  fields.flatMap (Field.tasks record)

/-- A task whose rule, if it names one, has been found. -/
inductive Check where
  | test (rule : Rule) (context : Context)
  | stop (site : Site) (value : Value) (cause : FieldError)

/-- There is nothing to check for a name under which no rule is registered. -/
def Task.check? (registry : Registry) : Task → Option Check
  | .use context => (registry.get? context.rule).map fun rule => .test rule context
  | .stop site value cause => some (.stop site value cause)

def checksOf (registry : Registry) (tasks : List Task) : List Check :=
  tasks.filterMap (Task.check? registry)

def checkList (registry : Registry) (record : Text) (fields : List (Field Value)) : List Check :=
  checksOf registry (recordTasks record fields)

namespace Check

def passes : Check → Bool
  | .test rule context => (rule context).isOk
  | .stop _ _ _ => false

/-- The calls that the check makes when its turn comes. -/
def calls : Check → List Call
  | .test rule context =>
    match rule context with
    | .error (.rejected fault) =>
      [.rule context, .format context.site context.value (.rule fault)]
    | _ => [.rule context]
  | .stop site value cause => [.format site value cause]

def outcome (formatter : Formatter) : Check → Except Halt Unit
  | .test rule context =>
    match rule context with
    | .ok () => .ok ()
    | .error (.aborted missing) => .error (.aborted missing)
    | .error (.rejected fault) =>
      .error (.invalid (formatter context.site context.value (.rule fault)))
  | .stop site value cause => .error (.invalid (formatter site value cause))

end Check

/-- The run that goes through checks up to the first that does not pass. -/
def firstFailing (formatter : Formatter) (checks : List Check) : Run :=
  let passing := (checks.takeWhile Check.passes).flatMap Check.calls
  match checks.find? fun check => !check.passes with
  | none => ⟨passing, .ok ()⟩
  | some check => ⟨passing ++ check.calls, check.outcome formatter⟩

/-! ## Checks one after the other -/

theorem Check.outcome_eq_ok_iff
    (formatter : Formatter) (check : Check) :
    check.outcome formatter = .ok () ↔ check.passes = true := by
  cases check with
  | test rule context =>
      cases hresult : rule context with
      | ok _ => simp [outcome, passes, hresult, Except.isOk, Except.toBool]
      | error failure =>
          cases failure <;>
            simp [outcome, passes, hresult, Except.isOk, Except.toBool]
  | stop site value cause => simp [outcome, passes]

namespace Run

theorem done_andThen (run : Run) : done.andThen run = run := by
  simp [done, andThen]

theorem andThen_done (run : Run) : run.andThen done = run := by
  obtain ⟨calls, outcome⟩ := run
  cases outcome with
  | ok _ => simp [done, andThen]
  | error halt => rfl

theorem andThen_assoc (first second third : Run) :
    (first.andThen second).andThen third = first.andThen (second.andThen third) := by
  obtain ⟨calls, outcome⟩ := first
  cases outcome with
  | error halt => rfl
  | ok _ =>
      cases hsecond : second.outcome with
      | ok _ => simp [andThen, hsecond]
      | error halt => simp [andThen, hsecond]

end Run

theorem firstFailing_nil (formatter : Formatter) : firstFailing formatter [] = .done := rfl

theorem firstFailing_cons
    (formatter : Formatter) (check : Check) (rest : List Check) :
    firstFailing formatter (check :: rest) =
      Run.andThen ⟨check.calls, check.outcome formatter⟩ (firstFailing formatter rest) := by
  cases hpasses : check.passes with
  | true =>
      have hok := (check.outcome_eq_ok_iff formatter).mpr hpasses
      cases hfind : rest.find? fun check => !check.passes <;>
        simp [firstFailing, Run.andThen, hpasses, hok, hfind]
  | false =>
      have hnot : check.outcome formatter ≠ .ok () := by
        rw [Ne, check.outcome_eq_ok_iff formatter, hpasses]
        simp
      cases houtcome : check.outcome formatter with
      | ok _ => contradiction
      | error halt => simp [firstFailing, Run.andThen, hpasses, houtcome]

theorem firstFailing_append
    (formatter : Formatter) (first second : List Check) :
    firstFailing formatter (first ++ second) =
      (firstFailing formatter first).andThen (firstFailing formatter second) := by
  induction first with
  | nil => rw [List.nil_append, firstFailing_nil, Run.done_andThen]
  | cons check rest ih =>
      rw [List.cons_append, firstFailing_cons, firstFailing_cons, ih, Run.andThen_assoc]

theorem firstFailing_singleton
    (formatter : Formatter) (check : Check) :
    firstFailing formatter [check] = ⟨check.calls, check.outcome formatter⟩ := by
  rw [firstFailing_cons, firstFailing_nil, Run.andThen_done]

theorem sequence_map_firstFailing {α : Type}
    (formatter : Formatter) (checks : α → List Check) (items : List α) :
    Run.sequence (items.map fun item => firstFailing formatter (checks item)) =
      firstFailing formatter (items.flatMap checks) := by
  induction items with
  | nil => rfl
  | cons item rest ih =>
      rw [List.map_cons, Run.sequence, ih, List.flatMap_cons, firstFailing_append]

theorem firstFailing_outcome_eq_ok_iff
    (formatter : Formatter) (checks : List Check) :
    (firstFailing formatter checks).outcome = .ok () ↔
      ∀ check ∈ checks, check.passes = true := by
  induction checks with
  | nil => simp [firstFailing_nil, Run.done]
  | cons check rest ih =>
      rw [firstFailing_cons, List.forall_mem_cons, ← ih, ← check.outcome_eq_ok_iff formatter]
      cases check.outcome formatter with
      | ok _ => simp [Run.andThen]
      | error halt => simp [Run.andThen]

theorem firstFailing_outcome_cases
    (formatter : Formatter) (checks : List Check) :
    (firstFailing formatter checks).outcome = .ok () ∨
      ∃ check ∈ checks, (firstFailing formatter checks).outcome = check.outcome formatter := by
  unfold firstFailing
  cases hfind : checks.find? fun check => !check.passes with
  | none => exact .inl rfl
  | some check => exact .inr ⟨check, List.mem_of_find?_eq_some hfind, rfl⟩

/-! ## A validation runs through the checks of its tasks -/

theorem checksOf_append
    (registry : Registry) (first second : List Task) :
    checksOf registry (first ++ second) =
      checksOf registry first ++ checksOf registry second :=
  List.filterMap_append

theorem checksOf_flatMap {α : Type}
    (registry : Registry) (items : List α) (tasks : α → List Task) :
    checksOf registry (items.flatMap tasks) =
      items.flatMap fun item => checksOf registry (tasks item) := by
  unfold checksOf
  rw [List.filterMap_flatMap]

theorem checksOf_stop
    (registry : Registry) (site : Site) (value : Value) (cause : FieldError) :
    checksOf registry [.stop site value cause] = [.stop site value cause] := rfl

theorem report_eq_firstFailing
    (registry : Registry) (formatter : Formatter)
    (site : Site) (value : Value) (cause : FieldError) :
    Run.report formatter site value cause =
      firstFailing formatter (checksOf registry [.stop site value cause]) := by
  rw [checksOf_stop, firstFailing_singleton]
  rfl

namespace Validator

theorem invoke_eq_firstFailing
    (registry : Registry) (formatter : Formatter)
    (invocation : Invocation) (value : Value) (site : Site) :
    invoke registry formatter invocation value site =
      firstFailing formatter
        (checksOf registry [.use ⟨value, invocation.param, invocation.name, site⟩]) := by
  cases hget : registry.get? invocation.name with
  | none => simp [invoke, checksOf, Task.check?, hget, firstFailing_nil]
  | some rule =>
      have hchecks :
          checksOf registry [.use ⟨value, invocation.param, invocation.name, site⟩] =
            [.test rule ⟨value, invocation.param, invocation.name, site⟩] := by
        simp [checksOf, Task.check?, hget]
      rw [hchecks, firstFailing_singleton]
      cases hresult : rule ⟨value, invocation.param, invocation.name, site⟩ with
      | ok _ => simp [invoke, hget, hresult, Check.calls, Check.outcome]
      | error failure =>
          cases failure with
          | aborted missing => simp [invoke, hget, hresult, Check.calls, Check.outcome]
          | rejected fault =>
              simp [invoke, hget, hresult, Check.calls, Check.outcome, Run.report]

mutual

theorem applyDirective_eq_firstFailing
    (registry : Registry) (formatter : Formatter) :
    ∀ (directive : Directive) (value : Value) (site : Site),
      applyDirective registry formatter directive value site =
        firstFailing formatter (checksOf registry (directive.tasks value site))
  | .invoke invocation, value, site => by
      rw [applyDirective, Directive.tasks]
      exact invoke_eq_firstFailing registry formatter invocation value site
  | .each body, value, site => by
      rw [applyDirective, Directive.tasks]
      cases value.elements? with
      | none => exact report_eq_firstFailing registry formatter site value _
      | some elements =>
          simp only [applyDirectives_eq_firstFailing registry formatter body]
          rw [sequence_map_firstFailing, checksOf_flatMap]

theorem applyDirectives_eq_firstFailing
    (registry : Registry) (formatter : Formatter) :
    ∀ (directives : List Directive) (value : Value) (site : Site),
      applyDirectives registry formatter directives value site =
        firstFailing formatter (checksOf registry (Directive.tasksOf directives value site))
  | [], value, site => by
      rw [applyDirectives, Directive.tasksOf]
      rfl
  | directive :: rest, value, site => by
      rw [applyDirectives, Directive.tasksOf, checksOf_append, firstFailing_append,
        applyDirective_eq_firstFailing registry formatter directive,
        applyDirectives_eq_firstFailing registry formatter rest]

end

theorem applyField_eq_firstFailing
    (registry : Registry) (formatter : Formatter) (record : Text) (field : Field Value) :
    applyField registry formatter record field =
      firstFailing formatter (checksOf registry (field.tasks record)) := by
  unfold applyField Field.tasks
  cases field.annotation with
  | none => rfl
  | some source =>
      cases hparse : Annotation.parse source with
      | error fault =>
          simp only [hparse]
          exact report_eq_firstFailing registry formatter _ _ _
      | ok annotation =>
          simp only [hparse]
          exact applyDirectives_eq_firstFailing registry formatter _ _ _

theorem validateWith_record
    (validator : Validator) (formatter : Formatter) {input : Value}
    {name : Text} {fields : List (Field Value)}
    (hinput : input.resolve = .record name fields) :
    validator.validateWith formatter input =
      firstFailing formatter (checkList validator.registry name fields) := by
  have hfields :
      applyField validator.registry formatter name =
        fun field => firstFailing formatter (checksOf validator.registry (field.tasks name)) := by
    funext field
    exact applyField_eq_firstFailing validator.registry formatter name field
  rw [checkList, recordTasks, checksOf_flatMap, ← sequence_map_firstFailing]
  simp only [validateWith, hinput, hfields]

/-- A validation of a record is the first failing check of its list, and it ends well exactly when
every check passes.  Of anything else only the kind is reported, without a call. -/
theorem validate_first_failing
    (validator : Validator) (formatter : Formatter) (input : Value) :
    match input.resolve with
    | .record name fields =>
      validator.validate input =
          firstFailing validator.formatter (checkList validator.registry name fields) ∧
        validator.validateWith formatter input =
          firstFailing formatter (checkList validator.registry name fields) ∧
        ((validator.validate input).outcome = .ok () ↔
          ∀ check ∈ checkList validator.registry name fields, check.passes = true)
    | other =>
      validator.validate input = ⟨[], .error (.invalid (.unsupportedInput other.kind))⟩ ∧
        validator.validateWith formatter input =
          ⟨[], .error (.invalid (.unsupportedInput other.kind))⟩ := by
  cases hinput : input.resolve with
  | record name fields =>
      have hrun := validator.validateWith_record validator.formatter hinput
      refine ⟨hrun, validator.validateWith_record formatter hinput, ?_⟩
      rw [validate, hrun, firstFailing_outcome_eq_ok_iff]
  | _ => simp [validate, validateWith, hinput]

end Validator

end FieldRules
