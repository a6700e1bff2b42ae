import FieldRules.Proofs.Annotation.Invocations
import FieldRules.Proofs.Validation.CleanAnnotations
import FieldRules.Proofs.Validation.Relabelling

/-!
# Annotations in canonical form

What a check and a validation make of an annotation depends on what it is read as,
not on how it is written.  So neither changes when annotations are written in
canonical form, as long as no rule looks at the text.  The argument for validations
goes through the tasks of a record: writing another text into their sites commutes
with everything that is done with them.
-/

namespace FieldRules

/-! ## Writing another text -/

/-- The canonical text of an annotation.  A text that is not an annotation stays as it is. -/
def Annotation.canonicalText (source : Text) : Text :=
  match parse source with
  | .ok rules => rules.render
  | .error _ => source

def Field.canonical (field : Field Value) : Field Value :=
  { field with annotation := field.annotation.map Annotation.canonicalText }

def Value.canonicalRecord : Value → Value
  | .record name fields => .record name (fields.map Field.canonical)
  | other => other

/-- The value, where the record that is validated has its annotations in canonical form. -/
def Value.canonical : Value → Value
  | .optional inner => .optional inner.canonicalRecord
  | other => other.canonicalRecord

def Site.annotated (source : Text) (site : Site) : Site :=
  { site with annotation := source }

def Context.annotated (source : Text) (context : Context) : Context :=
  { context with site := context.site.annotated source }

def Call.annotated (source : Text) : Call → Call
  | .rule context => .rule (context.annotated source)
  | .format site value cause => .format (site.annotated source) value cause

def Run.annotated (source : Text) (run : Run) : Run :=
  ⟨run.calls.map (Call.annotated source), run.outcome⟩

def Task.annotated (source : Text) : Task → Task
  | .use context => .use (context.annotated source)
  | .stop site value cause => .stop (site.annotated source) value cause

/-- The rule does not look at the text of the annotation. -/
def Rule.IgnoresAnnotation (rule : Rule) : Prop :=
  ∀ context source, rule (context.annotated source) = rule context

def Registry.IgnoresAnnotations (registry : Registry) : Prop :=
  ∀ name rule, registry.get? name = some rule → rule.IgnoresAnnotation

/-- The annotations of the fields, where there are any, can be read. -/
def AnnotationsParse (fields : List (Field Value)) : Prop :=
  ∀ field ∈ fields, ∀ source, field.annotation = some source →
    ∃ rules, Annotation.parse source = .ok rules

/-! ## What is read back -/

theorem Annotation.parse_render
    {source : Text} {rules : Annotation} (hparse : parse source = .ok rules) :
    parse rules.render = .ok rules := by
  apply parse_render_of_wellFormed
  exact wellFormed_of_parse hparse

theorem annotationProblems_render
    {source : Text} {rules : Annotation} (hparse : Annotation.parse source = .ok rules)
    (custom : List Text) :
    annotationProblems custom rules.render = annotationProblems custom source := by
  rw [annotationProblems, annotationProblems, hparse, Annotation.parse_render hparse]

/-! ## Tasks -/

@[simp] theorem Site.annotated_element (source : Text) (site : Site) (index : Nat) :
    (site.annotated source).element index = (site.element index).annotated source := rfl

@[simp] theorem Task.annotated_annotated (first second : Text) (task : Task) :
    (task.annotated first).annotated second = task.annotated second := by
  cases task <;> rfl

mutual

theorem Directive.tasks_annotated
    (source : Text) :
    ∀ (directive : Directive) (value : Value) (site : Site),
      directive.tasks value (site.annotated source) =
        (directive.tasks value site).map (Task.annotated source)
  | .invoke invocation, value, site => by
      rw [Directive.tasks, Directive.tasks]
      rfl
  | .each body, value, site => by
      rw [Directive.tasks, Directive.tasks]
      cases value.elements? with
      | none => rfl
      | some elements =>
          simp only [Site.annotated_element, List.map_flatMap]
          simp only [Directive.tasksOf_annotated source body]

theorem Directive.tasksOf_annotated
    (source : Text) :
    ∀ (directives : List Directive) (value : Value) (site : Site),
      Directive.tasksOf directives value (site.annotated source) =
        (Directive.tasksOf directives value site).map (Task.annotated source)
  | [], value, site => by
      rw [Directive.tasksOf, Directive.tasksOf]
      rfl
  | directive :: rest, value, site => by
      rw [Directive.tasksOf, Directive.tasksOf, List.map_append,
        Directive.tasks_annotated source directive, Directive.tasksOf_annotated source rest]

end

theorem Field.tasks_canonical
    {field : Field Value}
    (hparse : ∀ source, field.annotation = some source →
      ∃ rules, Annotation.parse source = .ok rules)
    (record text : Text) :
    (field.canonical.tasks record).map (Task.annotated text) =
      (field.tasks record).map (Task.annotated text) := by
  obtain ⟨name, written, value⟩ := field
  cases written with
  | none => rfl
  | some source =>
      obtain ⟨rules, hrules⟩ := hparse source rfl
      have hback := Annotation.parse_render hrules
      have hsite : Site.ofField record name rules.render =
          (Site.ofField record name source).annotated rules.render := rfl
      simp only [Field.tasks, Field.canonical, Option.map_some, Annotation.canonicalText, hrules,
        hback, hsite, Directive.tasksOf_annotated, List.map_map]
      apply List.map_congr_left
      intro task _
      exact task.annotated_annotated rules.render text

theorem recordTasks_canonical
    {fields : List (Field Value)} (hparse : AnnotationsParse fields) (record text : Text) :
    (recordTasks record (fields.map Field.canonical)).map (Task.annotated text) =
      (recordTasks record fields).map (Task.annotated text) := by
  induction fields with
  | nil => rfl
  | cons field rest ih =>
      have hfirst := hparse field List.mem_cons_self
      have hrest : AnnotationsParse rest := fun other hother =>
        hparse other (List.mem_cons_of_mem field hother)
      rw [recordTasks, recordTasks] at ih
      rw [recordTasks, recordTasks, List.map_cons, List.flatMap_cons, List.flatMap_cons,
        List.map_append, List.map_append, Field.tasks_canonical hfirst, ih hrest]

/-! ## Rules that do not look at the text -/

theorem Bound.rule_ignoresAnnotation (bound : Bound) : bound.rule.IgnoresAnnotation := by
  intro context source
  rfl

theorem Rule.required_ignoresAnnotation : Rule.required.IgnoresAnnotation := by
  intro context source
  rfl

namespace Registry

theorem empty_ignoresAnnotations : empty.IgnoresAnnotations := by
  intro name rule hget
  contradiction

theorem IgnoresAnnotations.register
    {registry : Registry} (hregistry : registry.IgnoresAnnotations)
    {rule : Rule} (hrule : rule.IgnoresAnnotation) (name : Text) :
    (registry.register name rule).IgnoresAnnotations := by
  intro other found hget
  rcases registry.of_get?_register hget with ⟨_, rfl⟩ | ⟨_, hold⟩
  · exact hrule
  · exact hregistry other found hold

theorem builtin_ignoresAnnotations : builtin.IgnoresAnnotations := by
  unfold builtin registerAll Rule.builtins
  simp only [List.foldl_cons, List.foldl_nil]
  have hlower := Bound.rule_ignoresAnnotation .lower
  have hupper := Bound.rule_ignoresAnnotation .upper
  exact ((((empty_ignoresAnnotations.register hlower _).register hlower _).register hupper
    _).register hupper _).register Rule.required_ignoresAnnotation _

end Registry

/-! ## Runs -/

theorem firstFailing_annotated
    {registry : Registry} (hregistry : registry.IgnoresAnnotations)
    (source : Text) (tasks : List Task) :
    firstFailing defaultFormatter (checksOf registry (tasks.map (Task.annotated source))) =
      (firstFailing defaultFormatter (checksOf registry tasks)).annotated source := by
  have hrules : registry.Overlooks (Site.annotated source) id :=
    fun name rule hget context => hregistry name rule hget context source
  have hformatter : Formatter.Overlooks (Site.annotated source) id defaultFormatter :=
    fun _ _ _ => rfl
  have htask : Task.annotated source = Task.relabel (Site.annotated source) id := by
    funext task
    cases task <;> rfl
  have hcall : Call.annotated source = Call.relabel (Site.annotated source) id := by
    funext call
    cases call <;> rfl
  rw [htask, Run.annotated, hcall]
  exact firstFailing_relabel hrules hformatter tasks

theorem Value.canonical_resolve (value : Value) :
    value.canonical.resolve = value.resolve.canonicalRecord := by
  cases value <;> rfl

namespace Validator

theorem validate_canonical_annotated
    {registry : Registry} {input : Value} (hregistry : registry.IgnoresAnnotations)
    (hparse : ∀ name fields, input.resolve = .record name fields → AnnotationsParse fields)
    (source : Text) :
    ((ofRegistry registry).validate input.canonical).annotated source =
      ((ofRegistry registry).validate input).annotated source := by
  have hresolve := input.canonical_resolve
  unfold validate
  cases hinput : input.resolve with
  | record name fields =>
      rw [hinput] at hresolve
      rw [validateWith_record _ _ hinput, validateWith_record _ _ hresolve]
      have htasks := recordTasks_canonical (hparse name fields hinput) name source
      have hrun := firstFailing_annotated hregistry source
      change (firstFailing defaultFormatter (checksOf registry _)).annotated source =
        (firstFailing defaultFormatter (checksOf registry _)).annotated source
      rw [← hrun, ← hrun, htasks]
  | _ =>
      rw [hinput] at hresolve
      simp only [validateWith, hinput, hresolve]
      rfl

/-- Writing annotations in canonical form changes neither what a check finds nor what a validation
does, apart from the text that a rule finds in its site. -/
theorem problems_and_validate_canonical :
    (∀ source rules, Annotation.parse source = .ok rules →
      ∀ custom, annotationProblems custom rules.render = annotationProblems custom source) ∧
    ∀ (registry : Registry) (input : Value), registry.IgnoresAnnotations →
      (∀ name fields, input.resolve = .record name fields → AnnotationsParse fields) →
      let canonical := (ofRegistry registry).validate input.canonical
      let original := (ofRegistry registry).validate input
      canonical.outcome = original.outcome ∧
        canonical.calls.map (Call.annotated []) = original.calls.map (Call.annotated []) := by
  constructor
  · intro source rules hparse custom
    exact annotationProblems_render hparse custom
  · intro registry input hregistry hparse canonical original
    have hsame : canonical.annotated [] = original.annotated [] :=
      validate_canonical_annotated hregistry hparse []
    have houtcome := congrArg Run.outcome hsame
    have hcalls := congrArg Run.calls hsame
    exact ⟨houtcome, hcalls⟩

/-- A record whose clauses are written with blanks, and a rule that looks at its parameter. -/
theorem problems_and_validate_canonical_nested :
    let short : Rule := fun context =>
      if context.param = some "ab".toList then .ok ()
      else .error (.rejected (.custom "long".toList []))
    let registry := Registry.builtin.register "short".toList short
    let written := " each = each={min=1 , short = ab} ".toList
    let rewritten := "each={each={min=1,short=ab}}".toList
    let record (source : Text) : Value := .optional (.record "Order".toList
      [⟨"codes".toList, some source, .list [.array [.text "a".toList, .text []]]⟩])
    let run (source : Text) : Run := (ofRegistry registry).validate (record source)
    annotationProblems [] rewritten = annotationProblems [] written ∧
      (run rewritten).outcome = (run written).outcome ∧
      (run rewritten).calls.map (Call.annotated []) =
        (run written).calls.map (Call.annotated []) := by
  intro short registry written rewritten record run
  have hparse : Annotation.parse written =
      .ok ⟨[.each [.each [.invoke ⟨"min".toList, some "1".toList⟩,
        .invoke ⟨"short".toList, some "ab".toList⟩]]]⟩ := by
    apply Annotation.parse_eq_ok_iff.mpr
    rw [← Directive.iterate_readSegments 3]
    rfl
  have hcanonical : (record written).canonical = record rewritten := by
    simp only [record, Value.canonical, Value.canonicalRecord, List.map_cons, List.map_nil,
      Field.canonical, Option.map_some, Annotation.canonicalText, hparse]
    rfl
  have hregistry : registry.IgnoresAnnotations := by
    apply Registry.builtin_ignoresAnnotations.register
    intro context source
    rfl
  obtain ⟨hproblems, hvalidate⟩ := problems_and_validate_canonical
  have hruns := hvalidate registry (record written) hregistry ?_
  · rw [hcanonical] at hruns
    exact ⟨hproblems written _ hparse [], hruns⟩
  · intro name fields hinput field hfield source hsource
    obtain ⟨-, rfl⟩ := Value.record.inj hinput
    rw [List.mem_singleton.mp hfield] at hsource
    rw [← Option.some.inj hsource]
    exact ⟨_, hparse⟩

end Validator

end FieldRules
