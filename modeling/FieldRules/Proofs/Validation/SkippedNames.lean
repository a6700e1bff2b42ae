import FieldRules.Proofs.Validation.CanonicalAnnotations
import Mathlib.Data.List.Basic

/-!
# Names without a rule

A validation skips what it finds no rule for.  So the invocations of such names can be
left out of an annotation, and nothing changes.  The clauses around them stay, even
with nothing in them, because a clause still asks for a sequence.

Of all the names of a registry only those matter that the annotations invoke.  Two
registries that agree on these lead to the same checks, hence to the same run.
-/

namespace FieldRules

/-! ## Annotations without skipped names -/

mutual

/-- The directive without invocations that are skipped.  A clause stays when it becomes empty. -/
def Directive.withoutSkipped (registry : Registry) : Directive → List Directive
  | .invoke invocation => if registry.contains invocation.name then [.invoke invocation] else []
  | .each body => [.each (Directive.withoutSkippedAll registry body)]

def Directive.withoutSkippedAll (registry : Registry) : List Directive → List Directive
  | [] => []
  | directive :: rest =>
    directive.withoutSkipped registry ++ Directive.withoutSkippedAll registry rest

end

def Annotation.withoutSkipped (registry : Registry) (rules : Annotation) : Annotation :=
  ⟨Directive.withoutSkippedAll registry rules.directives⟩

/-- The annotation of the field, if it can be read, is put down in canonical form without
invocations that are skipped. -/
def Field.withoutSkipped (registry : Registry) (field : Field Value) : Field Value :=
  { field with annotation := field.annotation.map fun source =>
      match Annotation.parse source with
      | .ok rules => (rules.withoutSkipped registry).render
      | .error _ => source }

/-- The name is that of an invocation in the annotations of the fields. -/
def InvokedIn (fields : List (Field Value)) (name : Text) : Prop :=
  ∃ field ∈ fields, ∃ source rules, field.annotation = some source ∧
    Annotation.parse source = .ok rules ∧
      ∃ invocation ∈ rules.invocations, invocation.name = name

section Leaves

variable (registry : Registry)

mutual

theorem Directive.invocationsIn_withoutSkipped :
    ∀ directive : Directive, Directive.invocationsIn (directive.withoutSkipped registry) =
      directive.invocations.filter fun invocation => registry.contains invocation.name
  | .invoke invocation => by
      rw [withoutSkipped, invocations]
      split
      · next hfound => simp [invocationsIn, invocations, hfound]
      · next hskipped => simp [invocationsIn, hskipped]
  | .each body => by
      rw [withoutSkipped, invocationsIn_each, invocations]
      exact Directive.invocationsIn_withoutSkippedAll body

theorem Directive.invocationsIn_withoutSkippedAll :
    ∀ directives : List Directive,
      Directive.invocationsIn (Directive.withoutSkippedAll registry directives) =
        (Directive.invocationsIn directives).filter fun invocation =>
          registry.contains invocation.name
  | [] => rfl
  | directive :: rest => by
      rw [withoutSkippedAll, invocationsIn_append, invocationsIn, List.filter_append,
        Directive.invocationsIn_withoutSkipped directive,
        Directive.invocationsIn_withoutSkippedAll rest]

end

theorem Annotation.invocations_withoutSkipped (rules : Annotation) :
    (rules.withoutSkipped registry).invocations =
      rules.invocations.filter fun invocation => registry.contains invocation.name :=
  Directive.invocationsIn_withoutSkippedAll registry rules.directives

/-- Without some of its invocations an annotation can still be written. -/
theorem Annotation.parse_render_withoutSkipped
    {source : Text} {rules : Annotation} (hparse : parse source = .ok rules) :
    parse (rules.withoutSkipped registry).render = .ok (rules.withoutSkipped registry) := by
  apply parse_render_of_wellFormed
  rw [rules.invocations_withoutSkipped registry]
  intro invocation hmem
  exact wellFormed_of_parse hparse invocation (List.mem_filter.mp hmem).1

end Leaves

/-! ## Checks without skipped names -/

theorem Directive.tasksOf_append
    (directives others : List Directive) (value : Value) (site : Site) :
    tasksOf (directives ++ others) value site =
      tasksOf directives value site ++ tasksOf others value site := by
  induction directives with
  | nil => rfl
  | cons first rest ih => rw [List.cons_append, tasksOf, tasksOf, ih, List.append_assoc]

theorem Directive.tasksOf_singleton (directive : Directive) (value : Value) (site : Site) :
    tasksOf [directive] value site = directive.tasks value site := by
  rw [tasksOf, tasksOf, List.append_nil]

section Checks

variable (registry : Registry)

theorem checksOf_of_skipped {context : Context} (hskipped : ¬registry.contains context.rule) :
    checksOf registry [.use context] = [] := by
  have hget : registry.get? context.rule = none := by
    rwa [Registry.contains, Option.not_isSome_iff_eq_none] at hskipped
  simp [checksOf, Task.check?, hget]

mutual

theorem Directive.checksOf_withoutSkipped :
    ∀ (directive : Directive) (value : Value) (site : Site),
      checksOf registry (Directive.tasksOf (directive.withoutSkipped registry) value site) =
        checksOf registry (directive.tasks value site)
  | .invoke invocation, value, site => by
      rw [withoutSkipped]
      split
      · rw [tasksOf_singleton]
      · next hskipped =>
        rw [tasks, checksOf_of_skipped registry hskipped]
        rfl
  | .each body, value, site => by
      rw [withoutSkipped, tasksOf_singleton, tasks, tasks]
      cases value.elements? with
      | none => rfl
      | some elements =>
          simp only [checksOf_flatMap, Directive.checksOf_withoutSkippedAll body]

theorem Directive.checksOf_withoutSkippedAll :
    ∀ (directives : List Directive) (value : Value) (site : Site),
      checksOf registry
          (Directive.tasksOf (Directive.withoutSkippedAll registry directives) value site) =
        checksOf registry (Directive.tasksOf directives value site)
  | [], _, _ => rfl
  | directive :: rest, value, site => by
      rw [withoutSkippedAll, tasksOf_append, tasksOf, checksOf_append, checksOf_append,
        Directive.checksOf_withoutSkipped directive, Directive.checksOf_withoutSkippedAll rest]

end

/-- Written into the same text, the tasks of the field lead to the same checks. -/
theorem Field.checksOf_withoutSkipped
    {field : Field Value}
    (hparse : ∀ source, field.annotation = some source →
      ∃ rules, Annotation.parse source = .ok rules)
    (record text : Text) :
    checksOf registry (((field.withoutSkipped registry).tasks record).map (Task.annotated text)) =
      checksOf registry ((field.tasks record).map (Task.annotated text)) := by
  obtain ⟨name, written, value⟩ := field
  cases written with
  | none => rfl
  | some source =>
      obtain ⟨rules, hrules⟩ := hparse source rfl
      have hback := Annotation.parse_render_withoutSkipped registry hrules
      simp only [Field.tasks, Field.withoutSkipped, Option.map_some, hrules, hback,
        ← Directive.tasksOf_annotated]
      exact Directive.checksOf_withoutSkippedAll registry rules.directives value _

theorem recordTasks_checksOf_withoutSkipped
    {fields : List (Field Value)} (hparse : AnnotationsParse fields) (record text : Text) :
    checksOf registry
        ((recordTasks record (fields.map (Field.withoutSkipped registry))).map
          (Task.annotated text)) =
      checksOf registry ((recordTasks record fields).map (Task.annotated text)) := by
  rw [recordTasks, recordTasks, List.flatMap_map, List.map_flatMap, List.map_flatMap,
    checksOf_flatMap, checksOf_flatMap]
  apply List.flatMap_congr
  intro field hfield
  exact Field.checksOf_withoutSkipped registry (hparse field hfield) record text

end Checks

/-! ## Names that are invoked -/

mutual

theorem Directive.invoked_of_mem_tasks
    {context : Context} :
    ∀ (directive : Directive) (value : Value) (site : Site),
      Task.use context ∈ directive.tasks value site →
        ∃ invocation ∈ directive.invocations, invocation.name = context.rule
  | .invoke invocation, value, site => by
      rw [tasks, invocations, List.mem_singleton]
      intro htask
      cases htask
      exact ⟨invocation, List.mem_cons_self, rfl⟩
  | .each body, value, site => by
      rw [tasks, invocations]
      cases value.elements? with
      | none =>
          intro htask
          cases List.mem_singleton.mp htask
      | some elements =>
          intro htask
          obtain ⟨entry, _, hinner⟩ := List.mem_flatMap.mp htask
          exact Directive.invoked_of_mem_tasksOf body entry.1 _ hinner

theorem Directive.invoked_of_mem_tasksOf
    {context : Context} :
    ∀ (directives : List Directive) (value : Value) (site : Site),
      Task.use context ∈ Directive.tasksOf directives value site →
        ∃ invocation ∈ Directive.invocationsIn directives, invocation.name = context.rule
  | [], _, _ => by
      intro htask
      contradiction
  | directive :: rest, value, site => by
      rw [tasksOf, invocationsIn, List.mem_append]
      intro htask
      rcases htask with hfirst | hrest
      · obtain ⟨invocation, hmem, hname⟩ :=
          Directive.invoked_of_mem_tasks directive value site hfirst
        exact ⟨invocation, List.mem_append_left _ hmem, hname⟩
      · obtain ⟨invocation, hmem, hname⟩ :=
          Directive.invoked_of_mem_tasksOf rest value site hrest
        exact ⟨invocation, List.mem_append_right _ hmem, hname⟩

end

theorem invokedIn_of_mem_recordTasks
    {record : Text} {fields : List (Field Value)} {context : Context}
    (htask : Task.use context ∈ recordTasks record fields) :
    InvokedIn fields context.rule := by
  obtain ⟨field, hfield, hmem⟩ := List.mem_flatMap.mp htask
  refine ⟨field, hfield, ?_⟩
  unfold Field.tasks at hmem
  cases hsource : field.annotation with
  | none => simp [hsource] at hmem
  | some source =>
      cases hparse : Annotation.parse source with
      | error fault => simp [hsource, hparse] at hmem
      | ok rules =>
          simp only [hsource, hparse] at hmem
          refine ⟨source, rules, rfl, hparse, ?_⟩
          exact Directive.invoked_of_mem_tasksOf rules.directives _ _ hmem

theorem checksOf_congr
    {registry other : Registry} {tasks : List Task}
    (hagree : ∀ context, Task.use context ∈ tasks →
      registry.get? context.rule = other.get? context.rule) :
    checksOf registry tasks = checksOf other tasks := by
  apply List.filterMap_congr
  intro task htask
  cases task with
  | stop site value cause => rfl
  | use context => rw [Task.check?, Task.check?, hagree context htask]

/-! ## Validations -/

namespace Validator

theorem validateWith_congr
    {validator other : Validator} {input : Value}
    (hagree : ∀ record fields, input.resolve = .record record fields →
      ∀ name, InvokedIn fields name → validator.registry.get? name = other.registry.get? name)
    (formatter : Formatter) :
    validator.validateWith formatter input = other.validateWith formatter input := by
  cases hinput : input.resolve with
  | record record fields =>
      rw [validator.validateWith_record formatter hinput, other.validateWith_record formatter hinput,
        checkList, checkList]
      apply congrArg
      apply checksOf_congr
      intro context htask
      exact hagree record fields hinput context.rule (invokedIn_of_mem_recordTasks htask)
  | _ => simp only [validateWith, hinput]

theorem validate_withoutSkipped_annotated
    {registry : Registry} (hregistry : registry.IgnoresAnnotations)
    {input other : Value} {record : Text} {fields : List (Field Value)}
    (hinput : input.resolve = .record record fields) (hparse : AnnotationsParse fields)
    (hother : other.resolve = .record record (fields.map (Field.withoutSkipped registry)))
    (text : Text) :
    ((ofRegistry registry).validate other).annotated text =
      ((ofRegistry registry).validate input).annotated text := by
  have hrun := firstFailing_annotated hregistry text
  have hchecks := recordTasks_checksOf_withoutSkipped registry hparse record text
  rw [validate, validate, validateWith_record _ _ hinput, validateWith_record _ _ hother]
  change (firstFailing defaultFormatter (checksOf registry _)).annotated text =
    (firstFailing defaultFormatter (checksOf registry _)).annotated text
  rw [← hrun, ← hrun, hchecks]

/-- Invocations without a rule can be left out of annotations, at any depth, and a validation does
the same, apart from the text that a rule finds in its site.  All that a validation takes from its
registry are the rules under the names that annotations invoke. -/
theorem validate_skipped_names :
    (∀ (registry : Registry) (source : Text) (rules : Annotation),
      Annotation.parse source = .ok rules →
      Annotation.parse (rules.withoutSkipped registry).render =
          .ok (rules.withoutSkipped registry) ∧
        (rules.withoutSkipped registry).invocations =
          rules.invocations.filter fun invocation => registry.contains invocation.name) ∧
    (∀ (registry : Registry) (input other : Value) (record : Text) (fields : List (Field Value)),
      registry.IgnoresAnnotations → input.resolve = .record record fields →
      AnnotationsParse fields →
      other.resolve = .record record (fields.map (Field.withoutSkipped registry)) →
      let original := (ofRegistry registry).validate input
      let without := (ofRegistry registry).validate other
      without.outcome = original.outcome ∧
        without.calls.map (Call.annotated []) = original.calls.map (Call.annotated [])) ∧
    (∀ (validator other : Validator) (input : Value),
      (∀ record fields, input.resolve = .record record fields → ∀ name, InvokedIn fields name →
        validator.registry.get? name = other.registry.get? name) →
      ∀ formatter, validator.validateWith formatter input = other.validateWith formatter input) ∧
    ∀ (validator : Validator) (name : Text) (rule : Rule) (input : Value),
      (∀ record fields, input.resolve = .record record fields → ¬InvokedIn fields name) →
      (validator.register name rule).validate input = validator.validate input := by
  refine ⟨?_, ?_, ?_, ?_⟩
  · intro registry source rules hparse
    have hback := Annotation.parse_render_withoutSkipped registry hparse
    exact ⟨hback, rules.invocations_withoutSkipped registry⟩
  · intro registry input other record fields hregistry hinput hparse hother original without
    have hsame : without.annotated [] = original.annotated [] :=
      validate_withoutSkipped_annotated hregistry hinput hparse hother []
    have houtcome := congrArg Run.outcome hsame
    have hcalls := congrArg Run.calls hsame
    exact ⟨houtcome, hcalls⟩
  · intro validator other input hagree formatter
    exact validateWith_congr hagree formatter
  · intro validator name rule input habsent
    apply validateWith_congr
    intro record fields hinput invoked hinvoked
    apply Registry.get?_register_of_ne
    intro heq
    rw [heq] at hinvoked
    exact habsent record fields hinput hinvoked

/-- Skipped names around and inside of clauses, one of which becomes empty and still asks for a
sequence. -/
theorem validate_skipped_names_nested :
    let first : Text := "sku, each={ghost, each={min=1, size=3}}".toList
    let second : Text := "each={ghost}".toList
    let record (codes label : Text) : Value := .optional (.record "Order".toList
      [⟨"codes".toList, some codes, .list [.array [.text "a".toList, .text "bc".toList]]⟩,
        ⟨"label".toList, some label, .text "x".toList⟩])
    let original := new.validate (record first second)
    let without := new.validate (record "each={each={min=1}}".toList "each={}".toList)
    original.outcome = .error (.invalid (defaultFormatter
        ⟨"Order".toList, "label".toList, second, []⟩ (.text "x".toList) (.notASequence .text))) ∧
      without.outcome = original.outcome ∧
      without.calls.map (Call.annotated []) = original.calls.map (Call.annotated []) ∧
      (new.register "other".toList Rule.required).validate (record first second) = original := by
  intro first second record original without
  have hfirst : Annotation.parse first = .ok ⟨[.invoke ⟨"sku".toList, none⟩,
      .each [.invoke ⟨"ghost".toList, none⟩, .each [.invoke ⟨"min".toList, some "1".toList⟩,
        .invoke ⟨"size".toList, some "3".toList⟩]]]⟩ := by
    apply Annotation.parse_eq_ok_iff.mpr
    rw [← Directive.iterate_readSegments 3]
    rfl
  have hsecond : Annotation.parse second = .ok ⟨[.each [.invoke ⟨"ghost".toList, none⟩]]⟩ := by
    apply Annotation.parse_eq_ok_iff.mpr
    rw [← Directive.iterate_readSegments 2]
    rfl
  have hparse : AnnotationsParse [⟨"codes".toList, some first,
      .list [.array [.text "a".toList, .text "bc".toList]]⟩,
      ⟨"label".toList, some second, .text "x".toList⟩] := by
    intro field hfield source hsource
    rcases List.mem_pair.mp hfield with rfl | rfl
    · exact ⟨_, by rw [← Option.some.inj hsource, hfirst]⟩
    · exact ⟨_, by rw [← Option.some.inj hsource, hsecond]⟩
  obtain ⟨_, hwithout, _, hregister⟩ := validate_skipped_names
  obtain ⟨houtcome, hcalls⟩ := hwithout .builtin (record first second)
    (record "each={each={min=1}}".toList "each={}".toList) "Order".toList _
    Registry.builtin_ignoresAnnotations rfl hparse (by
      simp only [List.map_cons, List.map_nil, Field.withoutSkipped, Option.map_some, hfirst, hsecond]
      rfl)
  refine ⟨?_, houtcome, hcalls, ?_⟩
  · simp only [original, record, validate, validateWith, Value.resolve, List.map_cons, List.map_nil,
      applyField, hfirst, hsecond]
    rfl
  · apply hregister
    intro name fields hinput hinvoked
    obtain ⟨-, rfl⟩ := Value.record.inj hinput
    obtain ⟨field, hfield, source, rules, hsource, hrules, hmem⟩ := hinvoked
    rcases List.mem_pair.mp hfield with rfl | rfl
    · rw [← Option.some.inj hsource, hfirst, Except.ok.injEq] at hrules
      rw [← hrules] at hmem
      revert hmem
      decide
    · rw [← Option.some.inj hsource, hsecond, Except.ok.injEq] at hrules
      rw [← hrules] at hmem
      revert hmem
      decide

end Validator

end FieldRules
