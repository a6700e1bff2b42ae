import FieldRules.Proofs.Validation.CanonicalAnnotations
import Mathlib.Data.List.Forall2
import Mathlib.Logic.Relation

/-!
# The order and the grouping of directives

A record is valid if every task of it passes.  So it matters which tasks there are,
and neither in which order nor how often they come.  Directives can be permuted and
repeated at any depth, clauses can be split and joined, and fields can be permuted,
without a change to what is valid.
-/

namespace FieldRules

/-- One rewriting of a list of directives, which may take place inside of clauses. -/
inductive Directive.Regroups : List Directive → List Directive → Prop where
  | permute {directives others : List Directive} (hperm : directives.Perm others) :
      Regroups directives others
  | duplicate (before : List Directive) (directive : Directive) (after : List Directive) :
      Regroups (before ++ directive :: after) (before ++ directive :: directive :: after)
  | split (before first second after : List Directive) :
      Regroups (before ++ .each (first ++ second) :: after)
        (before ++ .each first :: .each second :: after)
  | within (before : List Directive) {body other : List Directive} (after : List Directive)
      (hbody : Regroups body other) :
      Regroups (before ++ .each body :: after) (before ++ .each other :: after)

/-- The annotation of a field is rewritten any number of times, in either direction, and put down in
canonical form. -/
inductive Field.Regrouped : Field Value → Field Value → Prop where
  | same (field : Field Value) : Regrouped field field
  | rewritten {field : Field Value} {source : Text} {rules : Annotation}
      {directives : List Directive}
      (hsource : field.annotation = some source)
      (hparse : Annotation.parse source = .ok rules)
      (hregroups : Relation.EqvGen Directive.Regroups rules.directives directives) :
      Regrouped field { field with annotation := some (Directive.renderList directives) }

/-- Fields are permuted, and their annotations rewritten. -/
def FieldsRegrouped (fields others : List (Field Value)) : Prop :=
  ∃ permuted, fields.Perm permuted ∧ List.Forall₂ Field.Regrouped permuted others

/-! ## The tasks of rewritten directives -/

namespace Directive

theorem mem_tasksOf_iff {directives : List Directive} {value : Value} {site : Site} {task : Task} :
    task ∈ tasksOf directives value site ↔
      ∃ directive ∈ directives, task ∈ directive.tasks value site := by
  induction directives with
  | nil => simp [tasksOf]
  | cons first rest ih => simp [tasksOf, ih]

theorem mem_tasks_each_append_iff
    {first second : List Directive} {value : Value} {site : Site} {task : Task} :
    task ∈ (Directive.each (first ++ second)).tasks value site ↔
      task ∈ (Directive.each first).tasks value site ∨
        task ∈ (Directive.each second).tasks value site := by
  simp only [tasks]
  cases value.elements? with
  | none => simp
  | some elements =>
      simp only [List.mem_flatMap, mem_tasksOf_iff, List.mem_append, or_and_right, exists_or,
        and_or_left]

/-- The directives have the same tasks, whatever they are applied to, and can be written down if the
others can. -/
structure SameTasks (directives others : List Directive) : Prop where
  mem_iff : ∀ value site task,
    task ∈ tasksOf directives value site ↔ task ∈ tasksOf others value site
  wellFormed_iff :
    (∀ directive ∈ directives, directive.WellFormed) ↔ ∀ directive ∈ others, directive.WellFormed

theorem SameTasks.each
    {body other : List Directive} (h : SameTasks body other)
    {value : Value} {site : Site} {task : Task} :
    task ∈ (Directive.each body).tasks value site ↔
      task ∈ (Directive.each other).tasks value site := by
  simp only [tasks]
  cases value.elements? with
  | none => rfl
  | some elements => simp only [List.mem_flatMap, h.mem_iff]

theorem Regroups.sameTasks
    {directives others : List Directive} (h : Regroups directives others) :
    SameTasks directives others := by
  induction h with
  | permute hperm =>
      constructor
      · intro value site task
        simp only [mem_tasksOf_iff, hperm.mem_iff]
      · simp only [hperm.mem_iff]
  | duplicate before directive after =>
      constructor
      · intro value site task
        simp [mem_tasksOf_iff]
      · simp
  | split before first second after =>
      constructor
      · intro value site task
        simp only [mem_tasksOf_iff, List.mem_append, List.mem_cons, or_and_right, exists_or,
          exists_eq_left, mem_tasks_each_append_iff, or_assoc]
      · simp only [List.mem_append, List.mem_cons, or_imp, forall_and, forall_eq,
          wellFormed_each_iff, and_assoc]
  | within before after _ ih =>
      constructor
      · intro value site task
        simp only [mem_tasksOf_iff, List.mem_append, List.mem_cons, or_and_right, exists_or,
          exists_eq_left, ih.each]
      · simp only [List.mem_append, List.mem_cons, or_imp, forall_and, forall_eq,
          wellFormed_each_iff, ih.wellFormed_iff]

theorem sameTasks_of_eqvGen
    {directives others : List Directive} (h : Relation.EqvGen Regroups directives others) :
    SameTasks directives others := by
  induction h with
  | rel _ _ hregroups => exact hregroups.sameTasks
  | refl _ => exact ⟨fun _ _ _ => Iff.rfl, Iff.rfl⟩
  | symm _ _ _ ih =>
      exact ⟨fun value site task => (ih.mem_iff value site task).symm, ih.wellFormed_iff.symm⟩
  | trans _ _ _ _ _ ihFirst ihSecond =>
      exact ⟨fun value site task =>
          (ihFirst.mem_iff value site task).trans (ihSecond.mem_iff value site task),
        ihFirst.wellFormed_iff.trans ihSecond.wellFormed_iff⟩

end Directive

/-! ## Tasks that pass -/

def Task.Passes (registry : Registry) (task : Task) : Prop :=
  ∀ check, task.check? registry = some check → check.passes = true

theorem firstFailing_checksOf_eq_ok_iff
    (registry : Registry) (formatter : Formatter) (tasks : List Task) :
    (firstFailing formatter (checksOf registry tasks)).outcome = .ok () ↔
      ∀ task ∈ tasks, task.Passes registry := by
  rw [firstFailing_outcome_eq_ok_iff]
  constructor
  · intro hchecks task htask check hcheck
    exact hchecks check (List.mem_filterMap.mpr ⟨task, htask, hcheck⟩)
  · intro htasks check hcheck
    obtain ⟨task, htask, hfound⟩ := List.mem_filterMap.mp hcheck
    exact htasks task htask check hfound

theorem Task.passes_annotated_iff
    {registry : Registry} (hregistry : registry.IgnoresAnnotations)
    (source : Text) (task : Task) :
    (task.annotated source).Passes registry ↔ task.Passes registry := by
  have hpasses (other : Task) : other.Passes registry ↔
      (firstFailing defaultFormatter (checksOf registry [other])).outcome = .ok () := by
    rw [firstFailing_checksOf_eq_ok_iff, List.forall_mem_singleton]
  have hrun := firstFailing_annotated hregistry source [task]
  rw [List.map_singleton] at hrun
  rw [hpasses, hpasses, hrun]
  rfl

namespace Field

def Passes (registry : Registry) (record : Text) (field : Field Value) : Prop :=
  ∀ task ∈ field.tasks record, task.Passes registry

theorem Regrouped.passes_iff
    {registry : Registry} (hregistry : registry.IgnoresAnnotations)
    {field other : Field Value} (h : field.Regrouped other) (record : Text) :
    field.Passes registry record ↔ other.Passes registry record := by
  cases h with
  | same => rfl
  | @rewritten source rules directives hsource hparse hregroups =>
      have hsame := Directive.sameTasks_of_eqvGen hregroups
      have hlayout := Annotation.layout_of_parse hparse
      have hwritten := hsame.wellFormed_iff.mp hlayout.wellFormed
      have hback : Annotation.parse (Directive.renderList directives) = .ok ⟨directives⟩ :=
        Annotation.parse_eq_ok_iff.mpr (Directive.layout_renderList hwritten).parseList_eq
      have hsite : Site.ofField record field.name (Directive.renderList directives) =
          (Site.ofField record field.name source).annotated (Directive.renderList directives) :=
        rfl
      simp only [Passes, tasks, hsource, hparse, hback, hsite, Directive.tasksOf_annotated,
        List.forall_mem_map, Task.passes_annotated_iff hregistry, hsame.mem_iff]

theorem Regrouped.forall_passes_iff
    {registry : Registry} (hregistry : registry.IgnoresAnnotations)
    {fields others : List (Field Value)} (h : List.Forall₂ Field.Regrouped fields others)
    (record : Text) :
    (∀ field ∈ fields, field.Passes registry record) ↔
      ∀ field ∈ others, field.Passes registry record := by
  induction h with
  | nil => rfl
  | cons hfirst _ ih =>
      rw [List.forall_mem_cons, List.forall_mem_cons, hfirst.passes_iff hregistry record, ih]

end Field

namespace Validator

theorem validate_eq_ok_iff_passes
    (validator : Validator) {input : Value} {record : Text} {fields : List (Field Value)}
    (hinput : input.resolve = .record record fields) :
    (validator.validate input).outcome = .ok () ↔
      ∀ field ∈ fields, field.Passes validator.registry record := by
  rw [validate, validator.validateWith_record _ hinput, checkList,
    firstFailing_checksOf_eq_ok_iff, recordTasks]
  simp only [List.mem_flatMap, Field.Passes]
  constructor
  · intro htasks field hfield task htask
    exact htasks task ⟨field, hfield, htask⟩
  · rintro hfields task ⟨field, hfield, htask⟩
    exact hfields field hfield task htask

/-- Whether a record is valid depends neither on the order of its fields, nor on the order and the
grouping of the directives in its annotations, nor on how often a directive is repeated. -/
theorem validate_eq_ok_iff_of_regrouped
    {validator : Validator} (hregistry : validator.registry.IgnoresAnnotations)
    {input other : Value} {record : Text} {fields others : List (Field Value)}
    (hinput : input.resolve = .record record fields)
    (hother : other.resolve = .record record others)
    (hregrouped : FieldsRegrouped fields others) :
    (validator.validate input).outcome = .ok () ↔
      (validator.validate other).outcome = .ok () := by
  obtain ⟨permuted, hperm, hfields⟩ := hregrouped
  rw [validator.validate_eq_ok_iff_passes hinput, validator.validate_eq_ok_iff_passes hother,
    ← Field.Regrouped.forall_passes_iff hregistry hfields]
  simp only [hperm.mem_iff]

/-- A clause is split inside of another one, its parts and the directives around it are permuted,
and one of these is repeated. -/
theorem validate_eq_ok_iff_of_regrouped_nested :
    let written := "each={each={min=1,max=3}},required".toList
    let rewritten := "required,required,each={each={max=3},each={min=1}}".toList
    let codes : Value := .list [.array [.text "a".toList, .text "bcd".toList]]
    let input : Value := .record "Order".toList
      [⟨"codes".toList, some written, codes⟩, ⟨"id".toList, none, .int 7⟩]
    let other : Value := .optional (.record "Order".toList
      [⟨"id".toList, none, .int 7⟩, ⟨"codes".toList, some rewritten, codes⟩])
    (new.validate input).outcome = .ok () ∧ (new.validate other).outcome = .ok () := by
  intro written rewritten codes input other
  let least : Directive := .invoke ⟨"min".toList, some "1".toList⟩
  let most : Directive := .invoke ⟨"max".toList, some "3".toList⟩
  let present : Directive := .invoke ⟨"required".toList, none⟩
  have hparse : Annotation.parse written = .ok ⟨[.each [.each [least, most]], present]⟩ := by
    apply Annotation.parse_eq_ok_iff.mpr
    rw [← Directive.iterate_readSegments 3]
    rfl
  have hinside : Relation.EqvGen Directive.Regroups
      [.each [.each [least, most]], present]
      [.each [.each [least], .each [most]], present] :=
    .rel _ _ (.within [] [present] (.split [] [least] [most] []))
  have hswapped : Relation.EqvGen Directive.Regroups
      [.each [.each [least], .each [most]], present]
      [.each [.each [most], .each [least]], present] :=
    .rel _ _ (.within [] [present] (.permute (.swap _ _ [])))
  have hfront : Relation.EqvGen Directive.Regroups
      [.each [.each [most], .each [least]], present]
      [present, .each [.each [most], .each [least]]] :=
    .rel _ _ (.permute (.swap _ _ []))
  have hrepeated : Relation.EqvGen Directive.Regroups
      [present, .each [.each [most], .each [least]]]
      [present, present, .each [.each [most], .each [least]]] :=
    .rel _ _ (.duplicate [] present _)
  have hall := ((hinside.trans _ _ _ hswapped).trans _ _ _ hfront).trans _ _ _ hrepeated
  have hregrouped : FieldsRegrouped
      [⟨"codes".toList, some written, codes⟩, ⟨"id".toList, none, .int 7⟩]
      [⟨"id".toList, none, .int 7⟩, ⟨"codes".toList, some rewritten, codes⟩] := by
    have hcodes : Field.Regrouped ⟨"codes".toList, some written, codes⟩
        ⟨"codes".toList, some rewritten, codes⟩ := .rewritten rfl hparse hall
    exact ⟨_, .swap _ _ [], .cons (.same _) (.cons hcodes .nil)⟩
  have hvalid : (new.validate input).outcome = .ok () := by
    simp only [validate, validateWith, input, Value.resolve, List.map_cons, List.map_nil,
      applyField, hparse]
    rfl
  have hinput : input.resolve = .record "Order".toList _ := rfl
  have hother : other.resolve = .record "Order".toList _ := rfl
  have hregistry : new.registry.IgnoresAnnotations := Registry.builtin_ignoresAnnotations
  have hsame := validate_eq_ok_iff_of_regrouped hregistry hinput hother hregrouped
  exact ⟨hvalid, hsame.mp hvalid⟩

end Validator

end FieldRules
