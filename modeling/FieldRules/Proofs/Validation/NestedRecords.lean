import FieldRules.Proofs.Validation.CleanAnnotations
import FieldRules.Proofs.Validation.Relabelling

/-!
# Records inside of records

A validation follows the annotations of the record that it is given, and of no other.
The names and annotations of records further inside, here called labels, are
not looked at: not by the built-in rules, not by the clauses that go through
elements, and not by the message that shows a value.  So a validation with built-in
rules does the same on values that differ in such labels only.
-/

namespace FieldRules

mutual

/-- The value without the names of records, and without the names and annotations of their fields. -/
def Value.withoutLabels : Value → Value
  | .list elements => .list (elementsWithoutLabels elements)
  | .array elements => .array (elementsWithoutLabels elements)
  | .optional inner => .optional inner.withoutLabels
  | .record _ fields => .record [] (fieldsWithoutLabels fields)
  | other => other

def elementsWithoutLabels : List Value → List Value
  | [] => []
  | value :: rest => value.withoutLabels :: elementsWithoutLabels rest

def fieldsWithoutLabels : List (Field Value) → List (Field Value)
  | [] => []
  | ⟨_, _, value⟩ :: rest => ⟨[], none, value.withoutLabels⟩ :: fieldsWithoutLabels rest

end

/-- The field with its own labels, but without those inside of its value. -/
def Field.withoutInnerLabels (field : Field Value) : Field Value :=
  { field with value := field.value.withoutLabels }

/-- Every rule of the registry is one of the built-in ones, under whatever name. -/
def Registry.OnlyBuiltin (registry : Registry) : Prop :=
  ∀ name rule, registry.get? name = some rule → ∃ entry ∈ Rule.builtins, entry.2 = rule

/-! ## What does not depend on labels -/

theorem elementsWithoutLabels_eq_map (elements : List Value) :
    elementsWithoutLabels elements = elements.map Value.withoutLabels := by
  induction elements with
  | nil => rfl
  | cons value rest ih => rw [elementsWithoutLabels, ih, List.map_cons]

namespace Value

@[simp] theorem kind_withoutLabels (value : Value) : value.withoutLabels.kind = value.kind := by
  cases value <;> rfl

@[simp] theorem isNil_withoutLabels (value : Value) : value.withoutLabels.isNil = value.isNil := by
  cases value <;> rfl

theorem resolve_withoutLabels (value : Value) :
    value.withoutLabels.resolve = value.resolve.withoutLabels := by
  cases value <;> rfl

theorem elements?_withoutLabels (value : Value) :
    value.withoutLabels.elements? = value.elements?.map (List.map withoutLabels) := by
  cases value with
  | list elements => exact congrArg some (elementsWithoutLabels_eq_map elements)
  | array elements => exact congrArg some (elementsWithoutLabels_eq_map elements)
  | _ => rfl

mutual

theorem isZero_withoutLabels : ∀ value : Value, value.withoutLabels.isZero = value.isZero
  | .list elements => by
      rw [withoutLabels, isZero, isZero, elementsWithoutLabels_eq_map, List.isEmpty_map]
  | .array elements => by
      rw [withoutLabels, isZero, isZero, allZero_withoutLabels elements]
  | .record name fields => by
      rw [withoutLabels, isZero, isZero, allFieldsZero_withoutLabels fields]
  | .nil | .bool _ | .int _ | .uint _ | .float _ | .text _ | .map _ | .optional _ => rfl

theorem allZero_withoutLabels :
    ∀ elements : List Value, allZero (elementsWithoutLabels elements) = allZero elements
  | [] => rfl
  | value :: rest => by
      rw [elementsWithoutLabels, allZero, allZero, isZero_withoutLabels value,
        allZero_withoutLabels rest]

theorem allFieldsZero_withoutLabels :
    ∀ fields : List (Field Value), allFieldsZero (fieldsWithoutLabels fields) = allFieldsZero fields
  | [] => rfl
  | ⟨name, annotation, value⟩ :: rest => by
      rw [fieldsWithoutLabels, allFieldsZero, allFieldsZero, isZero_withoutLabels value,
        allFieldsZero_withoutLabels rest]

end

mutual

theorem display_withoutLabels : ∀ value : Value, value.withoutLabels.display = value.display
  | .list elements => by
      rw [withoutLabels, display_list, display_list, displayElements_eq_intercalate,
        displayElements_eq_intercalate, map_display_withoutLabels elements]
  | .array elements => by
      rw [withoutLabels, display_array, display_array, displayElements_eq_intercalate,
        displayElements_eq_intercalate, map_display_withoutLabels elements]
  | .optional inner => by
      rw [withoutLabels, display_optional, display_optional, display_withoutLabels inner]
  | .record name fields => by
      rw [withoutLabels, display_record, display_record, displayFields_eq_intercalate,
        displayFields_eq_intercalate, map_display_fieldsWithoutLabels fields]
  | .nil | .bool _ | .int _ | .uint _ | .float _ | .text _ | .map _ => by
      simp only [withoutLabels]

theorem map_display_withoutLabels :
    ∀ elements : List Value,
      (elementsWithoutLabels elements).map display = elements.map display
  | [] => rfl
  | value :: rest => by
      rw [elementsWithoutLabels, List.map_cons, List.map_cons, display_withoutLabels value,
        map_display_withoutLabels rest]

theorem map_display_fieldsWithoutLabels :
    ∀ fields : List (Field Value),
      ((fieldsWithoutLabels fields).map fun field => field.value.display) =
        fields.map fun field => field.value.display
  | [] => rfl
  | ⟨name, annotation, value⟩ :: rest => by
      rw [fieldsWithoutLabels, List.map_cons, List.map_cons, display_withoutLabels value,
        map_display_fieldsWithoutLabels rest]

end

end Value

/-! ## Tasks -/

mutual

theorem Directive.tasks_withoutLabels :
    ∀ (directive : Directive) (value : Value) (site : Site),
      directive.tasks value.withoutLabels site =
        (directive.tasks value site).map (Task.relabel id Value.withoutLabels)
  | .invoke invocation, value, site => by
      rw [Directive.tasks, Directive.tasks]
      rfl
  | .each body, value, site => by
      rw [Directive.tasks, Directive.tasks, Value.elements?_withoutLabels,
        Value.kind_withoutLabels]
      cases value.elements? with
      | none => rfl
      | some elements =>
          simp only [Option.map_some, List.zipIdx_map, List.flatMap_map, List.map_flatMap]
          simp only [Prod.map, id, Directive.tasksOf_withoutLabels body]

theorem Directive.tasksOf_withoutLabels :
    ∀ (directives : List Directive) (value : Value) (site : Site),
      Directive.tasksOf directives value.withoutLabels site =
        (Directive.tasksOf directives value site).map (Task.relabel id Value.withoutLabels)
  | [], value, site => by
      rw [Directive.tasksOf, Directive.tasksOf]
      rfl
  | directive :: rest, value, site => by
      rw [Directive.tasksOf, Directive.tasksOf, List.map_append,
        Directive.tasks_withoutLabels directive, Directive.tasksOf_withoutLabels rest]

end

theorem Field.tasks_withoutInnerLabels (record : Text) (field : Field Value) :
    field.withoutInnerLabels.tasks record =
      (field.tasks record).map (Task.relabel id Value.withoutLabels) := by
  obtain ⟨name, annotation, value⟩ := field
  cases annotation with
  | none => rfl
  | some source =>
      cases hparse : Annotation.parse source with
      | error fault => simp [Field.tasks, Field.withoutInnerLabels, hparse, Task.relabel]
      | ok rules =>
          simp only [Field.tasks, Field.withoutInnerLabels, hparse]
          exact Directive.tasksOf_withoutLabels rules.directives value _

theorem recordTasks_withoutInnerLabels (record : Text) (fields : List (Field Value)) :
    recordTasks record (fields.map Field.withoutInnerLabels) =
      (recordTasks record fields).map (Task.relabel id Value.withoutLabels) := by
  rw [recordTasks, recordTasks, List.flatMap_map, List.map_flatMap]
  simp only [Field.tasks_withoutInnerLabels]

/-! ## Rules and messages -/

theorem Bound.check_withoutLabels (bound : Bound) (name : Text) (limit : Int) (value : Value) :
    bound.check name limit value.withoutLabels = bound.check name limit value := by
  cases value with
  | list elements =>
      rw [Value.withoutLabels, elementsWithoutLabels_eq_map]
      simp only [check, List.length_map]
  | array elements =>
      rw [Value.withoutLabels, elementsWithoutLabels_eq_map]
      simp only [check, List.length_map]
  | _ => rfl

theorem Registry.OnlyBuiltin.overlooks_labels
    {registry : Registry} (hbuiltin : registry.OnlyBuiltin) :
    registry.Overlooks id Value.withoutLabels := by
  intro name rule hget context
  obtain ⟨entry, hentry, rfl⟩ := hbuiltin name rule hget
  have hresolved : (context.relabel id Value.withoutLabels).resolved =
      context.resolved.withoutLabels := context.value.resolve_withoutLabels
  rcases Rule.builtins_cases hentry with hrequired | ⟨-, bound, hbound⟩
  · rw [hrequired, Rule.required, Rule.required, hresolved, Value.isZero_withoutLabels,
      Context.relabel, Value.isNil_withoutLabels]
  · rw [hbound]
    have hlimit : Bound.readLimit (context.relabel id Value.withoutLabels) =
        Bound.readLimit context := rfl
    simp only [Bound.rule, hlimit, hresolved, Bound.check_withoutLabels]
    rfl

theorem defaultFormatter_overlooks_labels :
    Formatter.Overlooks id Value.withoutLabels defaultFormatter := by
  intro site value cause
  rw [defaultFormatter, defaultFormatter, Value.display_withoutLabels, id]

/-! ## Validations -/

namespace Validator

theorem validate_withoutInnerLabels
    {registry : Registry} (hbuiltin : registry.OnlyBuiltin)
    {input : Value} {record : Text} {fields : List (Field Value)}
    (hinput : input.resolve = .record record fields) :
    (ofRegistry registry).validate (.record record (fields.map Field.withoutInnerLabels)) =
      ((ofRegistry registry).validate input).relabel id Value.withoutLabels := by
  rw [validate, validate, validateWith_record _ _ hinput, validateWith_record _ _ rfl, checkList,
    checkList, recordTasks_withoutInnerLabels]
  exact firstFailing_relabel hbuiltin.overlooks_labels defaultFormatter_overlooks_labels _

/-- With built-in rules only, the records inside of a record could have any names, and their fields
any names and annotations: the outcome is the same, and so are the calls, apart from these labels. -/
theorem validate_inner_labels
    {registry : Registry} (hbuiltin : registry.OnlyBuiltin)
    {input other : Value} {record : Text} {fields others : List (Field Value)}
    (hinput : input.resolve = .record record fields)
    (hother : other.resolve = .record record others)
    (hsame : fields.map Field.withoutInnerLabels = others.map Field.withoutInnerLabels) :
    let run := (ofRegistry registry).validate input
    let relabelled := (ofRegistry registry).validate other
    relabelled.outcome = run.outcome ∧
      relabelled.calls.map (Call.relabel id Value.withoutLabels) =
        run.calls.map (Call.relabel id Value.withoutLabels) := by
  intro run relabelled
  have hruns : relabelled.relabel id Value.withoutLabels = run.relabel id Value.withoutLabels := by
    rw [← validate_withoutInnerLabels hbuiltin hinput, hsame,
      validate_withoutInnerLabels hbuiltin hother]
  have houtcome := congrArg Run.outcome hruns
  have hcalls := congrArg Run.calls hruns
  exact ⟨houtcome, hcalls⟩

/-- Two orders whose lines have other names, other fields and other annotations.  Both are refused at
the second line, although only one of them has an annotation there, and with the same message. -/
theorem validate_inner_labels_nested :
    let registry := (Registry.empty.register "filled".toList Rule.required).register
      "most".toList Rule.maximum
    let order (lines : List Value) : Value := .optional (.record "Order".toList
      [⟨"lines".toList, some "most=2,each={filled,note}".toList, .list lines⟩])
    let line (count : Value) : Value := .record "Line".toList
      [⟨"count".toList, some "filled".toList, count⟩, ⟨"note".toList, none, .text []⟩]
    let row (count : Value) : Value := .record "Row".toList
      [⟨"n".toList, none, count⟩, ⟨"text".toList, some "most=\x7b".toList, .text []⟩]
    let fault : FieldError := .rule (.violation "is required".toList)
    let message := "field \"lines[1]\" validation error: is required (received: '\x7b0 \x7d')".toList
    let run := (ofRegistry registry).validate (order [line (.int 7), line (.int 0)])
    let relabelled := (ofRegistry registry).validate (order [row (.int 7), row (.int 0)])
    run.outcome = .error (.invalid (.field "lines[1]".toList message fault)) ∧
      relabelled.outcome = run.outcome ∧
      relabelled.calls.map (Call.relabel id Value.withoutLabels) =
        run.calls.map (Call.relabel id Value.withoutLabels) := by
  intro registry order line row fault message run relabelled
  have hbuiltin : registry.OnlyBuiltin := by
    intro name rule hget
    rcases Registry.of_get?_register _ hget with ⟨-, rfl⟩ | ⟨-, hfirst⟩
    · exact ⟨(RuleName.max, Rule.maximum), by simp [Rule.builtins], rfl⟩
    · rcases Registry.of_get?_register _ hfirst with ⟨-, rfl⟩ | ⟨-, hempty⟩
      · exact ⟨(RuleName.required, Rule.required), by simp [Rule.builtins], rfl⟩
      · contradiction
  refine ⟨?_, validate_inner_labels hbuiltin rfl rfl rfl⟩
  have hparse : Annotation.parse "most=2,each={filled,note}".toList =
      .ok ⟨[.invoke ⟨"most".toList, some "2".toList⟩,
        .each [.invoke ⟨"filled".toList, none⟩, .invoke ⟨"note".toList, none⟩]]⟩ := by
    apply Annotation.parse_eq_ok_iff.mpr
    rw [← Directive.iterate_readSegments 2]
    rfl
  simp only [run, registry, order, line, fault, message, validate, validateWith, Value.resolve,
    List.map_cons, List.map_nil, applyField, hparse]
  decide +kernel

end Validator

end FieldRules
