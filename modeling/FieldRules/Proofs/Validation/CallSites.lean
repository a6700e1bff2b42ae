import FieldRules.Proofs.Annotation.Reading
import FieldRules.Proofs.Validation.Visits

/-!
# Where a validation calls rules and formatters

A validation goes through the visits of a record and calls a rule or a formatter at
some of them.  The main statement is that these are distinct visits, and that every
call gets the site of its visit together with the value to which the indices of that
site lead.  So the path in an error of the default formatter names the element that
the error is about, and the message shows that element.
-/

namespace FieldRules

def Call.site : Call → Site
  | .rule context => context.site
  | .format site _ _ => site

def Call.value : Call → Value
  | .rule context => context.value
  | .format _ value _ => value

/-- The calls that are made at a visit of a field. -/
inductive Field.CallsAt (record : Text) (field : Field Value) (address indices : List Nat) :
    List Call → Prop where
  | called {name : Text} {param : Option Text} {value : Value} {site : Site}
      (hfinds : field.Finds record address indices (.invoke ⟨name, param⟩) value site) :
      CallsAt record field address indices [.rule ⟨value, param, name, site⟩]
  | rejected {name : Text} {param : Option Text} {value : Value} {site : Site}
      (hfinds : field.Finds record address indices (.invoke ⟨name, param⟩) value site)
      (fault : RuleError) :
      CallsAt record field address indices
        [.rule ⟨value, param, name, site⟩, .format site value (.rule fault)]
  | notASequence {body : List Directive} {value : Value} {site : Site}
      (hfinds : field.Finds record address indices (.each body) value site)
      (helements : value.elements? = none) :
      CallsAt record field address indices [.format site value (.notASequence value.kind)]
  | unreadable {site : Site} {fault : GrammarError}
      (hfault : field.Unreadable record address indices site fault) :
      CallsAt record field address indices [.format site field.value (.grammar fault)]

/-- The call is about an element of a field that has an annotation: its site names the record and
the field, with the annotation as written, and its value is the one to which the indices of the
site lead. -/
inductive Call.Located (record : Text) (fields : List (Field Value)) (call : Call) : Prop where
  | intro {field : Field Value} {source : Text} {indices : List Nat}
      (hfield : field ∈ fields)
      (hsource : field.annotation = some source)
      (hsite : call.site = ⟨record, field.name, source, indices⟩)
      (hvalue : field.value.at? indices = some call.value) :
      Call.Located record fields call

/-! ## The calls at a visit -/

namespace Field

variable {record : Text} {field : Field Value} {address indices : List Nat}

theorem HasTask.callsAt
    {registry : Registry} {task : Task} {check : Check}
    (htask : field.HasTask record address indices task)
    (hcheck : task.check? registry = some check) :
    field.CallsAt record address indices check.calls := by
  cases htask with
  | unreadable hfault =>
      rw [← Option.some.inj hcheck]
      exact .unreadable hfault
  | @directive inner value site task hfinds hasks =>
      cases hasks with
      | stop body site helements =>
          rw [← Option.some.inj hcheck]
          exact .notASequence hfinds helements
      | use invocation value site =>
          obtain ⟨rule, _, heq⟩ := Option.map_eq_some_iff.mp hcheck
          rw [← heq]
          simp only [Check.calls]
          split
          · next fault _ => exact .rejected hfinds fault
          · exact .called hfinds

theorem Finds.located
    {directive : Directive} {value : Value} {site : Site} {fields : List (Field Value)}
    (hfield : field ∈ fields)
    (hfinds : field.Finds record address indices directive value site)
    {call : Call} (hsite : call.site = site) (hvalue : call.value = value) :
    call.Located record fields := by
  cases hfinds with
  | intro hsource _ _ hat _ =>
      refine .intro hfield hsource hsite ?_
      rw [hvalue]
      exact hat

theorem CallsAt.located
    {calls : List Call} {fields : List (Field Value)} (hfield : field ∈ fields)
    (hcalls : field.CallsAt record address indices calls)
    {call : Call} (hcall : call ∈ calls) :
    call.Located record fields := by
  cases hcalls with
  | called hfinds =>
      rw [List.mem_singleton.mp hcall]
      exact hfinds.located hfield rfl rfl
  | rejected hfinds fault =>
      rcases List.mem_pair.mp hcall with rfl | rfl
      · exact hfinds.located hfield rfl rfl
      · exact hfinds.located hfield rfl rfl
  | notASequence hfinds _ =>
      rw [List.mem_singleton.mp hcall]
      exact hfinds.located hfield rfl rfl
  | unreadable hfault =>
      rw [List.mem_singleton.mp hcall]
      cases hfault with
      | intro hsource _ _ _ => exact .intro hfield hsource rfl rfl

end Field

/-! ## The calls of a run -/

theorem firstFailing_calls_eq_take (formatter : Formatter) (checks : List Check) :
    ∃ count, (firstFailing formatter checks).calls = (checks.take count).flatMap Check.calls := by
  induction checks with
  | nil => exact ⟨0, rfl⟩
  | cons check rest ih =>
      obtain ⟨count, hcount⟩ := ih
      rw [firstFailing_cons]
      cases houtcome : check.outcome formatter with
      | ok _ => exact ⟨count + 1, by simp [Run.andThen, hcount]⟩
      | error halt => exact ⟨1, by simp [Run.andThen]⟩

theorem Check.report_of_outcome
    {formatter : Formatter} {check : Check} {fault : ValidationError}
    (houtcome : check.outcome formatter = .error (.invalid fault)) :
    ∃ site value cause, check.calls.getLast? = some (.format site value cause) ∧
      fault = formatter site value cause := by
  cases check with
  | stop site value cause =>
      cases houtcome
      exact ⟨site, value, cause, rfl, rfl⟩
  | test rule context =>
      cases hresult : rule context with
      | ok _ =>
          simp only [outcome, hresult] at houtcome
          contradiction
      | error failure =>
          cases failure with
          | aborted missing =>
              simp only [outcome, hresult] at houtcome
              cases houtcome
          | rejected error =>
              simp only [outcome, hresult] at houtcome
              cases houtcome
              exact ⟨context.site, context.value, .rule error, by simp [calls, hresult], rfl⟩

/-- An error comes from the formatter, which is called last. -/
theorem firstFailing_report
    {formatter : Formatter} {checks : List Check} {fault : ValidationError}
    (houtcome : (firstFailing formatter checks).outcome = .error (.invalid fault)) :
    ∃ site value cause,
      (firstFailing formatter checks).calls.getLast? = some (.format site value cause) ∧
        fault = formatter site value cause := by
  unfold firstFailing at houtcome ⊢
  cases hfind : checks.find? fun check => !check.passes with
  | none =>
      simp only [hfind] at houtcome
      contradiction
  | some check =>
      simp only [hfind] at houtcome ⊢
      obtain ⟨site, value, cause, hlast, hfault⟩ := Check.report_of_outcome houtcome
      exact ⟨site, value, cause, by simp [List.getLast?_append, hlast], hfault⟩

/-- The checks of a record with their visits. -/
def visitChecks (registry : Registry) (record : Text) (fields : List (Field Value)) :
    List (Visit × Check) :=
  (recordVisits record fields).filterMap fun entry =>
    (entry.2.check? registry).map fun check => (entry.1, check)

theorem map_snd_visitChecks
    (registry : Registry) (record : Text) (fields : List (Field Value)) :
    (visitChecks registry record fields).map Prod.snd = checkList registry record fields := by
  rw [checkList, checksOf, ← map_snd_recordVisits, List.filterMap_map, visitChecks,
    List.map_filterMap]
  simp [Function.comp_def]

/-- The calls are made one after the other at distinct visits of the record. -/
def MadeAtVisits (record : Text) (fields : List (Field Value)) (calls : List Call) : Prop :=
  ∃ visits : List (Visit × List Call),
    (visits.map Prod.fst).Nodup ∧
      (∀ visit ∈ visits, ∃ field, fields[visit.1.field]? = some field ∧
        field.CallsAt record visit.1.address visit.1.indices visit.2) ∧
      calls = visits.flatMap Prod.snd

theorem MadeAtVisits.located
    {record : Text} {fields : List (Field Value)} {calls : List Call}
    (hcalls : MadeAtVisits record fields calls) :
    ∀ call ∈ calls, call.Located record fields := by
  obtain ⟨visits, _, hvisits, rfl⟩ := hcalls
  intro call hcall
  obtain ⟨visit, hvisit, hmem⟩ := List.mem_flatMap.mp hcall
  obtain ⟨field, hfield, hat⟩ := hvisits visit hvisit
  exact hat.located (List.mem_of_getElem? hfield) hmem

theorem firstFailing_madeAtVisits
    (registry : Registry) (formatter : Formatter) (record : Text) (fields : List (Field Value)) :
    MadeAtVisits record fields
      (firstFailing formatter (checkList registry record fields)).calls := by
  have hchecks := (recordVisits_enumerate record fields).filterMap (Task.check? registry)
  obtain ⟨count, hcount⟩ :=
    firstFailing_calls_eq_take formatter (checkList registry record fields)
  let made := (visitChecks registry record fields).take count
  refine ⟨made.map fun entry => (entry.1, entry.2.calls), ?_, ?_, ?_⟩
  · rw [List.map_map]
    exact hchecks.nodup.sublist ((List.take_sublist count _).map Prod.fst)
  · intro visit hvisit
    obtain ⟨⟨place, check⟩, hentry, rfl⟩ := List.mem_map.mp hvisit
    obtain ⟨task, ⟨field, hfield, htask⟩, hcheck⟩ :=
      (hchecks.mem_iff place check).mp (List.mem_of_mem_take hentry)
    exact ⟨field, hfield, htask.callsAt hcheck⟩
  · rw [hcount, ← map_snd_visitChecks, ← List.map_take, List.flatMap_map, List.flatMap_map]

namespace Validator

/-- The calls of a validation are made at distinct visits, and each of them gets the value that
belongs to its site.  An error of the default formatter has the path of the last call, and shows the
value of that call. -/
theorem validate_calls_in_step
    (validator : Validator) (formatter : Formatter)
    {input : Value} {record : Text} {fields : List (Field Value)}
    (hinput : input.resolve = .record record fields) :
    MadeAtVisits record fields (validator.validateWith formatter input).calls ∧
      (∀ call ∈ (validator.validateWith formatter input).calls, call.Located record fields) ∧
      ∀ fault, (validator.validateWith defaultFormatter input).outcome =
          .error (.invalid fault) →
        ∃ site value cause,
          let path := site.field ++ site.indices.flatMap fun index =>
            '[' :: Text.ofNat index ++ [']']
          (validator.validateWith defaultFormatter input).calls.getLast? =
              some (.format site value cause) ∧
            Call.Located record fields (.format site value cause) ∧
            fault = .field path
              ("field ".toList ++ path.quoted ++ " validation error: ".toList ++ cause.message
                ++ " (received: '".toList ++ value.display ++ "')".toList)
              cause := by
  have hcalls (chosen : Formatter) :
      MadeAtVisits record fields (validator.validateWith chosen input).calls := by
    rw [validator.validateWith_record chosen hinput]
    exact firstFailing_madeAtVisits validator.registry chosen record fields
  refine ⟨hcalls formatter, (hcalls formatter).located, ?_⟩
  intro fault houtcome
  have hrun := validator.validateWith_record defaultFormatter hinput
  rw [hrun] at houtcome
  obtain ⟨site, value, cause, hlast, hfault⟩ := firstFailing_report houtcome
  rw [← hrun] at hlast
  have hlocated := (hcalls defaultFormatter).located _ (List.mem_of_getLast? hlast)
  exact ⟨site, value, cause, hlast, hlocated, hfault⟩

/-- Lists in a list, the last element of which is rejected, behind a field without annotation. -/
theorem validate_calls_in_step_nested :
    let source := "each={each={min=1},max=2}".toList
    let fields : List (Field Value) :=
      [⟨"id".toList, none, .int 7⟩,
        ⟨"codes".toList, some source,
          .list [.array [.text "a".toList], .array [.text "b".toList, .text []]]⟩]
    let input : Value := .optional (.record "Order".toList fields)
    let site : Site := ⟨"Order".toList, "codes".toList, source, [1, 1]⟩
    let cause : FieldError := .rule (.violation "should have length at least 1".toList)
    (new.validateWith defaultFormatter input).outcome =
        .error (.invalid (.field "codes[1][1]".toList
          "field \"codes[1][1]\" validation error: should have length at least 1 (received: '')".toList
          cause)) ∧
      (new.validateWith defaultFormatter input).calls.getLast? =
        some (.format site (.text []) cause) ∧
      MadeAtVisits "Order".toList fields (new.validateWith defaultFormatter input).calls ∧
      Call.Located "Order".toList fields (.format site (.text []) cause) := by
  have hparse : Annotation.parse "each={each={min=1},max=2}".toList =
      .ok ⟨[.each [.each [.invoke ⟨"min".toList, some "1".toList⟩],
        .invoke ⟨"max".toList, some "2".toList⟩]]⟩ := by
    unfold Annotation.parse
    rw [← Directive.iterate_readSegments 3]
    rfl
  intro source fields input site cause
  have hrun : new.validateWith defaultFormatter input =
      Run.sequence [.done, applyDirectives .builtin defaultFormatter
        [.each [.each [.invoke ⟨"min".toList, some "1".toList⟩],
          .invoke ⟨"max".toList, some "2".toList⟩]]
        (.list [.array [.text "a".toList], .array [.text "b".toList, .text []]])
        (.ofField "Order".toList "codes".toList source)] := by
    simp only [validateWith, input, fields, source, Value.resolve, List.map_cons, List.map_nil,
      applyField, hparse]
    rfl
  have hlast : (new.validateWith defaultFormatter input).calls.getLast? =
      some (.format site (.text []) cause) := by
    rw [hrun]
    rfl
  have hinput : input.resolve = .record "Order".toList fields := rfl
  obtain ⟨hcalls, hlocated, _⟩ := validate_calls_in_step new defaultFormatter hinput
  refine ⟨?_, hlast, hcalls, hlocated _ (List.mem_of_getLast? hlast)⟩
  rw [hrun]
  rfl

end Validator

end FieldRules
