import FieldRules.Proofs.Validation.CheckList

/-!
# Runs under different formatters

What a validation uses, and where it stops, is settled before its formatter is called.
So two runs of one validation under different formatters are alike: they use the same
rules in the same contexts, and at most one call of the formatter comes behind these.
That call is the same in both runs, and only the error that it gives may differ.
-/

namespace FieldRules

/-- The runs use rules in the given contexts and end in the same way.  A failure is put into words
by one call of the formatter, which gives the error of its run. -/
inductive EndAlike (first second : Formatter) (contexts : List Context) : Run → Run → Prop where
  | passed :
      EndAlike first second contexts ⟨contexts.map .rule, .ok ()⟩ ⟨contexts.map .rule, .ok ()⟩
  | aborted (missing : MissingParameter) :
      EndAlike first second contexts
        ⟨contexts.map .rule, .error (.aborted missing)⟩
        ⟨contexts.map .rule, .error (.aborted missing)⟩
  | failed (site : Site) (value : Value) (cause : FieldError) :
      EndAlike first second contexts
        ⟨contexts.map .rule ++ [.format site value cause],
          .error (.invalid (first site value cause))⟩
        ⟨contexts.map .rule ++ [.format site value cause],
          .error (.invalid (second site value cause))⟩

namespace EndAlike

variable {first second : Formatter} {contexts : List Context} {run other : Run}

theorem calls_eq (h : EndAlike first second contexts run other) : run.calls = other.calls := by
  cases h <;> rfl

theorem outcome_eq_ok_iff (h : EndAlike first second contexts run other) :
    run.outcome = .ok () ↔ other.outcome = .ok () := by
  cases h <;> simp

/-- Two runs that are alike are continued by two others that are. -/
theorem andThen
    {more : List Context} {next otherNext : Run}
    (h : EndAlike first second contexts run other)
    (hnext : EndAlike first second more next otherNext) :
    ∃ all, EndAlike first second all (run.andThen next) (other.andThen otherNext) := by
  cases h with
  | aborted missing => exact ⟨contexts, .aborted missing⟩
  | failed site value cause => exact ⟨contexts, .failed site value cause⟩
  | passed =>
      refine ⟨contexts ++ more, ?_⟩
      simp only [Run.andThen]
      cases hnext with
      | passed =>
          rw [← List.map_append]
          exact .passed
      | aborted missing =>
          rw [← List.map_append]
          exact .aborted missing
      | failed site value cause =>
          rw [← List.append_assoc, ← List.map_append]
          exact .failed site value cause

end EndAlike

/-! ## The first failing check -/

variable (first second : Formatter)

theorem Check.endAlike (check : Check) :
    ∃ contexts, EndAlike first second contexts
      ⟨check.calls, check.outcome first⟩ ⟨check.calls, check.outcome second⟩ := by
  cases check with
  | stop site value cause => exact ⟨[], .failed site value cause⟩
  | test rule context =>
      refine ⟨[context], ?_⟩
      cases hresult : rule context with
      | ok _ =>
          simp only [calls, outcome, hresult]
          exact .passed
      | error failure =>
          cases failure with
          | aborted missing =>
              simp only [calls, outcome, hresult]
              exact .aborted missing
          | rejected fault =>
              simp only [calls, outcome, hresult]
              exact .failed context.site context.value (.rule fault)

theorem firstFailing_endAlike (checks : List Check) :
    ∃ contexts, EndAlike first second contexts
      (firstFailing first checks) (firstFailing second checks) := by
  induction checks with
  | nil => exact ⟨[], .passed⟩
  | cons check rest ih =>
      obtain ⟨own, hcheck⟩ := check.endAlike first second
      obtain ⟨behind, hrest⟩ := ih
      rw [firstFailing_cons, firstFailing_cons]
      exact hcheck.andThen hrest

namespace Validator

/-- A formatter has no part in a validation but to put a failure into words.  Under any two of them
the same calls are made and the same records are valid.  A failure has one call of the formatter,
behind all rules, whose result is the error; an input that is not a record, or an optional one, is
refused without any call. -/
theorem validateWith_formatters (validator : Validator) (input : Value) :
    validator.validate input = validator.validateWith validator.formatter input ∧
      (∀ formatter,
        (validator.setFormatter formatter).validate input =
          validator.validateWith formatter input) ∧
      ∀ first second : Formatter,
        let run := validator.validateWith first input
        let other := validator.validateWith second input
        run.calls = other.calls ∧
          (run.outcome = .ok () ↔ other.outcome = .ok ()) ∧
          match input.resolve with
          | .record _ _ => ∃ contexts, EndAlike first second contexts run other
          | refused =>
            run = ⟨[], .error (.invalid (.unsupportedInput refused.kind))⟩ ∧
              other = ⟨[], .error (.invalid (.unsupportedInput refused.kind))⟩ := by
  refine ⟨rfl, fun _ => rfl, ?_⟩
  intro first second run other
  cases hinput : input.resolve with
  | record name fields =>
      have halike : ∃ contexts, EndAlike first second contexts run other := by
        rw [show run = _ from validator.validateWith_record first hinput,
          show other = _ from validator.validateWith_record second hinput]
        exact firstFailing_endAlike first second _
      obtain ⟨contexts, hcontexts⟩ := halike
      exact ⟨hcontexts.calls_eq, hcontexts.outcome_eq_ok_iff, contexts, hcontexts⟩
  | _ => simp [run, other, validateWith, hinput]

end Validator

end FieldRules
