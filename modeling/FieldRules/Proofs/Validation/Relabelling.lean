import FieldRules.Proofs.Validation.CheckList

/-!
# Runs that look different

A run shows its sites and values to rules and to the formatter.  Suppose that these
are changed, and that neither a rule nor the formatter can tell.  Then the
changed tasks lead to the same run, with the same changes in its calls.
-/

namespace FieldRules

variable (onSite : Site → Site) (onValue : Value → Value)

def Context.relabel (context : Context) : Context :=
  { context with site := onSite context.site, value := onValue context.value }

def Task.relabel : Task → Task
  | .use context => .use (context.relabel onSite onValue)
  | .stop site value cause => .stop (onSite site) (onValue value) cause

def Call.relabel : Call → Call
  | .rule context => .rule (context.relabel onSite onValue)
  | .format site value cause => .format (onSite site) (onValue value) cause

def Run.relabel (run : Run) : Run :=
  ⟨run.calls.map (Call.relabel onSite onValue), run.outcome⟩

/-- No rule of the registry can tell the changes. -/
def Registry.Overlooks (registry : Registry) : Prop :=
  ∀ name rule, registry.get? name = some rule →
    ∀ context : Context, rule (context.relabel onSite onValue) = rule context

/-- The formatter cannot tell the changes. -/
def Formatter.Overlooks (formatter : Formatter) : Prop :=
  ∀ site value cause, formatter (onSite site) (onValue value) cause = formatter site value cause

variable {onSite onValue} {registry : Registry} {formatter : Formatter}

theorem Run.relabel_andThen (first second : Run) :
    (first.andThen second).relabel onSite onValue =
      (first.relabel onSite onValue).andThen (second.relabel onSite onValue) := by
  obtain ⟨calls, outcome⟩ := first
  cases outcome with
  | ok _ => simp [Run.andThen, Run.relabel]
  | error halt => rfl

theorem firstFailing_relabel_task
    (hregistry : registry.Overlooks onSite onValue)
    (hformatter : Formatter.Overlooks onSite onValue formatter) (task : Task) :
    firstFailing formatter (checksOf registry [task.relabel onSite onValue]) =
      (firstFailing formatter (checksOf registry [task])).relabel onSite onValue := by
  cases task with
  | stop site value cause =>
      rw [Task.relabel, checksOf_stop, checksOf_stop, firstFailing_singleton,
        firstFailing_singleton, Check.outcome, hformatter]
      rfl
  | use context =>
      have hname : (context.relabel onSite onValue).rule = context.rule := rfl
      cases hget : registry.get? context.rule with
      | none =>
          simp [checksOf, Task.relabel, Task.check?, hname, hget, firstFailing_nil, Run.done,
            Run.relabel]
      | some rule =>
          have hsame := hregistry context.rule rule hget context
          have hchecks (other : Context) (hother : other.rule = context.rule) :
              checksOf registry [.use other] = [.test rule other] := by
            simp [checksOf, Task.check?, hother, hget]
          rw [Task.relabel, hchecks _ hname, hchecks _ rfl, firstFailing_singleton,
            firstFailing_singleton]
          cases hresult : rule context with
          | ok _ =>
              simp [Check.calls, Check.outcome, hsame, hresult, Run.relabel, Call.relabel]
          | error failure =>
              cases failure with
              | aborted missing =>
                  simp [Check.calls, Check.outcome, hsame, hresult, Run.relabel, Call.relabel]
              | rejected fault =>
                  have hreport := hformatter context.site context.value (.rule fault)
                  simp only [Check.calls, Check.outcome, hsame, hresult, Run.relabel]
                  rw [← hreport]
                  rfl

theorem firstFailing_relabel
    (hregistry : registry.Overlooks onSite onValue)
    (hformatter : Formatter.Overlooks onSite onValue formatter) (tasks : List Task) :
    firstFailing formatter (checksOf registry (tasks.map (Task.relabel onSite onValue))) =
      (firstFailing formatter (checksOf registry tasks)).relabel onSite onValue := by
  induction tasks with
  | nil => rfl
  | cons task rest ih =>
      rw [List.map_cons, ← List.singleton_append, checksOf_append, firstFailing_append, ih,
        firstFailing_relabel_task hregistry hformatter, ← Run.relabel_andThen,
        ← firstFailing_append, ← checksOf_append, List.singleton_append]

end FieldRules
