import FieldRules.Proofs.Annotation.Invocations
import FieldRules.Scan.Problem

/-!
# Where problems come from

A problem of an annotation is a problem of one of the uses of rules in it, however
deep in each-clauses that use is, or else the annotation cannot be read at all.  The
problems come in the order of the uses.

What is wrong with a use depends on its name first.  It may be empty or unknown, and
only of a name that is known it matters what the parameter is.
-/

namespace FieldRules

/-- The rule is used by the directive, at any depth of each-clauses. -/
inductive Directive.Uses (invocation : Invocation) : Directive → Prop where
  | here : Directive.Uses invocation (.invoke invocation)
  | inside {body : List Directive} {directive : Directive} (hmem : directive ∈ body)
      (huse : Directive.Uses invocation directive) : Directive.Uses invocation (.each body)

def Annotation.Uses (invocation : Invocation) (rules : Annotation) : Prop :=
  ∃ directive ∈ rules.directives, directive.Uses invocation

section Uses

variable {invocation : Invocation}

mutual

theorem Directive.uses_iff_mem_invocations :
    ∀ {directive : Directive}, directive.Uses invocation ↔ invocation ∈ directive.invocations
  | .invoke other => by
      rw [Directive.invocations, List.mem_singleton]
      constructor
      · intro huse
        cases huse with
        | here => rfl
      · intro heq
        rw [heq]
        exact .here
  | .each body => by
      rw [Directive.invocations, ← exists_uses_iff_mem_invocationsIn]
      constructor
      · intro huse
        cases huse with
        | inside hmem huse => exact ⟨_, hmem, huse⟩
      · intro hinside
        obtain ⟨directive, hmem, huse⟩ := hinside
        exact .inside hmem huse

theorem exists_uses_iff_mem_invocationsIn :
    ∀ {directives : List Directive}, (∃ directive ∈ directives, directive.Uses invocation) ↔
      invocation ∈ Directive.invocationsIn directives
  | [] => by simp [Directive.invocationsIn]
  | first :: rest => by
      rw [Directive.invocationsIn, List.mem_append, ← Directive.uses_iff_mem_invocations,
        ← exists_uses_iff_mem_invocationsIn]
      simp only [List.mem_cons, or_and_right, exists_or, exists_eq_left]

end

theorem Annotation.uses_iff_mem_invocations {rules : Annotation} :
    rules.Uses invocation ↔ invocation ∈ rules.invocations :=
  exists_uses_iff_mem_invocationsIn

end Uses

/-! ## What is wrong with an invocation -/

namespace Invocation

variable {invocation : Invocation} {custom : List Text}

/-- There is a name, and nothing is known under it. -/
structure Unknown (custom : List Text) (invocation : Invocation) : Prop where
  name_ne_nil : invocation.name ≠ []
  not_builtin : invocation.name ∉ RuleName.builtin
  not_custom : invocation.name ∉ custom

theorem unknown_or_known (custom : List Text) (hempty : invocation.name ≠ []) :
    invocation.Unknown custom ∨
      (invocation.name ∈ RuleName.builtin ∨ invocation.name ∈ custom) := by
  by_cases hknown : invocation.name ∈ RuleName.builtin ∨ invocation.name ∈ custom
  · exact .inr hknown
  · obtain ⟨hbuiltin, hcustom⟩ := not_or.mp hknown
    exact .inl ⟨hempty, hbuiltin, hcustom⟩

/-- What is wrong with the use of a rule that is known. -/
def useProblem? (invocation : Invocation) : Option Text :=
  if RuleName.bounds.contains invocation.name then invocation.boundProblem?
  else if invocation.name = RuleName.required ∧ invocation.param.isSome then
    some "required validator does not accept parameters".toList
  else none

theorem problem?_of_empty (hempty : invocation.name = []) :
    invocation.problem? custom = some "empty validator name".toList := by
  rw [problem?, if_pos hempty]

theorem problem?_of_known
    (hempty : invocation.name ≠ [])
    (hknown : invocation.name ∈ RuleName.builtin ∨ invocation.name ∈ custom) :
    invocation.problem? custom = invocation.useProblem? := by
  rw [problem?, if_neg hempty, if_neg]
  · rfl
  · rcases hknown with hbuiltin | hcustom
    · simp [hbuiltin]
    · simp [hcustom]

theorem problem?_of_unknown (h : invocation.Unknown custom) :
    invocation.problem? custom = some invocation.unknownMessage := by
  rw [problem?, if_neg h.name_ne_nil, if_pos]
  simp [h.not_builtin, h.not_custom]

theorem problem?_of_builtin (hbuiltin : invocation.name ∈ RuleName.builtin) :
    invocation.problem? custom = invocation.useProblem? := by
  have hnames : ∀ name ∈ RuleName.builtin, name ≠ [] := by decide
  exact problem?_of_known (hnames _ hbuiltin) (.inl hbuiltin)

/-! ## Rules that are known by default -/

theorem name_mem_builtin_of_bound (hbound : invocation.name ∈ RuleName.bounds) :
    invocation.name ∈ RuleName.builtin :=
  List.mem_cons_of_mem _ hbound

theorem useProblem?_of_bound (hbound : invocation.name ∈ RuleName.bounds) :
    invocation.useProblem? = invocation.boundProblem? := by
  rw [useProblem?, if_pos (by simpa using hbound)]

theorem boundProblem?_eq_some_iff {message : Text} :
    invocation.boundProblem? = some message ↔
      (invocation.param = none ∧
        message = invocation.name ++ " expects integer parameter, got none".toList) ∨
      ∃ param reason, invocation.param = some param ∧ Text.readInt64 param = .error reason ∧
        message = invocation.name ++ " expects integer parameter, got ".toList ++ param.quoted := by
  unfold boundProblem?
  cases invocation.param with
  | none => simp [eq_comm]
  | some param =>
      cases hread : Text.readInt64 param with
      | ok limit => simp [hread]
      | error reason => simp [hread, eq_comm]

/-- What is wrong with a bound is said of its name first. -/
theorem boundProblem?_front {message : Text} (hmessage : invocation.boundProblem? = some message) :
    ∃ rest, message = invocation.name ++ rest := by
  rcases boundProblem?_eq_some_iff.mp hmessage with ⟨_, hnone⟩ | ⟨param, _, _, _, hsome⟩
  · exact ⟨_, hnone⟩
  · rw [hsome, List.append_assoc]
    exact ⟨_, rfl⟩

theorem useProblem?_of_not_builtin (hbuiltin : invocation.name ∉ RuleName.builtin) :
    invocation.useProblem? = none := by
  have hbound : invocation.name ∉ RuleName.bounds := fun hmem =>
    hbuiltin (name_mem_builtin_of_bound hmem)
  have hrequired : invocation.name ≠ RuleName.required := by
    intro heq
    rw [heq] at hbuiltin
    exact hbuiltin List.mem_cons_self
  simp [useProblem?, hbound, hrequired]

/-! ## Slips -/

theorem render_append (front rest : Text) (param : Option Text) :
    Invocation.render ⟨front ++ rest, param⟩ = front ++ Invocation.render ⟨rest, param⟩ := by
  cases param with
  | none => rfl
  | some param => simp [render]

/-- A text without a mark that the invocation begins with is a part of the name. -/
theorem render_eq_append_iff {front rest : Text} (hmark : '=' ∉ front) :
    invocation.render = front ++ rest ↔
      ∃ behind, invocation.name = front ++ behind ∧
        rest = Invocation.render ⟨behind, invocation.param⟩ := by
  obtain ⟨name, param⟩ := invocation
  constructor
  · intro hrender
    cases param with
    | none => exact ⟨rest, hrender, rfl⟩
    | some param =>
        rcases List.append_eq_append_iff.mp hrender with
          ⟨inside, hfront, hrest⟩ | ⟨behind, hname, hrest⟩
        · cases inside with
          | nil => exact ⟨[], by simpa using hfront.symm, by simpa [render] using hrest.symm⟩
          | cons c inside =>
              have hc : '=' = c := (List.cons.inj hrest).1
              rw [hfront, ← hc] at hmark
              simp at hmark
        · exact ⟨behind, hname, hrest⟩
  · intro hname
    obtain ⟨behind, rfl, rfl⟩ := hname
    exact render_append front behind param

theorem mark_not_mem_slip : '=' ∉ "each:".toList := by
  decide

end Invocation

/-! ## The problems of an annotation -/

variable {custom : List Text}

mutual

theorem Directive.problems_eq_filterMap :
    ∀ directive : Directive, directive.problems custom =
      directive.invocations.filterMap (Invocation.problem? custom)
  | .invoke invocation => by
      rw [Directive.problems, Directive.invocations]
      cases hproblem : invocation.problem? custom with
      | none => simp [hproblem]
      | some message => simp [hproblem]
  | .each body => by
      rw [Directive.problems, Directive.invocations]
      exact problemsIn_eq_filterMap body

theorem problemsIn_eq_filterMap :
    ∀ directives : List Directive, problemsIn custom directives =
      (Directive.invocationsIn directives).filterMap (Invocation.problem? custom)
  | [] => rfl
  | first :: rest => by
      rw [problemsIn, Directive.invocationsIn, List.filterMap_append,
        Directive.problems_eq_filterMap first, problemsIn_eq_filterMap rest]

end

theorem annotationProblems_of_error
    {source : Text} {fault : GrammarError} (hparse : Annotation.parse source = .error fault) :
    annotationProblems custom source = [fault.message] := by
  simp only [annotationProblems, hparse]

/-- The problems of an annotation that can be read are those of its invocations. -/
theorem annotationProblems_of_ok
    {source : Text} {rules : Annotation} (hparse : Annotation.parse source = .ok rules) :
    annotationProblems custom source =
      rules.invocations.filterMap (Invocation.problem? custom) := by
  simp only [annotationProblems, hparse]
  exact problemsIn_eq_filterMap rules.directives

/-- The messages about an annotation that can be read are about the uses of rules in it. -/
theorem mem_annotationProblems_iff
    {source message : Text} {rules : Annotation} (hparse : Annotation.parse source = .ok rules) :
    message ∈ annotationProblems custom source ↔
      ∃ invocation, rules.Uses invocation ∧ invocation.problem? custom = some message := by
  simp only [annotationProblems_of_ok hparse, List.mem_filterMap,
    Annotation.uses_iff_mem_invocations]

end FieldRules
