import FieldRules.Proofs.Annotation.Canonical

/-!
# The invocations of an annotation

The directives of an annotation are trees with invocations at their leaves.  This
file lists the leaves in the order of the text.  What an annotation must be like so
that it can be written down is a matter of these leaves alone: the canonical text of
well-formed invocations is read back, whatever the clauses around them, and no other
invocation is ever read.
-/

namespace FieldRules

open Text

mutual

def Directive.invocations : Directive → List Invocation
  | .invoke invocation => [invocation]
  | .each body => Directive.invocationsIn body

/-- The invocations of directives, those of a clause in its place. -/
def Directive.invocationsIn : List Directive → List Invocation
  | [] => []
  | directive :: rest => directive.invocations ++ Directive.invocationsIn rest

end

def Annotation.invocations (rules : Annotation) : List Invocation :=
  Directive.invocationsIn rules.directives

namespace Directive

theorem invocationsIn_append (directives others : List Directive) :
    invocationsIn (directives ++ others) = invocationsIn directives ++ invocationsIn others := by
  induction directives with
  | nil => rfl
  | cons first rest ih => rw [List.cons_append, invocationsIn, invocationsIn, ih, List.append_assoc]

theorem invocationsIn_each (body : List Directive) :
    invocationsIn [.each body] = invocationsIn body := by
  rw [invocationsIn, invocationsIn, invocations, List.append_nil]

/-! ## Well-formed annotations -/

mutual

theorem wellFormed_iff_forall_invocations :
    ∀ directive : Directive, directive.WellFormed ↔
      ∀ invocation ∈ directive.invocations, invocation.WellFormed
  | .invoke invocation => by
      rw [invocations, List.forall_mem_singleton]
      constructor
      · intro h
        cases h with
        | invoke hinvocation => exact hinvocation
      · exact WellFormed.invoke
  | .each body => by
      rw [invocations, wellFormed_each_iff]
      exact forall_wellFormed_iff body

theorem forall_wellFormed_iff :
    ∀ directives : List Directive, (∀ directive ∈ directives, directive.WellFormed) ↔
      ∀ invocation ∈ invocationsIn directives, invocation.WellFormed
  | [] => by simp [invocationsIn]
  | first :: rest => by
      rw [List.forall_mem_cons, invocationsIn, List.forall_mem_append,
        wellFormed_iff_forall_invocations first, forall_wellFormed_iff rest]

end

end Directive

theorem Invocation.wellFormed_iff {invocation : Invocation} :
    invocation.WellFormed ↔
      invocation.name.Trimmed ∧ '=' ∉ invocation.name ∧ invocation.name ≠ RuleName.each ∧
        (invocation.param = none → invocation.name ≠ []) ∧
        (∀ param ∈ invocation.param, param.Trimmed) ∧ invocation.render.Closed := by
  constructor
  · intro h
    exact ⟨h.name_trimmed, h.mark_not_mem, h.name_ne_each, h.name_ne_nil, h.param_trimmed,
      h.render_closed⟩
  · intro h
    obtain ⟨htrimmed, hmark, heach, hnil, hparam, hclosed⟩ := h
    exact ⟨htrimmed, hmark, heach, hnil, hparam, hclosed⟩

instance (invocation : Invocation) : Decidable invocation.WellFormed :=
  decidable_of_iff _ Invocation.wellFormed_iff.symm

namespace Annotation

theorem wellFormed_of_parse
    {t : Text} {rules : Annotation} (hparse : parse t = .ok rules) :
    ∀ invocation ∈ rules.invocations, invocation.WellFormed :=
  (Directive.forall_wellFormed_iff rules.directives).mp (layout_of_parse hparse).wellFormed

theorem parse_render_of_wellFormed
    {rules : Annotation} (h : ∀ invocation ∈ rules.invocations, invocation.WellFormed) :
    parse rules.render = .ok rules := by
  apply (parse_eq_ok_iff_layout _ _).mpr
  apply Directive.layout_renderList
  exact (Directive.forall_wellFormed_iff rules.directives).mpr h

/-- An annotation can be written exactly if its invocations are well formed.  So no invocation has
neither a name nor a parameter, and none has the name of clauses.  Two annotations that can be
written have different canonical texts. -/
theorem exists_parse_iff_wellFormed :
    (∀ rules : Annotation, (∃ t, parse t = .ok rules) ↔
      ∀ invocation ∈ rules.invocations, invocation.WellFormed) ∧
    (∀ t rules, parse t = .ok rules → ∀ invocation ∈ rules.invocations,
      invocation ≠ ⟨[], none⟩ ∧ invocation.name ≠ RuleName.each) ∧
    ∀ rules others : Annotation,
      (∀ invocation ∈ rules.invocations, invocation.WellFormed) →
      (∀ invocation ∈ others.invocations, invocation.WellFormed) →
      rules.render = others.render → rules = others := by
  refine ⟨?_, ?_, ?_⟩
  · intro rules
    constructor
    · intro hwritten
      obtain ⟨t, hparse⟩ := hwritten
      exact wellFormed_of_parse hparse
    · intro hwellFormed
      exact ⟨rules.render, parse_render_of_wellFormed hwellFormed⟩
  · intro t rules hparse invocation hmem
    have hinvocation := wellFormed_of_parse hparse invocation hmem
    constructor
    · intro hnothing
      rw [hnothing] at hinvocation
      exact hinvocation.name_ne_nil rfl rfl
    · exact hinvocation.name_ne_each
  · intro rules others hrules hothers hsame
    have hread := parse_render_of_wellFormed hrules
    rw [hsame, parse_render_of_wellFormed hothers, Except.ok.injEq] at hread
    exact hread.symm

/-- A parameter that closes a brace of the name, and an empty name in a clause within a clause. -/
theorem exists_parse_iff_wellFormed_nested :
    let rules : Annotation := ⟨[.invoke ⟨"\x7ba".toList, some "b,\x7d".toList⟩,
      .each [.each [.invoke ⟨[], some "5".toList⟩], .each []]]⟩
    let unwritten : Annotation := ⟨[.each [.invoke ⟨"\x7ba".toList, none⟩]]⟩
    (∃ t, parse t = .ok rules) ∧ (¬∃ t, parse t = .ok unwritten) ∧
      (∀ invocation ∈ rules.invocations,
        invocation ≠ ⟨[], none⟩ ∧ invocation.name ≠ RuleName.each) ∧
      ∀ t others, parse t = .ok others → others.render = rules.render → others = rules := by
  intro rules unwritten
  obtain ⟨himage, hnames, hinjective⟩ := exists_parse_iff_wellFormed
  have hrules : ∀ invocation ∈ rules.invocations, invocation.WellFormed := by decide
  have hunwritten : ¬∀ invocation ∈ unwritten.invocations, invocation.WellFormed := by decide
  obtain ⟨t, hparse⟩ := (himage rules).mpr hrules
  refine ⟨⟨t, hparse⟩, ?_, hnames t rules hparse, ?_⟩
  · rw [himage]
    exact hunwritten
  · intro other others hother hsame
    exact hinjective others rules ((himage others).mp ⟨other, hother⟩) hrules hsame

end Annotation
end FieldRules
