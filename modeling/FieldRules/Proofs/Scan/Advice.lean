import FieldRules.Proofs.Scan.ProblemLists

/-!
# The advice about a slip

A name that is not registered and begins with `each:` is taken for a clause with a slip
in it, and the advice is to write `each=` and the same rest.  The slip is known by its
name, but the advice repeats name and parameter together, which are closed only
together.  Whoever takes the advice gets one clause, and if that cannot be read then
because the braces of a clause in it are not a pair.
-/

namespace FieldRules

open Text

/-! ## The text that is advised -/

namespace Text

/-- The clause that is written for a slip with this rest. -/
def mended (rest : Text) : Text := "each=".toList ++ rest

theorem mended_eq (rest : Text) : rest.mended = RuleName.each ++ '=' :: rest :=
  rfl

theorem closed_mended_iff {rest : Text} : rest.mended.Closed ↔ rest.Closed :=
  closed_plain_append Directive.plain_each_mark

theorem plain_slip : Plain "each:".toList := by
  have hall : "each:".toList.all fun c => c ≠ '{' ∧ c ≠ '}' ∧ c ≠ ',' := by decide
  intro c hc
  simpa using List.all_eq_true.mp hall c hc

end Text

theorem Invocation.ofSegment_mended (rest : Text) :
    ofSegment rest.mended = ⟨RuleName.each, some rest.trim⟩ :=
  ofSegment_eq_each_iff.mpr ⟨RuleName.each, rest, rest.mended_eq,
    pads_iff_trim_eq.mpr (by decide), pads_trim rest⟩

theorem Invocation.WellFormed.closed_rest
    {invocation : Invocation} {rest : Text} (h : invocation.WellFormed)
    (hslip : invocation.render = "each:".toList ++ rest) : rest.Closed := by
  have hclosed := h.render_closed
  rw [hslip, closed_plain_append plain_slip] at hclosed
  exact hclosed

/-! ## Clauses in it -/

section Mended

variable {rest param : Text} {place : List Nat}

/-- The clauses are the one that is advised and those in its body. -/
theorem clauseAt_mended_iff (hclosed : rest.Closed) :
    ClauseAt rest.mended place param ↔
      ∃ inner, place = 0 :: inner ∧
        (inner = [] ∧ rest.trim = param ∨ ClauseAt rest.trim.stripBraces inner param) := by
  have hcut : rest.mended.segments = .ok [rest.mended] :=
    segments_eq_self_iff.mpr (closed_mended_iff.mpr hclosed)
  cases place with
  | nil => simp [not_clauseAt_nil]
  | cons position inner =>
      rw [clauseAt_cons_iff]
      constructor
      · rintro ⟨segments, segment, outer, hsegments, hat, hread, hcases⟩
        rw [hcut, Except.ok.injEq] at hsegments
        subst hsegments
        obtain ⟨hposition, rfl⟩ := List.getElem?_eq_some_iff.mp hat
        obtain rfl : position = 0 := by simpa using hposition
        rw [List.getElem_cons_zero, Invocation.ofSegment_mended, Invocation.mk.injEq,
          Option.some.injEq] at hread
        rw [← hread.2] at hcases
        exact ⟨inner, rfl, hcases⟩
      · rintro ⟨_, hplace, hcases⟩
        obtain ⟨rfl, rfl⟩ := List.cons.inj hplace
        exact ⟨_, rest.mended, rest.trim, hcut, rfl, Invocation.ofSegment_mended rest, hcases⟩

theorem ClauseAt.isInfix_rest (hclosed : rest.Closed) (h : ClauseAt rest.mended place param) :
    param <:+: rest := by
  obtain ⟨inner, _, hcases⟩ := (clauseAt_mended_iff hclosed).mp h
  rcases hcases with ⟨_, rfl⟩ | hinner
  · exact trim_isInfix rest
  · exact (hinner.isInfix.1.trans (stripBraces_isInfix (trim_trimmed rest))).trans
      (trim_isInfix rest)

namespace Directive

/-- What can be read of it is one clause. -/
theorem eq_each_of_parseList_mended
    {directives : List Directive} (hclosed : rest.Closed)
    (hread : parseList rest.mended = .ok directives) :
    ∃ body, directives = [.each body] := by
  have hcut : rest.mended.segments = .ok [rest.mended] :=
    segments_eq_self_iff.mpr (closed_mended_iff.mpr hclosed)
  have hclause := Invocation.ofSegment_mended rest
  obtain ⟨parts, hparts, hsegments⟩ := parseList_eq_ok_iff.mp hread
  rw [hcut, Except.ok.injEq] at hparts
  rw [← hparts] at hsegments
  obtain ⟨first, others, hfirst, hothers, rfl⟩ :=
    (ofSegments_cons_eq_ok_iff (not_blank_of_ofSegment_eq_each hclause)).mp hsegments
  obtain ⟨body, _, rfl⟩ :=
    (ofSegment_eq_ok_iff_of_name_eq_each (by rw [hclause])).mp hfirst
  cases hothers
  exact ⟨body, rfl⟩

end Directive

/-- It cannot be read only if a clause is broken, and then what is reported is a part of the rest. -/
theorem exists_firstBrokenAt_mended
    {fault : GrammarError} (hclosed : rest.Closed)
    (hfail : Directive.parseList rest.mended = .error fault) :
    ∃ inner body, FirstBrokenAt rest.mended (0 :: inner) body ∧
      fault = .unopenedBraces body.trim ∧ body.trim <:+: rest ∧ body.trim ≠ rest := by
  have hbalanced := (closed_mended_iff.mpr hclosed).balanced
  obtain ⟨place, body, hfirst, hfault⟩ := exists_firstBrokenAt_of_parseList hbalanced hfail
  obtain ⟨inner, rfl, _⟩ := (clauseAt_mended_iff hclosed).mp hfirst.broken.clause
  exact ⟨inner, body, hfirst, hfault,
    trim_isInfix_of_braces (hfirst.broken.clause.isInfix_rest hclosed)⟩

end Mended

/-! ## When there is such advice -/

namespace Invocation

variable {custom : List Text} {invocation : Invocation} {rest : Text}

/-- No rule that is known by default begins like a slip. -/
theorem unknown_of_slip
    (hname : invocation.name = "each:".toList ++ rest) (hcustom : invocation.name ∉ custom) :
    invocation.Unknown custom := by
  have hbuiltin : ∀ name ∈ RuleName.builtin, name.head? ≠ some 'e' := by decide
  refine ⟨?_, ?_, hcustom⟩
  · rw [hname]
    simp
  · intro hmem
    apply hbuiltin _ hmem
    rw [hname]
    rfl

theorem HasProblem.slip_of_invalid
    {message : Text} (h : invocation.HasProblem custom message)
    (hinvalid : "invalid syntax ".toList <+: message) : "each:".toList <+: invocation.name := by
  have hbounds : ∀ name ∈ RuleName.bounds, name.head? = some 'm' := by decide
  obtain ⟨more, hmessage⟩ := hinvalid
  have hhead {c : Char} (hfirst : message.head? = some c) : c = 'i' := by
    rw [← hmessage] at hfirst
    exact (Option.some.inj hfirst).symm
  cases h with
  | slip hunknown hname => exact ⟨_, hname.symm⟩
  | emptyName _ => exact absurd (hhead (c := 'e') rfl) (by decide)
  | unknownName _ _ => exact absurd (hhead (c := 'u') rfl) (by decide)
  | unusedParam _ _ => exact absurd (hhead (c := 'r') rfl) (by decide)
  | noLimit hbound _ =>
      have hfirst := hhead (c := 'm') (by rw [List.head?_append, hbounds _ hbound]; rfl)
      contradiction
  | badLimit hbound _ _ =>
      have hfirst := hhead (c := 'm') (by
        rw [List.append_assoc, List.head?_append, hbounds _ hbound]
        rfl)
      contradiction

theorem problem?_of_slip
    (hcustom : invocation.name ∉ custom) (hrender : invocation.render = "each:".toList ++ rest) :
    invocation.problem? custom =
      some ("invalid syntax ".toList ++ invocation.render.quoted ++ " - did you mean \"".toList
        ++ rest.mended ++ "\"?".toList) := by
  obtain ⟨behind, hname, rfl⟩ := (render_eq_append_iff mark_not_mem_slip).mp hrender
  rw [problem?_of_unknown (unknown_of_slip hname hcustom), unknownMessage_of_slip hname]
  simp [mended]

/-- An unregistered name is taken for a slip exactly if it begins with `each:`. -/
theorem invalid_iff_slip (hcustom : invocation.name ∉ custom) :
    (∃ message, invocation.problem? custom = some message ∧
      "invalid syntax ".toList <+: message) ↔ "each:".toList <+: invocation.name := by
  constructor
  · intro hinvalid
    obtain ⟨message, hproblem, hfront⟩ := hinvalid
    exact (problem?_eq_some_iff.mp hproblem).slip_of_invalid hfront
  · intro hslip
    obtain ⟨rest, hname⟩ := hslip
    have hrender := (render_eq_append_iff mark_not_mem_slip).mpr ⟨rest, hname.symm, rfl⟩
    refine ⟨_, problem?_of_slip hcustom hrender, ?_⟩
    simp only [List.append_assoc]
    exact List.prefix_append _ _

end Invocation

/-- The advice about a slip is a closed text, which is read as one clause whose body alone has
problems, or fails for braces that are not a pair, of this clause or of one in it. -/
theorem advice_mends_slip (custom : List Text) :
    (∀ invocation : Invocation, invocation.name ∉ custom →
      ((∃ message, invocation.problem? custom = some message ∧
        "invalid syntax ".toList <+: message) ↔ "each:".toList <+: invocation.name)) ∧
    ∀ t rules, Annotation.parse t = .ok rules →
      ∀ invocation, rules.Uses invocation → invocation.name ∉ custom →
      ∀ rest, invocation.render = "each:".toList ++ rest →
        "invalid syntax ".toList ++ invocation.render.quoted ++ " - did you mean \"".toList
            ++ rest.mended ++ "\"?".toList ∈ annotationProblems custom t ∧
          rest.mended.Closed ∧
          ((∃ body, Annotation.parse rest.mended = .ok ⟨[.each body]⟩ ∧
              annotationProblems custom rest.mended = problemsIn custom body) ∨
            ∃ inner body, FirstBrokenAt rest.mended (0 :: inner) body ∧
              Annotation.parse rest.mended = .error (.unopenedBraces body.trim) ∧
              body.trim <:+: rest ∧ body.trim ≠ rest) := by
  refine ⟨fun _ => Invocation.invalid_iff_slip, ?_⟩
  intro t rules hparse invocation huse hcustom rest hrender
  have hmem := Annotation.uses_iff_mem_invocations.mp huse
  have hwellFormed := Annotation.wellFormed_of_parse hparse invocation hmem
  have hclosed := hwellFormed.closed_rest hrender
  refine ⟨?_, closed_mended_iff.mpr hclosed, ?_⟩
  · exact (mem_annotationProblems_iff hparse).mpr
      ⟨invocation, huse, Invocation.problem?_of_slip hcustom hrender⟩
  · cases hread : Directive.parseList rest.mended with
    | ok directives =>
        obtain ⟨body, rfl⟩ := Directive.eq_each_of_parseList_mended hclosed hread
        have hclause : Annotation.parse rest.mended = .ok ⟨[.each body]⟩ :=
          Annotation.parse_eq_ok_iff.mpr hread
        refine .inl ⟨body, hclause, ?_⟩
        simp only [annotationProblems, hclause, problemsIn, Directive.problems, List.append_nil]
    | error fault =>
        obtain ⟨inner, body, hfirst, rfl, hpart⟩ := exists_firstBrokenAt_mended hclosed hread
        exact .inr ⟨inner, body, hfirst, Annotation.parse_eq_error_iff.mpr hread, hpart⟩

/-- Two slips that are cut at a mark inside their braces.  The braces of the first are a pair, and
those of the second are not. -/
theorem advice_mends_slip_nested :
    let custom : List Text := ["a".toList]
    let t : Text := "min=1,each={each:{a=b}},each:{a=1}b{c}".toList
    let paired : Text := "{a=b}".toList
    let unpaired : Text := "{a=1}b{c}".toList
    ("invalid syntax ".toList ++ Text.quoted "each:{a=b}".toList ++ " - did you mean \"".toList
          ++ paired.mended ++ "\"?".toList ∈ annotationProblems custom t ∧
        ∃ body, Annotation.parse paired.mended = .ok ⟨[.each body]⟩ ∧
          annotationProblems custom paired.mended = problemsIn custom body) ∧
      unpaired.mended.Closed ∧
      ∃ body : Text, Annotation.parse unpaired.mended = .error (.unopenedBraces body.trim) ∧
        body.trim <:+: unpaired ∧ body.trim ≠ unpaired := by
  intro custom t paired unpaired
  let first : Invocation := ⟨"each:\x7ba".toList, some "b\x7d".toList⟩
  let second : Invocation := ⟨"each:\x7ba".toList, some "1\x7db{c}".toList⟩
  let rules : Annotation :=
    ⟨[.invoke ⟨"min".toList, some "1".toList⟩, .each [.invoke first], .invoke second]⟩
  have hparse : Annotation.parse t = .ok rules := by
    refine Annotation.parse_eq_ok_iff.mpr ?_
    rw [← Directive.iterate_readSegments 2]
    rfl
  have hpaired : Annotation.parse paired.mended =
      .ok ⟨[.each [.invoke ⟨"a".toList, some "b".toList⟩]]⟩ := by
    refine Annotation.parse_eq_ok_iff.mpr ?_
    rw [← Directive.iterate_readSegments 2]
    rfl
  have hunpaired : Annotation.parse unpaired.mended =
      .error (.unopenedBraces "a=1\x7db\x7bc".toList) := by
    refine Annotation.parse_eq_error_iff.mpr ?_
    rw [← Directive.iterate_readSegments 2]
    rfl
  have huses : ∀ invocation ∈ [first, second], rules.Uses invocation := by
    simp [rules, Annotation.uses_iff_mem_invocations, Annotation.invocations,
      Directive.invocationsIn, Directive.invocations]
  obtain ⟨_, hadvice⟩ := advice_mends_slip custom
  obtain ⟨hmessage, _, hread⟩ := hadvice t rules hparse first (huses first (by simp)) (by decide)
    paired rfl
  obtain ⟨_, hclosed, hfail⟩ := hadvice t rules hparse second (huses second (by simp))
    (by decide) unpaired rfl
  refine ⟨⟨hmessage, ?_⟩, hclosed, ?_⟩
  · rcases hread with hclause | ⟨_, _, _, hfault, _⟩
    · exact hclause
    · rw [hpaired] at hfault
      contradiction
  · rcases hfail with ⟨_, hclause, _⟩ | ⟨_, body, _, hfault, hpart⟩
    · rw [hunpaired] at hclause
      contradiction
    · exact ⟨body, hfault, hpart⟩

end FieldRules
