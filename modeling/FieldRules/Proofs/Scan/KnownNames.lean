import FieldRules.Proofs.Scan.UnknownNames

/-!
# Which names are known

Only names of invocations are looked up, and of these only the ones that are neither
empty nor known by default.  With more names there are fewer problems: every use of
a name that becomes known had one message, and has none any more.
-/

namespace FieldRules

namespace Invocation

variable {custom more : List Text} {invocation : Invocation}

theorem unknown_iff :
    invocation.Unknown custom ↔
      invocation.name ≠ [] ∧ invocation.name ∉ RuleName.builtin ∧ invocation.name ∉ custom := by
  constructor
  · intro h
    exact ⟨h.name_ne_nil, h.not_builtin, h.not_custom⟩
  · intro h
    obtain ⟨hempty, hbuiltin, hcustom⟩ := h
    exact ⟨hempty, hbuiltin, hcustom⟩

theorem learned_iff :
    invocation.Learned custom more ↔
      invocation.Unknown custom ∧ invocation.name ∈ more := by
  constructor
  · intro h
    exact ⟨h.unknown, h.mem_more⟩
  · intro h
    obtain ⟨hunknown, hmem⟩ := h
    exact ⟨hunknown, hmem⟩

instance (custom : List Text) (invocation : Invocation) :
    Decidable (invocation.Unknown custom) :=
  decidable_of_iff _ unknown_iff.symm

instance (custom more : List Text) (invocation : Invocation) :
    Decidable (invocation.Learned custom more) :=
  decidable_of_iff _ learned_iff.symm

/-- The uses of names that become known are those that were reported as unknown. -/
theorem learned_iff_saysUnknown (hmark : '=' ∉ invocation.name) :
    invocation.Learned custom more ↔
      invocation.name ∈ more ∧ invocation.name ∉ custom ∧
        ∃ message, invocation.problem? custom = some message ∧
          SaysUnknown invocation.name message := by
  constructor
  · intro h
    refine ⟨h.mem_more, h.unknown.not_custom, invocation.unknownMessage, ?_, ?_⟩
    · exact problem?_of_unknown h.unknown
    · exact saysUnknown_unknownMessage hmark
  · intro h
    obtain ⟨hmem, _, message, hproblem, habout⟩ := h
    exact ⟨unknown_of_saysUnknown hproblem habout, hmem⟩

theorem filterMap_problem?_of_subset
    (hmore : ∀ name ∈ custom, name ∈ more) (invocations : List Invocation) :
    invocations.filterMap (problem? more) =
      (invocations.filter fun invocation => ¬invocation.Learned custom more).filterMap
        (problem? custom) := by
  rw [List.filterMap_filter]
  apply List.filterMap_congr
  intro invocation _
  by_cases hlearned : invocation.Learned custom more
  · rw [problem?_of_learned hlearned, if_neg (by simpa using hlearned)]
  · rw [problem?_of_not_learned hmore hlearned, if_pos (by simpa using hlearned)]

theorem unknown_congr {other : List Text}
    (h : invocation.name ≠ [] → invocation.name ∉ RuleName.builtin →
      (invocation.name ∈ custom ↔ invocation.name ∈ other)) :
    invocation.Unknown custom ↔ invocation.Unknown other := by
  rw [unknown_iff, unknown_iff]
  constructor
  · intro hunknown
    obtain ⟨hempty, hbuiltin, hcustom⟩ := hunknown
    exact ⟨hempty, hbuiltin, (not_congr (h hempty hbuiltin)).mp hcustom⟩
  · intro hunknown
    obtain ⟨hempty, hbuiltin, hother⟩ := hunknown
    exact ⟨hempty, hbuiltin, (not_congr (h hempty hbuiltin)).mpr hother⟩

end Invocation

/-! ## The problems of an annotation -/

variable {source : Text} {custom other more : List Text}

theorem annotationProblems_congr
    (hagree : ∀ rules, Annotation.parse source = .ok rules →
      ∀ invocation ∈ rules.invocations,
        invocation.name ≠ [] → invocation.name ∉ RuleName.builtin →
        (invocation.name ∈ custom ↔ invocation.name ∈ other)) :
    annotationProblems custom source = annotationProblems other source := by
  cases hparse : Annotation.parse source with
  | error fault => rw [annotationProblems_of_error hparse, annotationProblems_of_error hparse]
  | ok rules =>
      rw [annotationProblems_of_ok hparse, annotationProblems_of_ok hparse]
      apply List.filterMap_congr
      intro invocation hmem
      apply Invocation.problem?_congr
      exact Invocation.unknown_congr (hagree rules hparse invocation hmem)

theorem annotationProblems_of_subset
    {rules : Annotation} (hmore : ∀ name ∈ custom, name ∈ more)
    (hparse : Annotation.parse source = .ok rules) :
    annotationProblems more source =
      (rules.invocations.filter fun invocation => ¬invocation.Learned custom more).filterMap
        (Invocation.problem? custom) := by
  rw [annotationProblems_of_ok hparse]
  exact Invocation.filterMap_problem?_of_subset hmore rules.invocations

theorem sublist_annotationProblems (hmore : ∀ name ∈ custom, name ∈ more) :
    (annotationProblems more source).Sublist (annotationProblems custom source) := by
  cases hparse : Annotation.parse source with
  | error fault =>
      rw [annotationProblems_of_error hparse, annotationProblems_of_error hparse]
  | ok rules =>
      rw [annotationProblems_of_subset hmore hparse, annotationProblems_of_ok hparse]
      apply List.Sublist.filterMap
      exact List.filter_sublist

theorem annotationProblems_append_names
    (names : List Text)
    (hnames : ∀ name ∈ names, name ∈ RuleName.builtin ∨ name = [] ∨ name = RuleName.each ∨
      ∀ rules, Annotation.parse source = .ok rules →
        ∀ invocation ∈ rules.invocations, invocation.name ≠ name) :
    annotationProblems (names ++ custom) source = annotationProblems custom source := by
  apply annotationProblems_congr
  intro rules hparse invocation hmem hempty hbuiltin
  have hnot : invocation.name ∉ names := by
    intro hname
    rcases hnames _ hname with hknown | hnil | heach | habsent
    · exact hbuiltin hknown
    · exact hempty hnil
    · have hwellFormed := Annotation.wellFormed_of_parse hparse invocation hmem
      exact hwellFormed.name_ne_each heach
    · exact habsent rules hparse invocation hmem rfl
  rw [List.mem_append, or_iff_right hnot]

/-- With more names the problems are those that remain without the uses of the names that become
known, each of which was reported as unknown.  Other names make no difference: which names are
known matters only for those in the annotation that are neither empty nor known by default. -/
theorem annotationProblems_more_names (source : Text) :
    (∀ custom more : List Text, (∀ name ∈ custom, name ∈ more) →
      (annotationProblems more source).Sublist (annotationProblems custom source) ∧
      ∀ rules, Annotation.parse source = .ok rules →
        annotationProblems custom source =
          rules.invocations.filterMap (Invocation.problem? custom) ∧
        annotationProblems more source =
          (rules.invocations.filter fun invocation => ¬invocation.Learned custom more).filterMap
            (Invocation.problem? custom) ∧
        ∀ invocation ∈ rules.invocations, invocation.Learned custom more ↔
          invocation.name ∈ more ∧ invocation.name ∉ custom ∧
            ∃ message, invocation.problem? custom = some message ∧
              SaysUnknown invocation.name message) ∧
    (∀ custom other : List Text,
      (∀ rules, Annotation.parse source = .ok rules → ∀ invocation ∈ rules.invocations,
        invocation.name ≠ [] → invocation.name ∉ RuleName.builtin →
        (invocation.name ∈ custom ↔ invocation.name ∈ other)) →
      annotationProblems custom source = annotationProblems other source) ∧
    ∀ custom names : List Text,
      (∀ name ∈ names, name ∈ RuleName.builtin ∨ name = [] ∨ name = RuleName.each ∨
        ∀ rules, Annotation.parse source = .ok rules →
          ∀ invocation ∈ rules.invocations, invocation.name ≠ name) →
      annotationProblems (names ++ custom) source = annotationProblems custom source := by
  refine ⟨?_, ?_, ?_⟩
  · intro custom more hmore
    refine ⟨sublist_annotationProblems hmore, ?_⟩
    intro rules hparse
    refine ⟨annotationProblems_of_ok hparse, annotationProblems_of_subset hmore hparse, ?_⟩
    intro invocation hmem
    have hwellFormed := Annotation.wellFormed_of_parse hparse invocation hmem
    exact Invocation.learned_iff_saysUnknown hwellFormed.mark_not_mem
  · intro custom other hagree
    exact annotationProblems_congr hagree
  · intro custom names hnames
    exact annotationProblems_append_names names hnames

/-- A name that is used twice, a slip that is registered after all, and a bound that stays wrong. -/
theorem annotationProblems_more_names_nested :
    let source : Text := "sku, each={min=x, each={sku=1}, size}, each:{a}, ".toList
    let custom : List Text := ["size".toList]
    let more : List Text := ["each:{a}".toList, "sku".toList, "size".toList]
    let names : List Text := ["min".toList, [], "each".toList, "a".toList]
    annotationProblems custom source =
        ["unknown validator ".toList ++ Text.quoted "sku".toList,
          "min expects integer parameter, got ".toList ++ Text.quoted "x".toList,
          "unknown validator ".toList ++ Text.quoted "sku".toList,
          "invalid syntax ".toList ++ Text.quoted "each:{a}".toList
            ++ " - did you mean \"each={a}\"?".toList] ∧
      annotationProblems more source =
        ["min expects integer parameter, got ".toList ++ Text.quoted "x".toList] ∧
      annotationProblems (names ++ custom) source = annotationProblems custom source ∧
      annotationProblems ["sku".toList, "size".toList] source =
        annotationProblems ["size".toList, "sku".toList, "min".toList] source := by
  intro source custom more names
  have hparse : Annotation.parse source = .ok ⟨[.invoke ⟨"sku".toList, none⟩,
      .each [.invoke ⟨"min".toList, some "x".toList⟩,
        .each [.invoke ⟨"sku".toList, some "1".toList⟩], .invoke ⟨"size".toList, none⟩],
      .invoke ⟨"each:{a}".toList, none⟩]⟩ := by
    apply Annotation.parse_eq_ok_iff.mpr
    rw [← Directive.iterate_readSegments 3]
    rfl
  have hmore : ∀ name ∈ custom, name ∈ more := by decide
  obtain ⟨hfewer, hagree, hothers⟩ := annotationProblems_more_names source
  obtain ⟨_, hreads⟩ := hfewer custom more hmore
  obtain ⟨hcustom, hlearned, _⟩ := hreads _ hparse
  refine ⟨hcustom, ?_, ?_, ?_⟩
  · rw [hlearned]
    rfl
  · apply hothers
    intro name hname
    have hcases : name ∈ RuleName.builtin ∨ name = [] ∨ name = RuleName.each ∨ name = "a".toList := by
      revert name
      decide
    rcases hcases with hbuiltin | hnil | heach | hsame
    · exact .inl hbuiltin
    · exact .inr (.inl hnil)
    · exact .inr (.inr (.inl heach))
    · refine .inr (.inr (.inr ?_))
      intro rules hread
      rw [hparse, Except.ok.injEq] at hread
      rw [← hread, hsame]
      decide
  · apply hagree
    intro rules hread
    rw [hparse, Except.ok.injEq] at hread
    rw [← hread]
    decide

end FieldRules
