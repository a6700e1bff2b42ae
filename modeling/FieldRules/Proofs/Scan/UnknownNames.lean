import FieldRules.Proofs.Scan.Problems
import FieldRules.Proofs.Text.Quoting
import FieldRules.Scan.Analysis
import Mathlib.Data.List.Basic

/-!
# Names that are not known

A name that nothing is registered under is reported by a message of its own, from
which the name can be read off.  Registering more names takes away the messages
about these names, and leaves all others in place.
-/

namespace FieldRules

open Source (Attribute FieldDecl StructDecl)

/-- The message says that the name is not known. -/
inductive SaysUnknown (name message : Text) : Prop where
  | unknown (hmessage : message = "unknown validator ".toList ++ name.quoted) :
      SaysUnknown name message
  | colon {param : Option Text} {rest : Text} (hmark : '=' ∉ name)
      (hrender : Invocation.render ⟨name, param⟩ = "each:".toList ++ rest)
      (hmessage : message = "invalid syntax ".toList ++ (Invocation.render ⟨name, param⟩).quoted
        ++ " - did you mean \"each=".toList ++ rest ++ "\"?".toList) :
      SaysUnknown name message

/-! ## What a message tells -/

theorem Invocation.name_eq_of_render_eq
    {first second : Invocation} (hfirst : '=' ∉ first.name) (hsecond : '=' ∉ second.name)
    (heq : first.render = second.render) : first.name = second.name := by
  obtain ⟨name, param⟩ := first
  obtain ⟨other, value⟩ := second
  cases param with
  | none =>
      cases value with
      | none => exact heq
      | some value =>
          have hmem : '=' ∈ name := by
            rw [show name = _ from heq]
            simp [render]
          exact absurd hmem hfirst
  | some param =>
      cases value with
      | none =>
          have hmem : '=' ∈ other := by
            rw [show other = _ from heq.symm]
            simp [render]
          exact absurd hmem hsecond
      | some value => exact (Text.mark_append_inj hfirst hsecond heq).1

theorem SaysUnknown.take_three
    {name message : Text} (h : SaysUnknown name message) :
    message.take 3 = "unk".toList ∨ message.take 3 = "inv".toList := by
  cases h with
  | unknown hmessage =>
      rw [hmessage]
      exact .inl rfl
  | colon _ _ hmessage =>
      rw [hmessage]
      exact .inr rfl

theorem not_saysUnknown_of_take
    {name message : Text} (hunknown : message.take 3 ≠ "unk".toList)
    (hinvalid : message.take 3 ≠ "inv".toList) : ¬SaysUnknown name message := by
  intro h
  cases h.take_three with
  | inl htake => exact hunknown htake
  | inr htake => exact hinvalid htake

theorem not_saysUnknown_append
    {name front : Text} (hlength : 3 ≤ front.length) (hunknown : front.take 3 ≠ "unk".toList)
    (hinvalid : front.take 3 ≠ "inv".toList) (rest : Text) : ¬SaysUnknown name (front ++ rest) := by
  have htake : (front ++ rest).take 3 = front.take 3 := List.take_append_of_le_length hlength
  apply not_saysUnknown_of_take
  · rwa [htake]
  · rwa [htake]

/-- A message is about one name only. -/
theorem SaysUnknown.unique
    {first second message : Text}
    (hfirst : SaysUnknown first message) (hsecond : SaysUnknown second message) :
    first = second := by
  cases hfirst with
  | unknown hmessage =>
      cases hsecond with
      | unknown hother =>
          rw [hmessage] at hother
          have hquoted := List.append_cancel_left hother
          rw [← List.append_nil first.quoted, ← List.append_nil second.quoted] at hquoted
          exact (Text.quoted_append_inj hquoted).1
      | colon _ _ hother =>
          have hthree : "unk".toList = "inv".toList :=
            congrArg (List.take 3) (hmessage.symm.trans hother)
          exact absurd hthree (by decide)
  | colon hmark _ hmessage =>
      cases hsecond with
      | unknown hother =>
          have hthree : "inv".toList = "unk".toList :=
            congrArg (List.take 3) (hmessage.symm.trans hother)
          exact absurd hthree (by decide)
      | colon hotherMark _ hother =>
          rw [hmessage] at hother
          simp only [List.append_assoc, List.append_cancel_left_eq] at hother
          have hrender := (Text.quoted_append_inj hother).1
          exact Invocation.name_eq_of_render_eq hmark hotherMark hrender

theorem Invocation.saysUnknown_unknownMessage
    {invocation : Invocation} (hmark : '=' ∉ invocation.name) :
    SaysUnknown invocation.name invocation.unknownMessage := by
  unfold unknownMessage
  cases hdrop : Text.dropStart? "each:".toList invocation.render with
  | none => exact .unknown rfl
  | some rest => exact .colon hmark (Text.dropStart?_eq_some_iff.mp hdrop) rfl

/-! ## Where these messages come from -/

namespace Invocation

variable {invocation : Invocation} {custom : List Text}

theorem not_saysUnknown_of_useProblem?
    {name message : Text} (hmessage : invocation.useProblem? = some message) :
    ¬SaysUnknown name message := by
  have hfronts : ∀ front ∈ RuleName.bounds, 3 ≤ front.length ∧
      front.take 3 ≠ "unk".toList ∧ front.take 3 ≠ "inv".toList := by decide
  unfold useProblem? at hmessage
  split_ifs at hmessage with hbound hrequired
  · obtain ⟨hlength, hunknown, hinvalid⟩ := hfronts invocation.name (by simpa using hbound)
    obtain ⟨rest, rfl⟩ := boundProblem?_front hmessage
    exact not_saysUnknown_append hlength hunknown hinvalid rest
  · rw [← Option.some.inj hmessage]
    exact not_saysUnknown_of_take (by decide) (by decide)

/-- Nothing but an unknown name is reported as unknown. -/
theorem unknown_of_saysUnknown
    {name message : Text} (hproblem : invocation.problem? custom = some message)
    (habout : SaysUnknown name message) : invocation.Unknown custom := by
  by_cases hempty : invocation.name = []
  · rw [problem?_of_empty hempty, Option.some.injEq] at hproblem
    rw [← hproblem] at habout
    exact absurd habout (not_saysUnknown_of_take (by decide) (by decide))
  · rcases unknown_or_known custom hempty with hunknown | hknown
    · exact hunknown
    · rw [problem?_of_known hempty hknown] at hproblem
      exact absurd habout (not_saysUnknown_of_useProblem? hproblem)

/-! ## More names -/

variable {other more : List Text}

/-- Nothing is known under the name, but something is once there are more names. -/
structure Learned (custom more : List Text) (invocation : Invocation) : Prop where
  unknown : invocation.Unknown custom
  mem_more : invocation.name ∈ more

/-- What is wrong with an invocation depends on the known names only as far as its own name is
unknown. -/
theorem problem?_congr (h : invocation.Unknown custom ↔ invocation.Unknown other) :
    invocation.problem? custom = invocation.problem? other := by
  by_cases hempty : invocation.name = []
  · rw [problem?_of_empty hempty, problem?_of_empty hempty]
  · cases unknown_or_known custom hempty with
    | inl hunknown => rw [problem?_of_unknown hunknown, problem?_of_unknown (h.mp hunknown)]
    | inr hknown =>
        cases unknown_or_known other hempty with
        | inl hunknown => rw [problem?_of_unknown hunknown, problem?_of_unknown (h.mpr hunknown)]
        | inr hother => rw [problem?_of_known hempty hknown, problem?_of_known hempty hother]

/-- A name that becomes known is not known by default, so nothing else is asked of its use. -/
theorem problem?_of_learned (h : invocation.Learned custom more) :
    invocation.problem? more = none := by
  rw [problem?_of_known h.unknown.name_ne_nil (.inr h.mem_more),
    useProblem?_of_not_builtin h.unknown.not_builtin]

theorem problem?_of_not_learned
    (hmore : ∀ name ∈ custom, name ∈ more) (h : ¬invocation.Learned custom more) :
    invocation.problem? more = invocation.problem? custom := by
  apply problem?_congr
  constructor
  · intro hunknown
    refine ⟨hunknown.name_ne_nil, hunknown.not_builtin, ?_⟩
    intro hmem
    exact hunknown.not_custom (hmore _ hmem)
  · intro hunknown
    refine ⟨hunknown.name_ne_nil, hunknown.not_builtin, ?_⟩
    intro hmem
    exact h ⟨hunknown, hmem⟩

end Invocation

/-! ## The messages that stay -/

/-- Exactly the messages stay that are not about one of the names that are new. -/
def StaysUnlessNew (custom more : List Text) (stays : Text → Bool) : Prop :=
  ∀ message, stays message = false ↔
    ∃ name, SaysUnknown name message ∧ name ∈ more ∧ name ∉ custom

namespace StaysUnlessNew

variable {custom more : List Text} {stays : Text → Bool}

theorem of_not_saysUnknown
    (hstays : StaysUnlessNew custom more stays) {message : Text}
    (hother : ∀ name, ¬SaysUnknown name message) : stays message = true := by
  rw [← Bool.not_eq_false, hstays]
  intro hgone
  obtain ⟨name, habout, _⟩ := hgone
  exact hother name habout

/-- The problem of an invocation is taken away if its name is new, and stays otherwise. -/
theorem filter_problem?
    (hstays : StaysUnlessNew custom more stays) (hmore : ∀ name ∈ custom, name ∈ more)
    {invocation : Invocation} (hmark : '=' ∉ invocation.name) :
    (invocation.problem? custom).filter stays = invocation.problem? more := by
  have hown := Invocation.saysUnknown_unknownMessage hmark
  by_cases hlearned : invocation.Learned custom more
  · have hgone : stays invocation.unknownMessage = false := by
      apply (hstays _).mpr
      exact ⟨invocation.name, hown, hlearned.mem_more, hlearned.unknown.not_custom⟩
    rw [Invocation.problem?_of_unknown hlearned.unknown, Invocation.problem?_of_learned hlearned,
      Option.filter_some_neg (by simp [hgone])]
  · rw [Invocation.problem?_of_not_learned hmore hlearned]
    cases hproblem : invocation.problem? custom with
    | none => rfl
    | some message =>
        have hstay : stays message = true := by
          rw [← Bool.not_eq_false, hstays]
          intro hgone
          obtain ⟨name, habout, hmem, _⟩ := hgone
          have hunknown := Invocation.unknown_of_saysUnknown hproblem habout
          rw [Invocation.problem?_of_unknown hunknown, Option.some.injEq] at hproblem
          rw [← hproblem] at habout
          rw [← hown.unique habout] at hmem
          exact hlearned ⟨hunknown, hmem⟩
        rw [Option.filter_some_pos hstay]

/-! ## What is wrong with annotations -/

theorem filter_annotationProblems
    (hstays : StaysUnlessNew custom more stays) (hmore : ∀ name ∈ custom, name ∈ more)
    (source : Text) :
    (annotationProblems custom source).filter stays = annotationProblems more source := by
  cases hparse : Annotation.parse source with
  | error fault =>
      have hstay : stays fault.message = true := by
        apply hstays.of_not_saysUnknown
        intro name
        cases fault with
        | unclosedBraces text => exact not_saysUnknown_append (by decide) (by decide) (by decide) _
        | unopenedBraces text => exact not_saysUnknown_append (by decide) (by decide) (by decide) _
      rw [annotationProblems_of_error hparse, annotationProblems_of_error hparse,
        List.filter_cons_of_pos hstay, List.filter_nil]
  | ok rules =>
      rw [annotationProblems_of_ok hparse, annotationProblems_of_ok hparse,
        List.filter_filterMap]
      apply List.filterMap_congr
      intro invocation hmem
      have hinvocation := Annotation.wellFormed_of_parse hparse invocation hmem
      exact hstays.filter_problem? hmore hinvocation.mark_not_mem

/-! ## What is reported about files -/

variable (config : ScanConfig)

theorem filter_attributeProblems
    (hstays : StaysUnlessNew custom more stays) (hmore : ∀ name ∈ custom, name ∈ more)
    (attr : Attribute) :
    (attributeProblems config custom attr).1 = (attributeProblems config more attr).1 ∧
      (attributeProblems config custom attr).2.filter stays =
        (attributeProblems config more attr).2 := by
  unfold attributeProblems
  cases attr.literal? with
  | some source => exact ⟨rfl, hstays.filter_annotationProblems hmore source⟩
  | none =>
      have hstay (rest : Text) : stays ('`' :: rest) = true := by
        apply hstays.of_not_saysUnknown
        intro name
        apply not_saysUnknown_of_take
        · intro heq
          exact absurd (List.cons.inj heq).1 (by decide)
        · intro heq
          exact absurd (List.cons.inj heq).1 (by decide)
      exact ⟨rfl, List.filter_cons_of_pos (hstay _)⟩

theorem filter_fieldDiagnostics
    (hstays : StaysUnlessNew custom more stays) (hmore : ∀ name ∈ custom, name ∈ more)
    (path : FilePath) (record : Text) (field : FieldDecl) (index : Nat) :
    (fieldDiagnostics config custom path record field index).filter
        (fun diagnostic => stays diagnostic.message) =
      fieldDiagnostics config more path record field index := by
  unfold fieldDiagnostics
  rw [List.filter_flatMap]
  refine congrArg (fun inside => List.flatMap inside (annotationAttributes config field))
    (funext fun attr => ?_)
  obtain ⟨hsource, hmessages⟩ := hstays.filter_attributeProblems config hmore attr
  simp only [List.filter_map, hsource, ← hmessages]
  rfl

theorem filter_fileDiagnostics
    (hstays : StaysUnlessNew custom more stays) (hmore : ∀ name ∈ custom, name ∈ more)
    (file : ParsedFile) :
    (fileDiagnostics config custom file).filter (fun diagnostic => stays diagnostic.message) =
      fileDiagnostics config more file := by
  unfold fileDiagnostics structDiagnostics
  simp only [List.filter_flatMap, hstays.filter_fieldDiagnostics config hmore]

end StaysUnlessNew

end FieldRules
