import FieldRules.Proofs.Scan.DiagnosticOrder
import FieldRules.Proofs.Scan.Findings
import FieldRules.Scan.Package

/-!
# What is left without test code

A node is left if neither it nor any node around it is test code.  This says exactly
which structs and which method calls are looked at.  Marks for tests are obeyed at
items and at methods of implementations only: what is marked for tests elsewhere,
in a trait for instance, is left, and a call inside it registers a rule.
-/

namespace FieldRules

open Source (Attribute MemberKind Node Outline StructDecl marksTest withoutTestsAll)

namespace Source

namespace Node

def attributes : Node → List Attribute
  | .item _ attributes _ => attributes
  | .member _ attributes _ => attributes
  | _ => []

/-- The second node stands in the first one, or is the same, and nothing on the way from the first
one to it is test code. -/
inductive Leaves : Node → Node → Prop where
  | here (node : Node) : Leaves node node
  | inside {outer part inner : Node} (hpart : part ∈ outer.parts) (htest : part.isTest = false)
      (h : Leaves part inner) : Leaves outer inner

end Node

theorem withoutTestsAll_eq (nodes : List Node) :
    withoutTestsAll nodes = (nodes.filter fun node => !node.isTest).map Node.withoutTests := by
  induction nodes with
  | nil => rfl
  | cons node rest ih =>
      cases htest : node.isTest <;> simp [withoutTestsAll, htest, ih]

namespace Node

@[simp] theorem attributes_withoutTests (node : Node) :
    node.withoutTests.attributes = node.attributes := by
  cases node <;> rfl

theorem parts_withoutTests (node : Node) :
    node.withoutTests.parts =
      (node.parts.filter fun part => !part.isTest).map withoutTests := by
  cases node <;> simp [withoutTests, parts, withoutTestsAll_eq]

theorem mem_parts_withoutTests_iff {node found : Node} :
    found ∈ node.withoutTests.parts ↔
      ∃ part ∈ node.parts, part.isTest = false ∧ part.withoutTests = found := by
  simp [parts_withoutTests, and_assoc]

/-- The nodes without tests are those that are left, each without the tests inside it.  Each step of
a place goes to a part without tests, which comes from a part that is no test. -/
theorem exists_at?_withoutTests_iff (node : Node) {found : Node} :
    (∃ place, node.withoutTests.at? place = some found) ↔
      ∃ inner, node.Leaves inner ∧ inner.withoutTests = found := by
  constructor
  · rintro ⟨place, hat⟩
    induction place generalizing node with
    | nil => exact ⟨node, .here node, Option.some.inj hat⟩
    | cons position rest ih =>
        obtain ⟨next, hnext, hrest⟩ := Option.bind_eq_some_iff.mp hat
        have hmem := List.mem_of_getElem? hnext
        obtain ⟨part, hpart, htest, rfl⟩ := mem_parts_withoutTests_iff.mp hmem
        obtain ⟨inner, hleaves, hinner⟩ := ih part hrest
        exact ⟨inner, .inside hpart htest hleaves, hinner⟩
  · rintro ⟨inner, hleaves, rfl⟩
    induction hleaves with
    | here node => exact ⟨[], rfl⟩
    | inside hpart htest _ ih =>
        obtain ⟨place, hat⟩ := ih
        have hmem := mem_parts_withoutTests_iff.mpr ⟨_, hpart, htest, rfl⟩
        obtain ⟨position, hposition⟩ := List.getElem?_of_mem hmem
        exact ⟨position :: place, by rw [at?, hposition, Option.bind_some, hat]⟩

/-- Only the outermost of the nodes that are left can be test code. -/
theorem Leaves.eq_or_not_isTest {outer inner : Node} (h : outer.Leaves inner) :
    inner = outer ∨ inner.isTest = false := by
  induction h with
  | here node => exact .inl rfl
  | inside _ htest _ ih =>
      rcases ih with rfl | hinner
      · exact .inr htest
      · exact .inr hinner

theorem isTest_of_marks {node : Node} (hmarks : marksTest node.attributes = true) :
    node.isTest = true ∨
      ∃ kind attributes parts, node = .member kind attributes parts ∧ kind ≠ .method := by
  cases node with
  | item kind attributes parts => exact .inl hmarks
  | member kind attributes parts =>
      cases kind with
      | method => exact .inl hmarks
      | _ => exact .inr ⟨_, attributes, parts, rfl, by simp⟩
  | _ => contradiction

end Node

/-- What is left in a source file, at any depth. -/
def Outline.Leaves (outline : Outline) (node : Node) : Prop :=
  (Node.code outline.nodes).Leaves node

namespace Outline

variable {outline : Outline}

theorem exists_at?_withoutTests_iff {found : Node} :
    (∃ place, outline.withoutTests.at? place = some found) ↔
      ∃ inner, outline.Leaves inner ∧ inner.withoutTests = found :=
  Node.exists_at?_withoutTests_iff (.code outline.nodes)

/-- What is marked for tests and left all the same is a member, and no method. -/
theorem marked_withoutTests_iff {found : Node} :
    ((∃ place, outline.withoutTests.at? place = some found) ∧
        marksTest found.attributes = true) ↔
      ∃ kind attributes parts, outline.Leaves (.member kind attributes parts) ∧
        (Node.member kind attributes parts).withoutTests = found ∧
        kind ≠ .method ∧ marksTest attributes = true := by
  constructor
  · rintro ⟨hat, hmarks⟩
    obtain ⟨inner, hleaves, rfl⟩ := exists_at?_withoutTests_iff.mp hat
    rw [Node.attributes_withoutTests] at hmarks
    have hkept : inner.isTest = false := by
      rcases hleaves.eq_or_not_isTest with rfl | htest
      · rfl
      · exact htest
    rcases Node.isTest_of_marks hmarks with htest | ⟨kind, attributes, parts, rfl, hkind⟩
    · rw [hkept] at htest
      contradiction
    · exact ⟨kind, attributes, parts, hleaves, rfl, hkind, hmarks⟩
  · rintro ⟨kind, attributes, parts, hleaves, rfl, _, hmarks⟩
    exact ⟨exists_at?_withoutTests_iff.mpr ⟨_, hleaves, rfl⟩, hmarks⟩

theorem mem_structs_withoutTests_iff {decl : StructDecl} :
    decl ∈ outline.withoutTests.structs ↔
      ∃ attributes parts, outline.Leaves (.item (.struct decl) attributes parts) := by
  have hplaces : decl ∈ outline.withoutTests.structs ↔
      ∃ place attributes parts,
        outline.withoutTests.at? place = some (.item (.struct decl) attributes parts) := by
    rw [← map_snd_structPlaces, List.mem_map]
    constructor
    · rintro ⟨⟨place, _⟩, hmem, rfl⟩
      exact ⟨place, ((structPlaces_enumerate _).mem_iff place _).mp hmem⟩
    · rintro ⟨place, hat⟩
      exact ⟨(place, decl), ((structPlaces_enumerate _).mem_iff place decl).mpr hat, rfl⟩
  rw [hplaces]
  constructor
  · rintro ⟨place, attributes, parts, hat⟩
    obtain ⟨inner, hleaves, hinner⟩ := exists_at?_withoutTests_iff.mp ⟨place, hat⟩
    cases inner with
    | item kind attributes parts =>
        cases hinner
        exact ⟨attributes, parts, hleaves⟩
    | _ => contradiction
  · rintro ⟨attributes, parts, hleaves⟩
    obtain ⟨place, hat⟩ := exists_at?_withoutTests_iff.mpr ⟨_, hleaves, rfl⟩
    exact ⟨place, attributes, withoutTestsAll parts, hat⟩

theorem exists_methodCall_withoutTests_iff {method : Text} {first : Node} :
    (∃ place receiver rest,
        outline.withoutTests.at? place = some (.methodCall method receiver (first :: rest))) ↔
      ∃ receiver arguments rest, outline.Leaves (.methodCall method receiver arguments) ∧
        withoutTestsAll arguments = first :: rest := by
  constructor
  · rintro ⟨place, receiver, rest, hat⟩
    obtain ⟨inner, hleaves, hinner⟩ := exists_at?_withoutTests_iff.mp ⟨place, hat⟩
    cases inner with
    | methodCall name receiver arguments =>
        obtain ⟨rfl, _, harguments⟩ := Node.methodCall.inj hinner
        exact ⟨receiver, arguments, rest, hleaves, harguments⟩
    | _ => contradiction
  · rintro ⟨receiver, arguments, rest, hleaves, harguments⟩
    obtain ⟨place, hat⟩ := exists_at?_withoutTests_iff.mpr ⟨_, hleaves, rfl⟩
    rw [Node.withoutTests, harguments] at hat
    exact ⟨place, withoutTestsAll receiver, rest, hat⟩

end Outline

end Source

def ParsedFile.withoutTests (file : ParsedFile) : ParsedFile :=
  ⟨file.path, file.outline.withoutTests⟩

theorem mem_customNames_withoutTests_iff
    {config : ScanConfig} {files : List ParsedFile} {name : Text} :
    name ∈ customNames config (files.map ParsedFile.withoutTests) ↔
      ∃ file ∈ files, ∃ method ∈ config.registerMethods, ∃ receiver arguments rest,
        file.outline.Leaves (.methodCall method receiver arguments) ∧
          withoutTestsAll arguments = .string name :: rest := by
  rw [mem_customNames_iff]
  constructor
  · rintro @⟨_, place, method, receiver, rest, hfile, hcall, hmethod⟩
    obtain ⟨file, hmem, rfl⟩ := List.mem_map.mp hfile
    exact ⟨file, hmem, method, hmethod,
      Outline.exists_methodCall_withoutTests_iff.mp ⟨place, receiver, rest, hcall⟩⟩
  · rintro ⟨file, hmem, method, hmethod, hleaves⟩
    obtain ⟨place, receiver, rest, hcall⟩ :=
      Outline.exists_methodCall_withoutTests_iff.mpr hleaves
    exact .intro (List.mem_map_of_mem hmem) hcall hmethod

theorem mem_diagnostics_withoutTests_iff
    {config : ScanConfig} {files : List ParsedFile} {diagnostic : Diagnostic} :
    diagnostic ∈ (Report.ofFiles config (files.map ParsedFile.withoutTests)).diagnostics ↔
      ∃ file ∈ files, ∃ decl attributes parts,
        file.outline.Leaves (.item (.struct decl) attributes parts) ∧
          diagnostic ∈ structDiagnostics config
            (customNames config (files.map ParsedFile.withoutTests)) file.path decl := by
  rw [Report.mem_diagnostics_iff]
  constructor
  · rintro ⟨_, hfile, decl, hdecl, hfound⟩
    obtain ⟨file, hmem, rfl⟩ := List.mem_map.mp hfile
    obtain ⟨attributes, parts, hleaves⟩ := Outline.mem_structs_withoutTests_iff.mp hdecl
    exact ⟨file, hmem, decl, attributes, parts, hleaves, hfound⟩
  · rintro ⟨file, hmem, decl, attributes, parts, hleaves, hfound⟩
    have hdecl := Outline.mem_structs_withoutTests_iff.mpr ⟨attributes, parts, hleaves⟩
    exact ⟨_, List.mem_map_of_mem hmem, decl, hdecl, hfound⟩

/-- After tests have been taken out, what is marked for tests is a member other than a method, and
it is there exactly if nothing around it was taken out.  Diagnostics and names come from the structs
and the calls that are left, each of them. -/
theorem Report.ofFiles_withoutTests_exact (config : ScanConfig) (files : List ParsedFile) :
    let report := ofFiles config (files.map ParsedFile.withoutTests)
    (∀ (outline : Outline) found,
      ((∃ place, outline.withoutTests.at? place = some found) ∧
          marksTest found.attributes = true) ↔
        ∃ kind attributes parts, outline.Leaves (.member kind attributes parts) ∧
          (Node.member kind attributes parts).withoutTests = found ∧
          kind ≠ .method ∧ marksTest attributes = true) ∧
      (∀ name, name ∈ report.customValidators ↔
        ∃ file ∈ files, ∃ method ∈ config.registerMethods, ∃ receiver arguments rest,
          file.outline.Leaves (.methodCall method receiver arguments) ∧
            withoutTestsAll arguments = .string name :: rest) ∧
      ∀ diagnostic, diagnostic ∈ report.diagnostics ↔
        ∃ file ∈ files, ∃ decl attributes parts,
          file.outline.Leaves (.item (.struct decl) attributes parts) ∧
            diagnostic ∈ structDiagnostics config report.customValidators file.path decl :=
  ⟨fun _ _ => Outline.marked_withoutTests_iff, fun _ => mem_customNames_withoutTests_iff,
    fun _ => mem_diagnostics_withoutTests_iff⟩

/-- A method of a trait is marked for tests and registers a rule all the same. -/
theorem Report.ofSource_marked_method :
    let path : FilePath := ⟨"lib.rs".toList⟩
    let fake := "#[cfg(test)] fn fake(v: &mut V) \x7b v.register(\"ghost\", f); \x7d"
    let source := ("trait Setup \x7b " ++ fake ++ " \x7d\n"
      ++ "struct S \x7b #[tag(\"ghost\")] a: u8 \x7d").toList
    ∃ outline report, Outline.parse source = .ok outline ∧
      Report.ofSource .standard path source = .ok report ∧
      (∃ place found, outline.withoutTests.at? place = some found ∧
        marksTest found.attributes = true) ∧
      "ghost".toList ∈ report.customValidators := by
  intro path fake source
  have hread : (Outline.parse source).toOption.map (fun outline =>
      ((outline.withoutTests.at? [0, 0]).any fun found => marksTest found.attributes,
        registrations .standard outline.withoutTests)) = some (true, ["ghost".toList]) := by
    decide +kernel
  cases hparse : Outline.parse source with
  | error position =>
      rw [hparse] at hread
      contradiction
  | ok outline =>
      rw [hparse] at hread
      obtain ⟨hmarked, hnames⟩ := Prod.mk.inj (Option.some.inj hread)
      obtain ⟨found, hat, hmarks⟩ := (Option.any_eq_true _ _).mp hmarked
      have hreport : Report.ofSource .standard path source =
          .ok (Report.ofFiles .standard [⟨path, outline.withoutTests⟩]) := by
        rw [Report.ofSource, ParsedFile.ofText, hparse]
      refine ⟨outline, _, rfl, hreport, ⟨_, found, hat, hmarks⟩, ?_⟩
      apply Text.mem_nameSet.mpr
      rw [List.flatMap_singleton, hnames]
      exact List.mem_singleton_self _

end FieldRules
