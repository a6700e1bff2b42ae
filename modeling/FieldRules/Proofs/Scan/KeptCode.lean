import FieldRules.Proofs.Scan.TestCode

/-!
# Nothing else goes with test code

When test code is taken out of an outline, all that stands outside of it is kept: the
same nodes in the same order and nesting, each as it was.  What is kept moves to
another place only because test code in front of it is gone.  So taking test code out
once more changes nothing, and no struct and no call outside of test code escapes the
analysis.
-/

namespace FieldRules

open Source (Attribute Node Outline StructDecl withoutTestsAll)

namespace Source

namespace Node

/-- The node by itself, without what is in it. -/
def shell : Node → Node
  | .item kind attributes _ => .item kind attributes []
  | .member kind attributes _ => .member kind attributes []
  | .methodCall method _ _ => .methodCall method [] []
  | .string value => .string value
  | .code _ => .code []

/-- Nothing on the way from the node to a place in it is test code, and neither is what stands
there. -/
def keeps (node : Node) : List Nat → Bool
  | [] => true
  | position :: rest =>
    node.parts[position]?.any fun part => !part.isTest && part.keeps rest

/-- Where a place moves to when test code is taken out: of the nodes in front of it, at each step,
those count that are not test code. -/
def keptPlace (node : Node) : List Nat → List Nat
  | [] => []
  | position :: rest =>
    ((node.parts.take position).countP fun part => !part.isTest) ::
      (node.parts[position]?.map fun part => part.keptPlace rest).getD []

/-! ## Single nodes -/

@[simp] theorem shell_withoutTests (node : Node) : node.withoutTests.shell = node.shell := by
  cases node <;> rfl

@[simp] theorem isTest_withoutTests (node : Node) : node.withoutTests.isTest = node.isTest := by
  cases node with
  | member kind attributes parts => cases kind <;> rfl
  | _ => rfl

@[simp] theorem struct?_withoutTests (node : Node) : node.withoutTests.struct? = node.struct? := by
  cases node with
  | item kind attributes parts => cases kind <;> rfl
  | _ => rfl

theorem methodCall?_withoutTests (node : Node) :
    node.withoutTests.methodCall? =
      node.methodCall?.map fun call => ⟨call.method, withoutTestsAll call.arguments⟩ := by
  cases node <;> rfl

variable {node part : Node} {position : Nat}

theorem keeps_cons (hpart : node.parts[position]? = some part) (rest : List Nat) :
    node.keeps (position :: rest) = (!part.isTest && part.keeps rest) := by
  rw [keeps, hpart, Option.any_some]

theorem keptPlace_cons (hpart : node.parts[position]? = some part) (rest : List Nat) :
    node.keptPlace (position :: rest) =
      ((node.parts.take position).countP fun part => !part.isTest) :: part.keptPlace rest := by
  rw [keptPlace, hpart, Option.map_some, Option.getD_some]

/-! ## Places -/

/-- The nodes of a node without test code are the kept ones, in the same order. -/
def KeepsPlaces (node : Node) : Prop :=
  node.withoutTests.places =
    (node.places.filter fun entry => node.keeps entry.1).map fun entry =>
      (node.keptPlace entry.1, entry.2.withoutTests)

theorem placesFrom_withoutTests
    {before later : List Node} (hparts : node.parts = before ++ later)
    (hlater : ∀ part ∈ later, part.KeepsPlaces) :
    placesFrom (before.countP fun part => !part.isTest)
        ((later.filter fun part => !part.isTest).map withoutTests) =
      ((placesFrom before.length later).filter fun entry => node.keeps entry.1).map fun entry =>
        (node.keptPlace entry.1, entry.2.withoutTests) := by
  induction later generalizing before with
  | nil => rfl
  | cons part rest ih =>
      have hpart : node.parts[before.length]? = some part := by
        rw [hparts, List.getElem?_append_right (Nat.le_refl _), Nat.sub_self]
        rfl
      have htake : node.parts.take before.length = before := by
        rw [hparts, List.take_left]
      have hnext : node.parts = (before ++ [part]) ++ rest := by
        rw [hparts, List.append_assoc, List.singleton_append]
      have hrest := ih hnext fun other hother => hlater other (List.mem_cons_of_mem part hother)
      rw [List.countP_append, List.countP_singleton, List.length_append,
        List.length_singleton] at hrest
      have hinner (inner : List Nat) : node.keeps (before.length :: inner) =
          (!part.isTest && part.keeps inner) := keeps_cons hpart inner
      have hmoved (inner : List Nat) : node.keptPlace (before.length :: inner) =
          (before.countP fun part => !part.isTest) :: part.keptPlace inner := by
        rw [keptPlace_cons hpart inner, htake]
      rw [placesFrom, List.filter_append, List.map_append, ← hrest, List.filter_map, List.map_map]
      simp only [Function.comp_def, hinner, hmoved]
      cases htest : part.isTest with
      | true => simp [htest]
      | false =>
          have hkeeps := hlater part List.mem_cons_self
          rw [KeepsPlaces] at hkeeps
          simp [htest, placesFrom, hkeeps, Function.comp_def]

theorem keepsPlaces (node : Node) : node.KeepsPlaces := by
  induction node using Node.of_parts with
  | step node ih =>
      have hparts : node.parts = [] ++ node.parts := rfl
      have hinside := placesFrom_withoutTests hparts ih
      rw [KeepsPlaces, places_eq, places_eq, parts_withoutTests, List.filter_cons_of_pos rfl,
        List.map_cons]
      exact congrArg _ hinside

/-- A place is kept exactly if no node on the way to it is test code. -/
theorem keeps_eq_true_iff
    {place : List Nat} {found : Node} (hat : node.at? place = some found) :
    node.keeps place = true ↔
      ∀ outer around, outer ≠ [] → outer <+: place → node.at? outer = some around →
        around.isTest = false := by
  induction place generalizing node with
  | nil =>
      refine iff_of_true rfl ?_
      intro outer around hne hprefix
      exact absurd (List.prefix_nil.mp hprefix) hne
  | cons position rest ih =>
      obtain ⟨part, hpart, hrest⟩ := Option.bind_eq_some_iff.mp hat
      have hstep (outer : List Nat) : node.at? (position :: outer) = part.at? outer := by
        rw [at?, hpart, Option.bind_some]
      rw [keeps_cons hpart, Bool.and_eq_true, Bool.not_eq_true', ih hrest]
      constructor
      · rintro ⟨htest, hinside⟩ outer around hne hprefix houter
        cases outer with
        | nil => contradiction
        | cons first inner =>
            obtain ⟨rfl, hinner⟩ := List.cons_prefix_cons.mp hprefix
            rw [hstep] at houter
            cases inner with
            | nil =>
                obtain rfl := Option.some.inj houter
                exact htest
            | cons second inner => exact hinside _ around (List.cons_ne_nil _ _) hinner houter
      · intro hway
        refine ⟨hway [position] part (List.cons_ne_nil _ _) (by simp) (hstep []), ?_⟩
        intro outer around _ hprefix houter
        rw [← hstep] at houter
        exact hway _ around (List.cons_ne_nil _ _) (List.cons_prefix_cons.mpr ⟨rfl, hprefix⟩) houter

theorem leaves_of_keeps
    {place : List Nat} {found : Node} (hat : node.at? place = some found)
    (hkeeps : node.keeps place = true) : node.Leaves found := by
  induction place generalizing node with
  | nil =>
      obtain rfl := Option.some.inj hat
      exact .here node
  | cons position rest ih =>
      obtain ⟨part, hpart, hrest⟩ := Option.bind_eq_some_iff.mp hat
      rw [keeps_cons hpart, Bool.and_eq_true, Bool.not_eq_true'] at hkeeps
      exact .inside (List.mem_of_getElem? hpart) hkeeps.1 (ih hrest hkeeps.2)

/-! ## Once more -/

mutual

theorem withoutTests_withoutTests :
    ∀ node : Node, node.withoutTests.withoutTests = node.withoutTests
  | .item kind attributes parts => by
      rw [withoutTests, withoutTests, withoutTestsAll_withoutTestsAll parts]
  | .member kind attributes parts => by
      rw [withoutTests, withoutTests, withoutTestsAll_withoutTestsAll parts]
  | .methodCall method receiver arguments => by
      rw [withoutTests, withoutTests, withoutTestsAll_withoutTestsAll receiver,
        withoutTestsAll_withoutTestsAll arguments]
  | .string value => rfl
  | .code parts => by
      rw [withoutTests, withoutTests, withoutTestsAll_withoutTestsAll parts]

theorem withoutTestsAll_withoutTestsAll :
    ∀ nodes : List Node, withoutTestsAll (withoutTestsAll nodes) = withoutTestsAll nodes
  | [] => rfl
  | node :: rest => by
      cases htest : node.isTest with
      | true =>
          rw [withoutTestsAll, htest, if_pos rfl, withoutTestsAll_withoutTestsAll rest]
      | false =>
          rw [withoutTestsAll, htest, if_neg Bool.false_ne_true, withoutTestsAll,
            isTest_withoutTests, htest, if_neg Bool.false_ne_true, withoutTests_withoutTests node,
            withoutTestsAll_withoutTestsAll rest]

end

end Node

/-! ## Outlines -/

namespace Outline

/-- All nodes of the outline with their places, in the order in which they begin. -/
def places (outline : Outline) : List (List Nat × Node) := (Node.code outline.nodes).places

def keeps (outline : Outline) (place : List Nat) : Bool := (Node.code outline.nodes).keeps place

def keptPlace (outline : Outline) (place : List Nat) : List Nat :=
  (Node.code outline.nodes).keptPlace place

/-- What stands at the place is test code, or something around it is. -/
def InTestCode (outline : Outline) (place : List Nat) : Prop :=
  ∃ outer around, outer <+: place ∧ outline.at? outer = some around ∧ around.isTest = true

variable {outline : Outline}

theorem withoutTests_withoutTests (outline : Outline) :
    outline.withoutTests.withoutTests = outline.withoutTests :=
  congrArg mk (Node.withoutTestsAll_withoutTestsAll outline.nodes)

theorem places_withoutTests (outline : Outline) :
    outline.withoutTests.places =
      (outline.places.filter fun entry => outline.keeps entry.1).map fun entry =>
        (outline.keptPlace entry.1, entry.2.withoutTests) :=
  (Node.code outline.nodes).keepsPlaces

theorem keeps_eq_true_iff
    {place : List Nat} {found : Node} (hat : outline.at? place = some found) :
    outline.keeps place = true ↔ ¬outline.InTestCode place := by
  rw [keeps, Node.keeps_eq_true_iff hat]
  constructor
  · rintro hway ⟨outer, around, hprefix, houter, htest⟩
    cases outer with
    | nil =>
        obtain rfl := Option.some.inj houter
        contradiction
    | cons first inner =>
        rw [hway _ around (List.cons_ne_nil _ _) hprefix houter] at htest
        contradiction
  · intro hnot outer around _ hprefix houter
    rw [← Bool.not_eq_true]
    intro htest
    exact hnot ⟨outer, around, hprefix, houter, htest⟩

theorem leaves_of_not_inTestCode
    {place : List Nat} {found : Node} (hat : outline.at? place = some found)
    (hnot : ¬outline.InTestCode place) : outline.Leaves found :=
  Node.leaves_of_keeps hat ((keeps_eq_true_iff hat).mpr hnot)

theorem structs_withoutTests (outline : Outline) :
    outline.withoutTests.structs =
      (outline.places.filter fun entry => outline.keeps entry.1).filterMap fun entry =>
        entry.2.struct? := by
  rw [structs_eq_filterMap, ← places, places_withoutTests, List.filterMap_map]
  simp only [Function.comp_def, Node.struct?_withoutTests]

theorem methodCalls_withoutTests (outline : Outline) :
    outline.withoutTests.methodCalls =
      (outline.places.filter fun entry => outline.keeps entry.1).filterMap fun entry =>
        entry.2.methodCall?.map fun call => ⟨call.method, withoutTestsAll call.arguments⟩ := by
  rw [methodCalls_eq_filterMap, ← places, places_withoutTests, List.filterMap_map]
  simp only [Function.comp_def, Node.methodCall?_withoutTests]

end Outline
end Source

/-! ## Reports -/

section Reports

variable {config : ScanConfig} {files : List ParsedFile} {file : ParsedFile} {place : List Nat}

theorem mem_diagnostics_of_not_inTestCode
    {decl : StructDecl} {attributes : List Attribute} {parts : List Node}
    (hfile : file ∈ files)
    (hat : file.outline.at? place = some (.item (.struct decl) attributes parts))
    (hnot : ¬file.outline.InTestCode place) {diagnostic : Diagnostic}
    (hfound : diagnostic ∈ structDiagnostics config
      (customNames config (files.map ParsedFile.withoutTests)) file.path decl) :
    diagnostic ∈ (Report.ofFiles config (files.map ParsedFile.withoutTests)).diagnostics := by
  have hleaves := Outline.leaves_of_not_inTestCode hat hnot
  exact mem_diagnostics_withoutTests_iff.mpr
    ⟨file, hfile, decl, attributes, parts, hleaves, hfound⟩

/-- A name that is registered outside of test code stays registered: a literal is no test code, so
it is still the first argument. -/
theorem mem_customNames_of_not_inTestCode
    {method name : Text} {receiver rest : List Node}
    (hfile : file ∈ files)
    (hat : file.outline.at? place = some (.methodCall method receiver (.string name :: rest)))
    (hnot : ¬file.outline.InTestCode place) (hmethod : method ∈ config.registerMethods) :
    name ∈ customNames config (files.map ParsedFile.withoutTests) := by
  have hleaves := Outline.leaves_of_not_inTestCode hat hnot
  exact mem_customNames_withoutTests_iff.mpr
    ⟨file, hfile, method, hmethod, receiver, _, withoutTestsAll rest, hleaves, rfl⟩

end Reports

/-- Taking test code out of an outline takes out what is in test code and nothing else.  The other
nodes stay in their order, each with all that it is made of by itself, and nothing more is taken out
by doing so again.  The analysis sees all structs and method calls among these nodes, in their order:
it reports what is wrong with the fields of such a struct, and knows the names that such calls
register. -/
theorem Report.ofFiles_withoutTests_keeps (config : ScanConfig) (files : List ParsedFile) :
    let report := ofFiles config (files.map ParsedFile.withoutTests)
    (∀ outline : Outline,
      let kept := outline.places.filter fun entry => outline.keeps entry.1
      (∀ place found, outline.at? place = some found →
        (outline.keeps place = true ↔ ¬outline.InTestCode place)) ∧
      outline.withoutTests.places =
        kept.map (fun entry => (outline.keptPlace entry.1, entry.2.withoutTests)) ∧
      outline.withoutTests.structs = kept.filterMap (fun entry => entry.2.struct?) ∧
      outline.withoutTests.methodCalls = kept.filterMap (fun entry =>
        entry.2.methodCall?.map fun call => ⟨call.method, withoutTestsAll call.arguments⟩) ∧
      outline.withoutTests.withoutTests = outline.withoutTests) ∧
    (∀ node : Node, node.withoutTests.shell = node.shell) ∧
    (∀ file ∈ files, ∀ place decl attributes parts,
      file.outline.at? place = some (.item (.struct decl) attributes parts) →
      ¬file.outline.InTestCode place →
      ∀ diagnostic ∈ structDiagnostics config report.customValidators file.path decl,
        diagnostic ∈ report.diagnostics) ∧
    ∀ file ∈ files, ∀ place method receiver name rest,
      file.outline.at? place = some (.methodCall method receiver (.string name :: rest)) →
      ¬file.outline.InTestCode place → method ∈ config.registerMethods →
      name ∈ report.customValidators := by
  intro report
  refine ⟨?_, Node.shell_withoutTests, ?_, ?_⟩
  · intro outline kept
    exact ⟨fun _ _ => Outline.keeps_eq_true_iff, outline.places_withoutTests,
      outline.structs_withoutTests, outline.methodCalls_withoutTests,
      outline.withoutTests_withoutTests⟩
  · intro file hfile place decl attributes parts hat hnot diagnostic hfound
    exact mem_diagnostics_of_not_inTestCode hfile hat hnot hfound
  · intro file hfile place method receiver name rest hat hnot hmethod
    exact mem_customNames_of_not_inTestCode hfile hat hnot hmethod

/-- A method with a call and a struct, between a module, another method and a function for tests. -/
theorem Report.ofFiles_withoutTests_keeps_nested :
    let marked : Attribute := ⟨some "cfg".toList, .list [],
      some (.all [.option "unix".toList, .option "test".toList])⟩
    let decl (name : Text) : StructDecl :=
      ⟨name, [], [⟨some "id".toList, [⟨some "tag".toList, .none, none⟩], ⟨7, 3⟩⟩]⟩
    let kept : Node := .item (.struct (decl "Kept".toList)) [] []
    let gone (kind : Source.ItemKind) : Node :=
      .item kind [marked] [.item (.struct (decl "Gone".toList)) [] []]
    let call : Node :=
      .methodCall "register".toList [.code []] [.string "sku".toList, .code [gone .other]]
    let body : List Node := [gone .other, call, gone .other, kept]
    let outline : Outline := ⟨[gone .module, .item .implementation []
      [.member .method [marked] body, .member .associated [marked] [], .member .method [] body]]⟩
    let file : ParsedFile := ⟨⟨"lib.rs".toList⟩, outline⟩
    let report := ofFiles .standard [file.withoutTests]
    outline.withoutTests.structs.map StructDecl.name = ["Kept".toList] ∧
      outline.withoutTests.at? (outline.keptPlace [1, 2, 3]) = some kept ∧
      outline.keptPlace [1, 2, 3] = [0, 1, 1] ∧
      "sku".toList ∈ report.customValidators ∧
      ∃ diagnostic ∈ report.diagnostics, diagnostic.record = "Kept".toList ∧
        diagnostic.line = 7 ∧ diagnostic.column = 3 := by
  intro marked decl kept gone call body outline file report
  obtain ⟨houtline, -, hstructs, hcalls⟩ := ofFiles_withoutTests_keeps .standard [file]
  have hstruct : outline.at? [1, 2, 3] = some kept := rfl
  have hcall : outline.at? [1, 2, 1] = some call := rfl
  have hfile : file ∈ [file] := List.mem_singleton_self file
  obtain ⟨hkeeps, -, hall, -, -⟩ := houtline outline
  have hfound (custom : List Text) :
      ∃ diagnostic ∈ structDiagnostics .standard custom file.path (decl "Kept".toList),
        diagnostic.record = "Kept".toList ∧ diagnostic.line = 7 ∧ diagnostic.column = 3 :=
    ⟨_, List.mem_singleton_self _, rfl, rfl, rfl⟩
  refine ⟨?_, rfl, by decide, ?_, ?_⟩
  · rw [hall]
    decide
  · exact hcalls file hfile _ _ _ _ _ hcall ((hkeeps _ _ hcall).mp rfl) List.mem_cons_self
  · obtain ⟨diagnostic, hmem, hplace⟩ := hfound report.customValidators
    have hnot := (hkeeps _ _ hstruct).mp rfl
    exact ⟨diagnostic, hstructs file hfile _ _ _ _ hstruct hnot diagnostic hmem, hplace⟩

end FieldRules
