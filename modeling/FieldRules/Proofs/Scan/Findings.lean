import FieldRules.Proofs.Scan.DiagnosticOrder
import FieldRules.Proofs.Source.Places
import FieldRules.Proofs.Text.Trimming
import FieldRules.Scan.Analysis

/-!
# What a report consists of

A finding says where a diagnostic comes from: which file, which struct in it at
whatever depth, which field, which attribute, and which of the messages about that
attribute.  The main statement is that a report has one diagnostic for each finding
and no other, in the order of diagnostics.
-/

namespace FieldRules

open Source (Attribute FieldDecl Node Outline StructDecl)

/-- The origin of a diagnostic, by positions. -/
structure Finding where
  file : Nat
  place : List Nat
  field : Nat
  attr : Nat
  message : Nat

/-- The name of a field is what its identifier says, and otherwise its position. -/
inductive FieldLabel (field : FieldDecl) (position : Nat) : Text → Prop where
  | raw {name : Text} (hname : field.name = some ('r' :: '#' :: name)) :
      FieldLabel field position name
  | plain {name : Text} (hname : field.name = some name) (hraw : ¬['r', '#'] <+: name) :
      FieldLabel field position name
  | tuple (hname : field.name = none) : FieldLabel field position (Text.ofNat position)

/-- The annotation that an attribute stands for, and one of the messages about it. -/
inductive AttributeMessage (config : ScanConfig) (custom : List Text) (attr : Attribute) :
    Nat → Text → Text → Prop where
  | literal {source message : Text} {position : Nat}
      (hliteral : attr.literal? = some source)
      (hmessage : (annotationProblems custom source)[position]? = some message) :
      AttributeMessage config custom attr position source message
  | other (hliteral : attr.literal? = none) :
      AttributeMessage config custom attr 0 attr.argumentText
        ('`' :: config.attributeName ++ "` attribute expects a single string literal".toList)

/-- The diagnostic is the one about the finding. -/
inductive FoundAt (config : ScanConfig) (custom : List Text) (files : List ParsedFile)
    (finding : Finding) (diagnostic : Diagnostic) : Prop where
  | intro {file : ParsedFile} {decl : StructDecl} {attributes : List Attribute}
      {parts : List Node} {field : FieldDecl} {attr : Attribute}
      (hfile : files[finding.file]? = some file)
      (hstruct : file.outline.at? finding.place =
        some (.item (.struct decl) attributes parts))
      (hfield : decl.fields[finding.field]? = some field)
      (hattr : field.attributes[finding.attr]? = some attr)
      (hname : attr.name = some config.attributeName)
      (hmessage : AttributeMessage config custom attr finding.message
        diagnostic.annotation diagnostic.message)
      (hpath : diagnostic.file = file.path)
      (hrecord : diagnostic.record = decl.name)
      (hlabel : FieldLabel field finding.field diagnostic.field)
      (hline : diagnostic.line = field.position.line)
      (hcolumn : diagnostic.column = field.position.column) :
      FoundAt config custom files finding diagnostic

/-- The name is that of the first argument of a registering call, which may stand anywhere in the
files. -/
inductive Registered (config : ScanConfig) (files : List ParsedFile) (name : Text) : Prop where
  | intro {file : ParsedFile} {place : List Nat} {method : Text} {receiver rest : List Node}
      (hfile : file ∈ files)
      (hcall : file.outline.at? place = some (.methodCall method receiver (.string name :: rest)))
      (hmethod : method ∈ config.registerMethods) :
      Registered config files name

/-! ## Names that are registered -/

theorem Source.MethodCall.firstLiteral?_eq_some_iff {call : Source.MethodCall} {name : Text} :
    call.firstLiteral? = some name ↔ ∃ rest, call.arguments = .string name :: rest := by
  unfold firstLiteral?
  split
  · next value rest harguments =>
      rw [harguments]
      simp
  · next hother =>
      constructor
      · intro hnone
        contradiction
      · rintro ⟨rest, harguments⟩
        exact absurd harguments (hother name rest)

theorem mem_customNames_iff
    {config : ScanConfig} {files : List ParsedFile} {name : Text} :
    name ∈ customNames config files ↔ Registered config files name := by
  rw [customNames, Text.mem_nameSet, List.mem_flatMap]
  constructor
  · rintro ⟨file, hfile, hname⟩
    obtain ⟨call, hcall, hliteral⟩ := List.mem_filterMap.mp hname
    obtain ⟨hmem, hmethod⟩ := List.mem_filter.mp hcall
    obtain ⟨place, receiver, hat⟩ := Outline.mem_methodCalls_iff.mp hmem
    obtain ⟨rest, harguments⟩ := Source.MethodCall.firstLiteral?_eq_some_iff.mp hliteral
    rw [harguments] at hat
    exact .intro hfile hat (by simpa [ScanConfig.isRegisterMethod] using hmethod)
  · rintro @⟨file, place, method, receiver, rest, hfile, hcall, hmethod⟩
    have hmem : ⟨method, .string name :: rest⟩ ∈ file.outline.methodCalls :=
      Outline.mem_methodCalls_iff.mpr ⟨place, receiver, hcall⟩
    refine ⟨file, hfile, List.mem_filterMap.mpr ⟨⟨method, .string name :: rest⟩, ?_, rfl⟩⟩
    exact List.mem_filter.mpr ⟨hmem, by simpa [ScanConfig.isRegisterMethod] using hmethod⟩

/-! ## Labels and messages -/

theorem fieldLabel_iff {field : FieldDecl} {position : Nat} {label : Text} :
    FieldLabel field position label ↔ field.label position = label := by
  have hmark {name rest : Text} :
      Text.dropStart? ['r', '#'] name = some rest ↔ name = 'r' :: '#' :: rest :=
    Text.dropStart?_eq_some_iff
  unfold FieldDecl.label
  constructor
  · rintro (hraw | ⟨hplain, hnot⟩ | htuple)
    · simp [hraw, Source.plainName, hmark.mpr rfl]
    · cases hdrop : Text.dropStart? ['r', '#'] label with
      | none => simp [hplain, Source.plainName, hdrop]
      | some rest => exact absurd ⟨rest, (hmark.mp hdrop).symm⟩ hnot
    · rw [htuple]
  · intro hlabel
    cases hname : field.name with
    | none =>
        rw [hname] at hlabel
        rw [← hlabel]
        exact .tuple hname
    | some name =>
        simp only [hname, Source.plainName] at hlabel
        cases hdrop : Text.dropStart? ['r', '#'] name with
        | some rest =>
            rw [hdrop, Option.getD_some] at hlabel
            rw [hmark.mp hdrop, hlabel] at hname
            exact .raw hname
        | none =>
            rw [hdrop, Option.getD_none] at hlabel
            rw [hlabel] at hname hdrop
            refine .plain hname ?_
            rintro ⟨rest, hrest⟩
            rw [hmark.mpr hrest.symm] at hdrop
            contradiction

theorem attributeMessage_iff
    {config : ScanConfig} {custom : List Text} {attr : Attribute}
    {position : Nat} {source message : Text} :
    AttributeMessage config custom attr position source message ↔
      (attributeProblems config custom attr).1 = source ∧
        (attributeProblems config custom attr).2[position]? = some message := by
  unfold attributeProblems
  cases hliteral : attr.literal? with
  | some source =>
      constructor
      · rintro (⟨hsome, hmessage⟩ | hnone)
        · rw [hliteral, Option.some.injEq] at hsome
          subst hsome
          exact ⟨rfl, hmessage⟩
        · rw [hliteral] at hnone
          contradiction
      · rintro ⟨rfl, hmessage⟩
        exact .literal hliteral hmessage
  | none =>
      constructor
      · rintro (⟨hsome, _⟩ | _)
        · rw [hliteral] at hsome
          contradiction
        · exact ⟨rfl, rfl⟩
      · rintro ⟨rfl, hmessage⟩
        obtain ⟨rfl, rfl⟩ : position = 0 ∧ _ = message := by
          simpa [List.getElem?_singleton] using hmessage
        exact .other hliteral

/-! ## Walking through the files -/

section Walking

variable (config : ScanConfig) (custom : List Text)

/-- The diagnostics of a scan with their origins, in the order in which the files are read. -/
def originsOf (files : List ParsedFile) :
    List ((Nat × List Nat × Nat × Nat × Nat) × Diagnostic) :=
  nest (byPosition files) fun _ file =>
    nest file.outline.structPlaces fun _ decl =>
      nest (byPosition decl.fields) fun index field =>
        nest ((byPosition field.attributes).filter fun entry =>
            entry.2.name = some config.attributeName) fun _ attr =>
          (byPosition (attributeProblems config custom attr).2).map fun entry =>
            (entry.1, {
              file := file.path
              line := field.position.line
              column := field.position.column
              record := decl.name
              field := field.label index
              annotation := (attributeProblems config custom attr).1
              message := entry.2 })

theorem map_snd_originsOf (files : List ParsedFile) :
    (originsOf config custom files).map Prod.snd =
      files.flatMap (fileDiagnostics config custom) := by
  have hattributes (field : FieldDecl) :
      ((byPosition field.attributes).filter fun entry =>
          entry.2.name = some config.attributeName).map Prod.snd =
        annotationAttributes config field := by
    rw [map_snd_filter _ fun attr : Attribute => attr.name = some config.attributeName,
      map_snd_byPosition, annotationAttributes]
  rw [originsOf, map_snd_nest_of (fileDiagnostics config custom), map_snd_byPosition]
  intro _ file
  rw [map_snd_nest_of (structDiagnostics config custom file.path), Outline.map_snd_structPlaces]
  · rfl
  · intro _ decl
    rw [map_snd_nest, byPosition, List.flatMap_map, structDiagnostics]
    refine congrArg (fun inside => List.flatMap inside decl.fields.zipIdx) (funext ?_)
    rintro ⟨field, index⟩
    rw [fieldDiagnostics, ← hattributes]
    refine map_snd_nest_of _ ?_ _
    intro _ attr
    rw [map_snd_map, map_snd_byPosition]
    rfl

theorem originsOf_enumerate (files : List ParsedFile) :
    Enumerates (originsOf config custom files) fun key diagnostic =>
      FoundAt config custom files ⟨key.1, key.2.1, key.2.2.1, key.2.2.2.1, key.2.2.2.2⟩
        diagnostic := by
  have hall := (Enumerates.positions files).nest fun _ file =>
    file.outline.structPlaces_enumerate.nest fun _ decl =>
      (Enumerates.positions decl.fields).nest fun index field =>
        ((Enumerates.positions field.attributes).filter fun attr =>
            attr.name = some config.attributeName).nest fun _ attr =>
          (Enumerates.positions (attributeProblems config custom attr).2).map fun message =>
            ({
              file := file.path
              line := field.position.line
              column := field.position.column
              record := decl.name
              field := field.label index
              annotation := (attributeProblems config custom attr).1
              message } : Diagnostic)
  refine hall.congr ?_
  rintro ⟨fileIndex, place, fieldIndex, attrIndex, messageIndex⟩ diagnostic
  constructor
  · rintro ⟨file, hfile, decl, ⟨attributes, parts, hstruct⟩, field, hfield, attr,
      ⟨hattr, hname⟩, message, hmessage, rfl⟩
    exact .intro hfile hstruct hfield hattr (of_decide_eq_true hname)
      (attributeMessage_iff.mpr ⟨rfl, hmessage⟩) rfl rfl (fieldLabel_iff.mpr rfl) rfl rfl
  · rintro @⟨file, decl, attributes, parts, field, attr, hfile, hstruct, hfield, hattr, hname,
      hmessage, hpath, hrecord, hlabel, hline, hcolumn⟩
    obtain ⟨hsource, hat⟩ := attributeMessage_iff.mp hmessage
    refine ⟨file, hfile, decl, ⟨attributes, parts, hstruct⟩, field, hfield, attr,
      ⟨hattr, decide_eq_true hname⟩, diagnostic.message, hat, ?_⟩
    rw [fieldLabel_iff.mp hlabel, hsource, ← hpath, ← hrecord, ← hline, ← hcolumn]

end Walking

/-! ## The report -/

theorem Report.mem_diagnostics_iff
    {config : ScanConfig} {files : List ParsedFile} {diagnostic : Diagnostic} :
    diagnostic ∈ (ofFiles config files).diagnostics ↔
      ∃ file ∈ files, ∃ decl ∈ file.outline.structs,
        diagnostic ∈ structDiagnostics config (customNames config files) file.path decl := by
  have hsort := Diagnostic.sort_perm
    (files.flatMap (fileDiagnostics config (customNames config files)))
  rw [ofFiles, hsort.mem_iff]
  simp only [List.mem_flatMap, fileDiagnostics]

/-- A report has one diagnostic for each finding, and these are in order; it lists the names that
are registered in any of the files. -/
theorem Report.ofFiles_exact (config : ScanConfig) (files : List ParsedFile) :
    let report := Report.ofFiles config files
    (∃ findings : List (Finding × Diagnostic),
      Enumerates findings (FoundAt config report.customValidators files) ∧
        report.diagnostics.Perm (findings.map Prod.snd)) ∧
      report.diagnostics.Pairwise Diagnostic.NotAfter ∧
      report.filesScanned = files.length ∧
      Text.Ascending report.customValidators ∧
      ∀ name, name ∈ report.customValidators ↔ Registered config files name := by
  intro report
  let origin (key : Nat × List Nat × Nat × Nat × Nat) : Finding :=
    ⟨key.1, key.2.1, key.2.2.1, key.2.2.2.1, key.2.2.2.2⟩
  have horigin : Function.Injective origin := by
    rintro ⟨_, _, _, _, _⟩ ⟨_, _, _, _, _⟩ heq
    cases heq
    rfl
  let custom := customNames config files
  have hfindings := (originsOf_enumerate config custom files).mapKey horigin
  refine ⟨⟨_, hfindings.congr ?_, ?_⟩, Diagnostic.sort_sorted _, rfl,
    Text.nameSet_ascending _, fun _ => mem_customNames_iff⟩
  · intro finding diagnostic
    constructor
    · rintro ⟨key, rfl, hfound⟩
      exact hfound
    · intro hfound
      exact ⟨(finding.file, finding.place, finding.field, finding.attr, finding.message), rfl,
        hfound⟩
  · have hsnd : ((originsOf config custom files).map fun entry =>
          (origin entry.1, entry.2)).map Prod.snd =
        files.flatMap (fileDiagnostics config custom) := by
      rw [← map_snd_originsOf, List.map_map]
      rfl
    rw [hsnd]
    exact Diagnostic.sort_perm _

end FieldRules
