import FieldRules.CommandLine
import FieldRules.Proofs.Scan.Findings
import FieldRules.Proofs.Scan.PackageReports
import FieldRules.Proofs.Scan.Problems
import FieldRules.Proofs.Scan.UnknownNames
import FieldRules.Proofs.Text.LineBreaks
import FieldRules.Scan.BuildCheck

/-!
# How many lines a scan writes

Nearly all of what messages repeat of an annotation is quoted, and breaks no line.
The exception is the advice to write `each=` for `each:`, which repeats the rest of
the slip as it stands.  A line break in such a rest gets into the message, from
there into the diagnostic, and from there into what is written, where it makes two
lines of one.  The statements count line breaks, so they say exactly when there is
one line for each diagnostic.
-/

namespace FieldRules

open Text (breaks)

/-! ## Messages -/

namespace Invocation

variable {invocation : Invocation} {custom : List Text} {message : Text}

/-- What the advice about an unknown name repeats as it stands, which is nothing if the name is no
slip. -/
def repeated (invocation : Invocation) : Text :=
  (Text.dropStart? "each:".toList invocation.render).getD []

theorem breaks_unknownMessage : breaks invocation.unknownMessage = breaks invocation.repeated := by
  have hunknown : breaks "unknown validator ".toList = 0 := by decide
  have hinvalid : breaks "invalid syntax ".toList = 0 := by decide
  have hadvice : breaks " - did you mean \"each=".toList = 0 := by decide
  have hend : breaks "\"?".toList = 0 := by decide
  unfold unknownMessage repeated
  cases Text.dropStart? "each:".toList invocation.render with
  | none => simp only [Text.breaks_append, Text.breaks_quoted, hunknown, Option.getD_none,
      Text.breaks_nil]
  | some rest => simp only [Text.breaks_append, Text.breaks_quoted, hinvalid, hadvice, hend,
      Option.getD_some, Nat.zero_add, Nat.add_zero]

theorem breaks_boundProblem?
    (hbound : invocation.name ∈ RuleName.bounds)
    (hmessage : invocation.boundProblem? = some message) : breaks message = 0 := by
  have hname : breaks invocation.name = 0 := by
    have hnames : ∀ name ∈ RuleName.bounds, breaks name = 0 := by decide
    exact hnames _ hbound
  have hnone : breaks " expects integer parameter, got none".toList = 0 := by decide
  have hsome : breaks " expects integer parameter, got ".toList = 0 := by decide
  rcases boundProblem?_eq_some_iff.mp hmessage with ⟨_, rfl⟩ | ⟨param, _, _, _, rfl⟩
  · rw [Text.breaks_append, hname, hnone]
  · rw [Text.breaks_append, Text.breaks_append, hname, hsome, Text.breaks_quoted]

theorem breaks_useProblem?
    (hmessage : invocation.useProblem? = some message) : breaks message = 0 := by
  unfold useProblem? at hmessage
  split_ifs at hmessage with hbound hrequired
  · exact breaks_boundProblem? (by simpa using hbound) hmessage
  · rw [← Option.some.inj hmessage]
    decide

/-- A slip begins with `each:`, so it is neither empty nor a rule that is built in. -/
theorem repeated_eq_nil (hknown : invocation.name = [] ∨ invocation.name ∈ RuleName.builtin) :
    invocation.repeated = [] := by
  have hnone : Text.dropStart? "each:".toList invocation.render = none := by
    cases hdrop : Text.dropStart? "each:".toList invocation.render with
    | none => rfl
    | some rest =>
        have hrender := Text.dropStart?_eq_some_iff.mp hdrop
        obtain ⟨behind, hslip, _⟩ := (render_eq_append_iff mark_not_mem_slip).mp hrender
        have hbuiltin : ∀ name ∈ RuleName.builtin, name.head? ≠ some 'e' := by decide
        cases hknown with
        | inl hempty =>
            rw [hempty] at hslip
            contradiction
        | inr hmem =>
            have hhead : invocation.name.head? = some 'e' := by
              rw [hslip]
              rfl
            exact absurd hhead (hbuiltin _ hmem)
  rw [repeated, hnone]
  rfl

/-- A message has the line breaks of what it repeats as it stands. -/
theorem breaks_problem? (hmessage : invocation.problem? custom = some message) :
    breaks message = if invocation.name ∈ custom then 0 else breaks invocation.repeated := by
  by_cases hempty : invocation.name = []
  · rw [problem?_of_empty hempty] at hmessage
    rw [← Option.some.inj hmessage, repeated_eq_nil (.inl hempty), Text.breaks_nil, ite_self]
    decide
  · rcases unknown_or_known custom hempty with hunknown | hknown
    · rw [problem?_of_unknown hunknown] at hmessage
      rw [← Option.some.inj hmessage, breaks_unknownMessage, if_neg hunknown.not_custom]
    · rw [problem?_of_known hempty hknown] at hmessage
      rw [breaks_useProblem? hmessage]
      rcases hknown with hbuiltin | hcustom
      · rw [repeated_eq_nil (.inr hbuiltin), Text.breaks_nil, ite_self]
      · rw [if_pos hcustom]

/-- There is something to say about a slip that no rule is registered under. -/
theorem exists_problem?_of_repeated
    (hcustom : invocation.name ∉ custom) (hrepeated : invocation.repeated ≠ []) :
    ∃ message, invocation.problem? custom = some message := by
  have hempty : invocation.name ≠ [] := fun hempty =>
    hrepeated (repeated_eq_nil (.inl hempty))
  have hbuiltin : invocation.name ∉ RuleName.builtin := fun hbuiltin =>
    hrepeated (repeated_eq_nil (.inr hbuiltin))
  exact ⟨_, problem?_of_unknown ⟨hempty, hbuiltin, hcustom⟩⟩

end Invocation

/-- The annotation has a slip, `each:` where `each=` is meant, under whose name no rule is
registered and which goes on over a line break. -/
def HasBrokenSlip (custom : List Text) (source : Text) : Prop :=
  ∃ rules invocation, Annotation.parse source = .ok rules ∧
    rules.Uses invocation ∧ invocation.name ∉ custom ∧
    ∃ rest, invocation.render = "each:".toList ++ rest ∧ breaks rest ≠ 0

theorem Invocation.breaks_repeated_ne_zero_iff {invocation : Invocation} :
    breaks invocation.repeated ≠ 0 ↔
      ∃ rest, invocation.render = "each:".toList ++ rest ∧ breaks rest ≠ 0 := by
  unfold repeated
  constructor
  · intro hbreaks
    cases hdrop : Text.dropStart? "each:".toList invocation.render with
    | none =>
        rw [hdrop] at hbreaks
        exact absurd rfl hbreaks
    | some rest =>
        rw [hdrop] at hbreaks
        exact ⟨rest, Text.dropStart?_eq_some_iff.mp hdrop, hbreaks⟩
  · rintro ⟨rest, hrender, hbreaks⟩
    rw [Text.dropStart?_eq_some_iff.mpr hrender]
    exact hbreaks

theorem GrammarError.breaks_message (fault : GrammarError) : breaks fault.message = 0 := by
  have hunclosed : breaks "unclosed braces in ".toList = 0 := by decide
  have hunopened : breaks "unopened braces in ".toList = 0 := by decide
  unfold message
  cases fault with
  | unclosedBraces source => rw [Text.breaks_append, hunclosed, Text.breaks_quoted]
  | unopenedBraces source => rw [Text.breaks_append, hunopened, Text.breaks_quoted]

/-- The messages about an annotation break no line unless it has a slip that does. -/
theorem breaks_annotationProblems_iff {custom : List Text} {source : Text} :
    (∀ message ∈ annotationProblems custom source, breaks message = 0) ↔
      ¬HasBrokenSlip custom source := by
  cases hparse : Annotation.parse source with
  | error fault =>
      rw [annotationProblems_of_error hparse]
      refine iff_of_true ?_ ?_
      · simp [fault.breaks_message]
      · rintro ⟨_, _, hok, _⟩
        rw [hparse] at hok
        contradiction
  | ok rules =>
      constructor
      · rintro hlines ⟨_, invocation, hok, huse, hcustom, hslip⟩
        obtain rfl : rules = _ := Except.ok.inj (hparse.symm.trans hok)
        have hbreaks := Invocation.breaks_repeated_ne_zero_iff.mpr hslip
        have hrepeated : invocation.repeated ≠ [] := by
          intro hnil
          rw [hnil] at hbreaks
          exact hbreaks rfl
        obtain ⟨message, hproblem⟩ := invocation.exists_problem?_of_repeated hcustom hrepeated
        have hzero := hlines message
          ((mem_annotationProblems_iff hparse).mpr ⟨invocation, huse, hproblem⟩)
        rw [invocation.breaks_problem? hproblem, if_neg hcustom] at hzero
        exact hbreaks hzero
      · intro hslip message hmem
        obtain ⟨invocation, huse, hproblem⟩ := (mem_annotationProblems_iff hparse).mp hmem
        rw [invocation.breaks_problem? hproblem]
        by_cases hcustom : invocation.name ∈ custom
        · rw [if_pos hcustom]
        · rw [if_neg hcustom]
          by_contra hbreaks
          exact hslip ⟨_, invocation, hparse, huse, hcustom,
            Invocation.breaks_repeated_ne_zero_iff.mp hbreaks⟩

/-! ## Diagnostics -/

theorem Diagnostic.breaks_display (diagnostic : Diagnostic) :
    breaks diagnostic.display = breaks diagnostic.file.text + breaks diagnostic.message := by
  have hcolon : Text.isLineBreak ':' = false := by decide
  have hfield : breaks ": tag error in field ".toList = 0 := by decide
  have hmessage : breaks ": ".toList = 0 := by decide
  have htag : breaks " (tag: ".toList = 0 := by decide
  have hend : breaks ")".toList = 0 := by decide
  simp only [display, Text.breaks_append, Text.breaks_cons, Text.breaks_quoted,
    Text.breaks_ofNat, hcolon, hfield, hmessage, htag, hend]
  simp

/-! ## What is written -/

open CommandLine (unlines)

theorem breaks_unlines (lines : List Text) :
    breaks (unlines lines) = (lines.map fun line => breaks line + 1).sum := by
  have hend : breaks ['\n'] = 1 := by decide
  simp only [unlines, Text.breaks_flatMap, Text.breaks_append, hend]

theorem LineWriter.writeLines_unlimited (written : Text) (lines : List Text) :
    LineWriter.writeLines ⟨none, written⟩ lines = (true, ⟨none, written ++ unlines lines⟩) := by
  induction lines generalizing written with
  | nil => simp [writeLines, unlines]
  | cons line rest ih =>
      rw [writeLines, writeLine]
      simp only [ih, unlines, List.flatMap_cons, List.append_assoc]

theorem unlines_append (lines more : List Text) :
    unlines (lines ++ more) = unlines lines ++ unlines more :=
  List.flatMap_append

namespace BuildCheck

theorem conclude_unlimited (written : Text) (report : Report) :
    conclude ⟨none, written⟩ report =
      ⟨⟨none, written ++ unlines (report.diagnostics.map warningLine)⟩,
        if report.isClean then .ok (some report) else .error (.invalidTags report.errorCount)⟩ := by
  rw [conclude, LineWriter.writeLines_unlimited]
  simp only
  split
  · rfl
  · rfl

/-- A check whose writer never fails. -/
theorem run_unlimited (config : ScanConfig) (root : FilePath) (tree : Option FileTree) :
    run config root tree (.ofCapacity none) =
      if config.skip then ⟨⟨none, unlines [environmentLine]⟩, .ok none⟩
      else
        match Report.ofPackage config root tree with
        | .error fault => ⟨⟨none, unlines [environmentLine, directoryLine root]⟩, .error fault⟩
        | .ok report => conclude ⟨none, unlines [environmentLine, directoryLine root]⟩ report := by
  have henvironment : (LineWriter.ofCapacity none).writeLine environmentLine =
      (true, ⟨none, unlines [environmentLine]⟩) := by
    simp [LineWriter.writeLine, LineWriter.ofCapacity, unlines]
  have hdirectory : LineWriter.writeLine ⟨none, unlines [environmentLine]⟩ (directoryLine root) =
      (true, ⟨none, unlines [environmentLine, directoryLine root]⟩) := by
    simp [LineWriter.writeLine, unlines]
  cases hskip : config.skip with
  | true => simp [run, henvironment, hskip]
  | false =>
      cases hreport : Report.ofPackage config root tree with
      | error fault => simp [run, henvironment, scan, hdirectory, hskip, hreport]
      | ok report => simp [run, henvironment, scan, hdirectory, hskip, hreport]

end BuildCheck

/-- What a check writes that goes on to a report. -/
theorem BuildCheck.written_run
    {config : ScanConfig} {root : FilePath} {tree : Option FileTree} {report : Report}
    (hskip : config.skip = false) (hreport : Report.ofPackage config root tree = .ok report) :
    (run config root tree (.ofCapacity none)).writer.written =
      unlines ([environmentLine, directoryLine root] ++ report.diagnostics.map warningLine) := by
  rw [run_unlimited, hskip, hreport]
  simp only [Bool.false_eq_true, if_false, conclude_unlimited, unlines_append]

theorem BuildCheck.breaks_warningLine (diagnostic : Diagnostic) :
    breaks (warningLine diagnostic) = breaks diagnostic.display := by
  have hfront : breaks "cargo:warning=".toList = 0 := by decide
  unfold warningLine
  rw [Text.breaks_append, hfront, Nat.zero_add]

theorem BuildCheck.breaks_headers (root : FilePath) :
    breaks environmentLine = 0 ∧ breaks (directoryLine root) = breaks root.text := by
  have hfront : breaks "cargo:rerun-if-changed=".toList = 0 := by decide
  refine ⟨by decide, ?_⟩
  unfold directoryLine
  rw [Text.breaks_append, hfront, Nat.zero_add]

/-- The lines that diagnostics take when each of them is written on a line of its own. -/
def linesOf (diagnostics : List Diagnostic) : Nat :=
  (diagnostics.map fun diagnostic => breaks diagnostic.display + 1).sum

theorem breaks_unlines_map
    {line : Diagnostic → Text}
    (hline : ∀ diagnostic, breaks (line diagnostic) = breaks diagnostic.display)
    (diagnostics : List Diagnostic) :
    breaks (unlines (diagnostics.map line)) = linesOf diagnostics := by
  rw [breaks_unlines, List.map_map, linesOf]
  simp only [Function.comp_def, hline]

theorem BuildCheck.breaks_written_run
    {config : ScanConfig} {root : FilePath} {tree : Option FileTree} {report : Report}
    (hskip : config.skip = false) (hreport : Report.ofPackage config root tree = .ok report) :
    breaks (run config root tree (.ofCapacity none)).writer.written =
      2 + breaks root.text + linesOf report.diagnostics := by
  obtain ⟨henvironment, hdirectory⟩ := breaks_headers root
  have hheaders : breaks (unlines [environmentLine, directoryLine root]) = 2 + breaks root.text := by
    rw [breaks_unlines]
    simp only [List.map_cons, List.map_nil, List.sum_cons, List.sum_nil, henvironment, hdirectory]
    omega
  rw [written_run hskip hreport, unlines_append, Text.breaks_append, hheaders,
    breaks_unlines_map breaks_warningLine]

theorem ScanFault.breaks_message_invalidTags (count : Nat) :
    breaks (ScanFault.invalidTags count).message = 0 := by
  have hfront : breaks "found ".toList = 0 := by decide
  have hend : breaks " tag validation errors".toList = 0 := by decide
  unfold message
  simp only [Text.breaks_append, Text.breaks_ofNat, hfront, hend]

theorem CommandLine.breaks_err_scan
    {root : FilePath} {tree : Option FileTree} {report : Report}
    (hreport : Report.ofPackage .standard root tree = .ok report)
    (hclean : report.isClean = false) :
    breaks (CommandLine.scan .text root tree).err = linesOf report.diagnostics + 1 := by
  have herr : (CommandLine.scan .text root tree).err =
      unlines (report.diagnostics.map Diagnostic.display ++
        [(ScanFault.invalidTags report.errorCount).message]) := by
    simp only [scan, hreport, showReport, hclean, Bool.false_eq_true, if_false]
  have hlast : breaks (unlines [(ScanFault.invalidTags report.errorCount).message]) = 1 := by
    rw [breaks_unlines, List.map_singleton, List.sum_singleton,
      ScanFault.breaks_message_invalidTags]
  rw [herr, unlines_append, Text.breaks_append, hlast, breaks_unlines_map fun _ => rfl]

theorem length_le_linesOf (diagnostics : List Diagnostic) :
    diagnostics.length ≤ linesOf diagnostics := by
  induction diagnostics with
  | nil => exact Nat.le_refl 0
  | cons first rest ih =>
      simp only [linesOf, List.map_cons, List.sum_cons, List.length_cons] at ih ⊢
      omega

theorem linesOf_eq_length_iff {diagnostics : List Diagnostic} :
    linesOf diagnostics = diagnostics.length ↔
      ∀ diagnostic ∈ diagnostics, breaks diagnostic.display = 0 := by
  induction diagnostics with
  | nil => simp [linesOf]
  | cons first rest ih =>
      have hrest := length_le_linesOf rest
      have hcons : linesOf (first :: rest) = breaks first.display + 1 + linesOf rest := rfl
      rw [List.forall_mem_cons, hcons, List.length_cons]
      constructor
      · intro hall
        exact ⟨by omega, ih.mp (by omega)⟩
      · rintro ⟨hfirst, hothers⟩
        have hsame := ih.mpr hothers
        omega

/-! ## Which messages break a line -/

theorem breaks_attributeProblems
    {config : ScanConfig} {custom : List Text} {attr : Source.Attribute} {message : Text}
    (hname : breaks config.attributeName = 0)
    (hslip : ¬HasBrokenSlip custom (attributeProblems config custom attr).1)
    (hmem : message ∈ (attributeProblems config custom attr).2) : breaks message = 0 := by
  unfold attributeProblems at hslip hmem
  cases hliteral : attr.literal? with
  | some source =>
      simp only [hliteral] at hslip hmem
      exact breaks_annotationProblems_iff.mpr hslip message hmem
  | none =>
      simp only [hliteral, List.mem_singleton] at hmem
      have hquote : Text.isLineBreak '`' = false := by decide
      have hend : breaks "` attribute expects a single string literal".toList = 0 := by decide
      simp only [hmem, Text.breaks_append, Text.breaks_cons, hname, hquote, hend]
      rfl

theorem Report.breaks_message
    {config : ScanConfig} {files : List ParsedFile} {diagnostic : Diagnostic}
    (hname : breaks config.attributeName = 0)
    (hmem : diagnostic ∈ (ofFiles config files).diagnostics)
    (hslip : ¬HasBrokenSlip (ofFiles config files).customValidators diagnostic.annotation) :
    breaks diagnostic.message = 0 := by
  obtain ⟨_, _, decl, _, hstruct⟩ := mem_diagnostics_iff.mp hmem
  obtain ⟨entry, _, hfield⟩ := List.mem_flatMap.mp hstruct
  obtain ⟨attr, _, hattr⟩ := List.mem_flatMap.mp hfield
  obtain ⟨message, hmessage, rfl⟩ := List.mem_map.mp hattr
  exact breaks_attributeProblems hname hslip hmessage

/-- A check writes two lines of its own and one line for each diagnostic, and so does the command
line with its last line, unless a path or a message breaks the line.  A message does so only for a
slip. -/
theorem BuildCheck.lines_of_run
    {config : ScanConfig} {root : FilePath} {tree : Option FileTree} {report : Report}
    (hskip : config.skip = false) (hname : breaks config.attributeName = 0)
    (hreport : Report.ofPackage config root tree = .ok report) :
    breaks (run config root tree (.ofCapacity none)).writer.written =
        2 + breaks root.text + linesOf report.diagnostics ∧
      (config = .standard → report.isClean = false →
        breaks (CommandLine.scan .text root tree).err = linesOf report.diagnostics + 1) ∧
      (linesOf report.diagnostics = report.diagnostics.length ↔
        ∀ diagnostic ∈ report.diagnostics, breaks diagnostic.display = 0) ∧
      (∀ diagnostic ∈ report.diagnostics,
        breaks diagnostic.display = breaks diagnostic.file.text + breaks diagnostic.message ∧
          (¬HasBrokenSlip report.customValidators diagnostic.annotation →
            breaks diagnostic.message = 0)) ∧
      ∀ custom source, (∀ message ∈ annotationProblems custom source, breaks message = 0) ↔
        ¬HasBrokenSlip custom source := by
  obtain ⟨_, _, files, _, _, _, rfl⟩ := Report.exists_read_of_ofPackage root hreport
  refine ⟨breaks_written_run hskip hreport, ?_, linesOf_eq_length_iff, ?_,
    fun _ _ => breaks_annotationProblems_iff⟩
  · rintro rfl hclean
    exact CommandLine.breaks_err_scan hreport hclean
  · intro diagnostic hmem
    exact ⟨diagnostic.breaks_display, Report.breaks_message hname hmem⟩

/-- A tag without a literal. -/
theorem BuildCheck.lines_of_run_number :
    let root : FilePath := ⟨"shop".toList⟩
    let tree : FileTree := .directory
      [("lib.rs".toList, .file (.ok "struct Order { #[tag(5)] code: u8 }".toList))]
    ∃ report, Report.ofPackage .standard root (some tree) = .ok report ∧
      report.diagnostics.length = 1 ∧
      breaks (run .standard root (some tree) (.ofCapacity none)).writer.written = 3 ∧
      breaks (CommandLine.scan .text root (some tree)).err = 2 := by
  intro root tree
  have hreport : Report.ofPackage .standard root (some tree) = .ok ⟨1, [], [{
      file := ⟨"shop/lib.rs".toList⟩
      line := 1
      column := 26
      record := "Order".toList
      field := "code".toList
      annotation := "5".toList
      message := "`tag` attribute expects a single string literal".toList }]⟩ := by
    decide +kernel
  obtain ⟨hwritten, herr, _⟩ := lines_of_run rfl (by decide) hreport
  refine ⟨_, hreport, rfl, ?_, ?_⟩
  · rw [hwritten]
    decide +kernel
  · rw [herr rfl rfl]
    decide +kernel

/-- A slip that goes on over a line break takes two lines. -/
theorem Report.two_lines_for_one_diagnostic :
    let attr : Source.Attribute :=
      ⟨some "tag".toList, .list [.literal "\"each:a\\nb\"".toList .start], none⟩
    let decl : Source.StructDecl := ⟨"Order".toList, [], [⟨some "code".toList, [attr], .start⟩]⟩
    let file : ParsedFile := ⟨⟨"order.rs".toList⟩, ⟨[.item (.struct decl) [] []]⟩⟩
    let report := ofFiles .standard [file]
    (∃ message ∈ annotationProblems [] "each:a\nb".toList, breaks message ≠ 0) ∧
      report.diagnostics.length = 1 ∧ linesOf report.diagnostics = 2 := by
  intro attr decl file report
  have hparse : Annotation.parse "each:a\nb".toList =
      .ok ⟨[.invoke ⟨"each:a\nb".toList, none⟩]⟩ := by
    apply Annotation.parse_eq_ok_iff.mpr
    rw [← Directive.iterate_readSegments 1]
    rfl
  have hproblems : annotationProblems [] "each:a\nb".toList =
      [Invocation.unknownMessage ⟨"each:a\nb".toList, none⟩] := by
    rw [annotationProblems, hparse]
    rfl
  have hattr : attributeProblems .standard [] attr = ("each:a\nb".toList,
      [Invocation.unknownMessage ⟨"each:a\nb".toList, none⟩]) := by
    rw [← hproblems]
    rfl
  have hattributes : annotationAttributes .standard ⟨some "code".toList, [attr], .start⟩ =
      [attr] := by
    rfl
  have hstruct : structDiagnostics .standard [] file.path decl = [{
      file := file.path
      line := 1
      column := 1
      record := decl.name
      field := "code".toList
      annotation := "each:a\nb".toList
      message := Invocation.unknownMessage ⟨"each:a\nb".toList, none⟩ }] := by
    simp only [structDiagnostics, fieldDiagnostics, decl, List.zipIdx, hattributes,
      List.flatMap_singleton, hattr, List.map_singleton]
    rfl
  have hreport : report.diagnostics =
      Diagnostic.sort (structDiagnostics .standard [] file.path decl ++ [] ++ []) := by
    rfl
  rw [hproblems, hreport, hstruct, List.append_nil, List.append_nil, Diagnostic.sort,
    List.mergeSort_singleton]
  exact ⟨⟨_, List.mem_singleton_self _, by decide⟩, rfl, by decide⟩

end FieldRules
