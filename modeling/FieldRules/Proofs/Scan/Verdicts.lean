import FieldRules.Proofs.Scan.FileSets
import FieldRules.Proofs.Scan.OutputLines

/-!
# Verdicts on a package

The check before a build and the command line scan a package alike, but each judges the report
for itself.  They may also know the package by different paths.  The paths are repeated in a
report and decide the order of what it says; whether there is anything to say depends on the
tree alone, so the two verdicts agree.
-/

namespace FieldRules

open Source (Outline)

/-! ## A package at another path -/

/-- Two walks both end with a fault, or have found the same contents. -/
inductive SameContents :
    Except ScanFault (List FoundFile) → Except ScanFault (List FoundFile) → Prop where
  | error (fault other : ScanFault) : SameContents (.error fault) (.error other)
  | ok {files others : List FoundFile}
      (hcontents : files.map FoundFile.content = others.map FoundFile.content) :
      SameContents (.ok files) (.ok others)

section Relocation

variable (config : ScanConfig) (root elsewhere : FilePath)

theorem SameContents.append
    {found foundElsewhere more moreElsewhere : List FoundFile}
    (hfound : found.map FoundFile.content = foundElsewhere.map FoundFile.content)
    (hmore : more.map FoundFile.content = moreElsewhere.map FoundFile.content) :
    SameContents (.ok (found ++ more)) (.ok (foundElsewhere ++ moreElsewhere)) := by
  apply SameContents.ok
  rw [List.map_append, List.map_append, hfound, hmore]

mutual

/-- Where a tree stands has no influence on the contents that a walk through it finds. -/
theorem ScanConfig.sourcesAt_relocated (path other : FilePath) (name : Text) :
    ∀ tree : FileTree,
      SameContents (config.sourcesAt path name tree) (config.sourcesAt other name tree)
  | .file content => by
      rw [sourcesAt, sourcesAt]
      split
      · exact .ok rfl
      · exact .ok rfl
  | .directory entries => by
      rw [sourcesAt, sourcesAt]
      split
      · exact .ok rfl
      · exact sourcesIn_relocated path other entries
  | .sealed reason => by
      rw [sourcesAt, sourcesAt]
      split
      · exact .ok rfl
      · exact .error _ _
  | .link _ => .ok rfl
  | .special => .ok rfl

theorem ScanConfig.sourcesIn_relocated (directory other : FilePath) :
    ∀ entries : List (Text × FileTree),
      SameContents (config.sourcesIn directory entries) (config.sourcesIn other entries)
  | [] => .ok rfl
  | (name, tree) :: rest => by
      have hfirst := sourcesAt_relocated (directory.join name) (other.join name) name tree
      have hrest := sourcesIn_relocated directory other rest
      rw [sourcesIn, sourcesIn]
      generalize config.sourcesAt (directory.join name) name tree = found at hfirst
      generalize config.sourcesAt (other.join name) name tree = foundElsewhere at hfirst
      generalize config.sourcesIn directory rest = more at hrest
      generalize config.sourcesIn other rest = moreElsewhere at hrest
      cases hfirst with
      | error => exact .error _ _
      | ok hfound =>
          cases hrest with
          | error => exact .error _ _
          | ok hmore => exact .append hfound hmore

end

/-- At the other path the same files are collected, perhaps in another order. -/
theorem ScanConfig.collect_relocated
    {entries : List (Text × FileTree)} {files : List FoundFile}
    (hcollect : config.collect root entries = .ok files) :
    ∃ others, config.collect elsewhere entries = .ok others ∧
      (files.map FoundFile.content).Perm (others.map FoundFile.content) := by
  have hwalks := config.sourcesIn_relocated root elsewhere entries
  unfold collect at hcollect ⊢
  generalize config.sourcesIn root entries = found at hcollect hwalks
  generalize config.sourcesIn elsewhere entries = foundElsewhere at hwalks
  cases hwalks with
  | error => contradiction
  | @ok found foundElsewhere hcontents =>
      rw [← Except.ok.inj hcollect]
      refine ⟨_, rfl, ?_⟩
      have hsorted := (List.mergeSort_perm found fun a b => (a.path.compare b.path).isLE).map
        FoundFile.content
      have hsortedElsewhere := (List.mergeSort_perm foundElsewhere fun a b =>
        (a.path.compare b.path).isLE).map FoundFile.content
      rw [← hcontents] at hsortedElsewhere
      exact hsorted.trans hsortedElsewhere.symm

/-- What there is to analyze in a file with the given content. -/
def outlineOf? : Except Text Text → Option Outline
  | .error _ => none
  | .ok source => (Outline.parse source).toOption.map Outline.withoutTests

theorem FoundFile.outlineOf?_of_read {file : FoundFile} {parsed : ParsedFile}
    (hread : file.read = .ok parsed) : outlineOf? file.content = some parsed.outline := by
  unfold read ParsedFile.ofText at hread
  cases hcontent : file.content with
  | error reason =>
      rw [hcontent] at hread
      contradiction
  | ok source =>
      rw [hcontent] at hread
      cases hparse : Outline.parse source with
      | error position =>
          simp only [hparse] at hread
          contradiction
      | ok outline =>
          simp only [hparse] at hread
          rw [← Except.ok.inj hread, outlineOf?, hparse]
          rfl

theorem FoundFile.outlineOf?_eq_none_iff {file : FoundFile} :
    outlineOf? file.content = none ↔ ∃ fault, file.Fails fault := by
  simp only [← read_eq_error_iff]
  cases hread : file.read with
  | error fault =>
      have hnone : outlineOf? file.content = none := by
        cases read_eq_error_iff.mp hread with
        | unreadable hcontent => rw [hcontent, outlineOf?]
        | invalid hcontent hparse =>
            rw [hcontent, outlineOf?, hparse]
            rfl
      exact iff_of_true hnone ⟨fault, rfl⟩
  | ok parsed =>
      rw [outlineOf?_of_read hread]
      simp

theorem map_outline_of_readAll
    {files : List FoundFile} {parsed : List ParsedFile} (hread : readAll files = .ok parsed) :
    parsed.map ParsedFile.outline = (files.map FoundFile.content).filterMap outlineOf? := by
  have hall := readAll_eq_ok_iff.mp hread
  clear hread
  induction hall with
  | nil => rfl
  | cons hfile _ ih =>
      rw [List.map_cons, List.map_cons, ih,
        List.filterMap_cons_some (FoundFile.outlineOf?_of_read hfile)]

/-- Files with the same contents are read alike. -/
theorem readAll_of_perm
    {files others : List FoundFile} {parsed : List ParsedFile}
    (hperm : (files.map FoundFile.content).Perm (others.map FoundFile.content))
    (hread : readAll files = .ok parsed) :
    ∃ more, readAll others = .ok more ∧
      (parsed.map ParsedFile.outline).Perm (more.map ParsedFile.outline) := by
  cases hothers : readAll others with
  | error fault =>
      obtain ⟨other, hother, hfails⟩ :=
        exists_firstFault_iff.mp ⟨fault, readAll_eq_error_iff.mp hothers⟩
      have hmem : other.content ∈ files.map FoundFile.content :=
        hperm.mem_iff.mpr (List.mem_map_of_mem hother)
      obtain ⟨file, hfile, hcontent⟩ := List.mem_map.mp hmem
      have hnone : outlineOf? file.content = none := by
        rw [hcontent]
        exact FoundFile.outlineOf?_eq_none_iff.mpr hfails
      obtain ⟨first, hfirst⟩ :=
        exists_firstFault_iff.mpr ⟨file, hfile, FoundFile.outlineOf?_eq_none_iff.mp hnone⟩
      rw [readAll_eq_error_iff.mpr hfirst] at hread
      contradiction
  | ok more =>
      refine ⟨more, rfl, ?_⟩
      rw [map_outline_of_readAll hread, map_outline_of_readAll hothers]
      exact hperm.filterMap outlineOf?

/-- The diagnostic without the file that it is about. -/
def Diagnostic.withoutFile (diagnostic : Diagnostic) : Diagnostic :=
  { diagnostic with file := ⟨[]⟩ }

theorem map_withoutFile_fileDiagnostics (custom : List Text) (file : ParsedFile) :
    (fileDiagnostics config custom file).map Diagnostic.withoutFile =
      fileDiagnostics config custom ⟨⟨[]⟩, file.outline⟩ := by
  simp only [fileDiagnostics, structDiagnostics, fieldDiagnostics, List.map_flatMap, List.map_map,
    Function.comp_def, Diagnostic.withoutFile]
  rfl

/-- The reports say the same about the same number of files, but not of which file they say it. -/
structure Report.SameFindings (report other : Report) : Prop where
  filesScanned : report.filesScanned = other.filesScanned
  customValidators : report.customValidators = other.customValidators
  diagnostics : (report.diagnostics.map Diagnostic.withoutFile).Perm
    (other.diagnostics.map Diagnostic.withoutFile)

theorem Report.SameFindings.isClean_eq {report other : Report} (h : report.SameFindings other) :
    report.isClean = other.isClean := by
  have hlength := h.diagnostics.length_eq
  rw [List.length_map, List.length_map] at hlength
  rw [isClean, isClean, Bool.eq_iff_iff, List.isEmpty_iff_length_eq_zero,
    List.isEmpty_iff_length_eq_zero, hlength]

theorem Report.ofFiles_sameFindings
    {files others : List ParsedFile}
    (hperm : (files.map ParsedFile.outline).Perm (others.map ParsedFile.outline)) :
    (ofFiles config files).SameFindings (ofFiles config others) := by
  have hnames : customNames config files = customNames config others :=
    customNames_of_perm_outlines config hperm
  have hdiagnostics (list : List ParsedFile) (custom : List Text) :
      ((Diagnostic.sort (list.flatMap (fileDiagnostics config custom))).map
          Diagnostic.withoutFile).Perm
        ((list.map ParsedFile.outline).flatMap fun outline =>
          fileDiagnostics config custom ⟨⟨[]⟩, outline⟩) := by
    refine ((List.mergeSort_perm _ _).map Diagnostic.withoutFile).trans ?_
    rw [List.map_flatMap, List.flatMap_map]
    simp only [map_withoutFile_fileDiagnostics]
    exact .rfl
  constructor
  · have hlength := hperm.length_eq
    rwa [List.length_map, List.length_map] at hlength
  · exact hnames
  · simp only [ofFiles, hnames]
    exact (hdiagnostics files _).trans
      ((hperm.flatMap_right _).trans (hdiagnostics others _).symm)

/-- A package gets the same report at every path, but for the paths in it. -/
theorem Report.ofPackage_relocated
    {tree : Option FileTree} {report : Report} (hreport : ofPackage config root tree = .ok report) :
    ∃ other, ofPackage config elsewhere tree = .ok other ∧ report.SameFindings other := by
  obtain ⟨entries, files, parsed, rfl, hcollect, hread, rfl⟩ :=
    exists_read_of_ofPackage root hreport
  obtain ⟨others, hothers, hcontents⟩ := config.collect_relocated root elsewhere hcollect
  obtain ⟨more, hmore, houtlines⟩ := readAll_of_perm hcontents hread
  rw [ofPackage_of_collect elsewhere hothers, hmore]
  exact ⟨_, rfl, ofFiles_sameFindings config houtlines⟩

end Relocation

/-! ## The two verdicts -/

/-- Whether a scan goes through and finds nothing wrong depends only on the tree. -/
theorem Report.clean_relocated
    {config : ScanConfig} {root : FilePath} {tree : Option FileTree} (elsewhere : FilePath)
    (hclean : ∃ report, ofPackage config root tree = .ok report ∧ report.isClean = true) :
    ∃ report, ofPackage config elsewhere tree = .ok report ∧ report.isClean = true := by
  obtain ⟨report, hreport, hclean⟩ := hclean
  obtain ⟨other, hother, hsame⟩ := ofPackage_relocated config root elsewhere hreport
  rw [hsame.isClean_eq] at hclean
  exact ⟨other, hother, hclean⟩

theorem CommandLine.code_scan_eq_zero_iff
    {format : Format} {root : FilePath} {tree : Option FileTree} :
    (scan format root tree).code = 0 ↔
      ∃ report, Report.ofPackage .standard root tree = .ok report ∧ report.isClean = true := by
  unfold scan
  cases hreport : Report.ofPackage .standard root tree with
  | error fault => simp
  | ok report =>
      have hcode : (showReport format report).code = if report.isClean then 0 else 1 := by
        cases format with
        | json => rfl
        | text =>
            simp only [showReport]
            split
            · rfl
            · rfl
      rw [hcode]
      simp

namespace BuildCheck

open CommandLine (unlines)

/-- What tells the build system when to check again. -/
def directives (root : FilePath) : List Text :=
  ["cargo:rerun-if-env-changed=TAGRULE_SKIP_CHECK".toList,
    "cargo:rerun-if-changed=".toList ++ root.text]

/-- What a check is to write, entry by entry, and the verdict that it is to come to. -/
inductive Promises (config : ScanConfig) (root : FilePath) (tree : Option FileTree) :
    List Text → Except ScanFault (Option Report) → Prop where
  | skipped (hskip : config.skip = true) :
      Promises config root tree ["cargo:rerun-if-env-changed=TAGRULE_SKIP_CHECK".toList] (.ok none)
  | failed {fault : ScanFault} (hskip : config.skip = false)
      (hfault : Report.ofPackage config root tree = .error fault) :
      Promises config root tree (directives root) (.error fault)
  | clean {report : Report} (hskip : config.skip = false)
      (hreport : Report.ofPackage config root tree = .ok report)
      (hclean : report.isClean = true) :
      Promises config root tree (directives root) (.ok (some report))
  | invalid {report : Report} (hskip : config.skip = false)
      (hreport : Report.ofPackage config root tree = .ok report)
      (hclean : report.isClean = false) (hcount : 1 ≤ report.diagnostics.length) :
      Promises config root tree
        (directives root ++
          report.diagnostics.map fun diagnostic => "cargo:warning=".toList ++ diagnostic.display)
        (.error (.invalidTags report.diagnostics.length))

theorem run_keeps_promise (config : ScanConfig) (root : FilePath) (tree : Option FileTree) :
    ∃ lines verdict, Promises config root tree lines verdict ∧
      run config root tree (.ofCapacity none) = ⟨⟨none, unlines lines⟩, verdict⟩ := by
  have henvironment : environmentLine = "cargo:rerun-if-env-changed=TAGRULE_SKIP_CHECK".toList := by
    decide
  have hdirectives : [environmentLine, directoryLine root] = directives root :=
    congrArg (fun line => [line, directoryLine root]) henvironment
  rw [run_unlimited, hdirectives, henvironment]
  cases hskip : config.skip with
  | true => exact ⟨_, _, .skipped hskip, rfl⟩
  | false =>
      cases hreport : Report.ofPackage config root tree with
      | error fault => exact ⟨_, _, .failed hskip hreport, rfl⟩
      | ok report =>
          simp only [Bool.false_eq_true, if_false, conclude_unlimited, ← unlines_append]
          cases hclean : report.isClean with
          | true =>
              have hnone : report.diagnostics = [] := List.isEmpty_iff.mp hclean
              refine ⟨_, _, .clean hskip hreport hclean, ?_⟩
              rw [hnone, if_pos rfl, List.map_nil, List.append_nil]
          | false =>
              have hcount : 1 ≤ report.diagnostics.length :=
                List.length_pos_iff.mpr (List.isEmpty_eq_false_iff.mp hclean)
              refine ⟨_, _, .invalid hskip hreport hclean hcount, ?_⟩
              rw [if_neg Bool.false_ne_true, Report.errorCount]
              rfl

theorem verdict_ok_iff
    {config : ScanConfig} (hskip : config.skip = false) (root : FilePath)
    (tree : Option FileTree) :
    (∃ result, (run config root tree (.ofCapacity none)).verdict = .ok result) ↔
      ∃ report, Report.ofPackage config root tree = .ok report ∧ report.isClean = true := by
  obtain ⟨lines, verdict, hpromise, hrun⟩ := run_keeps_promise config root tree
  rw [hrun]
  cases hpromise with
  | skipped hskipped =>
      rw [hskip] at hskipped
      contradiction
  | failed _ hfault => simp [hfault]
  | clean _ hreport hclean => simp [hreport, hclean]
  | invalid _ hreport hclean _ => simp [hreport, hclean]

/-- A check keeps what it promises, and with the standard configuration it lets the build go on if
and only if the command line exits with zero for the package, at whatever path either of them finds
it. -/
theorem run_exact :
    (∀ config root tree, ∃ lines verdict, Promises config root tree lines verdict ∧
      run config root tree (.ofCapacity none) = ⟨⟨none, unlines lines⟩, verdict⟩) ∧
    ∀ root workingDirectory package verbose lookUp,
      let options : CommandLine.Options := ⟨package, .text, verbose⟩
      let tree : Option FileTree := lookUp (options.root workingDirectory)
      (∃ result, (run .standard root tree (.ofCapacity none)).verdict = .ok result) ↔
        ((CommandLine.Request.scan options).answer workingDirectory lookUp).code = 0 := by
  constructor
  · exact run_keeps_promise
  · intro root workingDirectory package verbose lookUp options tree
    calc (∃ result, (run .standard root tree (.ofCapacity none)).verdict = .ok result)
      _ ↔ ∃ report, Report.ofPackage .standard root tree = .ok report ∧
            report.isClean = true := verdict_ok_iff rfl root tree
      _ ↔ ∃ report, Report.ofPackage .standard (options.root workingDirectory) tree = .ok report ∧
            report.isClean = true := ⟨Report.clean_relocated _, Report.clean_relocated root⟩
      _ ↔ ((CommandLine.Request.scan options).answer workingDirectory lookUp).code = 0 :=
            CommandLine.code_scan_eq_zero_iff.symm

end BuildCheck

end FieldRules
