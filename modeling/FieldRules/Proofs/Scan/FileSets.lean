import FieldRules.Proofs.Scan.Findings
import FieldRules.Proofs.Scan.UnknownNames

/-!
# Reports about other lists of files

Files have an effect on each other only through the names that they register.  So
the order of the files does not matter to a report, and with more files there are
the same diagnostics of the old ones, except that names which have become known are
not reported any more.
-/

namespace FieldRules

open Source (Attribute StructDecl)

/-- The reports say the same, where paths count by their components. -/
def Report.same (a b : Report) : Bool :=
  a.filesScanned == b.filesScanned && a.customValidators == b.customValidators
    && a.diagnostics.isEqv b.diagnostics Diagnostic.same

/-- The diagnostic is one of the files. -/
def Diagnostic.isIn (files : List ParsedFile) (diagnostic : Diagnostic) : Bool :=
  files.any fun file => file.path.same diagnostic.file

theorem Diagnostic.isEqv_same_iff {diagnostics others : List Diagnostic} :
    diagnostics.isEqv others Diagnostic.same = true ↔
      diagnostics.map key = others.map key := by
  induction diagnostics generalizing others with
  | nil => cases others <;> simp [List.isEqv]
  | cons first rest ih =>
      cases others with
      | nil => simp [List.isEqv]
      | cons other others => simp [List.isEqv, same_iff_key, ih]

section Files

variable (config : ScanConfig)

/-! ## The order of the files -/

/-- The paths of the files are of no account to the names. -/
theorem customNames_of_perm_outlines
    {files others : List ParsedFile}
    (hperm : (files.map ParsedFile.outline).Perm (others.map ParsedFile.outline)) :
    customNames config files = customNames config others := by
  have houtlines (list : List ParsedFile) :
      customNames config list =
        Text.nameSet ((list.map ParsedFile.outline).flatMap (registrations config)) := by
    rw [List.flatMap_map, customNames]
  rw [houtlines, houtlines]
  apply Text.nameSet_eq_of_mem_iff
  intro name
  exact (hperm.flatMap_right _).mem_iff

theorem Report.ofFiles_perm
    {files others : List ParsedFile} (hperm : files.Perm others) :
    (ofFiles config files).same (ofFiles config others) = true := by
  have hcustom := customNames_of_perm_outlines config (hperm.map ParsedFile.outline)
  have hkeys := Diagnostic.map_key_sort
    (hperm.flatMap_right (fileDiagnostics config (customNames config files)))
  simp only [Report.same, ofFiles, Bool.and_eq_true, beq_iff_eq, Diagnostic.isEqv_same_iff]
  rw [← hcustom]
  exact ⟨⟨hperm.length_eq, rfl⟩, hkeys⟩

/-! ## More files -/

theorem registered_append_iff {files more : List ParsedFile} {name : Text} :
    Registered config (files ++ more) name ↔
      Registered config files name ∨ Registered config more name := by
  constructor
  · rintro ⟨hfile, hcall, hmethod⟩
    rcases List.mem_append.mp hfile with hold | hnew
    · exact .inl (.intro hold hcall hmethod)
    · exact .inr (.intro hnew hcall hmethod)
  · rintro (⟨hfile, hcall, hmethod⟩ | ⟨hfile, hcall, hmethod⟩)
    · exact .intro (List.mem_append_left more hfile) hcall hmethod
    · exact .intro (List.mem_append_right files hfile) hcall hmethod

theorem file_eq_of_mem_fileDiagnostics
    {custom : List Text} {file : ParsedFile} {diagnostic : Diagnostic}
    (hmem : diagnostic ∈ fileDiagnostics config custom file) : diagnostic.file = file.path := by
  obtain ⟨decl, _, hstruct⟩ := List.mem_flatMap.mp hmem
  obtain ⟨entry, _, hfield⟩ := List.mem_flatMap.mp hstruct
  obtain ⟨attr, _, hattr⟩ := List.mem_flatMap.mp hfield
  obtain ⟨message, _, rfl⟩ := List.mem_map.mp hattr
  rfl

theorem filter_isIn_flatMap
    (custom : List Text) {files more : List ParsedFile}
    (hpaths : ∀ file ∈ files, ∀ other ∈ more, file.path.same other.path = false) :
    ((files ++ more).flatMap (fileDiagnostics config custom)).filter (Diagnostic.isIn files) =
      files.flatMap (fileDiagnostics config custom) := by
  have hold : (files.flatMap (fileDiagnostics config custom)).filter (Diagnostic.isIn files) =
      files.flatMap (fileDiagnostics config custom) := by
    apply List.filter_eq_self.mpr
    intro diagnostic hmem
    obtain ⟨file, hfile, hdiagnostic⟩ := List.mem_flatMap.mp hmem
    have hpath := file_eq_of_mem_fileDiagnostics config hdiagnostic
    apply List.any_eq_true.mpr
    exact ⟨file, hfile, by rw [hpath, FilePath.same_iff]⟩
  have hnew : (more.flatMap (fileDiagnostics config custom)).filter (Diagnostic.isIn files) =
      [] := by
    apply List.filter_eq_nil_iff.mpr
    intro diagnostic hmem hisIn
    obtain ⟨other, hother, hdiagnostic⟩ := List.mem_flatMap.mp hmem
    have hpath := file_eq_of_mem_fileDiagnostics config hdiagnostic
    obtain ⟨file, hfile, hsame⟩ := List.any_eq_true.mp hisIn
    rw [hpath, hpaths file hfile other hother] at hsame
    contradiction
  rw [List.flatMap_append, List.filter_append, hold, hnew, List.append_nil]

theorem Report.filter_isIn_ofFiles_append
    {files more : List ParsedFile}
    (hpaths : ∀ file ∈ files, ∀ other ∈ more, file.path.same other.path = false)
    {stays : Text → Bool}
    (hstays : ∀ message, stays message = false ↔
      ∃ name, SaysUnknown name message ∧
        Registered config more name ∧ ¬Registered config files name) :
    (ofFiles config (files ++ more)).diagnostics.filter (Diagnostic.isIn files) =
      (ofFiles config files).diagnostics.filter fun diagnostic => stays diagnostic.message := by
  have hmore : ∀ name ∈ customNames config files, name ∈ customNames config (files ++ more) := by
    intro name hname
    rw [mem_customNames_iff] at hname ⊢
    exact (registered_append_iff config).mpr (.inl hname)
  have hnew : StaysUnlessNew (customNames config files) (customNames config (files ++ more))
      stays := by
    intro message
    rw [hstays]
    refine exists_congr fun name => and_congr_right fun _ => ?_
    rw [mem_customNames_iff, mem_customNames_iff, registered_append_iff]
    constructor
    · rintro ⟨hregistered, hnot⟩
      exact ⟨.inr hregistered, hnot⟩
    · rintro ⟨hregistered, hnot⟩
      exact ⟨hregistered.resolve_left hnot, hnot⟩
  have hfiles : (files.flatMap (fileDiagnostics config (customNames config files))).filter
        (fun diagnostic => stays diagnostic.message) =
      files.flatMap (fileDiagnostics config (customNames config (files ++ more))) := by
    rw [List.filter_flatMap]
    simp only [hnew.filter_fileDiagnostics config hmore]
  rw [ofFiles, ofFiles, Diagnostic.filter_sort, Diagnostic.filter_sort,
    filter_isIn_flatMap config _ hpaths, hfiles]

end Files

/-- The order of the files makes no difference to a report.  With more files the diagnostics of the
old ones stay as they are, except those about a name that only the new files register. -/
theorem Report.ofFiles_perm_and_append (config : ScanConfig) :
    (∀ files others : List ParsedFile, files.Perm others →
      (ofFiles config files).same (ofFiles config others) = true) ∧
    ∀ files more : List ParsedFile,
      (∀ file ∈ files, ∀ other ∈ more, file.path.same other.path = false) →
      ∃ stays : Diagnostic → Bool,
        (∀ diagnostic, stays diagnostic = false ↔
          ∃ name, SaysUnknown name diagnostic.message ∧
            Registered config more name ∧ ¬Registered config files name) ∧
        (ofFiles config (files ++ more)).diagnostics.filter (Diagnostic.isIn files) =
          (ofFiles config files).diagnostics.filter stays := by
  classical
  constructor
  · intro files others hperm
    exact ofFiles_perm config hperm
  · intro files more hpaths
    let gone (message : Text) : Prop :=
      ∃ name, SaysUnknown name message ∧
        Registered config more name ∧ ¬Registered config files name
    let stays (message : Text) : Bool := !decide (gone message)
    have hstays : ∀ message, stays message = false ↔ gone message := by
      intro message
      simp [stays]
    exact ⟨fun diagnostic => stays diagnostic.message,
      fun diagnostic => hstays diagnostic.message,
      filter_isIn_ofFiles_append config hpaths hstays⟩

/-- A file with a rule that the other file registers. -/
theorem Report.ofFiles_perm_and_append_registered :
    let sku := "sku".toList
    let attr : Attribute := ⟨some "tag".toList, .list [.literal "\"sku,size\"".toList .start], none⟩
    let decl : StructDecl := ⟨"Order".toList, [], [⟨some "code".toList, [attr], .start⟩]⟩
    let own : ParsedFile := ⟨⟨"order.rs".toList⟩, ⟨[.item (.struct decl) [] []]⟩⟩
    let other : ParsedFile :=
      ⟨⟨"rules.rs".toList⟩, ⟨[.code [.methodCall "register".toList [] [.string sku]]]⟩⟩
    let config := ScanConfig.standard
    (ofFiles config [own, other]).same (ofFiles config [other, own]) = true ∧
      ∃ stays : Diagnostic → Bool,
        (∀ diagnostic, SaysUnknown sku diagnostic.message → stays diagnostic = false) ∧
        (ofFiles config [own, other]).diagnostics.filter (Diagnostic.isIn [own]) =
          (ofFiles config [own]).diagnostics.filter stays := by
  intro sku attr decl own other config
  have hregistered : Registered config [other] sku :=
    .intro List.mem_cons_self (show other.outline.at? [0, 0] = _ from rfl) (by decide)
  have hnot : ¬Registered config [own] sku := by
    rw [← mem_customNames_iff]
    have hnone : customNames config [own] = [] := rfl
    rw [hnone]
    exact List.not_mem_nil
  have hpaths : ∀ file ∈ [own], ∀ further ∈ [other], file.path.same further.path = false := by
    intro file hfile further hfurther
    rw [List.mem_singleton.mp hfile, List.mem_singleton.mp hfurther]
    decide
  obtain ⟨hperm, happend⟩ := ofFiles_perm_and_append config
  obtain ⟨stays, hstays, hsame⟩ := happend [own] [other] hpaths
  refine ⟨hperm _ _ (List.Perm.swap other own []), stays, ?_, hsame⟩
  intro diagnostic habout
  exact (hstays diagnostic).mpr ⟨sku, habout, hregistered, hnot⟩

end FieldRules
