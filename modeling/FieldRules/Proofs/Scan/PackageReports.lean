import FieldRules.Proofs.Scan.PackageFiles

/-!
# Which report a package gets

The files that a scan reads are taken in the order of their paths.  The first of them
that cannot be read or is not valid ends the scan; if there is none, the report is
that on all of them.  A scan sees no more of a package than these files and the
directories that it enters, so packages that agree in them get the same report.
-/

namespace FieldRules

open Source (Outline Position)

/-! ## The order of files -/

instance : Std.TransCmp FilePath.compare :=
  transCmp_of_part FilePath.compareComponents FilePath.components

namespace FoundFile

/-- The path of the file comes before that of the other one. -/
def Before (file other : FoundFile) : Prop := file.path.compare other.path = .lt

instance : Std.Irrefl Before where
  irrefl file hbefore := by
    have heq : file.path.compare file.path = .eq := Std.ReflCmp.compare_self
    rw [Before, heq] at hbefore
    contradiction

instance : Std.Antisymm Before where
  antisymm file other hbefore hafter := by
    have hgt : file.path.compare other.path = .gt := Std.OrientedCmp.gt_of_lt hafter
    rw [Before, hgt] at hbefore
    contradiction

theorem isLE_or_isLE (file other : FoundFile) :
    ((file.path.compare other.path).isLE || (other.path.compare file.path).isLE) = true := by
  cases h : file.path.compare other.path with
  | lt => rfl
  | eq => rfl
  | gt =>
      have hlt : other.path.compare file.path = .lt := Std.OrientedCmp.gt_iff_lt.mp h
      rw [hlt]
      rfl

/-- Files with different paths stand in order once they are sorted. -/
theorem before_sort
    {files : List FoundFile}
    (hdistinct : files.Pairwise fun a b => a.path.components ≠ b.path.components) :
    (files.mergeSort fun a b => (a.path.compare b.path).isLE).Pairwise Before := by
  have hperm := List.mergeSort_perm files fun a b => (a.path.compare b.path).isLE
  have hsorted := List.pairwise_mergeSort
    (fun _ _ _ : FoundFile => Std.TransCmp.isLE_trans) isLE_or_isLE files
  have hdifferent := hperm.symm.pairwise hdistinct fun h => h.symm
  refine (hsorted.and hdifferent).imp ?_
  rintro a b ⟨hle, hne⟩
  rcases Ordering.isLE_iff_eq_lt_or_eq_eq.mp hle with hlt | heq
  · exact hlt
  · have hcomponents : FilePath.compareComponents a.path.components b.path.components = .eq := heq
    exact absurd (Std.LawfulEqCmp.eq_of_compare hcomponents) hne

/-! ## Reading the files -/

/-- What goes wrong with reading the file. -/
inductive Fails (file : FoundFile) : ScanFault → Prop where
  | unreadable {reason : Text} (hcontent : file.content = .error reason) :
      Fails file (.unreadable file.path reason)
  | invalid {source : Text} {position : Position} (hcontent : file.content = .ok source)
      (hparse : Outline.parse source = .error position) :
      Fails file (.syntaxError file.path position)

theorem read_eq_error_iff {file : FoundFile} {fault : ScanFault} :
    file.read = .error fault ↔ file.Fails fault := by
  unfold read ParsedFile.ofText
  constructor
  · intro hread
    cases hcontent : file.content with
    | error reason =>
        rw [hcontent] at hread
        rw [← Except.error.inj hread]
        exact .unreadable hcontent
    | ok source =>
        rw [hcontent] at hread
        cases hparse : Outline.parse source with
        | error position =>
            simp only [hparse] at hread
            rw [← Except.error.inj hread]
            exact .invalid hcontent hparse
        | ok outline =>
            simp only [hparse] at hread
            contradiction
  · intro hfails
    cases hfails with
    | unreadable hcontent => rw [hcontent]
    | invalid hcontent hparse => simp only [hcontent, hparse]

end FoundFile

/-- The fault is that of the first file that fails. -/
def FirstFault (files : List FoundFile) (fault : ScanFault) : Prop :=
  ∃ before file after, files = before ++ file :: after ∧
    (∀ earlier ∈ before, ∀ other, ¬earlier.Fails other) ∧ file.Fails fault

theorem firstFault_cons_iff {file : FoundFile} {rest : List FoundFile} {fault : ScanFault} :
    FirstFault (file :: rest) fault ↔
      file.Fails fault ∨ (∀ other, ¬file.Fails other) ∧ FirstFault rest fault := by
  constructor
  · rintro ⟨before, failing, after, heq, hbefore, hfails⟩
    cases before with
    | nil =>
        obtain ⟨rfl, rfl⟩ := List.cons.inj heq
        exact .inl hfails
    | cons first before =>
        obtain ⟨rfl, rfl⟩ := List.cons.inj heq
        obtain ⟨hfirst, hothers⟩ := List.forall_mem_cons.mp hbefore
        exact .inr ⟨hfirst, before, failing, after, rfl, hothers, hfails⟩
  · rintro (hfails | ⟨hfile, before, failing, after, rfl, hbefore, hfails⟩)
    · exact ⟨[], file, rest, rfl, by simp, hfails⟩
    · exact ⟨file :: before, failing, after, rfl, List.forall_mem_cons.mpr ⟨hfile, hbefore⟩, hfails⟩

theorem exists_firstFault_iff {files : List FoundFile} :
    (∃ fault, FirstFault files fault) ↔ ∃ file ∈ files, ∃ fault, file.Fails fault := by
  induction files with
  | nil => simp [FirstFault]
  | cons file rest ih =>
      simp only [firstFault_cons_iff, List.exists_mem_cons_iff, ← ih, exists_or, exists_and_left]
      by_cases hfile : ∃ fault, file.Fails fault
      · simp [hfile]
      · simp [not_exists.mp hfile]

/-- Reading goes through to the first file that fails. -/
theorem readAll_eq_error_iff {files : List FoundFile} {fault : ScanFault} :
    readAll files = .error fault ↔ FirstFault files fault := by
  induction files with
  | nil =>
      simp [readAll, FirstFault]
  | cons file rest ih =>
      rw [readAll, firstFault_cons_iff]
      cases hread : file.read with
      | error other =>
          have hfails := FoundFile.read_eq_error_iff.mp hread
          have hsame : file.Fails fault ↔ other = fault := by
            rw [← FoundFile.read_eq_error_iff, hread, Except.error.injEq]
          simp only [Except.error.injEq, hsame]
          exact (or_iff_left fun h => h.1 other hfails).symm
      | ok parsed =>
          have hnone (other : ScanFault) : ¬file.Fails other := by
            rw [← FoundFile.read_eq_error_iff, hread]
            simp
          cases hrest : readAll rest with
          | error other => simp [hnone, ← ih, hrest]
          | ok more => simp [hnone, ← ih, hrest]

theorem readAll_eq_ok_iff {files : List FoundFile} {parsed : List ParsedFile} :
    readAll files = .ok parsed ↔ List.Forall₂ (fun file source => file.read = .ok source) files
      parsed := by
  induction files generalizing parsed with
  | nil => simp [readAll, eq_comm]
  | cons file rest ih =>
      rw [readAll, List.forall₂_cons_left_iff]
      cases hread : file.read with
      | error fault => simp
      | ok first =>
          cases hrest : readAll rest with
          | error fault => simp [← ih, hrest]
          | ok more =>
              simp only [← ih, hrest, Except.ok.injEq]
              constructor
              · rintro rfl
                exact ⟨first, more, rfl, rfl, rfl⟩
              · rintro ⟨_, _, rfl, rfl, rfl⟩
                rfl

/-! ## What a scan does not see -/

/-- The tree without what a directory holds. -/
def FileTree.shell : FileTree → FileTree
  | .directory _ => .directory []
  | tree => tree

/-- An entry of this name is passed over: a directory that is skipped, a file that is none of the
sources, or what is neither a directory nor a file. -/
def ScanConfig.PassesOver (config : ScanConfig) (name : Text) : FileTree → Prop
  | .file _ => ¬config.Reads name
  | .directory _ => config.Skips name
  | .sealed _ => config.Skips name
  | .link _ => True
  | .special => True

/-- The trees are the same but for entries that are passed over, and what is in them. -/
def FileTree.AgreeOutside (config : ScanConfig) (tree other : FileTree) : Prop :=
  ∀ directories name shell, config.Open directories → ¬config.PassesOver name shell →
    ((∃ found, tree.At (directories ++ [name]) found ∧ found.shell = shell) ↔
      ∃ found, other.At (directories ++ [name]) found ∧ found.shell = shell)

namespace FileTree

variable {config : ScanConfig} {tree other : FileTree}

theorem AgreeOutside.symm (h : tree.AgreeOutside config other) : other.AgreeOutside config tree :=
  fun directories name shell hopen hpasses => (h directories name shell hopen hpasses).symm

theorem AgreeOutside.at_file
    (h : tree.AgreeOutside config other) {way : List Text} (hway : config.Counts way)
    {content : Except Text Text} (hat : tree.At way (.file content)) :
    other.At way (.file content) := by
  obtain ⟨directories, name, rfl, hopen, hname⟩ := hway
  obtain ⟨found, hfound, hshell⟩ :=
    (h directories name (.file content) hopen (not_not.mpr hname)).mp ⟨_, hat, rfl⟩
  cases found <;> cases hshell
  exact hfound

theorem AgreeOutside.at_sealed
    (h : tree.AgreeOutside config other) {way : List Text} (hway : way ≠ [])
    (hopen : config.Open way) {reason : Text} (hat : tree.At way (.sealed reason)) :
    other.At way (.sealed reason) := by
  obtain ⟨directories, name, rfl⟩ := (List.eq_nil_or_concat' way).resolve_left hway
  have hdirectories : config.Open directories := fun part hpart =>
    hopen part (List.mem_append_left _ hpart)
  have hname : ¬config.Skips name := hopen name (by simp)
  obtain ⟨found, hfound, hshell⟩ :=
    (h directories name (.sealed reason) hdirectories hname).mp ⟨_, hat, rfl⟩
  cases found <;> cases hshell
  exact hfound

theorem AgreeOutside.trans
    {third : FileTree} (h : tree.AgreeOutside config other)
    (hnext : other.AgreeOutside config third) : tree.AgreeOutside config third :=
  fun directories name shell hopen hpasses =>
    (h directories name shell hopen hpasses).trans (hnext directories name shell hopen hpasses)

theorem At.of_subset
    {entries others : List (Text × FileTree)} (hsubset : entries ⊆ others) {way : List Text}
    {found : FileTree} (hway : way ≠ []) (h : (FileTree.directory entries).At way found) :
    (FileTree.directory others).At way found := by
  cases h with
  | here => contradiction
  | inside hentry hinner => exact .inside (hsubset hentry) hinner

theorem At.exists_entries
    {way : List Text} {found : FileTree} (h : tree.At way found) (hway : way ≠ []) :
    ∃ entries, tree = .directory entries := by
  cases h with
  | here => contradiction
  | inside => exact ⟨_, rfl⟩

theorem passesOver_shell_iff {name : Text} :
    config.PassesOver name tree.shell ↔ config.PassesOver name tree := by
  cases tree <;> rfl

/-- The order in which a directory lists its entries is not seen. -/
theorem AgreeOutside.of_perm
    {entries others : List (Text × FileTree)} (hperm : entries.Perm others) :
    (FileTree.directory entries).AgreeOutside config (.directory others) := by
  intro directories name shell _ _
  have hway : directories ++ [name] ≠ [] := by simp
  constructor
  · rintro ⟨found, hat, hshell⟩
    exact ⟨found, hat.of_subset hperm.subset hway, hshell⟩
  · rintro ⟨found, hat, hshell⟩
    exact ⟨found, hat.of_subset hperm.symm.subset hway, hshell⟩

/-- An entry that is passed over is not seen, and what is in it neither. -/
theorem AgreeOutside.of_passesOver
    {name : Text} (hpasses : config.PassesOver name tree) (rest : List (Text × FileTree)) :
    (FileTree.directory ((name, tree) :: rest)).AgreeOutside config (.directory rest) := by
  intro directories last shell hopen hseen
  have hway : directories ++ [last] ≠ [] := by simp
  constructor
  · rintro ⟨found, hat, rfl⟩
    refine ⟨found, ?_, rfl⟩
    generalize hlong : directories ++ [last] = way at hat hway
    cases hat with
    | here => contradiction
    | @inside _ _ subtree _ inner hentry hinner =>
        rcases List.mem_cons.mp hentry with heq | hrest
        · obtain ⟨rfl, rfl⟩ := Prod.mk.inj heq
          cases directories with
          | nil =>
              obtain ⟨rfl, rfl⟩ := List.cons.inj hlong
              cases hinner with
              | here => exact absurd (passesOver_shell_iff.mpr hpasses) hseen
          | cons first directories =>
              rw [List.cons_append, List.cons.injEq] at hlong
              obtain ⟨rfl, rfl⟩ := hlong
              have hfirst := (ScanConfig.open_cons_iff.mp hopen).1
              obtain ⟨inside, rfl⟩ := hinner.exists_entries (by simp)
              exact absurd hpasses hfirst
        · exact .inside hrest hinner
  · rintro ⟨found, hat, hshell⟩
    exact ⟨found, hat.of_subset (List.subset_cons_self _ rest) hway, hshell⟩

end FileTree

/-! ## Collecting the files -/

section Package

variable {config : ScanConfig} (root : FilePath) {entries : List (Text × FileTree)}

theorem ScanConfig.collect_of_listable
    (hproper : (FileTree.directory entries).Proper)
    (hlisted : (FileTree.directory entries).Listable config []) :
    ∃ files, config.collect root entries = .ok files ∧ files.Pairwise FoundFile.Before ∧
      ∀ file, file ∈ files ↔ (FileTree.directory entries).HasSource config root [] file := by
  have hwalked := config.sourcesIn_walked root entries hproper
  unfold collect
  cases hresult : config.sourcesIn root entries with
  | error fault =>
      rw [hresult] at hwalked
      cases hwalked with
      | error hat hopen => exact absurd hopen (hlisted _ _ hat)
  | ok files =>
      rw [hresult] at hwalked
      cases hwalked with
      | ok _ hmem hdistinct =>
          refine ⟨_, rfl, FoundFile.before_sort hdistinct, ?_⟩
          intro file
          rw [← hmem]
          exact (List.mergeSort_perm files _).mem_iff

theorem ScanConfig.collect_of_not_listable
    (hproper : (FileTree.directory entries).Proper)
    (hsealed : ¬(FileTree.directory entries).Listable config []) :
    ∃ way reason, (FileTree.directory entries).At way (.sealed reason) ∧ config.Open way ∧
      config.collect root entries =
        .error (.unreadable (way.foldl FilePath.join root) reason) := by
  have hwalked := config.sourcesIn_walked root entries hproper
  unfold collect
  cases hresult : config.sourcesIn root entries with
  | error fault =>
      rw [hresult] at hwalked
      cases hwalked with
      | error hat hopen => exact ⟨_, _, hat, hopen, rfl⟩
  | ok files =>
      rw [hresult] at hwalked
      cases hwalked with
      | ok hlisted => exact absurd hlisted hsealed

theorem ScanConfig.collect_agrees
    {others : List (Text × FileTree)}
    (hproper : (FileTree.directory entries).Proper) (hother : (FileTree.directory others).Proper)
    (hlisted : (FileTree.directory entries).Listable config [])
    (hagree : (FileTree.directory entries).AgreeOutside config (.directory others)) :
    config.collect root others = config.collect root entries := by
  have hotherListed : (FileTree.directory others).Listable config [] := by
    intro way reason hat hopen
    have hway : way ≠ [] := by
      rintro rfl
      cases hat
    exact hlisted way reason (hagree.symm.at_sealed hway hopen hat) hopen
  obtain ⟨files, hcollect, hordered, hmem⟩ := collect_of_listable root hproper hlisted
  obtain ⟨found, hfound, hfoundOrdered, hfoundMem⟩ :=
    collect_of_listable root hother hotherListed
  have hsame (file : FoundFile) : file ∈ found ↔ file ∈ files := by
    rw [hmem, hfoundMem]
    constructor
    · rintro ⟨way, content, hat, hcounts, rfl⟩
      exact ⟨way, content, hagree.symm.at_file hcounts hat, hcounts, rfl⟩
    · rintro ⟨way, content, hat, hcounts, rfl⟩
      exact ⟨way, content, hagree.at_file hcounts hat, hcounts, rfl⟩
  rw [hcollect, hfound, List.Pairwise.eq_of_mem_iff hfoundOrdered hordered hsame]

theorem Report.ofPackage_of_collect
    {files : List FoundFile} (hcollect : config.collect root entries = .ok files) :
    ofPackage config root (some (.directory entries)) =
      (readAll files).map (ofFiles config) := by
  rw [ofPackage, hcollect]

/-- A package that gets a report is a directory whose files have all been read. -/
theorem Report.exists_read_of_ofPackage
    {tree : Option FileTree} {report : Report} (hreport : ofPackage config root tree = .ok report) :
    ∃ entries files parsed, tree = some (.directory entries) ∧
      config.collect root entries = .ok files ∧ readAll files = .ok parsed ∧
      ofFiles config parsed = report := by
  unfold ofPackage at hreport
  split at hreport
  · next entries =>
    cases hcollect : config.collect root entries with
    | error fault =>
        rw [hcollect] at hreport
        contradiction
    | ok files =>
        rw [hcollect] at hreport
        cases hread : readAll files with
        | error fault =>
            simp only [hread] at hreport
            contradiction
        | ok parsed =>
            simp only [hread] at hreport
            exact ⟨entries, files, parsed, rfl, hcollect, hread, Except.ok.inj hreport⟩
  · contradiction
  · contradiction

theorem Report.ofPackage_eq_error_iff
    {files : List FoundFile} (hcollect : config.collect root entries = .ok files)
    {fault : ScanFault} :
    ofPackage config root (some (.directory entries)) = .error fault ↔ FirstFault files fault := by
  rw [ofPackage_of_collect root hcollect, ← readAll_eq_error_iff]
  cases readAll files <;> simp [Except.map]

theorem Report.ofPackage_eq_ok_iff
    {files : List FoundFile} (hcollect : config.collect root entries = .ok files)
    {report : Report} :
    ofPackage config root (some (.directory entries)) = .ok report ↔
      ∃ parsed, List.Forall₂ (fun file source => FoundFile.read file = .ok source) files parsed ∧
        ofFiles config parsed = report := by
  rw [ofPackage_of_collect root hcollect]
  simp only [← readAll_eq_ok_iff]
  cases readAll files <;> simp [Except.map]

/-- A scan reads the files at the places that count, each once and in the order of their paths, or
ends with a directory that cannot be listed.  It fails if one of the files fails, with the fault of
the first, and gives the report on all of them otherwise.  The rest of the tree is not seen, nor is
the order in which directories are listed. -/
theorem Report.ofPackage_exact
    (hproper : (FileTree.directory entries).Proper) :
    let tree := FileTree.directory entries
    (tree.Listable config [] → ∃ files, config.collect root entries = .ok files ∧
      files.Pairwise FoundFile.Before ∧
      (∀ file, file ∈ files ↔ ∃ way content, tree.At way (.file content) ∧ config.Counts way ∧
        file = ⟨way.foldl FilePath.join root, content⟩) ∧
      ((∃ fault, ofPackage config root (some tree) = .error fault) ↔
        ∃ file ∈ files, ∃ fault, file.Fails fault) ∧
      (∀ fault, ofPackage config root (some tree) = .error fault ↔ FirstFault files fault) ∧
      (∀ report, ofPackage config root (some tree) = .ok report ↔
        ∃ parsed, List.Forall₂ (fun file source => FoundFile.read file = .ok source) files parsed ∧
          ofFiles config parsed = report) ∧
      ∀ others, (FileTree.directory others).Proper →
        tree.AgreeOutside config (.directory others) →
          config.collect root others = .ok files ∧
            ofPackage config root (some (.directory others)) =
              ofPackage config root (some tree)) ∧
      (¬tree.Listable config [] → ∃ way reason, tree.At way (.sealed reason) ∧ config.Open way ∧
        let fault := ScanFault.unreadable (way.foldl FilePath.join root) reason
        config.collect root entries = .error fault ∧
          ofPackage config root (some tree) = .error fault) := by
  intro tree
  constructor
  · intro hlisted
    obtain ⟨files, hcollect, hordered, hmem⟩ :=
      ScanConfig.collect_of_listable root hproper hlisted
    refine ⟨files, hcollect, hordered, hmem, ?_, fun _ => ofPackage_eq_error_iff root hcollect,
      fun _ => ofPackage_eq_ok_iff root hcollect, ?_⟩
    · simp only [tree, ofPackage_eq_error_iff root hcollect]
      exact exists_firstFault_iff
    · intro others hother hagree
      have hothers : config.collect root others = .ok files := by
        rw [ScanConfig.collect_agrees root hproper hother hlisted hagree, hcollect]
      refine ⟨hothers, ?_⟩
      rw [ofPackage_of_collect root hothers, ofPackage_of_collect root hcollect]
  · intro hsealed
    obtain ⟨way, reason, hat, hopen, hcollect⟩ :=
      ScanConfig.collect_of_not_listable root hproper hsealed
    exact ⟨way, reason, hat, hopen, hcollect, by rw [ofPackage, hcollect]⟩

end Package

/-- Two files in the order of their components, which is not that of their texts, beside a
directory that is skipped and holds no text.  The other package lacks it and lists its entries the
other way round. -/
theorem Report.ofPackage_exact_skipped :
    let root : FilePath := ⟨"shop".toList⟩
    let order : Text := "struct Order \x7b #[tag(5)] code: u8 \x7d".toList
    let inner := [("b.rs".toList, FileTree.file (.ok order))]
    let rest := [("a".toList, .directory inner), ("a-b.rs".toList, FileTree.file (.ok []))]
    let tests := [("bad.rs".toList, FileTree.file (.error "not text".toList))]
    let entries := ("tests".toList, .directory tests) :: rest
    let files : List FoundFile :=
      [⟨⟨"shop/a/b.rs".toList⟩, .ok order⟩, ⟨⟨"shop/a-b.rs".toList⟩, .ok []⟩]
    ScanConfig.standard.collect root rest.reverse = .ok files ∧
      ∃ report, ofPackage .standard root (some (.directory entries)) = .ok report ∧
        ofPackage .standard root (some (.directory rest.reverse)) = .ok report ∧
        report.diagnostics.length = 1 := by
  intro root order inner rest tests entries files
  have hfile (content : Except Text Text) : (FileTree.file content).Proper :=
    FileTree.proper_of_no_directory (by simp)
  have hdirectory (name : Text) (content : Except Text Text) (hname : IsEntryName name) :
      (FileTree.directory [(name, .file content)]).Proper := by
    simp [FileTree.proper_directory_iff, hname, hfile]
  have hrest : (FileTree.directory rest).Proper := by
    refine FileTree.proper_directory_iff.mpr ⟨by decide, ?_⟩
    simp only [rest, List.forall_mem_cons]
    exact ⟨⟨by decide, hdirectory _ _ (by decide)⟩, ⟨by decide, hfile _⟩, by simp⟩
  have hproper : (FileTree.directory entries).Proper := by
    refine FileTree.proper_directory_iff.mpr ⟨by decide, List.forall_mem_cons.mpr ⟨?_, ?_⟩⟩
    · exact ⟨by decide, hdirectory _ _ (by decide)⟩
    · exact (FileTree.proper_directory_iff.mp hrest).2
  have hother : (FileTree.directory rest.reverse).Proper := by
    refine FileTree.proper_directory_iff.mpr ⟨by decide, ?_⟩
    intro entry hentry
    exact (FileTree.proper_directory_iff.mp hrest).2 entry (List.mem_reverse.mp hentry)
  have hskips : ScanConfig.standard.Skips "tests".toList := .inr (by decide)
  have hlisted : (FileTree.directory entries).Listable .standard [] := by
    have hinner : (FileTree.directory inner).Listable .standard [] :=
      FileTree.listable_directory_cons_iff.mpr
        ⟨FileTree.listable_file _ _, FileTree.listable_directory_nil⟩
    simp only [entries, rest, FileTree.listable_directory_cons_iff]
    exact ⟨FileTree.listable_of_skips hskips, hinner.enter, FileTree.listable_file _ _,
      FileTree.listable_directory_nil⟩
  have hpasses : ScanConfig.standard.PassesOver "tests".toList (.directory tests) := hskips
  have hagree : (FileTree.directory entries).AgreeOutside .standard (.directory rest.reverse) :=
    (FileTree.AgreeOutside.of_passesOver hpasses rest).trans
      (FileTree.AgreeOutside.of_perm (List.reverse_perm rest).symm)
  have hcollect : ScanConfig.standard.collect root entries = .ok files := by
    have hfound : ScanConfig.standard.sourcesIn root entries = .ok files := by
      rfl
    have hordered : files.Pairwise fun a b => (a.path.compare b.path).isLE = true := by
      decide
    rw [ScanConfig.collect, hfound, Except.map, List.mergeSort_of_pairwise hordered]
  have hreport : ofPackage .standard root (some (.directory entries)) = .ok ⟨2, [], [{
      file := ⟨"shop/a/b.rs".toList⟩
      line := 1
      column := 26
      record := "Order".toList
      field := "code".toList
      annotation := "5".toList
      message := "`tag` attribute expects a single string literal".toList }]⟩ := by
    rw [ofPackage_of_collect root hcollect]
    decide +kernel
  obtain ⟨found, hfound, _, _, _, _, _, hothers⟩ := (ofPackage_exact root hproper).1 hlisted
  obtain ⟨hsame, hreports⟩ := hothers rest.reverse hother hagree
  rw [← hfound, hcollect] at hsame
  exact ⟨hsame, _, hreport, hreports.trans hreport, rfl⟩

end FieldRules
