import FieldRules.Proofs.Scan.JoinedPaths
import FieldRules.Proofs.Text.Trimming
import FieldRules.Scan.Package

/-!
# Which files a scan reads

A place in a file tree is given by the names that lead to it.  A scan reads the files
at the places that count: no directory on the way is skipped, and the name is that of
a source file and of no test.  It reads each of them once, in the order of their
paths, whatever the order in which directories list their entries.  All else in the
tree makes no difference, and so it is with the report.

The statements go up the tree: what is true of the trees in a directory is put
together for the directory, one entry after the other.
-/

namespace FieldRules

namespace FileTree

/-- The second tree is found in the first one along the names. -/
inductive At : FileTree → List Text → FileTree → Prop where
  | here (tree : FileTree) : At tree [] tree
  | inside {entries : List (Text × FileTree)} {name : Text} {tree found : FileTree}
      {way : List Text} (hentry : (name, tree) ∈ entries) (h : At tree way found) :
      At (.directory entries) (name :: way) found

/-- In every directory, the entries have names of their own. -/
def Proper (tree : FileTree) : Prop :=
  ∀ way entries, tree.At way (.directory entries) →
    (entries.map Prod.fst).Nodup ∧ ∀ entry ∈ entries, IsEntryName entry.1

end FileTree

namespace ScanConfig

/-- Directories of this name are not entered. -/
def Skips (config : ScanConfig) (name : Text) : Prop :=
  (∃ rest, name = '.' :: rest) ∨ name ∈ config.skipDirectories

/-- Files of this name are read. -/
structure Reads (config : ScanConfig) (name : Text) : Prop where
  ending : ∃ stem, stem ≠ [] ∧ name = stem ++ ".rs".toList
  no_test : name ∉ config.testFiles
  no_suffix : ∀ suffix ∈ config.testSuffixes, ¬suffix <:+ name

def Open (config : ScanConfig) (directories : List Text) : Prop :=
  ∀ name ∈ directories, ¬config.Skips name

/-- A file at this place is read: nothing on the way to it is skipped, and it has the right name. -/
def Counts (config : ScanConfig) (way : List Text) : Prop :=
  ∃ directories name, way = directories ++ [name] ∧ config.Open directories ∧ config.Reads name

variable {config : ScanConfig} {name : Text} {way : List Text}

theorem skipsDirectory_iff : config.skipsDirectory name = true ↔ config.Skips name := by
  have hhead : name.head? = some '.' ↔ ∃ rest, name = '.' :: rest := by
    cases name <;> simp
  simp [skipsDirectory, Skips, hhead]

theorem isSourceName_iff :
    isSourceName name = true ↔ ∃ stem, stem ≠ [] ∧ name = stem ++ ".rs".toList := by
  unfold isSourceName
  constructor
  · intro hsource
    split at hsource
    · next c stem hdrop => exact ⟨c :: stem, by simp, Text.dropEnd?_eq_some_iff.mp hdrop⟩
    · contradiction
  · rintro ⟨stem, hstem, hname⟩
    rw [Text.dropEnd?_eq_some_iff.mpr hname]
    cases stem with
    | nil => contradiction
    | cons c stem => rfl

theorem isTestFile_iff :
    config.isTestFile name = true ↔
      name ∈ config.testFiles ∨ ∃ suffix ∈ config.testSuffixes, suffix <:+ name := by
  have hdrop (suffix : Text) : (Text.dropEnd? suffix name).isSome = true ↔ suffix <:+ name := by
    simp only [Option.isSome_iff_exists, Text.dropEnd?_eq_some_iff]
    exact exists_congr fun rest => eq_comm
  simp [isTestFile, hdrop]

theorem reads_iff : (isSourceName name && !config.isTestFile name) = true ↔ config.Reads name := by
  rw [Bool.and_eq_true, Bool.not_eq_true', ← Bool.not_eq_true, isSourceName_iff, isTestFile_iff]
  constructor
  · rintro ⟨hending, htest⟩
    obtain ⟨hfile, hsuffix⟩ := not_or.mp htest
    exact ⟨hending, hfile, fun suffix hmem hend => hsuffix ⟨suffix, hmem, hend⟩⟩
  · rintro ⟨hending, hfile, hsuffix⟩
    refine ⟨hending, not_or.mpr ⟨hfile, ?_⟩⟩
    rintro ⟨suffix, hmem, hend⟩
    exact hsuffix suffix hmem hend

theorem open_cons_iff : config.Open (name :: way) ↔ ¬config.Skips name ∧ config.Open way :=
  List.forall_mem_cons

theorem counts_singleton_iff : config.Counts [name] ↔ config.Reads name := by
  constructor
  · rintro ⟨directories, last, hway, _, hlast⟩
    obtain ⟨_, heq⟩ := List.append_inj' (List.nil_append [name] |>.trans hway) rfl
    rwa [List.singleton_inj.mp heq]
  · intro hname
    exact ⟨[], name, rfl, fun _ hmem => absurd hmem List.not_mem_nil, hname⟩

theorem counts_cons_iff (hway : way ≠ []) :
    config.Counts (name :: way) ↔ ¬config.Skips name ∧ config.Counts way := by
  constructor
  · rintro ⟨directories, last, heq, hopen, hlast⟩
    cases directories with
    | nil => exact absurd (List.cons.inj heq).2 hway
    | cons first directories =>
        obtain ⟨rfl, rfl⟩ := List.cons.inj heq
        obtain ⟨hfirst, hrest⟩ := open_cons_iff.mp hopen
        exact ⟨hfirst, directories, last, rfl, hrest, hlast⟩
  · rintro ⟨hname, directories, last, rfl, hopen, hlast⟩
    exact ⟨name :: directories, last, rfl, open_cons_iff.mpr ⟨hname, hopen⟩, hlast⟩

end ScanConfig

/-! ## Trees and their parts -/

namespace FileTree

variable {name : Text} {tree found : FileTree} {entries rest : List (Text × FileTree)}
  {way : List Text}

/-- A tree that is no directory has nothing below it. -/
theorem At.of_no_directory (h : tree.At way found) (htree : ∀ entries, tree ≠ .directory entries) :
    way = [] ∧ found = tree := by
  cases h with
  | here tree => exact ⟨rfl, rfl⟩
  | inside => exact absurd rfl (htree _)

/-- What is found below a directory and is none itself is found below an entry. -/
theorem at_directory_iff (hfound : ∀ entries, found ≠ .directory entries) :
    (FileTree.directory entries).At way found ↔
      ∃ name tree inner, (name, tree) ∈ entries ∧ way = name :: inner ∧ tree.At inner found := by
  constructor
  · intro h
    cases h with
    | here tree => exact absurd rfl (hfound _)
    | inside hentry h => exact ⟨_, _, _, hentry, rfl, h⟩
  · rintro ⟨name, tree, inner, hentry, rfl, h⟩
    exact .inside hentry h

theorem at_directory_cons_iff (hfound : ∀ entries, found ≠ .directory entries) :
    (FileTree.directory ((name, tree) :: rest)).At way found ↔
      (∃ inner, way = name :: inner ∧ tree.At inner found) ∨
        (FileTree.directory rest).At way found := by
  simp only [at_directory_iff hfound, List.mem_cons, Prod.mk.injEq]
  constructor
  · rintro ⟨_, _, inner, ⟨rfl, rfl⟩ | hentry, hway, h⟩
    · exact .inl ⟨inner, hway, h⟩
    · exact .inr ⟨_, _, inner, hentry, hway, h⟩
  · rintro (⟨inner, hway, h⟩ | ⟨other, subtree, inner, hentry, hway, h⟩)
    · exact ⟨name, tree, inner, .inl ⟨rfl, rfl⟩, hway, h⟩
    · exact ⟨other, subtree, inner, .inr hentry, hway, h⟩

theorem proper_of_no_directory (htree : ∀ entries, tree ≠ .directory entries) : tree.Proper := by
  intro way entries h
  obtain ⟨_, heq⟩ := h.of_no_directory htree
  exact absurd heq.symm (htree entries)

theorem proper_directory_iff :
    (FileTree.directory entries).Proper ↔
      (entries.map Prod.fst).Nodup ∧
        ∀ entry ∈ entries, IsEntryName entry.1 ∧ entry.2.Proper := by
  constructor
  · intro h
    obtain ⟨hnodup, hnames⟩ := h [] entries (.here _)
    refine ⟨hnodup, ?_⟩
    intro entry hentry
    exact ⟨hnames entry hentry, fun way inner hat => h (entry.1 :: way) inner (.inside hentry hat)⟩
  · rintro ⟨hnodup, hentries⟩ way inner hat
    cases hat with
    | here => exact ⟨hnodup, fun entry hentry => (hentries entry hentry).1⟩
    | inside hentry hat => exact (hentries _ hentry).2 _ _ hat

theorem Proper.names (hproper : tree.Proper) (h : tree.At way found) :
    ∀ name ∈ way, IsEntryName name := by
  induction h with
  | here tree => simp
  | inside hentry _ ih =>
      obtain ⟨hname, htree⟩ := (proper_directory_iff.mp hproper).2 _ hentry
      exact List.forall_mem_cons.mpr ⟨hname, ih htree⟩

end FileTree

/-! ## Going through a tree -/

section Walking

variable (config : ScanConfig)

/-- The file is found in a tree, at a place that counts.  The tree itself has the given path, and
stands where the names in front lead to. -/
def FileTree.HasSource (path : FilePath) (front : List Text) (tree : FileTree) (file : FoundFile) :
    Prop :=
  ∃ way content, tree.At way (.file content) ∧ config.Counts (front ++ way) ∧
    file = ⟨way.foldl FilePath.join path, content⟩

/-- Every directory that is entered can be listed. -/
def FileTree.Listable (front : List Text) (tree : FileTree) : Prop :=
  ∀ way reason, tree.At way (.sealed reason) → ¬config.Open (front ++ way)

/-- What comes of going through a tree: all sources in it, each once, or a directory that cannot be
listed. -/
inductive FileTree.Walked (path : FilePath) (front : List Text) (tree : FileTree) :
    Except ScanFault (List FoundFile) → Prop where
  | ok {files : List FoundFile} (hlisted : tree.Listable config front)
      (hmem : ∀ file, file ∈ files ↔ tree.HasSource config path front file)
      (hdistinct : files.Pairwise fun a b => a.path.components ≠ b.path.components) :
      Walked path front tree (.ok files)
  | error {way : List Text} {reason : Text} (hat : tree.At way (.sealed reason))
      (hopen : config.Open (front ++ way)) :
      Walked path front tree (.error (.unreadable (way.foldl FilePath.join path) reason))

namespace FileTree

variable {config} {path directory : FilePath} {name : Text} {tree : FileTree}
  {entries rest : List (Text × FileTree)}

theorem hasSource_directory_cons_iff {file : FoundFile} :
    (FileTree.directory ((name, tree) :: rest)).HasSource config directory [] file ↔
      tree.HasSource config (directory.join name) [name] file ∨
        (FileTree.directory rest).HasSource config directory [] file := by
  unfold HasSource
  constructor
  · rintro ⟨way, content, hat, hcounts, rfl⟩
    rcases (at_directory_cons_iff (by simp)).mp hat with ⟨inner, rfl, hinner⟩ | hrest
    · exact .inl ⟨inner, content, hinner, hcounts, rfl⟩
    · exact .inr ⟨way, content, hrest, hcounts, rfl⟩
  · rintro (⟨inner, content, hinner, hcounts, rfl⟩ | ⟨way, content, hrest, hcounts, rfl⟩)
    · exact ⟨name :: inner, content, .inside List.mem_cons_self hinner, hcounts, rfl⟩
    · exact ⟨way, content, (at_directory_cons_iff (by simp)).mpr (.inr hrest), hcounts, rfl⟩

theorem listable_directory_cons_iff :
    (FileTree.directory ((name, tree) :: rest)).Listable config [] ↔
      tree.Listable config [name] ∧ (FileTree.directory rest).Listable config [] := by
  unfold Listable
  constructor
  · intro h
    constructor
    · intro way reason hat
      exact h (name :: way) reason (.inside List.mem_cons_self hat)
    · intro way reason hat
      exact h way reason ((at_directory_cons_iff (by simp)).mpr (.inr hat))
  · rintro ⟨htree, hrest⟩ way reason hat
    rcases (at_directory_cons_iff (by simp)).mp hat with ⟨inner, rfl, hinner⟩ | hother
    · exact htree inner reason hinner
    · exact hrest way reason hother

theorem listable_directory_nil : (FileTree.directory []).Listable config [] := by
  intro way reason hat
  obtain ⟨_, _, _, hentry, _⟩ := (at_directory_iff (by simp)).mp hat
  contradiction

theorem listable_file (content : Except Text Text) (front : List Text) :
    (FileTree.file content).Listable config front := by
  intro way reason hat
  obtain ⟨_, heq⟩ := hat.of_no_directory (by simp)
  contradiction

theorem listable_of_skips (hskip : config.Skips name) : tree.Listable config [name] := by
  intro way reason _ hopen
  exact (ScanConfig.open_cons_iff.mp hopen).1 hskip

theorem Listable.enter (h : tree.Listable config []) : tree.Listable config [name] :=
  fun way reason hat hopen => h way reason hat (ScanConfig.open_cons_iff.mp hopen).2

/-- The paths of sources below different names are different, since both begin with that of the
directory. -/
theorem components_ne_of_name_ne
    (hproper : (FileTree.directory ((name, tree) :: rest)).Proper) {file other : FoundFile}
    (hfile : tree.HasSource config (directory.join name) [name] file)
    (hother : (FileTree.directory rest).HasSource config directory [] other) :
    file.path.components ≠ other.path.components := by
  obtain ⟨hnodup, hentries⟩ := proper_directory_iff.mp hproper
  obtain ⟨hname, htree⟩ := hentries _ List.mem_cons_self
  obtain ⟨way, content, hat, _, rfl⟩ := hfile
  obtain ⟨long, _, hlong, _, rfl⟩ := hother
  obtain ⟨next, subtree, inner, hentry, rfl, hinner⟩ := (at_directory_iff (by simp)).mp hlong
  obtain ⟨hnext, hsubtree⟩ := hentries _ (List.mem_cons_of_mem _ hentry)
  have hdifferent : name ≠ next := by
    rintro rfl
    exact (List.nodup_cons.mp hnodup).1 (List.mem_map.mpr ⟨_, hentry, rfl⟩)
  have hway : ∀ part ∈ name :: way, IsEntryName part :=
    List.forall_mem_cons.mpr ⟨hname, htree.names hat⟩
  have hlongWay : ∀ part ∈ next :: inner, IsEntryName part :=
    List.forall_mem_cons.mpr ⟨hnext, hsubtree.names hinner⟩
  intro heq
  rw [← List.foldl_cons, FilePath.components_foldl_join directory hway,
    FilePath.components_foldl_join directory hlongWay] at heq
  have hparts := List.append_cancel_left heq
  rw [List.map_cons, List.map_cons, List.cons.injEq, FilePath.Component.name.injEq] at hparts
  exact hdifferent hparts.1

theorem Proper.tail (hproper : (FileTree.directory ((name, tree) :: rest)).Proper) :
    (FileTree.directory rest).Proper := by
  obtain ⟨hnodup, hentries⟩ := proper_directory_iff.mp hproper
  exact proper_directory_iff.mpr
    ⟨(List.nodup_cons.mp hnodup).2, fun entry hentry => hentries entry (.tail _ hentry)⟩

theorem hasSource_file_iff {content : Except Text Text} {file : FoundFile} :
    (FileTree.file content).HasSource config path [name] file ↔
      config.Reads name ∧ file = ⟨path, content⟩ := by
  unfold HasSource
  constructor
  · rintro ⟨way, other, hat, hcounts, rfl⟩
    obtain ⟨rfl, heq⟩ := hat.of_no_directory (by simp)
    rw [FileTree.file.injEq] at heq
    exact ⟨ScanConfig.counts_singleton_iff.mp hcounts, by rw [heq]; rfl⟩
  · rintro ⟨hname, rfl⟩
    exact ⟨[], content, .here _, ScanConfig.counts_singleton_iff.mpr hname, rfl⟩

theorem Walked.nothing {front : List Text}
    (hlisted : tree.Listable config front) (hnone : ∀ file, ¬tree.HasSource config path front file) :
    tree.Walked config path front (.ok []) :=
  .ok hlisted (by simpa using hnone) List.Pairwise.nil

theorem Walked.of_file (content : Except Text Text) :
    (FileTree.file content).Walked config path [name]
      (config.sourcesAt path name (.file content)) := by
  have hlisted : (FileTree.file content).Listable config [name] := listable_file content [name]
  rw [ScanConfig.sourcesAt]
  split
  · next hreads =>
      refine .ok hlisted ?_ (List.pairwise_singleton _ _)
      intro file
      rw [hasSource_file_iff, List.mem_singleton]
      exact (and_iff_right (ScanConfig.reads_iff.mp hreads)).symm
  · next hreads =>
      apply Walked.nothing hlisted
      intro file hfile
      exact hreads (ScanConfig.reads_iff.mpr (hasSource_file_iff.mp hfile).1)

/-- Nothing counts in a directory that is skipped. -/
theorem Walked.of_skipped (hskip : config.Skips name) (hfile : ∀ content, tree ≠ .file content) :
    tree.Walked config path [name] (.ok []) := by
  apply Walked.nothing (listable_of_skips hskip)
  rintro file ⟨way, content, hat, hcounts, _⟩
  cases hat with
  | here => exact hfile content rfl
  | inside => exact ((ScanConfig.counts_cons_iff (by simp)).mp hcounts).1 hskip

/-- Neither links nor special files are looked into. -/
theorem Walked.of_no_directory
    (hfile : ∀ content, tree ≠ .file content) (hdirectory : ∀ entries, tree ≠ .directory entries)
    (hsealed : ∀ reason, tree ≠ .sealed reason) {front : List Text} :
    tree.Walked config path front (.ok []) := by
  apply Walked.nothing
  · intro way reason hat
    obtain ⟨_, heq⟩ := hat.of_no_directory hdirectory
    exact absurd heq.symm (hsealed reason)
  · rintro file ⟨way, content, hat, _⟩
    obtain ⟨_, heq⟩ := hat.of_no_directory hdirectory
    exact absurd heq.symm (hfile content)

/-- The name of a directory makes no difference for what is in it, unless it is skipped. -/
theorem Walked.enter
    {result : Except ScanFault (List FoundFile)} (hname : ¬config.Skips name)
    (h : (FileTree.directory entries).Walked config path [] result) :
    (FileTree.directory entries).Walked config path [name] result := by
  cases h with
  | @ok files hlisted hmem hdistinct =>
      refine .ok hlisted.enter ?_ hdistinct
      intro file
      rw [hmem]
      refine exists_congr fun way => exists_congr fun content => and_congr_right fun hat => ?_
      have hway : way ≠ [] := by
        rintro rfl
        cases hat
      simp [ScanConfig.counts_cons_iff hway, hname]
  | error hat hopen => exact .error hat (ScanConfig.open_cons_iff.mpr ⟨hname, hopen⟩)

theorem Walked.nil : (FileTree.directory []).Walked config directory [] (.ok []) := by
  apply Walked.nothing listable_directory_nil
  rintro file ⟨way, content, hat, _⟩
  obtain ⟨_, _, _, hentry, _⟩ := (at_directory_iff (by simp)).mp hat
  contradiction

theorem Walked.error_of_first {fault : ScanFault}
    (hfirst : tree.Walked config (directory.join name) [name] (.error fault)) :
    (FileTree.directory ((name, tree) :: rest)).Walked config directory [] (.error fault) := by
  cases hfirst with
  | error hat hopen => exact .error (.inside List.mem_cons_self hat) hopen

theorem Walked.error_of_rest {fault : ScanFault}
    (hrest : (FileTree.directory rest).Walked config directory [] (.error fault)) :
    (FileTree.directory ((name, tree) :: rest)).Walked config directory [] (.error fault) := by
  cases hrest with
  | error hat hopen => exact .error ((at_directory_cons_iff (by simp)).mpr (.inr hat)) hopen

theorem Walked.append
    (hproper : (FileTree.directory ((name, tree) :: rest)).Proper) {found more : List FoundFile}
    (hfirst : tree.Walked config (directory.join name) [name] (.ok found))
    (hrest : (FileTree.directory rest).Walked config directory [] (.ok more)) :
    (FileTree.directory ((name, tree) :: rest)).Walked config directory [] (.ok (found ++ more)) := by
  cases hfirst with
  | ok hlisted hmem hdistinct =>
      cases hrest with
      | ok hlistedRest hmemRest hdistinctRest =>
          refine .ok (listable_directory_cons_iff.mpr ⟨hlisted, hlistedRest⟩) ?_ ?_
          · intro file
            rw [List.mem_append, hmem, hmemRest, hasSource_directory_cons_iff]
          · refine List.pairwise_append.mpr ⟨hdistinct, hdistinctRest, ?_⟩
            intro file hfile other hother
            exact components_ne_of_name_ne hproper ((hmem file).mp hfile)
              ((hmemRest other).mp hother)

end FileTree

open FileTree (Walked)

mutual

/-- Going through a tree finds its sources, or a directory that cannot be listed. -/
theorem ScanConfig.sourcesAt_walked (path : FilePath) (name : Text) :
    ∀ tree : FileTree, tree.Proper → tree.Walked config path [name] (config.sourcesAt path name tree)
  | .file content, _ => Walked.of_file content
  | .directory entries, hproper => by
      rw [sourcesAt]
      split
      · next hskip => exact Walked.of_skipped (skipsDirectory_iff.mp hskip) (by simp)
      · next hskip =>
          exact Walked.enter (mt skipsDirectory_iff.mpr hskip)
            (sourcesIn_walked path entries hproper)
  | .sealed reason, _ => by
      rw [sourcesAt]
      split
      · next hskip => exact Walked.of_skipped (skipsDirectory_iff.mp hskip) (by simp)
      · next hskip =>
          have hopen : config.Open ([name] ++ []) :=
            open_cons_iff.mpr ⟨mt skipsDirectory_iff.mpr hskip, by simp [Open]⟩
          exact Walked.error (.here _) hopen
  | .link _, _ => Walked.of_no_directory (by simp) (by simp) (by simp)
  | .special, _ => Walked.of_no_directory (by simp) (by simp) (by simp)

theorem ScanConfig.sourcesIn_walked (directory : FilePath) :
    ∀ entries, (FileTree.directory entries).Proper →
      (FileTree.directory entries).Walked config directory [] (config.sourcesIn directory entries)
  | [], _ => Walked.nil
  | (name, tree) :: rest, hproper => by
      obtain ⟨_, hentries⟩ := FileTree.proper_directory_iff.mp hproper
      have hfirst := sourcesAt_walked (directory.join name) name tree
        (hentries _ List.mem_cons_self).2
      have hrest := sourcesIn_walked directory rest hproper.tail
      rw [sourcesIn]
      cases hfound : config.sourcesAt (directory.join name) name tree with
      | error fault =>
          rw [hfound] at hfirst
          exact hfirst.error_of_first
      | ok found =>
          rw [hfound] at hfirst
          cases hmore : config.sourcesIn directory rest with
          | error fault =>
              rw [hmore] at hrest
              exact hrest.error_of_rest
          | ok more =>
              rw [hmore] at hrest
              exact Walked.append hproper hfirst hrest

end

end Walking

end FieldRules
