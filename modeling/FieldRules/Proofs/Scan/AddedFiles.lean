import FieldRules.Proofs.Scan.PackageFiles
import Mathlib.Data.List.Induction

/-!
# Trees that are built file by file

A tree is built by putting one thing after another at its place.  The names in its
directories stay different, and in the end it holds what was put into it and nothing
else, so that a scan reads exactly the files that were put at places that count.
-/

namespace FieldRules

namespace FileTree

variable {name other : Text} {tree leaf found : FileTree} {way place : List Text}
  {entries : List (Text × FileTree)}

/-! ## Entries of a directory -/

theorem at_entry_iff :
    (FileTree.directory entries).At (name :: way) found ↔
      ∃ below, (name, below) ∈ entries ∧ below.At way found := by
  constructor
  · rintro (_ | ⟨hentry, h⟩)
    exact ⟨_, hentry, h⟩
  · rintro ⟨below, hentry, h⟩
    exact .inside hentry h

/-- Entries in which a tree is put in the place of what has its name. -/
def replaced (name : Text) (leaf : FileTree) (entries : List (Text × FileTree)) :
    List (Text × FileTree) :=
  entries.map fun entry => if entry.1 = name then (name, leaf) else entry

theorem setEntry_of_mem (hname : name ∈ entries.map Prod.fst) :
    (FileTree.directory entries).setEntry name leaf = .directory (replaced name leaf entries) :=
  if_pos (by simpa using hname)

theorem setEntry_of_not_mem (hname : name ∉ entries.map Prod.fst) :
    (FileTree.directory entries).setEntry name leaf = .directory (entries ++ [(name, leaf)]) :=
  if_neg (by simpa using hname)

theorem setEntry_of_no_directory (htree : ∀ entries, tree ≠ .directory entries) :
    tree.setEntry name leaf = .directory [(name, leaf)] := by
  cases tree with
  | directory entries => exact absurd rfl (htree entries)
  | _ => rfl

theorem exists_setEntry (tree : FileTree) (name : Text) (leaf : FileTree) :
    ∃ entries, tree.setEntry name leaf = .directory entries := by
  unfold setEntry
  split
  · split <;> exact ⟨_, rfl⟩
  · exact ⟨_, rfl⟩

theorem mem_replaced_iff {below : FileTree} (hname : name ∈ entries.map Prod.fst) :
    (other, below) ∈ replaced name leaf entries ↔
      if other = name then below = leaf else (other, below) ∈ entries := by
  rw [replaced, List.mem_map]
  split
  · next heq =>
      subst heq
      constructor
      · rintro ⟨⟨entry, old⟩, _, hentry⟩
        grind
      · rintro rfl
        obtain ⟨entry, hentry, rfl⟩ := List.mem_map.mp hname
        exact ⟨entry, hentry, if_pos rfl⟩
  · next hne =>
      constructor
      · rintro ⟨⟨entry, old⟩, hold, hentry⟩
        grind
      · intro hbelow
        exact ⟨_, hbelow, if_neg hne⟩

/-- An entry that is set is all that is found under its name; the others stay. -/
theorem at_setEntry_iff :
    (tree.setEntry name leaf).At (other :: way) found ↔
      if other = name then leaf.At way found else tree.At (other :: way) found := by
  by_cases htree : ∃ entries, tree = .directory entries
  · obtain ⟨entries, rfl⟩ := htree
    by_cases hname : name ∈ entries.map Prod.fst
    · simp only [setEntry_of_mem hname, at_entry_iff, mem_replaced_iff hname]
      split <;> simp
    · simp only [setEntry_of_not_mem hname, at_entry_iff, List.mem_append, List.mem_singleton,
        Prod.mk.injEq]
      split
      · next heq =>
          subst heq
          have hnone : ∀ below, (other, below) ∉ entries := fun below hbelow =>
            hname (List.mem_map_of_mem hbelow)
          simp [hnone]
      · next hne => simp [hne]
  · have hnone : ¬tree.At (other :: way) found := by
      rintro (_ | _)
      exact htree ⟨_, rfl⟩
    rw [setEntry_of_no_directory (not_exists.mp htree), at_entry_iff]
    split <;> simp_all

theorem map_fst_replaced :
    (replaced name leaf entries).map Prod.fst = entries.map Prod.fst := by
  rw [replaced, List.map_map]
  refine List.map_congr_left ?_
  intro entry _
  by_cases hentry : entry.1 = name <;> simp [hentry]

theorem Proper.setEntry (hproper : tree.Proper) (hleaf : leaf.Proper) (hname : IsEntryName name) :
    (tree.setEntry name leaf).Proper := by
  by_cases htree : ∃ entries, tree = .directory entries
  · obtain ⟨entries, rfl⟩ := htree
    obtain ⟨hnodup, hentries⟩ := proper_directory_iff.mp hproper
    by_cases hmem : name ∈ entries.map Prod.fst
    · rw [setEntry_of_mem hmem, proper_directory_iff, map_fst_replaced]
      refine ⟨hnodup, ?_⟩
      rintro ⟨other, below⟩ hbelow
      have hsplit := (mem_replaced_iff hmem).mp hbelow
      split at hsplit
      · next heq =>
          subst heq hsplit
          exact ⟨hname, hleaf⟩
      · exact hentries _ hsplit
    · rw [setEntry_of_not_mem hmem, proper_directory_iff, List.map_append, List.forall_mem_append]
      refine ⟨?_, hentries, by simp [hname, hleaf]⟩
      rw [List.map_singleton, ← List.concat_eq_append]
      exact hnodup.concat hmem
  · rw [setEntry_of_no_directory (not_exists.mp htree), proper_directory_iff]
    simp [hname, hleaf]

/-! ## Places below a tree -/

theorem proper_directory_nil : (FileTree.directory []).Proper :=
  proper_directory_iff.mpr (by simp)

theorem entry?_eq_some_iff {below : FileTree} (hnodup : (entries.map Prod.fst).Nodup) :
    FileTree.entry? name (.directory entries) = some below ↔ (name, below) ∈ entries := by
  unfold entry?
  rw [Option.map_eq_some_iff]
  constructor
  · rintro ⟨entry, hfind, rfl⟩
    have hname : entry.1 = name := by simpa using List.find?_some hfind
    exact hname ▸ List.mem_of_find?_eq_some hfind
  · intro hbelow
    have hsome : (entries.find? fun entry => entry.1 = name).isSome :=
      List.find?_isSome.mpr ⟨_, hbelow, decide_eq_true rfl⟩
    obtain ⟨entry, hfind⟩ := Option.isSome_iff_exists.mp hsome
    have hname : entry.1 = name := by simpa using List.find?_some hfind
    have hentry : entry = (name, below) :=
      List.inj_on_of_nodup_map hnodup (List.mem_of_find?_eq_some hfind) hbelow hname
    exact ⟨entry, hfind, by rw [hentry]⟩

theorem at_entry?_iff (hproper : tree.Proper) :
    tree.At (name :: way) found ↔ ∃ below, tree.entry? name = some below ∧ below.At way found := by
  cases tree with
  | directory entries =>
      obtain ⟨hnodup, _⟩ := proper_directory_iff.mp hproper
      simp only [at_entry_iff, entry?_eq_some_iff hnodup]
  | _ =>
      constructor
      · rintro (_ | _)
      · rintro ⟨below, hentry, _⟩
        cases hentry

theorem Proper.below {below : FileTree} (hproper : tree.Proper)
    (hentry : tree.entry? name = some below) : below.Proper :=
  fun way entries hat =>
    hproper (name :: way) entries ((at_entry?_iff hproper).mpr ⟨below, hentry, hat⟩)

/-- What an insertion goes on with under a name: what is there, or a new directory. -/
def entryOrNew (tree : FileTree) (name : Text) : FileTree :=
  (tree.entry? name).getD (.directory [])

theorem insert_cons (tree : FileTree) (name : Text) (way : List Text) (leaf : FileTree) :
    tree.insert (name :: way) leaf =
      tree.setEntry name ((tree.entryOrNew name).insert way leaf) :=
  rfl

theorem Proper.entryOrNew (hproper : tree.Proper) (name : Text) :
    (tree.entryOrNew name).Proper := by
  unfold FileTree.entryOrNew
  cases hentry : tree.entry? name with
  | none => exact proper_directory_nil
  | some below => exact hproper.below hentry

theorem at_entryOrNew_iff (hproper : tree.Proper) (hfound : ∀ entries, found ≠ .directory entries) :
    (tree.entryOrNew name).At way found ↔ tree.At (name :: way) found := by
  unfold entryOrNew
  rw [at_entry?_iff hproper]
  cases hentry : tree.entry? name with
  | none => simp [at_directory_iff hfound]
  | some below => simp

/-! ## Insertions -/

theorem Proper.insert (hproper : tree.Proper) (hleaf : leaf.Proper)
    (hway : ∀ name ∈ way, IsEntryName name) : (tree.insert way leaf).Proper := by
  induction way generalizing tree with
  | nil => exact hleaf
  | cons name way ih =>
      obtain ⟨hname, hway⟩ := List.forall_mem_cons.mp hway
      rw [insert_cons]
      exact hproper.setEntry (ih (hproper.entryOrNew name) hway) hname

/-- An insertion puts a tree at a place.  Of what stood elsewhere it keeps all but what its place
leads through, and what stood below its place. -/
theorem at_insert_iff (hproper : tree.Proper) (hfound : ∀ entries, found ≠ .directory entries) :
    (tree.insert way leaf).At place found ↔
      (∃ inner, place = way ++ inner ∧ leaf.At inner found) ∨
        (¬place <+: way ∧ ¬way <+: place ∧ tree.At place found) := by
  induction way generalizing tree place with
  | nil => simp [insert]
  | cons name way ih =>
      rw [insert_cons]
      cases place with
      | nil =>
          constructor
          · intro h
            obtain ⟨entries, hentries⟩ :=
              exists_setEntry tree name ((tree.entryOrNew name).insert way leaf)
            rw [hentries] at h
            cases h
            exact absurd rfl (hfound entries)
          · simp
      | cons other place =>
          rw [at_setEntry_iff]
          split
          · next heq =>
              subst heq
              rw [ih (hproper.entryOrNew other), at_entryOrNew_iff hproper hfound]
              simp [List.cons_prefix_cons]
          · next hne =>
              simp [List.cons_prefix_cons, hne, Ne.symm hne]

/-! ## Trees from nothing -/

/-- The tree in which every one of some trees is put at its place, one after another. -/
def built (files : List (List Text × FileTree)) : FileTree :=
  files.foldl (fun tree file => tree.insert file.1 file.2) (.directory [])

/-- Neither of the two places leads through the other one. -/
def Apart (way other : List Text) : Prop := ¬way <+: other ∧ ¬other <+: way

/-- What is below one of two places that are apart is apart from the other. -/
theorem Apart.append {old : List Text} (h : Apart old way) (inner : List Text) :
    Apart (old ++ inner) way := by
  have hold : old <+: old ++ inner := List.prefix_append old inner
  constructor
  · intro hshort
    exact h.1 (hold.trans hshort)
  · intro hlong
    rcases List.prefix_or_prefix_of_prefix hlong hold with hway | hback
    · exact h.2 hway
    · exact h.1 hback

variable {files : List (List Text × FileTree)}

theorem built_append_singleton (files : List (List Text × FileTree)) (way : List Text)
    (leaf : FileTree) : built (files ++ [(way, leaf)]) = (built files).insert way leaf := by
  simp [built]

theorem proper_built
    (hfiles : ∀ file ∈ files, file.2.Proper ∧ ∀ name ∈ file.1, IsEntryName name) :
    (built files).Proper := by
  induction files using List.reverseRecOn with
  | nil => exact proper_directory_nil
  | append_singleton files file ih =>
      obtain ⟨hfiles, hfile⟩ := List.forall_mem_append.mp hfiles
      obtain ⟨hleaf, hway⟩ := hfile file (List.mem_singleton.mpr rfl)
      rw [built_append_singleton]
      exact (ih hfiles).insert hleaf hway

/-- If the places are apart, then what is found in the tree is what was put into it. -/
theorem at_built_iff
    (hfiles : ∀ file ∈ files, file.2.Proper ∧ ∀ name ∈ file.1, IsEntryName name)
    (hapart : files.Pairwise fun a b => Apart a.1 b.1)
    (hfound : ∀ entries, found ≠ .directory entries) :
    (built files).At place found ↔
      ∃ way leaf inner, (way, leaf) ∈ files ∧ place = way ++ inner ∧ leaf.At inner found := by
  induction files using List.reverseRecOn with
  | nil => simp [built, at_directory_iff hfound]
  | append_singleton files file ih =>
      obtain ⟨way, leaf⟩ := file
      obtain ⟨hold, _⟩ := List.forall_mem_append.mp hfiles
      obtain ⟨hpairs, _, hnew⟩ := List.pairwise_append.mp hapart
      rw [built_append_singleton, at_insert_iff (proper_built hold) hfound, ih hold hpairs]
      constructor
      · rintro (⟨inner, hplace, hat⟩ | ⟨_, _, old, below, inner, hmem, hplace, hat⟩)
        · exact ⟨way, leaf, inner, by simp, hplace, hat⟩
        · exact ⟨old, below, inner, List.mem_append_left _ hmem, hplace, hat⟩
      · rintro ⟨old, below, inner, hmem, rfl, hat⟩
        rcases List.mem_append.mp hmem with hmem | hmem
        · obtain ⟨hbelow, habove⟩ :=
            (hnew _ hmem _ (List.mem_singleton.mpr rfl)).append inner
          exact .inr ⟨hbelow, habove, old, below, inner, hmem, rfl, hat⟩
        · obtain ⟨rfl, rfl⟩ := Prod.mk.inj (List.mem_singleton.mp hmem)
          exact .inl ⟨inner, rfl, hat⟩

/-- The sources in a tree that is built from others are those in the others, each with the place of
its tree in front. -/
theorem hasSource_built_iff {config : ScanConfig} {root : FilePath} {file : FoundFile}
    (hfiles : ∀ file ∈ files, file.2.Proper ∧ ∀ name ∈ file.1, IsEntryName name)
    (hapart : files.Pairwise fun a b => Apart a.1 b.1) :
    (built files).HasSource config root [] file ↔
      ∃ way leaf, (way, leaf) ∈ files ∧
        leaf.HasSource config (way.foldl FilePath.join root) way file := by
  unfold HasSource
  constructor
  · rintro ⟨place, content, hfound, hcounts, rfl⟩
    obtain ⟨way, leaf, inner, hmem, rfl, hat⟩ :=
      (at_built_iff hfiles hapart (by simp)).mp hfound
    exact ⟨way, leaf, hmem, inner, content, hat, hcounts, by rw [List.foldl_append]⟩
  · rintro ⟨way, leaf, hmem, inner, content, hat, hcounts, rfl⟩
    have hfound := (at_built_iff hfiles hapart (by simp)).mpr ⟨way, leaf, inner, hmem, rfl, hat⟩
    exact ⟨way ++ inner, content, hfound, hcounts, by rw [List.foldl_append]⟩

end FileTree

end FieldRules
