import FieldRules.Proofs.Scan.DiagnosticOrder

/-!
# Paths of entries

The path of an entry is that of its directory with the name put behind it.  However
the directory is spelled, the path has one component more, which is the name.  Files
below one directory are therefore told apart by the names that lead to them.
-/

namespace FieldRules

/-- An entry of a directory can have this name. -/
structure IsEntryName (name : Text) : Prop where
  ne_nil : name ≠ []
  ne_dot : name ≠ ['.']
  ne_dots : name ≠ ['.', '.']
  no_separator : '/' ∉ name

instance (name : Text) : Decidable (IsEntryName name) :=
  decidable_of_iff (name ≠ [] ∧ name ≠ ['.'] ∧ name ≠ ['.', '.'] ∧ '/' ∉ name)
    ⟨fun ⟨hnil, hdot, hdots, hseparator⟩ => ⟨hnil, hdot, hdots, hseparator⟩,
      fun h => ⟨h.ne_nil, h.ne_dot, h.ne_dots, h.no_separator⟩⟩

namespace FilePath

theorem pieces_ne_nil (t : Text) : pieces t ≠ [] := by
  cases t with
  | nil => simp [pieces]
  | cons c rest =>
      rw [pieces]
      split
      · simp
      · split <;> simp

theorem pieces_of_no_separator {t : Text} (hplain : '/' ∉ t) : pieces t = [t] := by
  induction t with
  | nil => rfl
  | cons c rest ih =>
      obtain ⟨hc, hrest⟩ := not_or.mp (mt List.mem_cons.mpr hplain)
      rw [pieces, if_neg (Ne.symm hc), ih hrest]

theorem pieces_append_separator (s t : Text) : pieces (s ++ '/' :: t) = pieces s ++ pieces t := by
  induction s with
  | nil => simp [pieces]
  | cons c rest ih =>
      rw [List.cons_append, pieces, pieces, ih]
      by_cases hc : c = '/'
      · rw [if_pos hc, if_pos hc, List.cons_append]
      · rw [if_neg hc, if_neg hc]
        cases hpieces : pieces rest with
        | nil => exact absurd hpieces (pieces_ne_nil rest)
        | cons first more => rfl

variable {name : Text}

theorem components_separator_cons (t : Text) :
    components ⟨'/' :: t⟩ = .root :: (pieces t).filterMap component? := by
  have habsolute : isAbsolute ⟨'/' :: t⟩ = true := rfl
  have hpieces : pieces ('/' :: t) = [] :: pieces t := rfl
  simp [components, habsolute, hpieces, component?]

/-- A path goes on behind a separator with the pieces that come after it. -/
theorem components_append_separator {s : Text} (hs : s ≠ []) (t : Text) :
    components ⟨s ++ '/' :: t⟩ = components ⟨s⟩ ++ (pieces t).filterMap component? := by
  have hhead : (pieces s ++ pieces t).head? = (pieces s).head? :=
    List.head?_append_of_ne_nil _ (pieces_ne_nil s)
  have habsolute : isAbsolute ⟨s ++ '/' :: t⟩ = isAbsolute ⟨s⟩ := by
    simp only [isAbsolute, List.head?_append_of_ne_nil _ hs]
  simp only [components, pieces_append_separator, habsolute, hhead, List.filterMap_append]
  split_ifs <;> simp

theorem component?_of_isEntryName (hname : IsEntryName name) :
    component? name = some (.name name) := by
  simp [component?, hname.ne_nil, hname.ne_dot, hname.ne_dots]

theorem filterMap_component?_pieces (hname : IsEntryName name) :
    (pieces name).filterMap component? = [.name name] := by
  rw [pieces_of_no_separator hname.no_separator]
  simp [component?_of_isEntryName hname]

theorem components_of_isEntryName (hname : IsEntryName name) :
    components ⟨name⟩ = [.name name] := by
  have hrelative : isAbsolute ⟨name⟩ = false := by
    have hhead : name.head? ≠ some '/' := fun hhead =>
      hname.no_separator (List.mem_of_mem_head? hhead)
    simp [isAbsolute, hhead]
  have hpieces := pieces_of_no_separator hname.no_separator
  simp [components, hrelative, hpieces, component?_of_isEntryName hname, hname.ne_dot]

theorem components_join (directory : FilePath) (hname : IsEntryName name) :
    (directory.join name).components = directory.components ++ [.name name] := by
  have hstep := filterMap_component?_pieces hname
  obtain ⟨text⟩ := directory
  unfold join
  by_cases hempty : text = []
  · subst hempty
    rw [if_pos (.inl rfl)]
    exact components_of_isEntryName hname
  · by_cases hlast : text.getLast? = some '/'
    · rw [if_pos (.inr hlast)]
      obtain ⟨front, rfl⟩ := List.getLast?_eq_some_iff.mp hlast
      rw [List.append_assoc, List.singleton_append]
      by_cases hfront : front = []
      · subst hfront
        rw [List.nil_append, List.nil_append, components_separator_cons,
          components_separator_cons, hstep]
        rfl
      · rw [components_append_separator hfront, components_append_separator hfront, hstep]
        simp [pieces, component?]
    · rw [if_neg (not_or.mpr ⟨hempty, hlast⟩), components_append_separator hempty, hstep]

theorem components_foldl_join (directory : FilePath) {way : List Text}
    (hway : ∀ name ∈ way, IsEntryName name) :
    (way.foldl join directory).components = directory.components ++ way.map .name := by
  induction way generalizing directory with
  | nil => simp
  | cons name rest ih =>
      obtain ⟨hname, hrest⟩ := List.forall_mem_cons.mp hway
      rw [List.foldl_cons, ih _ hrest, components_join directory hname]
      simp

end FilePath

end FieldRules
