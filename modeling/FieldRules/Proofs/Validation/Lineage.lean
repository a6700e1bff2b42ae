import FieldRules.Proofs.Text.Order
import FieldRules.Proofs.Validation.CleanAnnotations
import FieldRules.Validation.Session
import Mathlib.Data.List.Dedup

/-!
# The lineage of a validator

The current validator of a session may be a copy of one that was put aside, which
was a copy of another, and so on.  Its lineage is what was done to it and to those
that it comes from, before they were copied.  The main statement is that a validator
shows its lineage and nothing else: of all registrations under a name the last one
counts, and of all formatters the last one that was installed.  What is done to
another copy does not show.
-/

namespace FieldRules

/-- What can be done to a validator. -/
inductive Change where
  | register (name : Text) (rule : Rule)
  | install (formatter : Formatter)

namespace Change

/-- The rule that was registered last under a name.  The latest change comes first. -/
def latestRule? (name : Text) : List Change → Option Rule
  | [] => none
  | .register other rule :: earlier =>
    if other = name then some rule else latestRule? name earlier
  | .install _ :: earlier => latestRule? name earlier

def latestFormatter : List Change → Formatter
  | [] => defaultFormatter
  | .register _ _ :: earlier => latestFormatter earlier
  | .install formatter :: _ => formatter

def registeredNames : List Change → List Text
  | [] => []
  | .register name _ :: earlier => name :: registeredNames earlier
  | .install _ :: earlier => registeredNames earlier

/-- The changes by which rules are registered, of which the first comes first. -/
def ofRules (rules : List (Text × Rule)) : List Change :=
  (rules.map fun entry => .register entry.1 entry.2).reverse

theorem mem_registeredNames_iff {name : Text} {changes : List Change} :
    name ∈ registeredNames changes ↔ ∃ rule, .register name rule ∈ changes := by
  induction changes with
  | nil => simp [registeredNames]
  | cons change earlier ih =>
      cases change with
      | install formatter => simp [registeredNames, ih]
      | register other rule =>
          rw [registeredNames, List.mem_cons, ih]
          constructor
          · rintro (rfl | ⟨found, hfound⟩)
            · exact ⟨rule, List.mem_cons_self⟩
            · exact ⟨found, List.mem_cons_of_mem _ hfound⟩
          · rintro ⟨found, hfound⟩
            rcases List.mem_cons.mp hfound with heq | hrest
            · exact .inl (Change.register.inj heq).1
            · exact .inr ⟨found, hrest⟩

theorem latestRule?_isSome_iff {name : Text} {changes : List Change} :
    (latestRule? name changes).isSome = true ↔ name ∈ registeredNames changes := by
  induction changes with
  | nil => simp [latestRule?, registeredNames]
  | cons change earlier ih =>
      cases change with
      | install formatter => simpa [latestRule?, registeredNames] using ih
      | register other rule =>
          by_cases hname : other = name
          · simp [latestRule?, registeredNames, hname]
          · simp [latestRule?, registeredNames, hname, Ne.symm hname, ih]

end Change

open Change

/-! ## What a validator shows of its lineage -/

/-- The lineage determines what a validator looks up and which formatter it has. -/
structure Validator.HasLineage (validator : Validator) (changes : List Change) : Prop where
  get?_eq : ∀ name, validator.registry.get? name = latestRule? name changes
  formatter_eq : validator.formatter = latestFormatter changes

/-- All that can be seen of a validator, in terms of its lineage. -/
structure Validator.Shows (validator : Validator) (changes : List Change) : Prop where
  get?_eq : ∀ name, validator.registry.get? name = latestRule? name changes
  contains_iff : ∀ name, validator.registry.contains name = true ↔
    ∃ rule, .register name rule ∈ changes
  size_eq : validator.registry.size = (registeredNames changes).dedup.length
  names_nodup : validator.registry.names.Nodup
  mem_names_iff : ∀ name, name ∈ validator.registry.names ↔ ∃ rule, .register name rule ∈ changes
  describe_eq : ∃ names, Text.Ascending names ∧
    (∀ name, name ∈ names ↔ ∃ rule, .register name rule ∈ changes) ∧
    validator.describe = "Validator \x7b registry: Registry \x7b validators: [".toList
      ++ [',', ' '].intercalate (names.map Text.quoted) ++ "] \x7d, .. \x7d".toList
  validate_eq : ∀ input,
    validator.validate input = validator.validateWith (latestFormatter changes) input

namespace Registry

theorem mem_names_iff {registry : Registry} {name : Text} :
    name ∈ registry.names ↔ (registry.get? name).isSome = true := by
  constructor
  · intro hname
    obtain ⟨entry, hentry, rfl⟩ := List.mem_map.mp hname
    have hfound : (registry.entries.find? fun other => other.1 = entry.1).isSome = true :=
      List.find?_isSome.mpr ⟨entry, hentry, decide_eq_true rfl⟩
    simpa [get?] using hfound
  · intro hsome
    obtain ⟨rule, hget⟩ := Option.isSome_iff_exists.mp hsome
    exact mem_names_of_get? hget

theorem sortedNames_perm (registry : Registry) : registry.sortedNames.Perm registry.names :=
  List.mergeSort_perm _ _

theorem sortedNames_ascending (registry : Registry) : Text.Ascending registry.sortedNames := by
  have hsorted : registry.sortedNames.Pairwise fun a b => (Text.compare a b).isLE = true := by
    apply List.pairwise_mergeSort
    · intro a b c
      exact Std.TransCmp.isLE_trans
    · intro a b
      have hswap : Text.compare b a = (Text.compare a b).swap := Std.OrientedCmp.eq_swap
      rw [hswap]
      cases Text.compare a b <;> rfl
  have hnodup : registry.sortedNames.Nodup :=
    registry.sortedNames_perm.nodup_iff.mpr registry.nodup_names
  refine (hsorted.and hnodup).imp ?_
  intro a b h
  cases hcompare : Text.compare a b with
  | lt => rfl
  | eq => exact absurd (Text.compare_eq_eq_iff.mp hcompare) h.2
  | gt => simp [hcompare] at h

end Registry

namespace Validator

theorem describe_eq (validator : Validator) :
    validator.describe = "Validator \x7b registry: Registry \x7b validators: [".toList
      ++ [',', ' '].intercalate (validator.registry.sortedNames.map Text.quoted)
      ++ "] \x7d, .. \x7d".toList := by
  have hopening : "Validator \x7b registry: Registry \x7b validators: [".toList =
      "Validator \x7b registry: ".toList ++ "Registry \x7b validators: [".toList := by decide
  have hclosing : "] \x7d, .. \x7d".toList = "] \x7d".toList ++ ", .. \x7d".toList := by decide
  rw [hopening, hclosing]
  unfold describe Registry.describe
  simp only [List.append_assoc]

theorem HasLineage.register
    {validator : Validator} {changes : List Change} (h : validator.HasLineage changes)
    (name : Text) (rule : Rule) :
    (validator.register name rule).HasLineage (.register name rule :: changes) := by
  constructor
  · intro other
    by_cases hname : name = other
    · subst hname
      simp [Validator.register, latestRule?]
    · have hold := validator.registry.get?_register_of_ne rule (Ne.symm hname)
      simp only [Validator.register, latestRule?, if_neg hname, hold, h.get?_eq]
  · exact h.formatter_eq

theorem HasLineage.setFormatter
    {validator : Validator} {changes : List Change} (h : validator.HasLineage changes)
    (formatter : Formatter) :
    (validator.setFormatter formatter).HasLineage (.install formatter :: changes) :=
  ⟨h.get?_eq, rfl⟩

theorem hasLineage_ofRegistry (rules : List (Text × Rule)) :
    (ofRegistry (.registerAll .empty rules)).HasLineage (ofRules rules) := by
  have hregister (registry : Registry) (changes : List Change)
      (h : (ofRegistry registry).HasLineage changes) :
      (ofRegistry (registry.registerAll rules)).HasLineage (ofRules rules ++ changes) := by
    induction rules generalizing registry changes with
    | nil => exact h
    | cons entry rest ih =>
        have hfirst : (ofRegistry (registry.register entry.1 entry.2)).HasLineage
            (.register entry.1 entry.2 :: changes) := h.register entry.1 entry.2
        simpa [ofRules, Registry.registerAll] using ih _ _ hfirst
  have hempty : (ofRegistry .empty).HasLineage [] := ⟨fun _ => rfl, rfl⟩
  simpa using hregister .empty [] hempty

theorem HasLineage.shows
    {validator : Validator} {changes : List Change} (h : validator.HasLineage changes) :
    validator.Shows changes := by
  have hnames (name : Text) :
      name ∈ validator.registry.names ↔ name ∈ registeredNames changes := by
    rw [Registry.mem_names_iff, h.get?_eq, latestRule?_isSome_iff]
  have hsorted := validator.registry.sortedNames_perm
  have hnodup : validator.registry.names.Nodup := validator.registry.nodup_names
  refine ⟨h.get?_eq, ?_, ?_, hnodup, ?_, ?_, ?_⟩
  · intro name
    rw [Registry.contains, h.get?_eq, latestRule?_isSome_iff, mem_registeredNames_iff]
  · have hperm : validator.registry.names.Perm (registeredNames changes).dedup := by
      rw [List.perm_ext_iff_of_nodup hnodup (List.nodup_dedup _)]
      intro name
      rw [hnames, List.mem_dedup]
    rw [← hperm.length_eq]
    simp [Registry.size, Registry.names]
  · intro name
    rw [hnames, mem_registeredNames_iff]
  · refine ⟨validator.registry.sortedNames, validator.registry.sortedNames_ascending, ?_, ?_⟩
    · intro name
      rw [hsorted.mem_iff, hnames, mem_registeredNames_iff]
    · exact validator.describe_eq
  · intro input
    rw [validate, h.formatter_eq]

end Validator

/-! ## The lineage of the current validator of a session -/

namespace Session

/-- The validators with which a session begins. -/
inductive Opening where
  | standard
  | registered (rules : List (Text × Rule))

namespace Opening

def validator : Opening → Validator
  | standard => .new
  | registered rules => .ofRegistry (.registerAll .empty rules)

/-- The registrations that a validator begins with. -/
def changes : Opening → List Change
  | standard => ofRules Rule.builtins
  | registered rules => ofRules rules

end Opening

/-- The steps before the last one that put a validator aside under a name.  The latest step comes
first. -/
def beforeSave? (slot : Text) : List Step → Option (List Step)
  | [] => none
  | .save other :: past => if other = slot then some past else beforeSave? slot past
  | _ :: past => beforeSave? slot past

theorem length_le_of_beforeSave?
    {slot : Text} {past earlier : List Step} (h : beforeSave? slot past = some earlier) :
    earlier.length ≤ past.length := by
  induction past with
  | nil => contradiction
  | cons step past ih =>
      cases step with
      | save other =>
          rw [beforeSave?] at h
          split at h
          · rw [← Option.some.inj h]
            exact Nat.le_succ _
          · exact Nat.le_succ_of_le (ih h)
      | _ => exact Nat.le_succ_of_le (ih h)

/-- The lineage of the current validator after steps, the latest of which comes first.  Where it was
taken from a name, its lineage is the one of the validator that was put aside there. -/
def lineage (initial : List Change) : List Step → List Change
  | [] => initial
  | .register name rule :: past => .register name rule :: lineage initial past
  | .setFormatter formatter :: past => .install formatter :: lineage initial past
  | .validate _ :: past => lineage initial past
  | .validateWith _ _ :: past => lineage initial past
  | .save _ :: past => lineage initial past
  | .load slot :: past =>
    match h : beforeSave? slot past with
    | some earlier =>
      have _hlength := length_le_of_beforeSave? h
      lineage initial earlier
    | none => lineage initial past
termination_by past => past.length

theorem lineage_load (initial : List Change) (slot : Text) (past : List Step) :
    lineage initial (.load slot :: past) =
      match beforeSave? slot past with
      | some earlier => lineage initial earlier
      | none => lineage initial past := by
  rw [lineage]
  split
  · next earlier hsave => simp only [hsave]
  · next hsave => simp only [hsave]

/-! ### Steps -/

theorem steps_reverse_cons (session : Session) (next : Step) (past : List Step) :
    session.steps (next :: past).reverse = (session.steps past.reverse).step next := by
  simp [steps]

/-- What is put aside stays as it was then, whatever is done afterwards. -/
theorem saved?_steps (validator : Validator) (slot : Text) (past : List Step) :
    ((start validator).steps past.reverse).saved? slot =
      (beforeSave? slot past).map fun earlier =>
        ((start validator).steps earlier.reverse).current := by
  induction past with
  | nil => rfl
  | cons next past ih =>
      rw [steps_reverse_cons]
      cases next with
      | save other =>
          by_cases hslot : other = slot
          · simp [beforeSave?, step, saved?, hslot]
          · simpa [beforeSave?, step, saved?, hslot] using ih
      | _ => exact ih

theorem hasLineage_steps
    {validator : Validator} {initial : List Change} (h : validator.HasLineage initial)
    (past : List Step) :
    ((start validator).steps past.reverse).current.HasLineage (lineage initial past) := by
  induction past using lineage.induct with
  | case1 =>
      rw [lineage]
      exact h
  | case2 name rule past ih =>
      rw [lineage, steps_reverse_cons]
      exact ih.register name rule
  | case3 formatter past ih =>
      rw [lineage, steps_reverse_cons]
      exact ih.setFormatter formatter
  | case4 input past ih =>
      rw [lineage, steps_reverse_cons]
      exact ih
  | case5 input formatter past ih =>
      rw [lineage, steps_reverse_cons]
      exact ih
  | case6 slot past ih =>
      rw [lineage, steps_reverse_cons]
      exact ih
  | case7 slot past earlier hsave _ ih =>
      have hsaved := saved?_steps validator slot past
      rw [hsave] at hsaved
      rw [lineage_load, hsave, steps_reverse_cons, step, hsaved]
      exact ih
  | case8 slot past hsave ih =>
      have hsaved := saved?_steps validator slot past
      rw [hsave] at hsaved
      rw [lineage_load, hsave, steps_reverse_cons, step, hsaved]
      exact ih

theorem Opening.hasLineage (opening : Opening) :
    opening.validator.HasLineage opening.changes := by
  cases opening with
  | standard => exact Validator.hasLineage_ofRegistry Rule.builtins
  | registered rules => exact Validator.hasLineage_ofRegistry rules

/-- At every point of a session the current validator shows its lineage, and so does each that was
put aside, which is still what it was then.  Validations change nothing, and use the formatter of
the validator unless they are given one. -/
theorem steps_show_lineage (opening : Opening) (list : List Step) :
    let session := (start opening.validator).steps list
    session.current.Shows (lineage opening.changes list.reverse) ∧
      (∀ slot, match beforeSave? slot list.reverse with
        | none => session.saved? slot = none
        | some earlier =>
          ∃ saved, session.saved? slot = some saved ∧
            saved = ((start opening.validator).steps earlier.reverse).current ∧
            saved.Shows (lineage opening.changes earlier)) ∧
      ∀ input formatter,
        session.step (.validate input) = session ∧
          session.step (.validateWith input formatter) = session ∧
          session.run? (.validate input) = some (session.current.validateWith
            (latestFormatter (lineage opening.changes list.reverse)) input) ∧
          session.run? (.validateWith input formatter) =
            some (session.current.validateWith formatter input) := by
  intro session
  have hcurrent : session.current.HasLineage (lineage opening.changes list.reverse) := by
    have hsteps := hasLineage_steps opening.hasLineage list.reverse
    rwa [List.reverse_reverse] at hsteps
  refine ⟨hcurrent.shows, ?_, ?_⟩
  · intro slot
    have hsaved := saved?_steps opening.validator slot list.reverse
    rw [List.reverse_reverse] at hsaved
    cases hsave : beforeSave? slot list.reverse with
    | none =>
        rw [hsave] at hsaved
        exact hsaved
    | some earlier =>
        rw [hsave] at hsaved
        exact ⟨_, hsaved, rfl, (hasLineage_steps opening.hasLineage earlier).shows⟩
  · intro input formatter
    refine ⟨rfl, rfl, ?_, rfl⟩
    exact congrArg some (hcurrent.shows.validate_eq input)

end Session

end FieldRules
