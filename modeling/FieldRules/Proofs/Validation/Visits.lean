import FieldRules.Proofs.Enumeration
import FieldRules.Proofs.Validation.CheckList

/-!
# The visits of a record

A visit names a directive of an annotation by its address, and an element of the
field by one index for every clause around the directive.  The main statement is
that the tasks of a record are listed by their visits, each of them once: a
directive is applied to all the elements that the clauses around it lead to, under
the indices of these elements and no others.
-/

namespace FieldRules

/-! ## Addresses and indices -/

/-- The value to which indices lead, each in the elements of the value before. -/
def Value.at? (value : Value) : List Nat → Option Value
  | [] => some value
  | index :: rest =>
    (value.elements?.bind fun elements => elements[index]?).bind fun element => element.at? rest

namespace Directive

def body : Directive → List Directive
  | .invoke _ => []
  | .each body => body

def at? (directive : Directive) : List Nat → Option Directive
  | [] => some directive
  | position :: rest => directive.body[position]?.bind fun inner => inner.at? rest

end Directive

/-- The directive at an address of an annotation.  The directives of the annotation itself are at
addresses of length one, and every clause around a directive makes its address longer by one. -/
def Annotation.at? (rules : Annotation) (address : List Nat) : Option Directive :=
  (Directive.each rules.directives).at? address

def Site.within (site : Site) (indices : List Nat) : Site :=
  { site with indices := site.indices ++ indices }

@[simp] theorem Site.within_nil (site : Site) : site.within [] = site := by
  simp [within]

@[simp] theorem Site.element_within (site : Site) (index : Nat) (indices : List Nat) :
    (site.element index).within indices = site.within (index :: indices) := by
  simp [within, element]

/-- A directive of the annotation of a field, and an element of the field. -/
structure Visit where
  field : Nat
  address : List Nat
  indices : List Nat

/-! ## The tasks of directives by their visits -/

namespace Directive

/-- The task of a directive itself, if it has one, at a value and a site. -/
inductive Asks : Directive → Value → Site → Task → Prop where
  | use (invocation : Invocation) (value : Value) (site : Site) :
      Asks (.invoke invocation) value site
        (.use ⟨value, invocation.param, invocation.name, site⟩)
  | stop (body : List Directive) {value : Value} (site : Site)
      (helements : value.elements? = none) :
      Asks (.each body) value site (.stop site value (.notASequence value.kind))

/-- The task is that of the directive at an address inside of the given one, with an element inside
of the value. -/
inductive TaskAt (directive : Directive) (value : Value) (site : Site)
    (address indices : List Nat) (task : Task) : Prop where
  | intro {inner : Directive} {element : Value}
      (hdirective : directive.at? address = some inner)
      (hvalue : value.at? indices = some element)
      (hdepth : address.length = indices.length)
      (htask : inner.Asks element (site.within indices) task) :
      TaskAt directive value site address indices task

mutual

/-- The tasks of a directive with the addresses and indices that lead to them. -/
def visits : Directive → Value → Site → List ((List Nat × List Nat) × Task)
  | .invoke invocation, value, site =>
    [(([], []), .use ⟨value, invocation.param, invocation.name, site⟩)]
  | .each body, value, site =>
    match value.elements? with
    | none => [(([], []), .stop site value (.notASequence value.kind))]
    | some elements =>
      (nest (byPosition elements) fun index element =>
          visitsFrom 0 body element (site.element index)).map fun entry =>
        ((entry.1.2.1, entry.1.1 :: entry.1.2.2), entry.2)

/-- The tasks of directives, of which the first is at the given position. -/
def visitsFrom (start : Nat) :
    List Directive → Value → Site → List ((List Nat × List Nat) × Task)
  | [], _, _ => []
  | directive :: rest, value, site =>
    (directive.visits value site).map (fun entry => ((start :: entry.1.1, entry.1.2), entry.2)) ++
      visitsFrom (start + 1) rest value site

end

mutual

theorem map_snd_visits :
    ∀ (directive : Directive) (value : Value) (site : Site),
      (directive.visits value site).map Prod.snd = directive.tasks value site
  | .invoke invocation, value, site => by
      rw [visits, tasks]
      rfl
  | .each body, value, site => by
      rw [visits, tasks]
      cases value.elements? with
      | none => rfl
      | some elements =>
          simp only [List.map_map, Function.comp_def]
          rw [map_snd_nest, byPosition, List.flatMap_map]
          simp only [map_snd_visitsFrom 0 body]
          rfl

theorem map_snd_visitsFrom (start : Nat) :
    ∀ (directives : List Directive) (value : Value) (site : Site),
      (visitsFrom start directives value site).map Prod.snd = tasksOf directives value site
  | [], value, site => by
      rw [visitsFrom, tasksOf]
      rfl
  | directive :: rest, value, site => by
      rw [visitsFrom, tasksOf, List.map_append, List.map_map,
        ← map_snd_visits directive, ← map_snd_visitsFrom (start + 1) rest]
      rfl

end

theorem visitsFrom_eq (start : Nat) (directives : List Directive) (value : Value) (site : Site) :
    visitsFrom start directives value site =
      (directives.zipIdx start).flatMap fun entry =>
        (entry.1.visits value site).map fun inner =>
          ((entry.2 :: inner.1.1, inner.1.2), inner.2) := by
  induction directives generalizing start with
  | nil => rfl
  | cons directive rest ih => rw [visitsFrom, ih, List.zipIdx_cons, List.flatMap_cons]

theorem visitsFrom_zero (directives : List Directive) (value : Value) (site : Site) :
    visitsFrom 0 directives value site =
      (nest (byPosition directives) fun _ directive => directive.visits value site).map
        fun entry => ((entry.1.1 :: entry.1.2.1, entry.1.2.2), entry.2) := by
  rw [visitsFrom_eq, nest, byPosition, List.flatMap_map, List.map_flatMap]
  simp only [List.map_map]
  rfl

/-- A directive whose only task is its own. -/
theorem taskAt_iff_of_asks
    {directive : Directive} {value : Value} {site : Site} {task : Task}
    (htask : directive.Asks value site task)
    (hinner : ∀ position address index indices inner element,
      directive.at? (position :: address) = some inner →
        value.at? (index :: indices) = some element → False)
    (address indices : List Nat) (other : Task) :
    directive.TaskAt value site address indices other ↔
      (address, indices) = ([], []) ∧ other = task := by
  constructor
  · rintro ⟨hdirective, hvalue, hdepth, hother⟩
    cases address with
    | cons position address =>
        cases indices with
        | nil => contradiction
        | cons index indices => exact (hinner _ _ _ _ _ _ hdirective hvalue).elim
    | nil =>
        have hindices : indices = [] := List.length_eq_zero_iff.mp hdepth.symm
        subst hindices
        cases hdirective
        cases hvalue
        rw [Site.within_nil] at hother
        cases htask <;> cases hother <;> exact ⟨rfl, rfl⟩
  · rintro ⟨hpair, rfl⟩
    cases hpair
    refine .intro rfl rfl rfl ?_
    rw [Site.within_nil]
    exact htask

/-- The tasks of a clause over elements are those of its body at each of them.  It has one of its own
only where there are no elements. -/
theorem taskAt_each_iff
    {body : List Directive} {value : Value} {elements : List Value}
    (helements : value.elements? = some elements)
    (site : Site) (address indices : List Nat) (task : Task) :
    (Directive.each body).TaskAt value site address indices task ↔
      ∃ index position innerAddress innerIndices,
        (address, indices) = (position :: innerAddress, index :: innerIndices) ∧
          ∃ element, elements[index]? = some element ∧
            ∃ directive, body[position]? = some directive ∧
              directive.TaskAt element (site.element index) innerAddress innerIndices task := by
  constructor
  · rintro @⟨inner, target, hdirective, hvalue, hdepth, htask⟩
    cases address with
    | nil =>
        have hindices : indices = [] := List.length_eq_zero_iff.mp hdepth.symm
        subst hindices
        cases hdirective
        cases hvalue
        cases htask with
        | stop _ _ hnone =>
            rw [helements] at hnone
            contradiction
    | cons position address =>
        cases indices with
        | nil => contradiction
        | cons index indices =>
            obtain ⟨directive, hposition, hat⟩ := Option.bind_eq_some_iff.mp hdirective
            obtain ⟨element, hindex, hrest⟩ := Option.bind_eq_some_iff.mp hvalue
            rw [helements] at hindex
            refine ⟨index, position, address, indices, rfl, element, hindex, directive,
              hposition, .intro hat hrest (Nat.succ.inj hdepth) ?_⟩
            rw [Site.element_within]
            exact htask
  · rintro ⟨index, position, innerAddress, innerIndices, hpair, element, hindex, directive,
      hposition, hat, hrest, hdepth, htask⟩
    cases hpair
    refine .intro (Option.bind_eq_some_iff.mpr ⟨directive, hposition, hat⟩)
      (Option.bind_eq_some_iff.mpr ⟨element, ?_, hrest⟩) (congrArg Nat.succ hdepth) ?_
    · rw [helements]
      exact hindex
    · rw [← Site.element_within]
      exact htask

/-- The directives are those of a list, and the first position of an address is that in the list. -/
def TaskIn (directives : List Directive) (value : Value) (site : Site)
    (key : List Nat × List Nat) (task : Task) : Prop :=
  ∃ position address, key.1 = position :: address ∧
    ∃ directive, directives[position]? = some directive ∧
      directive.TaskAt value site address key.2 task

theorem visitsFrom_enumerate_of
    {directives : List Directive} {value : Value} {site : Site}
    (h : ∀ directive ∈ directives, Enumerates (directive.visits value site)
      fun key task => directive.TaskAt value site key.1 key.2 task) :
    Enumerates (visitsFrom 0 directives value site) (TaskIn directives value site) := by
  rw [visitsFrom_zero]
  have hnest := (Enumerates.positions directives).nest_of_related fun position directive hposition =>
    h directive (List.mem_of_getElem? hposition)
  have hrename : Function.Injective fun key : Nat × List Nat × List Nat =>
      (key.1 :: key.2.1, key.2.2) := by
    rintro ⟨_, _, _⟩ ⟨_, _, _⟩ heq
    cases heq
    rfl
  refine (hnest.mapKey hrename).congr ?_
  rintro ⟨address, indices⟩ task
  constructor
  · rintro ⟨⟨position, inner, _⟩, hpair, directive, hposition, htask⟩
    cases hpair
    exact ⟨position, inner, rfl, directive, hposition, htask⟩
  · rintro ⟨position, inner, rfl, directive, hposition, htask⟩
    exact ⟨(position, inner, indices), rfl, directive, hposition, htask⟩

theorem visits_each_enumerate_of
    {body : List Directive} {value : Value} {elements : List Value} {site : Site}
    (helements : value.elements? = some elements)
    (h : ∀ element index, Enumerates (visitsFrom 0 body element (site.element index))
      (TaskIn body element (site.element index))) :
    Enumerates ((Directive.each body).visits value site)
      fun key task => (Directive.each body).TaskAt value site key.1 key.2 task := by
  rw [visits, helements]
  have hnest := (Enumerates.positions elements).nest fun index element => h element index
  have hrename : Function.Injective fun key : Nat × List Nat × List Nat =>
      (key.2.1, key.1 :: key.2.2) := by
    rintro ⟨_, _, _⟩ ⟨_, _, _⟩ heq
    cases heq
    rfl
  refine (hnest.mapKey hrename).congr ?_
  rintro ⟨address, indices⟩ task
  rw [taskAt_each_iff helements]
  constructor
  · rintro ⟨⟨index, inner, innerIndices⟩, hpair, element, hindex, position, innerAddress, rfl,
      directive, hposition, htask⟩
    cases hpair
    exact ⟨index, position, innerAddress, innerIndices, rfl, element, hindex, directive,
      hposition, htask⟩
  · rintro ⟨index, position, innerAddress, innerIndices, hpair, element, hindex, directive,
      hposition, htask⟩
    cases hpair
    exact ⟨(index, position :: innerAddress, innerIndices), rfl, element, hindex, position,
      innerAddress, rfl, directive, hposition, htask⟩

mutual

theorem visits_enumerate :
    ∀ (directive : Directive) (value : Value) (site : Site),
      Enumerates (directive.visits value site)
        fun key task => directive.TaskAt value site key.1 key.2 task
  | .invoke invocation, value, site => by
      rw [visits]
      refine (Enumerates.singleton _ _).congr ?_
      rintro ⟨address, indices⟩ task
      refine (taskAt_iff_of_asks (.use invocation value site) ?_ address indices task).symm
      intro position address index indices inner element hdirective _
      contradiction
  | .each body, value, site => by
      cases helements : value.elements? with
      | none =>
          rw [visits, helements]
          refine (Enumerates.singleton _ _).congr ?_
          rintro ⟨address, indices⟩ task
          refine (taskAt_iff_of_asks (.stop body site helements) ?_ address indices task).symm
          intro position address index indices inner element _ hvalue
          rw [Value.at?, helements] at hvalue
          contradiction
      | some elements =>
          apply visits_each_enumerate_of helements
          intro element index
          exact visitsFrom_enumerate_of fun directive hmem =>
            visits_enumerate_of_mem body directive hmem element (site.element index)

theorem visits_enumerate_of_mem :
    ∀ (directives : List Directive), ∀ directive ∈ directives, ∀ (value : Value) (site : Site),
      Enumerates (directive.visits value site)
        fun key task => directive.TaskAt value site key.1 key.2 task
  | [], directive, hmem, value, site => by contradiction
  | first :: rest, directive, hmem, value, site => by
      rcases List.mem_cons.mp hmem with heq | hrest
      · rw [heq]
        exact visits_enumerate first value site
      · exact visits_enumerate_of_mem rest directive hrest value site

end

theorem visitsFrom_enumerate (directives : List Directive) (value : Value) (site : Site) :
    Enumerates (visitsFrom 0 directives value site) (TaskIn directives value site) :=
  visitsFrom_enumerate_of fun directive _ => visits_enumerate directive value site

end Directive

/-! ## The tasks of a record by their visits -/

namespace Field

/-- What a visit of a field comes to: the directive at its address, the value to which its indices
lead, and the site that says so.  There is one index for every clause around the directive. -/
inductive Finds (record : Text) (field : Field Value) (address indices : List Nat) :
    Directive → Value → Site → Prop where
  | intro {source : Text} {rules : Annotation} {directive : Directive} {value : Value}
      (hsource : field.annotation = some source)
      (hparse : Annotation.parse source = .ok rules)
      (hdirective : rules.at? address = some directive)
      (hvalue : field.value.at? indices = some value)
      (hdepth : address.length = indices.length + 1) :
      Finds record field address indices directive value ⟨record, field.name, source, indices⟩

/-- The annotation of a field cannot be read, which is met before any directive. -/
inductive Unreadable (record : Text) (field : Field Value) (address indices : List Nat) :
    Site → GrammarError → Prop where
  | intro {source : Text} {fault : GrammarError}
      (hsource : field.annotation = some source)
      (hparse : Annotation.parse source = .error fault)
      (haddress : address = []) (hindices : indices = []) :
      Unreadable record field address indices ⟨record, field.name, source, []⟩ fault

inductive HasTask (record : Text) (field : Field Value) (address indices : List Nat) :
    Task → Prop where
  | directive {directive : Directive} {value : Value} {site : Site} {task : Task}
      (hfinds : field.Finds record address indices directive value site)
      (htask : directive.Asks value site task) :
      HasTask record field address indices task
  | unreadable {site : Site} {fault : GrammarError}
      (hfault : field.Unreadable record address indices site fault) :
      HasTask record field address indices (.stop site field.value (.grammar fault))

def visits (record : Text) (field : Field Value) : List ((List Nat × List Nat) × Task) :=
  match field.annotation with
  | none => []
  | some source =>
    let site := Site.ofField record field.name source
    match Annotation.parse source with
    | .error fault => [(([], []), .stop site field.value (.grammar fault))]
    | .ok rules => Directive.visitsFrom 0 rules.directives field.value site

theorem map_snd_visits (record : Text) (field : Field Value) :
    (field.visits record).map Prod.snd = field.tasks record := by
  unfold visits tasks
  cases field.annotation with
  | none => rfl
  | some source =>
      cases hparse : Annotation.parse source with
      | error fault => simp only [hparse, List.map_cons, List.map_nil]
      | ok rules =>
          simp only [hparse]
          exact Directive.map_snd_visitsFrom 0 _ _ _

variable {record : Text} {field : Field Value} {address indices : List Nat} {task : Task}

theorem not_hasTask_of_annotation_none (hsource : field.annotation = none) :
    ¬field.HasTask record address indices task := by
  rintro (⟨⟨hsome, _, _, _, _⟩, _⟩ | ⟨⟨hsome, _, _, _⟩⟩) <;>
  · rw [hsource] at hsome
    contradiction

theorem hasTask_iff_of_error
    {source : Text} {fault : GrammarError}
    (hsource : field.annotation = some source)
    (hparse : Annotation.parse source = .error fault) :
    field.HasTask record address indices task ↔
      (address, indices) = ([], []) ∧
        task = .stop (.ofField record field.name source) field.value (.grammar fault) := by
  constructor
  · rintro (⟨⟨hsome, hok, _, _, _⟩, _⟩ | ⟨⟨hsome, herror, rfl, rfl⟩⟩)
    · rw [hsource] at hsome
      cases hsome
      rw [hparse] at hok
      contradiction
    · rw [hsource] at hsome
      cases hsome
      rw [hparse] at herror
      cases herror
      exact ⟨rfl, rfl⟩
  · rintro ⟨hpair, rfl⟩
    cases hpair
    exact .unreadable (.intro hsource hparse rfl rfl)

theorem hasTask_iff_of_ok
    {source : Text} {rules : Annotation}
    (hsource : field.annotation = some source)
    (hparse : Annotation.parse source = .ok rules) :
    field.HasTask record address indices task ↔
      Directive.TaskIn rules.directives field.value (.ofField record field.name source)
        (address, indices) task := by
  have hsite : (Site.ofField record field.name source).within indices =
      ⟨record, field.name, source, indices⟩ := rfl
  constructor
  · rintro (⟨⟨hsome, hok, hdirective, hvalue, hdepth⟩, htask⟩ | ⟨⟨hsome, herror, _, _⟩⟩)
    · rw [hsource] at hsome
      cases hsome
      rw [hparse] at hok
      cases hok
      cases address with
      | nil => contradiction
      | cons position inner =>
          obtain ⟨outer, hposition, hat⟩ := Option.bind_eq_some_iff.mp hdirective
          exact ⟨position, inner, rfl, outer, hposition,
            .intro hat hvalue (Nat.succ.inj hdepth) htask⟩
    · rw [hsource] at hsome
      cases hsome
      rw [hparse] at herror
      contradiction
  · rintro ⟨position, inner, hkey, outer, hposition, hdirective, hvalue, hdepth, htask⟩
    cases hkey
    rw [hsite] at htask
    refine .directive (.intro hsource hparse ?_ hvalue (congrArg Nat.succ hdepth)) htask
    exact Option.bind_eq_some_iff.mpr ⟨outer, hposition, hdirective⟩

theorem visits_enumerate (record : Text) (field : Field Value) :
    Enumerates (field.visits record) fun key task => field.HasTask record key.1 key.2 task := by
  unfold visits
  cases hsource : field.annotation with
  | none =>
      refine ⟨List.nodup_nil, fun key task => ?_⟩
      simp [not_hasTask_of_annotation_none hsource]
  | some source =>
      cases hparse : Annotation.parse source with
      | error fault =>
          simp only [hparse]
          refine (Enumerates.singleton _ _).congr fun key task => ?_
          exact (hasTask_iff_of_error hsource hparse).symm
      | ok rules =>
          simp only [hparse]
          refine (Directive.visitsFrom_enumerate _ _ _).congr fun key task => ?_
          exact (hasTask_iff_of_ok hsource hparse).symm

end Field

/-- The tasks of a record with their visits. -/
def recordVisits (record : Text) (fields : List (Field Value)) : List (Visit × Task) :=
  (nest (byPosition fields) fun _ field => field.visits record).map fun entry =>
    (⟨entry.1.1, entry.1.2.1, entry.1.2.2⟩, entry.2)

theorem map_snd_recordVisits (record : Text) (fields : List (Field Value)) :
    (recordVisits record fields).map Prod.snd = recordTasks record fields := by
  have hnest := map_snd_nest_of (Field.tasks record)
    (fun _ field => Field.map_snd_visits record field) (byPosition fields)
  rw [map_snd_byPosition] at hnest
  rw [recordTasks, ← hnest, recordVisits, List.map_map]
  rfl

/-- Every directive of a record has its task at every element to which the clauses around it lead,
once at each. -/
theorem recordVisits_enumerate (record : Text) (fields : List (Field Value)) :
    Enumerates (recordVisits record fields) fun visit task =>
      ∃ field, fields[visit.field]? = some field ∧
        field.HasTask record visit.address visit.indices task := by
  have hnest := (Enumerates.positions fields).nest fun _ field => field.visits_enumerate record
  let visit (key : Nat × List Nat × List Nat) : Visit := ⟨key.1, key.2.1, key.2.2⟩
  have hvisit : Function.Injective visit := by
    rintro ⟨_, _, _⟩ ⟨_, _, _⟩ heq
    cases heq
    rfl
  refine (hnest.mapKey hvisit).congr fun key task => ?_
  constructor
  · rintro ⟨_, rfl, field, hfield, htask⟩
    exact ⟨field, hfield, htask⟩
  · rintro ⟨field, hfield, htask⟩
    exact ⟨(key.field, key.address, key.indices), rfl, field, hfield, htask⟩

end FieldRules
