import FieldRules.Proofs.Source.Expansions
import FieldRules.Proofs.Text.NumeralFaults
import FieldRules.Proofs.Validation.CallSites

/-!
# What a path tells

The path in an error is the name of a field with a numeral in brackets for each index
behind it.  A name without an opening bracket ends at the first bracket, and a numeral
ends at the bracket that closes it.  So a path is read in one way only, and in a record
with distinct names it leads to one element of one field.
-/

namespace FieldRules

/-- The path is the name of the field at the position with the indices behind it, and the indices
lead from the value of that field to the given one. -/
inductive PathLeadsTo (fields : List (Field Value)) (path : Text) (position : Nat)
    (indices : List Nat) (value : Value) : Prop where
  | intro {field : Field Value}
      (hfield : fields[position]? = some field)
      (hpath : path = field.name ++ indices.flatMap Site.bracketed)
      (hvalue : field.value.at? indices = some value) :
      PathLeadsTo fields path position indices value

/-! ## Reading a path -/

theorem Text.not_mem_ofNat_of_not_digit {c : Char} (hc : ¬c.isDigit) (n : Nat) : c ∉ ofNat n := by
  intro hmem
  exact hc ((writesNat_ofNat n).digits c hmem)

namespace Site

/-- An index in brackets can be read off whatever stands behind it. -/
theorem bracketed_append_inj
    {index other : Nat} {left right : Text}
    (heq : bracketed index ++ left = bracketed other ++ right) :
    index = other ∧ left = right := by
  have hdigits : Text.ofNat index ++ ']' :: left = Text.ofNat other ++ ']' :: right := by
    simpa [bracketed] using heq
  obtain ⟨hnumeral, hrest⟩ := Text.mark_append_inj
    (Text.not_mem_ofNat_of_not_digit (by decide) index)
    (Text.not_mem_ofNat_of_not_digit (by decide) other) hdigits
  exact ⟨Text.ofNat_injective hnumeral, hrest⟩

theorem flatMap_bracketed_injective :
    Function.Injective fun indices : List Nat => indices.flatMap bracketed := by
  intro indices others heq
  induction indices generalizing others with
  | nil =>
      cases others with
      | nil => rfl
      | cons other rest => simp [bracketed] at heq
  | cons index indices ih =>
      cases others with
      | nil => simp [bracketed] at heq
      | cons other rest =>
          obtain ⟨hindex, hrest⟩ := bracketed_append_inj heq
          rw [hindex, ih hrest]

theorem takeWhile_flatMap_bracketed (indices : List Nat) :
    (indices.flatMap bracketed).takeWhile (· ≠ '[') = [] := by
  cases indices with
  | nil => rfl
  | cons index rest => rfl

/-- The name ends where the first bracket opens. -/
theorem takeWhile_name_append {name : Text} (hname : '[' ∉ name) (indices : List Nat) :
    (name ++ indices.flatMap bracketed).takeWhile (· ≠ '[') = name := by
  have hall : ∀ c ∈ name, decide (c ≠ '[') = true := by
    intro c hc
    rw [decide_eq_true_iff]
    rintro rfl
    exact hname hc
  rw [List.takeWhile_append_of_pos hall, takeWhile_flatMap_bracketed, List.append_nil]

theorem name_append_inj
    {name other : Text} (hname : '[' ∉ name) (hother : '[' ∉ other) {indices others : List Nat}
    (heq : name ++ indices.flatMap bracketed = other ++ others.flatMap bracketed) :
    name = other ∧ indices = others := by
  have hnames : name = other := by
    rw [← takeWhile_name_append hname indices, heq, takeWhile_name_append hother others]
  subst hnames
  exact ⟨rfl, flatMap_bracketed_injective (List.append_cancel_left heq)⟩

theorem path_eq_path_iff
    {site other : Site} (hsite : '[' ∉ site.field) (hother : '[' ∉ other.field) :
    site.path = other.path ↔ site.field = other.field ∧ site.indices = other.indices := by
  constructor
  · exact name_append_inj hsite hother
  · rintro ⟨hfield, hindices⟩
    rw [path, path, hfield, hindices]

end Site

/-! ## Names of derived records -/

namespace Source

/-- The fields that have a name have an identifier as their name. -/
def StructDecl.NamedByIdentifiers (decl : StructDecl) : Prop :=
  ∀ field ∈ decl.fields, ∀ name ∈ field.name, Lexer.identifier? name = some []

theorem Lexer.not_mem_of_word? {t : Text} (h : word? t = some []) : '[' ∉ t := by
  cases t with
  | nil => contradiction
  | cons first rest =>
      rw [word?] at h
      split at h
      next hfirst =>
        have hrest : ∀ c ∈ rest, Text.isIdentifierContinue c :=
          List.dropWhile_eq_nil_iff.mp (Option.some.inj h)
        intro hmem
        rcases List.mem_cons.mp hmem with rfl | hmem
        · exact absurd hfirst (by decide)
        · exact absurd (hrest _ hmem) (by decide)
      next => contradiction

theorem Lexer.not_mem_of_anyWord? {t : Text} (h : anyWord? t = some []) : '[' ∉ t := by
  unfold anyWord? at h
  split at h
  next _ body =>
    cases hword : word? body with
    | none => simp [hword] at h
    | some rest =>
        simp only [hword] at h
        split at h
        next => contradiction
        next =>
          obtain rfl := Option.some.inj h
          simp [not_mem_of_word? hword]
  next => exact not_mem_of_word? h

theorem Lexer.not_mem_of_identifier? {t : Text} (h : identifier? t = some []) : '[' ∉ t := by
  rw [identifier?] at h
  split at h
  next => contradiction
  next => exact not_mem_of_anyWord? h

theorem not_mem_plainName {name : Text} (hname : '[' ∉ name) : '[' ∉ plainName name := by
  rw [plainName]
  cases hdrop : Text.dropStart? ['r', '#'] name with
  | none => exact hname
  | some rest =>
      intro hmem
      apply hname
      rw [Text.dropStart?_eq_some_iff.mp hdrop]
      exact List.mem_append_right _ hmem

theorem FieldDecl.not_mem_label
    {field : FieldDecl} (hname : ∀ name ∈ field.name, Lexer.identifier? name = some [])
    (position : Nat) : '[' ∉ field.label position := by
  unfold FieldDecl.label
  split
  next name hsome => exact not_mem_plainName (Lexer.not_mem_of_identifier? (hname name hsome))
  next => exact Text.not_mem_ofNat_of_not_digit (by decide) position

namespace Expansion

theorem not_mem_name
    {decl : StructDecl} {expansion : Expansion} (hdecl : decl.NamedByIdentifiers)
    (hexpansion : ofInput (.struct decl) = .ok expansion) :
    ∀ view ∈ expansion.fields, '[' ∉ view.name := by
  rw [ofInput] at hexpansion
  cases hviews : fieldViews 0 decl.fields with
  | error fault => simp [hviews] at hexpansion
  | ok views =>
      simp only [hviews, Except.ok.injEq] at hexpansion
      rw [← hexpansion]
      intro view hview
      obtain ⟨entry, hentry, hlabel⟩ :=
        List.mem_map.mp (map_name_of_fieldViews hviews ▸ List.mem_map_of_mem hview)
      rw [← hlabel]
      exact FieldDecl.not_mem_label (hdecl entry.1 (List.fst_mem_of_mem_zipIdx hentry)) entry.2

/-- The fields of a record have the names of the views, as far as there are values for them. -/
theorem exists_fields_recordOf (expansion : Expansion) (values : List Value) :
    ∃ fields, expansion.recordOf values = .record expansion.record fields ∧
      fields.map Field.name <+: expansion.fields.map FieldView.name := by
  refine ⟨_, rfl, ?_⟩
  rw [List.map_zipWith]
  induction expansion.fields generalizing values with
  | nil => exact List.nil_prefix
  | cons view rest ih =>
      cases values with
      | nil => exact List.nil_prefix
      | cons value values => exact List.cons_prefix_cons.mpr ⟨rfl, ih values⟩

end Expansion
end Source

/-! ## Calls and errors of a record -/

section

variable {record : Text} {fields : List (Field Value)}

/-- Calls for the same path are calls for the same element. -/
theorem Call.Located.eq_of_path_eq
    (hdistinct : (fields.map Field.name).Nodup) (hnames : ∀ field ∈ fields, '[' ∉ field.name)
    {call other : Call} (hcall : call.Located record fields) (hother : other.Located record fields)
    (hpath : call.site.path = other.site.path) :
    call.site = other.site ∧ call.value = other.value := by
  obtain ⟨hfield, hsource, hsite, hvalue⟩ := hcall
  obtain ⟨hanother, htag, hplace, hfound⟩ := hother
  rw [hsite, hplace] at hpath
  obtain ⟨hname, hindices⟩ :=
    (Site.path_eq_path_iff (hnames _ hfield) (hnames _ hanother)).mp hpath
  obtain rfl := List.inj_on_of_nodup_map hdistinct hfield hanother hname
  simp only at hindices
  subst hindices
  obtain rfl := Option.some.inj (hsource.symm.trans htag)
  exact ⟨hsite.trans hplace.symm, Option.some.inj (hvalue.symm.trans hfound)⟩

theorem PathLeadsTo.unique
    (hdistinct : (fields.map Field.name).Nodup) (hnames : ∀ field ∈ fields, '[' ∉ field.name)
    {path : Text} {position index : Nat} {indices others : List Nat} {value other : Value}
    (h : PathLeadsTo fields path position indices value)
    (hother : PathLeadsTo fields path index others other) :
    position = index ∧ indices = others ∧ value = other := by
  obtain ⟨hfield, hpath, hvalue⟩ := h
  obtain ⟨hanother, hsame, hfound⟩ := hother
  have hmem := List.mem_of_getElem? hfield
  have hmember := List.mem_of_getElem? hanother
  obtain ⟨hname, hindices⟩ := Site.name_append_inj (hnames _ hmem) (hnames _ hmember)
    (hpath.symm.trans hsame)
  obtain rfl := List.inj_on_of_nodup_map hdistinct hmem hmember hname
  have hbound := (List.getElem?_eq_some_iff.mp hfield).1
  have hnodup : fields.Nodup := hdistinct.of_map Field.name
  refine ⟨(List.getElem?_inj hbound hnodup).mp (hfield.trans hanother.symm), hindices,
    Option.some.inj ?_⟩
  rw [← hvalue, ← hfound, hindices]

/-- The path in the site of a call leads to the value of the call. -/
theorem Call.Located.pathLeadsTo {call : Call} (h : call.Located record fields) :
    ∃ position, PathLeadsTo fields call.site.path position call.site.indices call.value := by
  obtain ⟨hfield, _, hsite, hvalue⟩ := h
  obtain ⟨position, hposition⟩ := List.getElem?_of_mem hfield
  refine ⟨position, .intro hposition ?_ ?_⟩
  · rw [hsite, Site.path]
  · rw [hsite, hvalue]

/-- The path in an error of the default formatter leads to an element, and the message shows it. -/
theorem Validator.exists_pathLeadsTo
    (validator : Validator) {input : Value} (hinput : input.resolve = .record record fields)
    {path message : Text} {cause : FieldError}
    (houtcome : (validator.validateWith defaultFormatter input).outcome =
      .error (.invalid (.field path message cause))) :
    ∃ position indices value, PathLeadsTo fields path position indices value ∧
      message = "field ".toList ++ path.quoted ++ " validation error: ".toList ++ cause.message
        ++ " (received: '".toList ++ value.display ++ "')".toList := by
  rw [validator.validateWith_record defaultFormatter hinput] at houtcome
  obtain ⟨site, value, reason, hlast, hfault⟩ := firstFailing_report houtcome
  have hcalls := firstFailing_madeAtVisits validator.registry defaultFormatter record fields
  have hlocated := hcalls.located _ (List.mem_of_getLast? hlast)
  obtain ⟨position, hleads⟩ := hlocated.pathLeadsTo
  cases hfault
  exact ⟨position, _, _, hleads, rfl⟩

end

/-- Paths are equal only if they name the same field and have the same indices.  Derived records
have names that allow this; and in a record of distinct names, calls for the same path are calls
for the same element, and the path in an error of the default formatter leads to exactly one, which
the message shows. -/
theorem path_identifies_element :
    (∀ site other : Site, '[' ∉ site.field → '[' ∉ other.field →
      (site.path = other.path ↔ site.field = other.field ∧ site.indices = other.indices)) ∧
    (∀ (decl : Source.StructDecl) (expansion : Source.Expansion), decl.NamedByIdentifiers →
      Source.Expansion.ofInput (.struct decl) = .ok expansion →
      (∀ view ∈ expansion.fields, '[' ∉ view.name) ∧
      ∀ values, ∃ fields, expansion.recordOf values = .record expansion.record fields ∧
        fields.map Field.name <+: expansion.fields.map Source.FieldView.name) ∧
    ∀ (input : Value) (record : Text) (fields : List (Field Value)),
      input.resolve = .record record fields → (fields.map Field.name).Nodup →
      (∀ field ∈ fields, '[' ∉ field.name) →
      (∀ (validator another : Validator) (formatter chosen : Formatter),
        ∀ call ∈ (validator.validateWith formatter input).calls,
        ∀ other ∈ (another.validateWith chosen input).calls,
          call.site.path = other.site.path →
          call.site = other.site ∧ call.value = other.value) ∧
      ∀ (validator : Validator) (path message : Text) (cause : FieldError),
        (validator.validateWith defaultFormatter input).outcome =
          .error (.invalid (.field path message cause)) →
        ∃ position indices value, PathLeadsTo fields path position indices value ∧
          message = "field ".toList ++ path.quoted ++ " validation error: ".toList ++ cause.message
            ++ " (received: '".toList ++ value.display ++ "')".toList ∧
          ∀ index others other, PathLeadsTo fields path index others other →
            position = index ∧ indices = others ∧ value = other := by
  refine ⟨fun _ _ => Site.path_eq_path_iff, ?_, ?_⟩
  · intro decl expansion hdecl hexpansion
    exact ⟨Source.Expansion.not_mem_name hdecl hexpansion, expansion.exists_fields_recordOf⟩
  intro input record fields hinput hdistinct hnames
  constructor
  · intro validator another formatter chosen call hcall other hother hpath
    rw [validator.validateWith_record formatter hinput] at hcall
    rw [another.validateWith_record chosen hinput] at hother
    have hlocated := (firstFailing_madeAtVisits _ _ _ _).located call hcall
    have hplaced := (firstFailing_madeAtVisits _ _ _ _).located other hother
    exact hlocated.eq_of_path_eq hdistinct hnames hplaced hpath
  · intro validator path message cause houtcome
    obtain ⟨position, indices, value, hleads, hmessage⟩ :=
      validator.exists_pathLeadsTo hinput houtcome
    refine ⟨position, indices, value, hleads, hmessage, ?_⟩
    intro index others other hother
    exact hleads.unique hdistinct hnames hother

/-- Lists in a list of a derived record, which has a raw identifier among its names.  One index of
two digits has another path than two indices of one digit. -/
theorem path_identifies_element_nested :
    let source := "each={each={min=1},max=2}".toList
    let tag : Source.Attribute :=
      ⟨some "tag".toList, .list [.literal "\"each={each={min=1},max=2}\"".toList .start], none⟩
    let decl : Source.StructDecl :=
      ⟨"Order".toList, [], [⟨some "r#type".toList, [], .start⟩, ⟨some "codes".toList, [tag], .start⟩]⟩
    let expansion : Source.Expansion :=
      ⟨"Order".toList, "Order".toList,
        [⟨"type".toList, none, "&self.r#type".toList⟩,
          ⟨"codes".toList, some source, "&self.codes".toList⟩], []⟩
    let codes : Value := .list [.array [.text "a".toList], .array [.text "b".toList, .text []]]
    let fields : List (Field Value) :=
      [⟨"type".toList, none, .int 7⟩, ⟨"codes".toList, some source, codes⟩]
    let site (indices : List Nat) : Site := ⟨"Order".toList, "codes".toList, source, indices⟩
    let path := "codes[1][1]".toList
    let message :=
      "field \"codes[1][1]\" validation error: should have length at least 1 (received: '')".toList
    let cause : FieldError := .rule (.violation "should have length at least 1".toList)
    (site [1, 1]).path = path ∧ (site [11]).path ≠ path ∧
      Source.Expansion.ofInput (.struct decl) = .ok expansion ∧
      expansion.recordOf [.int 7, codes] = .record "Order".toList fields ∧
      (Validator.new.validateWith defaultFormatter (.record "Order".toList fields)).outcome =
        .error (.invalid (.field path message cause)) ∧
      PathLeadsTo fields path 1 [1, 1] (.text []) ∧
      ∀ position indices value, PathLeadsTo fields path position indices value →
        position = 1 ∧ indices = [1, 1] ∧ value = .text [] := by
  intro source tag decl expansion codes fields site path message cause
  obtain ⟨hpaths, hderived, hrecords⟩ := path_identifies_element
  have hother : (site [11]).path ≠ path := by
    intro heq
    have hsame := (hpaths (site [11]) (site [1, 1]) (by decide) (by decide)).mp heq
    exact absurd hsame.2 (by decide)
  have hdecl : decl.NamedByIdentifiers := by
    intro field hfield name hname
    rcases List.mem_pair.mp hfield with rfl | rfl <;> cases hname <;> rfl
  have hexpansion : Source.Expansion.ofInput (.struct decl) = .ok expansion := by rfl
  obtain ⟨hviews, hmade⟩ := hderived decl expansion hdecl hexpansion
  obtain ⟨made, hrecord, hfront⟩ := hmade [.int 7, codes]
  have hnames : ∀ field ∈ fields, '[' ∉ field.name := by
    cases hrecord
    intro field hfield
    obtain ⟨view, hview, hname⟩ :=
      List.mem_map.mp (hfront.subset (List.mem_map_of_mem hfield))
    rw [← hname]
    exact hviews view hview
  have hparse : Annotation.parse source =
      .ok ⟨[.each [.each [.invoke ⟨"min".toList, some "1".toList⟩],
        .invoke ⟨"max".toList, some "2".toList⟩]]⟩ := by
    unfold Annotation.parse
    rw [← Directive.iterate_readSegments 3]
    rfl
  have houtcome : (Validator.new.validateWith defaultFormatter
      (.record "Order".toList fields)).outcome = .error (.invalid (.field path message cause)) := by
    simp only [Validator.validateWith, fields, Value.resolve, List.map_cons, List.map_nil,
      Validator.applyField, hparse]
    rfl
  obtain ⟨_, herrors⟩ := hrecords (.record "Order".toList fields) _ fields rfl (by decide) hnames
  have hleads : PathLeadsTo fields path 1 [1, 1] (.text []) := .intro rfl rfl rfl
  obtain ⟨position, indices, value, hfound, _, hunique⟩ := herrors .new path message cause houtcome
  obtain ⟨rfl, rfl, rfl⟩ := hunique 1 [1, 1] (.text []) hleads
  refine ⟨rfl, hother, hexpansion, rfl, houtcome, hleads, ?_⟩
  intro index others other hlead
  obtain ⟨hposition, hindices, hvalue⟩ := hunique index others other hlead
  exact ⟨hposition.symm, hindices.symm, hvalue.symm⟩

end FieldRules
