import FieldRules.Proofs.Scan.DerivedRecords
import FieldRules.Proofs.Scan.Findings
import FieldRules.Proofs.Text.NumeralFaults

/-!
# What a struct declaration is turned into

A declaration fails for what is wrong with its tags, and the fault is that of the
first attribute that is wrong: fields count in the order in which they are declared,
and attributes in the order in which they stand before the field.  If nothing is
wrong, every field has one entry, in the same order, with its name, its annotation
and the expression that borrows this field, and every type parameter is bounded.
-/

namespace FieldRules.Source

/-! ## Tags that are wrong -/

/-- There is more than one tag, or one without a literal. -/
def MisusesTag (attributes : List Attribute) : Prop :=
  (∃ attr ∈ attributes, attr.name = some tagName ∧ attr.literal? = none) ∨
    1 < (attributes.filter fun attr => attr.name = some tagName).length

/-- What is wrong with an attribute that stands behind others.  The argument of a second tag is of
no account. -/
inductive Attribute.Offends (attr : Attribute) (before : List Attribute) :
    ExpansionError → Prop where
  | duplicate {other : Attribute} (htag : attr.name = some tagName) (hother : other ∈ before)
      (hsecond : other.name = some tagName) : attr.Offends before .duplicateTag
  | notLiteral (htag : attr.name = some tagName)
      (hfirst : ∀ other ∈ before, other.name ≠ some tagName) (hliteral : attr.literal? = none) :
      attr.Offends before .notLiteral

/-- The fault is that of the first attribute that is wrong. -/
inductive FirstOffence (fields : List FieldDecl) (fault : ExpansionError) : Prop where
  | intro {before after : List FieldDecl} {field : FieldDecl}
      {earlier later : List Attribute} {attr : Attribute}
      (hfields : fields = before ++ field :: after)
      (hattributes : field.attributes = earlier ++ attr :: later)
      (hbefore : ∀ other ∈ before, ¬MisusesTag other.attributes)
      (hearlier : ¬MisusesTag earlier)
      (hoffends : attr.Offends earlier fault) :
      FirstOffence fields fault

section Tags

variable {found tag : Option Text} {attr : Attribute} {attributes : List Attribute}
  {fault : ExpansionError}

/-- The tag is not taken, where `found` is the one found before it. -/
inductive Attribute.RefusedAfter (attr : Attribute) : Option Text → ExpansionError → Prop where
  | duplicate {earlier : Text} (htag : attr.name = some tagName) :
      attr.RefusedAfter (some earlier) .duplicateTag
  | notLiteral (htag : attr.name = some tagName) (hliteral : attr.literal? = none) :
      attr.RefusedAfter none .notLiteral

theorem tagIn_of_refused (h : attr.RefusedAfter found fault) (rest : List Attribute) :
    tagIn found (attr :: rest) = .error fault := by
  cases h with
  | duplicate htag => simp [tagIn, htag]
  | notLiteral htag hliteral => simp [tagIn, htag, hliteral]

/-- An attribute that is not refused leaves the others to decide. -/
theorem refused_or_taken (found : Option Text) (attr : Attribute) :
    (∃ fault, attr.RefusedAfter found fault) ∨
      ∃ tag, ∀ rest, tagIn found (attr :: rest) = tagIn tag rest := by
  by_cases htag : attr.name = some tagName
  · cases found with
    | some annotation => exact .inl ⟨.duplicateTag, .duplicate htag⟩
    | none =>
        cases hliteral : attr.literal? with
        | none => exact .inl ⟨.notLiteral, .notLiteral htag hliteral⟩
        | some annotation =>
            refine .inr ⟨some annotation, ?_⟩
            intro rest
            simp [tagIn, htag, hliteral]
  · refine .inr ⟨found, ?_⟩
    intro rest
    simp [tagIn, htag]

theorem tagIn_append
    {earlier : List Attribute} (hearlier : tagIn found earlier = .ok tag)
    (rest : List Attribute) : tagIn found (earlier ++ rest) = tagIn tag rest := by
  induction earlier generalizing found with
  | nil =>
      cases hearlier
      rfl
  | cons attr earlier ih =>
      cases refused_or_taken found attr with
      | inl hrefused =>
          obtain ⟨fault, hrefused⟩ := hrefused
          rw [tagIn_of_refused hrefused] at hearlier
          contradiction
      | inr htaken =>
          obtain ⟨next, htaken⟩ := htaken
          rw [htaken] at hearlier
          rw [List.cons_append, htaken]
          exact ih hearlier

theorem exists_refused_of_tagIn (h : tagIn found attributes = .error fault) :
    ∃ earlier attr later tag, attributes = earlier ++ attr :: later ∧
      tagIn found earlier = .ok tag ∧ attr.RefusedAfter tag fault := by
  induction attributes generalizing found with
  | nil => contradiction
  | cons attr rest ih =>
      cases refused_or_taken found attr with
      | inl hrefused =>
          obtain ⟨other, hrefused⟩ := hrefused
          rw [tagIn_of_refused hrefused, Except.error.injEq] at h
          rw [h] at hrefused
          exact ⟨[], attr, rest, found, rfl, rfl, hrefused⟩
      | inr htaken =>
          obtain ⟨next, htaken⟩ := htaken
          rw [htaken] at h
          obtain ⟨earlier, failing, later, tag, hrest, hearlier, hrefused⟩ := ih h
          refine ⟨attr :: earlier, failing, later, tag, ?_, ?_, hrefused⟩
          · rw [hrest, List.cons_append]
          · rw [htaken, hearlier]

theorem exists_tagIn_iff : (∃ tag, tagIn none attributes = .ok tag) ↔ ¬MisusesTag attributes := by
  have hliterals : (∃ attr ∈ attributes, attr.name = some tagName ∧ attr.literal? = none) ↔
      none ∈ (attributes.filter fun attr => attr.name = some tagName).map
        Attribute.literal? := by
    simp only [List.mem_map, List.mem_filter, decide_eq_true_eq, and_assoc]
  simp only [tagIn_eq_ok_iff, MisusesTag, hliterals]
  generalize attributes.filter (fun attr => attr.name = some tagName) = tags
  match tags with
  | [] => exact iff_of_true ⟨none, rfl⟩ (by simp)
  | [attr] =>
      cases hliteral : attr.literal? with
      | none =>
          refine iff_of_false ?_ (by simp [hliteral])
          intro h
          obtain ⟨tag, htag⟩ := h
          cases tag <;> simp [hliteral] at htag
      | some annotation =>
          exact iff_of_true ⟨some annotation, by simp [hliteral]⟩ (by simp [hliteral])
  | first :: second :: rest =>
      refine iff_of_false ?_ (by simp)
      intro h
      obtain ⟨tag, htag⟩ := h
      cases tag <;> simp at htag

theorem tagIn_eq_none_iff (h : tagIn none attributes = .ok tag) :
    tag = none ↔ ∀ attr ∈ attributes, attr.name ≠ some tagName := by
  have htags := (tagIn_eq_ok_iff none).mp h
  have hnone : tag = none ↔
      attributes.filter (fun attr => decide (attr.name = some tagName)) = [] := by
    constructor
    · intro htag
      simpa [htag] using htags
    · intro hnil
      cases tag <;> simp [hnil] at htags ⊢
  rw [hnone, List.filter_eq_nil_iff]
  simp only [decide_eq_true_eq, ne_eq]

theorem offends_iff_refused
    {earlier : List Attribute} (hearlier : tagIn none earlier = .ok tag) :
    attr.Offends earlier fault ↔ attr.RefusedAfter tag fault := by
  have hnone := tagIn_eq_none_iff hearlier
  constructor
  · intro h
    cases h with
    | duplicate htag hother hsecond =>
        cases tag with
        | none => exact absurd hsecond (hnone.mp rfl _ hother)
        | some annotation => exact .duplicate htag
    | notLiteral htag hfirst hliteral =>
        rw [hnone.mpr hfirst]
        exact .notLiteral htag hliteral
  · intro h
    cases h with
    | duplicate htag =>
        have hsome : ¬∀ other ∈ earlier, other.name ≠ some tagName := fun hall =>
          Option.some_ne_none _ (hnone.mpr hall)
        push Not at hsome
        obtain ⟨other, hother, hsecond⟩ := hsome
        exact .duplicate htag hother hsecond
    | notLiteral htag hliteral => exact .notLiteral htag (hnone.mp rfl) hliteral

theorem tagIn_eq_error_iff :
    tagIn none attributes = .error fault ↔
      ∃ earlier attr later, attributes = earlier ++ attr :: later ∧
        ¬MisusesTag earlier ∧ attr.Offends earlier fault := by
  constructor
  · intro h
    obtain ⟨earlier, attr, later, tag, hattributes, hearlier, hrefused⟩ := exists_refused_of_tagIn h
    exact ⟨earlier, attr, later, hattributes, exists_tagIn_iff.mp ⟨tag, hearlier⟩,
      (offends_iff_refused hearlier).mpr hrefused⟩
  · intro h
    obtain ⟨earlier, attr, later, hattributes, hproper, hoffends⟩ := h
    obtain ⟨tag, hearlier⟩ := exists_tagIn_iff.mpr hproper
    rw [hattributes, tagIn_append hearlier]
    exact tagIn_of_refused ((offends_iff_refused hearlier).mp hoffends) later

end Tags

/-! ## The first fault -/

theorem firstOffence_cons_iff {field : FieldDecl} {rest : List FieldDecl} {fault : ExpansionError} :
    FirstOffence (field :: rest) fault ↔
      field.tag = .error fault ∨ (∃ tag, field.tag = .ok tag) ∧ FirstOffence rest fault := by
  unfold FieldDecl.tag
  rw [tagIn_eq_error_iff, exists_tagIn_iff]
  constructor
  · intro h
    obtain @⟨before, after, failing, earlier, later, attr, hfields, hattributes, hbefore, hearlier,
      hoffends⟩ := h
    cases before with
    | nil =>
        obtain ⟨rfl, rfl⟩ := List.cons.inj hfields
        exact .inl ⟨earlier, attr, later, hattributes, hearlier, hoffends⟩
    | cons first before =>
        obtain ⟨rfl, rfl⟩ := List.cons.inj hfields
        obtain ⟨hfirst, hothers⟩ := List.forall_mem_cons.mp hbefore
        exact .inr ⟨hfirst, .intro rfl hattributes hothers hearlier hoffends⟩
  · intro h
    cases h with
    | inl hfield =>
        obtain ⟨earlier, attr, later, hattributes, hearlier, hoffends⟩ := hfield
        have hfields : field :: rest = [] ++ field :: rest := rfl
        exact .intro hfields hattributes (by simp) hearlier hoffends
    | inr hrest =>
        obtain ⟨hfield, @⟨before, after, failing, _, _, _, hrest, hattributes, hbefore, hearlier,
          hoffends⟩⟩ := hrest
        have hfields : field :: rest = (field :: before) ++ failing :: after := by
          rw [hrest, List.cons_append]
        exact .intro hfields hattributes (List.forall_mem_cons.mpr ⟨hfield, hbefore⟩) hearlier
          hoffends

theorem fieldViews_eq_error_iff (index : Nat) {fields : List FieldDecl} {fault : ExpansionError} :
    fieldViews index fields = .error fault ↔ FirstOffence fields fault := by
  induction fields generalizing index with
  | nil =>
      refine iff_of_false (by simp [fieldViews]) ?_
      intro h
      obtain ⟨hfields⟩ := h
      simp at hfields
  | cons field rest ih =>
      rw [firstOffence_cons_iff, fieldViews, FieldDecl.view, ← ih (index + 1)]
      cases htag : field.tag with
      | error other => simp
      | ok tag => cases fieldViews (index + 1) rest <;> simp

/-! ## Entries -/

/-- The expression borrows the field, by its identifier or by its position. -/
inductive FieldDecl.BorrowedBy (field : FieldDecl) (position : Nat) : Text → Prop where
  | identifier {name : Text} (hname : field.name = some name) :
      field.BorrowedBy position ("&self.".toList ++ name)
  | number (hname : field.name = none) :
      field.BorrowedBy position ("&self.".toList ++ Text.ofNat position)

/-- The entry is that of the field at this position of its struct. -/
structure FieldDecl.ShownBy (field : FieldDecl) (position : Nat) (view : FieldView) : Prop where
  label : FieldLabel field position view.name
  annotation : ∀ text, view.annotation = some text ↔
    ∃ attr ∈ field.attributes, attr.name = some tagName ∧ attr.literal? = some text
  access : field.BorrowedBy position view.access

/-- The fields have identifiers, all of them different, or none has one. -/
def DistinctMembers (fields : List FieldDecl) : Prop :=
  ((∀ field ∈ fields, field.name ≠ none) ∧ (fields.map FieldDecl.name).Nodup) ∨
    ∀ field ∈ fields, field.name = none

/-- Every type parameter has its own bounds and one more, other parameters have none. -/
inductive BoundedParameters : List (GenericParameter × Bool) → List TypeParameter → Prop where
  | nil : BoundedParameters [] []
  | lifetime {name : Text} {comma : Bool} {rest : List (GenericParameter × Bool)}
      {bounded : List TypeParameter} (h : BoundedParameters rest bounded) :
      BoundedParameters ((.lifetime name, comma) :: rest) bounded
  | const {name : Text} {comma : Bool} {rest : List (GenericParameter × Bool)}
      {bounded : List TypeParameter} (h : BoundedParameters rest bounded) :
      BoundedParameters ((.const name, comma) :: rest) bounded
  | type {name : Text} {own : List Text} {comma : Bool}
      {rest : List (GenericParameter × Bool)} {bounded : List TypeParameter}
      (h : BoundedParameters rest bounded) :
      BoundedParameters ((.type name own, comma) :: rest)
        (⟨name, own ++ ["::tagrule_engine::AsValue".toList]⟩ :: bounded)

theorem boundedParameters_filterMap (parameters : List (GenericParameter × Bool)) :
    BoundedParameters parameters (parameters.filterMap fun entry => entry.1.typeParameter?) := by
  induction parameters with
  | nil => exact .nil
  | cons entry rest ih =>
      obtain ⟨parameter, comma⟩ := entry
      cases parameter with
      | lifetime name => exact .lifetime ih
      | type name own => exact .type ih
      | const name => exact .const ih

theorem FieldDecl.borrowedBy_memberName (field : FieldDecl) (position : Nat) :
    field.BorrowedBy position ("&self.".toList ++ field.memberName position) := by
  unfold FieldDecl.memberName
  cases hname : field.name with
  | none => exact .number hname
  | some name => exact .identifier hname

theorem FieldDecl.annotation_iff
    {field : FieldDecl} {tag : Option Text} (htag : field.tag = .ok tag) (text : Text) :
    tag = some text ↔
      ∃ attr ∈ field.attributes, attr.name = some tagName ∧ attr.literal? = some text := by
  have hliterals : (∃ attr ∈ field.attributes, attr.name = some tagName ∧
      attr.literal? = some text) ↔
        some text ∈ (annotationAttributes .standard field).map Attribute.literal? := by
    have hname : ScanConfig.standard.attributeName = tagName := rfl
    simp only [annotationAttributes, hname, List.mem_map, List.mem_filter, decide_eq_true_eq,
      and_assoc]
  rw [hliterals, FieldDecl.tag_eq_ok_iff.mp htag]
  cases tag <;> simp [eq_comm]

theorem FieldDecl.shownBy_of_view
    {field : FieldDecl} {position : Nat} {view : FieldView}
    (hview : field.view position = .ok view) : field.ShownBy position view := by
  obtain ⟨tag, htag, rfl⟩ := FieldDecl.view_eq_ok_iff.mp hview
  exact ⟨fieldLabel_iff.mpr rfl, FieldDecl.annotation_iff htag,
    field.borrowedBy_memberName position⟩

theorem forall₂_view_of_fieldViews
    {index : Nat} {fields : List FieldDecl} {views : List FieldView}
    (hviews : fieldViews index fields = .ok views) :
    List.Forall₂ (fun entry view => entry.1.view entry.2 = .ok view) (fields.zipIdx index) views := by
  induction fields generalizing index views with
  | nil =>
      cases hviews
      exact .nil
  | cons field rest ih =>
      rw [fieldViews] at hviews
      cases hview : field.view index with
      | error fault => simp [hview] at hviews
      | ok view =>
          cases hrest : fieldViews (index + 1) rest with
          | error fault => simp [hview, hrest] at hviews
          | ok others =>
              simp only [hview, hrest, Except.ok.injEq] at hviews
              rw [← hviews, List.zipIdx_cons]
              exact .cons hview (ih hrest)

/-- What the field and its position tell of every view, they tell of all views in order. -/
theorem map_of_fieldViews
    {α : Type} {part : FieldView → α} {told : FieldDecl × Nat → α}
    (hpart : ∀ entry view, entry.1.view entry.2 = .ok view → told entry = part view)
    {index : Nat} {fields : List FieldDecl} {views : List FieldView}
    (hviews : fieldViews index fields = .ok views) :
    views.map part = (fields.zipIdx index).map told := by
  have hparts := (forall₂_view_of_fieldViews hviews).imp hpart
  rw [eq_comm, ← List.forall₂_eq_eq_eq, List.forall₂_map_left_iff, List.forall₂_map_right_iff]
  exact hparts

theorem map_name_of_fieldViews
    {index : Nat} {fields : List FieldDecl} {views : List FieldView}
    (hviews : fieldViews index fields = .ok views) :
    views.map FieldView.name =
      (fields.zipIdx index).map fun entry => entry.1.label entry.2 := by
  refine map_of_fieldViews ?_ hviews
  intro entry view hview
  obtain ⟨_, _, rfl⟩ := FieldDecl.view_eq_ok_iff.mp hview
  rfl

theorem map_access_of_fieldViews
    {index : Nat} {fields : List FieldDecl} {views : List FieldView}
    (hviews : fieldViews index fields = .ok views) :
    views.map FieldView.access =
      (fields.zipIdx index).map fun entry => "&self.".toList ++ entry.1.memberName entry.2 := by
  refine map_of_fieldViews ?_ hviews
  intro entry view hview
  obtain ⟨_, _, rfl⟩ := FieldDecl.view_eq_ok_iff.mp hview
  rfl

theorem DistinctMembers.position_eq
    {fields : List FieldDecl} (hfields : DistinctMembers fields) {field other : FieldDecl}
    {position index : Nat} (hfield : fields[position]? = some field)
    (hother : fields[index]? = some other)
    (hmember : field.memberName position = other.memberName index) : position = index := by
  have hmem := List.mem_of_getElem? hfield
  have hotherMem := List.mem_of_getElem? hother
  cases hfields with
  | inl hnamed =>
      obtain ⟨hidentifiers, hnodup⟩ := hnamed
      obtain ⟨name, hname⟩ := Option.ne_none_iff_exists'.mp (hidentifiers field hmem)
      obtain ⟨second, hsecond⟩ := Option.ne_none_iff_exists'.mp (hidentifiers other hotherMem)
      have hsame : name = second := by
        simpa [FieldDecl.memberName, hname, hsecond] using hmember
      have hbound : position < (fields.map FieldDecl.name).length := by
        rw [List.length_map]
        exact (List.getElem?_eq_some_iff.mp hfield).1
      apply (List.getElem?_inj hbound hnodup).mp
      simp only [List.getElem?_map, hfield, hother, Option.map_some, hname, hsecond, hsame]
  | inr htuple =>
      have hname := htuple field hmem
      have hsecond := htuple other hotherMem
      apply Text.ofNat_injective
      simpa [FieldDecl.memberName, hname, hsecond] using hmember

/-- Different entries borrow different fields. -/
theorem nodup_access_of_fieldViews
    {fields : List FieldDecl} (hfields : DistinctMembers fields) {views : List FieldView}
    (hviews : fieldViews 0 fields = .ok views) : (views.map FieldView.access).Nodup := by
  rw [map_access_of_fieldViews hviews]
  apply List.Nodup.map_on
  · intro entry hentry other hother heq
    have hat : fields[entry.2]? = some entry.1 := List.mk_mem_zipIdx_iff_getElem?.mp hentry
    have hotherAt : fields[other.2]? = some other.1 := List.mk_mem_zipIdx_iff_getElem?.mp hother
    have hposition : entry.2 = other.2 :=
      hfields.position_eq hat hotherAt (List.append_cancel_left heq)
    rw [hposition, hotherAt, Option.some.injEq] at hat
    exact Prod.ext hat.symm hposition
  · apply List.Nodup.of_map Prod.snd
    rw [List.zipIdx_map_snd]
    exact List.nodup_range'

namespace Expansion

theorem ofInput_eq_notStruct_iff {input : RecordInput} :
    ofInput input = .error .notStruct ↔ input = .enum ∨ input = .union := by
  cases input with
  | struct decl =>
      refine iff_of_false ?_ (by simp)
      intro h
      rw [ofInput] at h
      cases hviews : fieldViews 0 decl.fields with
      | error fault =>
          simp only [hviews, Except.error.injEq] at h
          obtain ⟨_, _, _, _, hoffends⟩ := (fieldViews_eq_error_iff 0).mp hviews
          rw [h] at hoffends
          contradiction
      | ok views => simp [hviews] at h
  | enum => simp [ofInput]
  | union => simp [ofInput]

section Struct

variable {decl : StructDecl}

theorem ofInput_eq_error_iff {fault : ExpansionError} :
    ofInput (.struct decl) = .error fault ↔ FirstOffence decl.fields fault := by
  rw [← fieldViews_eq_error_iff 0, ofInput]
  cases fieldViews 0 decl.fields <;> simp

theorem exists_ofInput_error_iff :
    (∃ fault, ofInput (.struct decl) = .error fault) ↔
      ∃ field ∈ decl.fields, MisusesTag field.attributes := by
  have hwrong (field : FieldDecl) : MisusesTag field.attributes ↔ ¬∃ tag, field.tag = .ok tag := by
    rw [FieldDecl.tag, exists_tagIn_iff, not_not]
  have herror : (∃ fault, ofInput (.struct decl) = .error fault) ↔
      ¬∃ expansion, ofInput (.struct decl) = .ok expansion := by
    cases ofInput (.struct decl) <;> simp
  rw [herror, exists_ofInput_iff]
  simp only [hwrong, not_forall, exists_prop]

end Struct

/-- Only structs are expanded, and a struct is unless a field misuses tags; then the fault is that
of the first attribute that is wrong.  An expansion has an entry for every field, in order and
with the name, the annotation and the place of this field, and bounds its type parameters. -/
theorem ofInput_exact :
    (∀ input, ofInput input = .error .notStruct ↔ input = .enum ∨ input = .union) ∧
      ∀ decl,
        (∀ fault, ofInput (.struct decl) = .error fault ↔ FirstOffence decl.fields fault) ∧
        ((∃ fault, ofInput (.struct decl) = .error fault) ↔
          ∃ field ∈ decl.fields, MisusesTag field.attributes) ∧
        ∀ expansion, ofInput (.struct decl) = .ok expansion →
          List.Forall₂ (fun entry view => entry.1.ShownBy entry.2 view)
              decl.fields.zipIdx expansion.fields ∧
            (DistinctMembers decl.fields → (expansion.fields.map FieldView.access).Nodup) ∧
            expansion.record = decl.name ∧
            BoundedParameters decl.parameters expansion.parameters := by
  refine ⟨fun _ => ofInput_eq_notStruct_iff, ?_⟩
  intro decl
  refine ⟨fun _ => ofInput_eq_error_iff, exists_ofInput_error_iff, ?_⟩
  intro expansion hexpansion
  rw [ofInput] at hexpansion
  cases hviews : fieldViews 0 decl.fields with
  | error fault => simp [hviews] at hexpansion
  | ok views =>
      simp only [hviews, Except.ok.injEq] at hexpansion
      rw [← hexpansion]
      refine ⟨?_, fun hfields => nodup_access_of_fieldViews hfields hviews, rfl,
        boundedParameters_filterMap decl.parameters⟩
      exact (forall₂_view_of_fieldViews hviews).imp fun _ _ => FieldDecl.shownBy_of_view

/-- Parameters of all kinds, a raw identifier, and a tag behind another attribute. -/
theorem ofInput_exact_generic :
    let doc : Attribute := ⟨some "doc".toList, .value, none⟩
    let tag : Attribute := ⟨some "tag".toList, .list [.literal "\"min=1\"".toList .start], none⟩
    let kind : FieldDecl := ⟨some "r#type".toList, [doc, tag], .start⟩
    let note : FieldDecl := ⟨some "note".toList, [doc], .start⟩
    let decl : StructDecl := {
      name := "Order".toList
      parameters := [(.lifetime "'a".toList, true), (.type "T".toList ["Clone".toList], true),
        (.const "N".toList, false)]
      fields := [kind, note] }
    DistinctMembers decl.fields ∧
      ∃ expansion, ofInput (.struct decl) = .ok expansion ∧
        kind.ShownBy 0 ⟨"type".toList, some "min=1".toList, "&self.r#type".toList⟩ ∧
        note.ShownBy 1 ⟨"note".toList, none, "&self.note".toList⟩ ∧
        (expansion.fields.map FieldView.access).Nodup ∧
        expansion.parameters =
          [⟨"T".toList, ["Clone".toList, "::tagrule_engine::AsValue".toList]⟩] ∧
        BoundedParameters decl.parameters expansion.parameters := by
  intro doc tag kind note decl
  have hfields : DistinctMembers decl.fields := .inl ⟨by decide, by decide⟩
  obtain ⟨_, hdecl⟩ := ofInput_exact
  obtain ⟨_, _, hexpansion⟩ := hdecl decl
  obtain ⟨hshown, haccess, _, hbounded⟩ := hexpansion _ rfl
  obtain ⟨hkind, hrest⟩ := List.forall₂_cons.mp hshown
  obtain ⟨hnote, _⟩ := List.forall₂_cons.mp hrest
  exact ⟨hfields, _, rfl, hkind, hnote, haccess hfields, rfl, hbounded⟩

end Expansion

end FieldRules.Source
