import FieldRules.Proofs.Scan.Problems
import FieldRules.Proofs.Scan.UnknownNames
import FieldRules.Source.Expansion
import Mathlib.Data.List.Basic

/-!
# Records and the static check

The attributes of a struct are read twice: for the records that are made of its
values, and by the static check.  The records carry the annotations that are
checked, each at the field of the same name.  If no field has two `tag` attributes,
the struct has records exactly when the check finds a literal in all of them.
-/

namespace FieldRules

open Source (Attribute Expansion ExpansionError FieldDecl FieldView StructDecl fieldViews tagIn)

/-- An annotation, and the field of the record that carries it. -/
structure AnnotatedField where
  record : Text
  field : Text
  annotation : Text
deriving Repr, DecidableEq

def Source.FieldView.annotated? (record : Text) (view : FieldView) : Option AnnotatedField :=
  view.annotation.map fun annotation => ⟨record, view.name, annotation⟩

/-- The fields with an annotation in the records of a struct. -/
def Source.Expansion.annotatedFields (expansion : Expansion) : List AnnotatedField :=
  expansion.fields.filterMap fun view => view.annotated? expansion.record

def Source.FieldDecl.checked (config : ScanConfig) (record : Text) (field : FieldDecl)
    (index : Nat) : List AnnotatedField :=
  (annotationAttributes config field).filterMap fun attr =>
    attr.literal?.map fun annotation => ⟨record, field.label index, annotation⟩

/-- The annotations in a struct that are checked, with the fields that they are found at. -/
def checkedFields (config : ScanConfig) (decl : StructDecl) : List AnnotatedField :=
  decl.fields.zipIdx.flatMap fun entry => entry.1.checked config decl.name entry.2

def Diagnostic.annotatedField (diagnostic : Diagnostic) : AnnotatedField :=
  ⟨diagnostic.record, diagnostic.field, diagnostic.annotation⟩

/-- What the static check says about an annotation, at the field that carries it. -/
def AnnotatedField.problems (custom : List Text) (carrier : AnnotatedField) :
    List (AnnotatedField × Text) :=
  (annotationProblems custom carrier.annotation).map fun message => (carrier, message)

def notLiteralMessage : Text := "`tag` attribute expects a single string literal".toList

/-! ## Tags of fields -/

namespace Source

/-- Together with one found before, at most one attribute is for the tag, and it has a literal. -/
theorem tagIn_eq_ok_iff (found : Option Text) {attributes : List Attribute} {tag : Option Text} :
    tagIn found attributes = .ok tag ↔
      found.toList.map some ++
          (attributes.filter fun attr => attr.name = some tagName).map Attribute.literal? =
        tag.toList.map some := by
  induction attributes generalizing found with
  | nil =>
      cases found <;> cases tag <;> simp [tagIn]
  | cons attr rest ih =>
      by_cases hname : attr.name = some tagName
      · rw [List.filter_cons, if_pos (decide_eq_true hname), List.map_cons]
        cases found with
        | some before => cases tag <;> simp [tagIn, hname]
        | none =>
            cases hliteral : attr.literal? with
            | none => cases tag <;> simp [tagIn, hname, hliteral]
            | some literal =>
                have hrest := ih (some literal)
                simpa [tagIn, hname, hliteral] using hrest
      · have hskip : tagIn found (attr :: rest) = tagIn found rest := by simp [tagIn, hname]
        rw [List.filter_cons, if_neg (by simpa using hname), hskip]
        exact ih found

theorem FieldDecl.tag_eq_ok_iff {field : FieldDecl} {tag : Option Text} :
    field.tag = .ok tag ↔
      (annotationAttributes .standard field).map Attribute.literal? =
        tag.toList.map some :=
  tagIn_eq_ok_iff none

theorem FieldDecl.literal_of_tag
    {field : FieldDecl} {tag : Option Text} (htag : field.tag = .ok tag) :
    ∀ attr ∈ annotationAttributes .standard field, attr.literal? ≠ none := by
  intro attr hattr hnone
  have hmem := List.mem_map_of_mem (f := Attribute.literal?) hattr
  rw [FieldDecl.tag_eq_ok_iff.mp htag, hnone] at hmem
  simp at hmem

theorem FieldDecl.exists_tag_iff
    {field : FieldDecl} (hsingle : (annotationAttributes .standard field).length ≤ 1) :
    (∃ tag, field.tag = .ok tag) ↔
      ∀ attr ∈ annotationAttributes .standard field, attr.literal? ≠ none := by
  constructor
  · rintro ⟨tag, htag⟩
    exact FieldDecl.literal_of_tag htag
  · intro hliteral
    simp only [FieldDecl.tag_eq_ok_iff]
    match annotationAttributes .standard field, hsingle, hliteral with
    | [], _, _ => exact ⟨none, rfl⟩
    | [attr], _, hliteral =>
        obtain ⟨text, htext⟩ :=
          Option.ne_none_iff_exists'.mp (hliteral attr List.mem_cons_self)
        exact ⟨some text, by simp [htext]⟩

/-! ## Records -/

theorem FieldDecl.view_eq_ok_iff {field : FieldDecl} {index : Nat} {view : FieldView} :
    field.view index = .ok view ↔
      ∃ tag, field.tag = .ok tag ∧
        view = ⟨field.label index, tag, "&self.".toList ++ field.memberName index⟩ := by
  unfold FieldDecl.view
  cases field.tag with
  | error fault => simp
  | ok tag =>
      simp only [Except.ok.injEq, exists_eq_left']
      exact eq_comm

theorem exists_fieldViews_iff (index : Nat) {fields : List FieldDecl} :
    (∃ views, fieldViews index fields = .ok views) ↔
      ∀ field ∈ fields, ∃ tag, field.tag = .ok tag := by
  induction fields generalizing index with
  | nil => simp [fieldViews]
  | cons first rest ih =>
      rw [List.forall_mem_cons, ← ih (index + 1), fieldViews, FieldDecl.view]
      cases first.tag with
      | error fault => simp
      | ok tag =>
          cases fieldViews (index + 1) rest with
          | error fault => simp
          | ok views => simp

/-- A field of a record carries the annotation that the check reads at it. -/
theorem FieldDecl.annotated?_view
    {field : FieldDecl} {index : Nat} {view : FieldView} (hview : field.view index = .ok view)
    (record : Text) :
    (view.annotated? record).toList = field.checked .standard record index := by
  obtain ⟨tag, htag, rfl⟩ := FieldDecl.view_eq_ok_iff.mp hview
  let carrier (text : Text) : AnnotatedField := ⟨record, field.label index, text⟩
  calc (tag.map carrier).toList
      = (tag.toList.map some).filterMap (Option.map carrier) := by
        cases tag <;> rfl
    _ = ((annotationAttributes .standard field).map Attribute.literal?).filterMap
          (Option.map carrier) := by
        rw [FieldDecl.tag_eq_ok_iff.mp htag]
    _ = field.checked .standard record index := by
        rw [List.filterMap_map]
        rfl

theorem filterMap_fieldViews
    {index : Nat} {fields : List FieldDecl} {views : List FieldView}
    (hviews : fieldViews index fields = .ok views) (record : Text) :
    (views.filterMap fun view => view.annotated? record) =
      (fields.zipIdx index).flatMap fun entry => entry.1.checked .standard record entry.2 := by
  induction fields generalizing index views with
  | nil =>
      rw [← Except.ok.inj hviews]
      rfl
  | cons first rest ih =>
      unfold fieldViews at hviews
      cases hfirst : first.view index with
      | error fault => simp [hfirst] at hviews
      | ok view =>
          cases hrest : fieldViews (index + 1) rest with
          | error fault => simp [hfirst, hrest] at hviews
          | ok others =>
              simp only [hfirst, hrest, Except.ok.injEq] at hviews
              rw [← hviews, List.zipIdx_cons, List.flatMap_cons, ← ih hrest,
                ← first.annotated?_view hfirst record, List.filterMap_cons]
              cases view.annotated? record <;> rfl

namespace Expansion

variable {decl : StructDecl} {expansion : Expansion}

theorem exists_ofInput_iff :
    (∃ expansion, ofInput (.struct decl) = .ok expansion) ↔
      ∀ field ∈ decl.fields, ∃ tag, field.tag = .ok tag := by
  rw [← exists_fieldViews_iff 0, ofInput]
  cases fieldViews 0 decl.fields <;> simp

theorem annotatedFields_eq (hexpansion : ofInput (.struct decl) = .ok expansion) :
    expansion.annotatedFields = checkedFields .standard decl := by
  unfold ofInput at hexpansion
  cases hviews : fieldViews 0 decl.fields with
  | error fault => simp [hviews] at hexpansion
  | ok views =>
      simp only [hviews, Except.ok.injEq] at hexpansion
      rw [← hexpansion]
      exact filterMap_fieldViews hviews decl.name

end Expansion
end Source

/-! ## Messages of the static check -/

/-- The message does not begin with the name of the attribute. -/
def StartsPlain (message : Text) : Prop := message.head?.any (· ≠ '`') = true

instance : DecidablePred StartsPlain := fun message =>
  inferInstanceAs (Decidable (message.head?.any (· ≠ '`') = true))

namespace StartsPlain

variable {message : Text}

theorem append (hplain : StartsPlain message) (rest : Text) : StartsPlain (message ++ rest) := by
  cases message with
  | nil => contradiction
  | cons c others => exact hplain

theorem ne_notLiteralMessage (hplain : StartsPlain message) : message ≠ notLiteralMessage := by
  rintro rfl
  exact absurd hplain (by decide)

theorem of_unknownMessage (invocation : Invocation) :
    StartsPlain invocation.unknownMessage := by
  have hunknown : StartsPlain "unknown validator ".toList := by decide
  have hinvalid : StartsPlain "invalid syntax ".toList := by decide
  unfold Invocation.unknownMessage
  split
  · simp only [List.append_assoc]
    exact hinvalid.append _
  · exact hunknown.append _

theorem of_problem?
    {custom : List Text} {invocation : Invocation}
    (hmessage : invocation.problem? custom = some message) : StartsPlain message := by
  have hbounds : ∀ name ∈ RuleName.bounds, StartsPlain name := by decide
  unfold Invocation.problem? at hmessage
  split_ifs at hmessage with hempty hunknown hbound hrequired
  · rw [← Option.some.inj hmessage]
    decide
  · rw [← Option.some.inj hmessage]
    exact of_unknownMessage invocation
  · obtain ⟨rest, rfl⟩ := Invocation.boundProblem?_front hmessage
    exact (hbounds _ (by simpa using hbound)).append rest
  · rw [← Option.some.inj hmessage]
    decide

theorem of_mem_annotationProblems
    {custom : List Text} {source : Text} (hmem : message ∈ annotationProblems custom source) :
    StartsPlain message := by
  have hunclosed : StartsPlain "unclosed braces in ".toList := by decide
  have hunopened : StartsPlain "unopened braces in ".toList := by decide
  cases hparse : Annotation.parse source with
  | error fault =>
      rw [annotationProblems_of_error hparse] at hmem
      rw [List.mem_singleton.mp hmem]
      cases fault with
      | unclosedBraces text => exact hunclosed.append _
      | unopenedBraces text => exact hunopened.append _
  | ok rules =>
      obtain ⟨invocation, _, hproblem⟩ := (mem_annotationProblems_iff hparse).mp hmem
      exact of_problem? hproblem

end StartsPlain

/-! ## Diagnostics of a struct -/

theorem notLiteralMessage_mem_attributeProblems_iff {custom : List Text} {attr : Attribute} :
    notLiteralMessage ∈ (attributeProblems .standard custom attr).2 ↔ attr.literal? = none := by
  unfold attributeProblems
  cases attr.literal? with
  | none => exact iff_of_true List.mem_cons_self rfl
  | some source =>
      refine iff_of_false ?_ (by simp)
      intro hmem
      exact (StartsPlain.of_mem_annotationProblems hmem).ne_notLiteralMessage rfl

section Diagnostics

variable (config : ScanConfig) (custom : List Text) (path : FilePath)

theorem map_message_structDiagnostics (decl : StructDecl) :
    (structDiagnostics config custom path decl).map Diagnostic.message =
      decl.fields.flatMap fun field =>
        (annotationAttributes config field).flatMap fun attr =>
          (attributeProblems config custom attr).2 := by
  have hfields : decl.fields.zipIdx.map Prod.fst = decl.fields := List.zipIdx_map_fst 0 decl.fields
  conv_rhs => rw [← hfields, List.flatMap_map]
  unfold structDiagnostics fieldDiagnostics
  simp only [List.map_flatMap, List.map_map, Function.comp_def, List.map_id']

/-- What is found at a field whose attributes all have a literal. -/
theorem map_fieldDiagnostics
    {field : FieldDecl}
    (hliteral : ∀ attr ∈ annotationAttributes config field, attr.literal? ≠ none)
    (record : Text) (index : Nat) :
    ((fieldDiagnostics config custom path record field index).map fun diagnostic =>
        (diagnostic.annotatedField, diagnostic.message)) =
      (field.checked config record index).flatMap (AnnotatedField.problems custom) := by
  unfold fieldDiagnostics Source.FieldDecl.checked
  generalize annotationAttributes config field = attributes at hliteral
  induction attributes with
  | nil => rfl
  | cons first rest ih =>
      obtain ⟨hfirst, hrest⟩ := List.forall_mem_cons.mp hliteral
      obtain ⟨source, hsource⟩ := Option.ne_none_iff_exists'.mp hfirst
      have hfound : attributeProblems config custom first =
          (source, annotationProblems custom source) := by
        rw [attributeProblems, hsource]
      rw [List.flatMap_cons, List.map_append, ih hrest, hfound, List.filterMap_cons, hsource,
        Option.map_some, List.flatMap_cons, AnnotatedField.problems, List.map_map]
      rfl

theorem map_structDiagnostics
    {decl : StructDecl}
    (hliteral : ∀ field ∈ decl.fields, ∀ attr ∈ annotationAttributes config field,
      attr.literal? ≠ none) :
    ((structDiagnostics config custom path decl).map fun diagnostic =>
        (diagnostic.annotatedField, diagnostic.message)) =
      (checkedFields config decl).flatMap (AnnotatedField.problems custom) := by
  rw [structDiagnostics, checkedFields, List.map_flatMap, List.flatMap_assoc]
  apply List.flatMap_congr
  intro entry hentry
  have hfield : entry.1 ∈ decl.fields := List.fst_mem_of_mem_zipIdx hentry
  exact map_fieldDiagnostics config custom path (hliteral entry.1 hfield) decl.name entry.2

theorem message_ne_notLiteralMessage_iff (decl : StructDecl) :
    (∀ diagnostic ∈ structDiagnostics .standard custom path decl,
        diagnostic.message ≠ notLiteralMessage) ↔
      ∀ field ∈ decl.fields, ∀ attr ∈ annotationAttributes .standard field,
        attr.literal? ≠ none := by
  have hmessages : (∀ diagnostic ∈ structDiagnostics .standard custom path decl,
      diagnostic.message ≠ notLiteralMessage) ↔
        notLiteralMessage ∉ (structDiagnostics .standard custom path decl).map
          Diagnostic.message := by
    simp only [List.mem_map, not_exists, not_and, ne_eq]
  rw [hmessages, map_message_structDiagnostics]
  simp only [List.mem_flatMap, notLiteralMessage_mem_attributeProblems_iff, not_exists, not_and,
    ne_eq]

end Diagnostics

namespace Source.Expansion

/-- The records of a struct carry the annotations that the static check looks at, and all that it
says about the struct is about these.  If no field has two tags, a struct has records exactly when
the check misses no literal. -/
theorem ofInput_agrees_with_check (decl : StructDecl) (custom : List Text) (path : FilePath) :
    (∀ expansion, ofInput (.struct decl) = .ok expansion →
      expansion.annotatedFields = checkedFields .standard decl ∧
        ((structDiagnostics .standard custom path decl).map fun diagnostic =>
            (diagnostic.annotatedField, diagnostic.message)) =
          expansion.annotatedFields.flatMap (AnnotatedField.problems custom)) ∧
      ((∀ field ∈ decl.fields, (annotationAttributes .standard field).length ≤ 1) →
        ((∃ expansion, ofInput (.struct decl) = .ok expansion) ↔
          ∀ diagnostic ∈ structDiagnostics .standard custom path decl,
            diagnostic.message ≠ notLiteralMessage)) := by
  constructor
  · intro expansion hexpansion
    have hfields := annotatedFields_eq hexpansion
    refine ⟨hfields, ?_⟩
    rw [hfields]
    apply map_structDiagnostics
    intro field hfield attr hattr
    obtain ⟨tag, htag⟩ := exists_ofInput_iff.mp ⟨expansion, hexpansion⟩ field hfield
    exact FieldDecl.literal_of_tag htag attr hattr
  · intro hsingle
    rw [exists_ofInput_iff, message_ne_notLiteralMessage_iff]
    exact forall₂_congr fun field hfield => FieldDecl.exists_tag_iff (hsingle field hfield)

/-- A raw identifier, a field without a tag, another attribute before a tag, and a raw literal. -/
theorem ofInput_agrees_with_check_generic :
    let place := Position.start
    let doc : Attribute := ⟨some "doc".toList, .value, none⟩
    let plain : Attribute :=
      ⟨some "tag".toList, .list [.literal "\"min=1\"".toList place], none⟩
    let raw : Attribute :=
      ⟨some "tag".toList, .list [.literal "r#\"each={required}\"#".toList place], none⟩
    let decl : StructDecl := {
      name := "Order".toList
      parameters := [(.lifetime "'a".toList, true), (.type "T".toList ["Clone".toList], false)]
      fields := [
        ⟨some "r#type".toList, [doc, plain], place⟩, ⟨some "note".toList, [doc], place⟩,
        ⟨some "lines".toList, [raw], place⟩] }
    (∃ expansion, ofInput (.struct decl) = .ok expansion ∧
      expansion.annotatedFields =
        [⟨"Order".toList, "type".toList, "min=1".toList⟩,
          ⟨"Order".toList, "lines".toList, "each={required}".toList⟩] ∧
      expansion.annotatedFields = checkedFields .standard decl) ∧
    ∀ diagnostic ∈ structDiagnostics .standard [] ⟨"src/order.rs".toList⟩ decl,
      diagnostic.message ≠ notLiteralMessage := by
  intro place doc plain raw decl
  obtain ⟨hcarried, hliteral⟩ := ofInput_agrees_with_check decl [] ⟨"src/order.rs".toList⟩
  have hsingle : ∀ field ∈ decl.fields, (annotationAttributes .standard field).length ≤ 1 := by
    decide
  refine ⟨⟨_, rfl, rfl, ?_⟩, ?_⟩
  · exact (hcarried _ rfl).1
  · exact (hliteral hsingle).mp ⟨_, rfl⟩

end Source.Expansion

end FieldRules
