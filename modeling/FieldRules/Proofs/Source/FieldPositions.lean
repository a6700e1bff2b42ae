import FieldRules.Proofs.Source.Places
import FieldRules.Source.Parser.File

/-!
# What is read of fields and items

A field that is read from source stands where its name stands, or where its type
begins if it has no name.  The code in the attributes of a field or an item is read as
a part of it, and what is called or declared there is found with it.
-/

namespace FieldRules.Source.Parser

theorem bind_eq_ok_iff
    {α β : Type} {first : Parser α} {next : α → Parser β} {cursor after : Cursor} {value : β} :
    (first >>= next) cursor = .ok (value, after) ↔
      ∃ result middle, first cursor = .ok (result, middle) ∧
        next result middle = .ok (value, after) := by
  change (first cursor >>= fun pair => next pair.1 pair.2) = .ok (value, after) ↔ _
  cases hfirst : first cursor with
  | error position => simp [bind, Except.bind]
  | ok pair =>
      constructor
      · intro hnext
        exact ⟨pair.1, pair.2, rfl, hnext⟩
      · rintro ⟨result, middle, hpair, hnext⟩
        cases hpair
        exact hnext

theorem of_discard_eq_ok
    {α : Type} {first : Parser α} {cursor after : Cursor} {nothing : PUnit}
    (h : discard first cursor = .ok (nothing, after)) :
    ∃ result, first cursor = .ok (result, after) := by
  change (first >>= fun _ => pure PUnit.unit) cursor = _ at h
  obtain ⟨result, _, hfirst, hpure⟩ := bind_eq_ok_iff.mp h
  cases hpure
  exact ⟨result, hfirst⟩

theorem of_here_eq_ok
    {cursor after : Cursor} {position : Position} (h : here cursor = .ok (position, after)) :
    after = cursor ∧
      ∀ tree rest, cursor.trees = tree :: rest → position = tree.position := by
  cases h
  refine ⟨rfl, ?_⟩
  intro tree rest htrees
  rw [htrees]

theorem of_anyWord_eq_ok
    {cursor after : Cursor} {text : Text} (h : anyWord cursor = .ok (text, after)) :
    ∃ position rest, cursor.trees = .word text position :: rest := by
  obtain ⟨trees, stop, leftover⟩ := cursor
  cases trees with
  | nil => contradiction
  | cons tree rest =>
      cases tree with
      | word word position =>
          cases h
          exact ⟨position, rest, rfl⟩
      | _ => contradiction

theorem of_name_eq_ok
    {cursor after : Cursor} {text : Text} (h : name cursor = .ok (text, after)) :
    ∃ position rest, cursor.trees = .word text position :: rest := by
  obtain ⟨seen, _, hsees, h⟩ := bind_eq_ok_iff.mp h
  cases hsees
  split at h
  · exact of_anyWord_eq_ok h
  · obtain ⟨_, _, _, hthrow⟩ := bind_eq_ok_iff.mp h
    contradiction

/-- What follows a name, or any word, follows a word. -/
theorem of_label_eq_ok
    {α : Type} {anything : Bool} {next : Text → Parser α} {cursor after : Cursor} {value : α}
    (h : (if anything then anyWord >>= next else name >>= next) cursor = .ok (value, after)) :
    ∃ label position rest middle, cursor.trees = .word label position :: rest ∧
      next label middle = .ok (value, after) := by
  cases anything with
  | true =>
      obtain ⟨label, middle, hlabel, hnext⟩ := bind_eq_ok_iff.mp h
      obtain ⟨position, rest, htrees⟩ := of_anyWord_eq_ok hlabel
      exact ⟨label, position, rest, middle, htrees, hnext⟩
  | false =>
      obtain ⟨label, middle, hlabel, hnext⟩ := bind_eq_ok_iff.mp h
      obtain ⟨position, rest, htrees⟩ := of_name_eq_ok hlabel
      exact ⟨label, position, rest, middle, htrees, hnext⟩

/-! ## Fields -/

/-- A field with a name stands where the word does that is its name, and begins with the code in
its attributes. -/
theorem namedField_position
    {g : Grammar} {cursor after : Cursor} {field : FieldDecl} {parts : List Node}
    (h : namedField g cursor = .ok ((field, parts), after)) :
    ∃ code visible start middle label rest,
      outerAttributes g cursor = .ok ((field.attributes, code), start) ∧
        visibility? start = .ok (visible, middle) ∧
        middle.trees = .word label field.position :: rest ∧
        field.name = some label ∧ code <+: parts := by
  unfold namedField at h
  obtain ⟨⟨attributes, code⟩, start, hattributes, h⟩ := bind_eq_ok_iff.mp h
  obtain ⟨_, middle, hdiscard, h⟩ := bind_eq_ok_iff.mp h
  obtain ⟨position, _, hposition, h⟩ := bind_eq_ok_iff.mp h
  obtain ⟨seen, _, hsees, h⟩ := bind_eq_ok_iff.mp h
  cases hsees
  obtain ⟨label, own, rest, _, htrees, h⟩ := of_label_eq_ok h
  obtain ⟨_, _, _, h⟩ := bind_eq_ok_iff.mp h
  obtain ⟨parts, _, _, h⟩ := bind_eq_ok_iff.mp h
  cases h
  obtain ⟨visible, hvisible⟩ := of_discard_eq_ok hdiscard
  obtain ⟨rfl, hstands⟩ := of_here_eq_ok hposition
  have hown : position = own := hstands _ _ htrees
  subst hown
  exact ⟨code, visible, start, _, label, rest, hattributes, hvisible, htrees, rfl,
    List.prefix_append code parts⟩

/-- A field without a name stands where its type begins, and begins with the code in its
attributes. -/
theorem tupleField_position
    {g : Grammar} {cursor after : Cursor} {field : FieldDecl} {parts : List Node}
    (h : tupleField g cursor = .ok ((field, parts), after)) :
    ∃ code visible start middle type,
      outerAttributes g cursor = .ok ((field.attributes, code), start) ∧
        visibility? start = .ok (visible, middle) ∧
        here middle = .ok (field.position, middle) ∧
        g.type true middle = .ok (type, after) ∧
        field.name = none ∧ parts = code ++ type.parts := by
  unfold tupleField at h
  obtain ⟨⟨attributes, code⟩, start, hattributes, h⟩ := bind_eq_ok_iff.mp h
  obtain ⟨_, middle, hdiscard, h⟩ := bind_eq_ok_iff.mp h
  obtain ⟨position, _, hposition, h⟩ := bind_eq_ok_iff.mp h
  obtain ⟨type, _, htype, h⟩ := bind_eq_ok_iff.mp h
  cases h
  obtain ⟨visible, hvisible⟩ := of_discard_eq_ok hdiscard
  cases hposition
  exact ⟨code, visible, start, middle, type, hattributes, hvisible, rfl, htype, rfl, rfl⟩

/-! ## Items -/

/-- What is parsed is the node of an item or of a member, and is not passed over. -/
inductive IsDeclared : Node → Prop where
  | item (kind : ItemKind) (attributes : List Attribute) (parts : List Node) :
      IsDeclared (.item kind attributes parts)
  | member (kind : MemberKind) (attributes : List Attribute) (parts : List Node) :
      IsDeclared (.member kind attributes parts)

theorem IsDeclared.methodCalls_withCode {node : Node} (h : IsDeclared node) (code : List Node) :
    (withCode code node).methodCalls = methodCallsIn code ++ node.methodCalls := by
  cases h <;>
    simp only [withCode, Node.methodCalls, methodCallsIn_eq_flatMap, List.flatMap_append]

theorem IsDeclared.structs_withCode {node : Node} (h : IsDeclared node) (code : List Node) :
    (withCode code node).structs.Perm (structsIn code ++ node.structs) := by
  cases h with
  | item kind attributes parts =>
      cases kind <;>
        simp only [withCode, Node.structs, structsIn_eq_flatMap, List.flatMap_append,
          List.Perm.refl]
      exact List.perm_middle.symm
  | member kind attributes parts =>
      simp only [withCode, Node.structs, structsIn_eq_flatMap, List.flatMap_append,
        List.Perm.refl]

/-- The calls and the structs in the attributes of an item are found with those in the item
itself, unless it is passed over. -/
theorem item_finds_attributes
    {g : Grammar} {cursor after : Cursor} {node : Node}
    (h : item g cursor = .ok (node, after)) :
    ∃ attributes code start declared,
      outerAttributes g cursor = .ok ((attributes, code), start) ∧
        itemAfter g attributes start = .ok (declared, after) ∧
        (IsDeclared declared →
          node.methodCalls = methodCallsIn code ++ declared.methodCalls ∧
            node.structs.Perm (structsIn code ++ declared.structs)) := by
  unfold item attributed at h
  obtain ⟨⟨attributes, code⟩, start, hattributes, h⟩ := bind_eq_ok_iff.mp h
  obtain ⟨declared, _, hdeclared, h⟩ := bind_eq_ok_iff.mp h
  cases h
  exact ⟨attributes, code, start, declared, hattributes, hdeclared,
    fun hnode => ⟨hnode.methodCalls_withCode code, hnode.structs_withCode code⟩⟩

/-- A struct in the value of an attribute is one of the structs of the file. -/
example :
    let source : Text :=
      "#[doc = \x7b struct Inner(u8); 1 \x7d] struct Outer(#[doc = \x7b struct Last; 2 \x7d] u8);".toList
    (Outline.parse source).toOption.map (fun outline => outline.structs.map StructDecl.name) =
      some ["Outer".toList, "Inner".toList, "Last".toList] := by
  decide +kernel

end FieldRules.Source.Parser
