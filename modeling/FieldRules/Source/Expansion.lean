import FieldRules.Source.Parser.File
import FieldRules.Value.Basic

/-!
# Records from struct declarations

A struct declaration says how a value of the struct is seen as a record: every field, under its
plain name, with the annotation of its `tag` attribute.  A field has at most one such attribute,
and its argument is one string literal.
-/

namespace FieldRules.Source

inductive RecordInput where
  | struct (decl : StructDecl)
  | enum
  | union
deriving Repr

inductive ExpansionError where
  | notStruct
  | duplicateTag
  | notLiteral
deriving Repr, DecidableEq

def ExpansionError.message : ExpansionError → Text
  | notStruct => "Record can only be derived for structs".toList
  | duplicateTag => "duplicate `tag` attribute; combine annotations with commas".toList
  | notLiteral => "expected a string literal: #[tag(\"min=1\")]".toList

structure FieldView where
  name : Text
  annotation : Option Text
  access : Text
deriving Repr, DecidableEq

structure TypeParameter where
  name : Text
  bounds : List Text
deriving Repr, DecidableEq

structure Expansion where
  /-- The struct applied to its own parameters, written without blanks. -/
  selfType : Text
  record : Text
  fields : List FieldView
  parameters : List TypeParameter
deriving Repr, DecidableEq

namespace RecordInput

def parser (g : Grammar) : Parser RecordInput := do
  discard (Parser.outerAttributes g)
  discard Parser.visibility?
  let trees ← Parser.ahead
  if Peek.keyword "struct" trees then return .struct (← Parser.structDecl g).1
  else if Peek.keyword "enum" trees then
    discard (Parser.enumDecl g)
    return .enum
  else if Peek.keyword "union" trees then
    discard (Parser.unionDecl g)
    return .union
  else Parser.fail

/-- The declaration that a text consists of, or the place of the first thing that is wrong. -/
def parse (source : Text) : Except Position RecordInput :=
  match Lexer.read (dropByteOrderMark source) with
  | .error position => .error position
  | .ok trees => parseTrees parser trees

end RecordInput

def tagName : Text := "tag".toList

/-- The annotation in the attributes of a field, where `found` is the one found before them. -/
def tagIn (found : Option Text) : List Attribute → Except ExpansionError (Option Text)
  | [] => .ok found
  | attr :: rest =>
    if attr.name = some tagName then
      match found, attr.literal? with
      | some _, _ => .error .duplicateTag
      | none, none => .error .notLiteral
      | none, some annotation => tagIn (some annotation) rest
    else tagIn found rest

def FieldDecl.tag (field : FieldDecl) : Except ExpansionError (Option Text) :=
  tagIn none field.attributes

def FieldDecl.memberName (field : FieldDecl) (index : Nat) : Text :=
  field.name.getD (Text.ofNat index)

def FieldDecl.view (field : FieldDecl) (index : Nat) : Except ExpansionError FieldView :=
  match field.tag with
  | .error fault => .error fault
  | .ok annotation =>
    .ok ⟨field.label index, annotation, "&self.".toList ++ field.memberName index⟩

def fieldViews (index : Nat) : List FieldDecl → Except ExpansionError (List FieldView)
  | [] => .ok []
  | field :: rest =>
    match field.view index with
    | .error fault => .error fault
    | .ok view =>
      match fieldViews (index + 1) rest with
      | .error fault => .error fault
      | .ok views => .ok (view :: views)

namespace GenericParameter

def name : GenericParameter → Text
  | lifetime name => name
  | type name _ => name
  | const name => name

def isLifetime : GenericParameter → Bool
  | lifetime _ => true
  | _ => false

def fieldBound : Text := "::tagrule_engine::AsValue".toList

def typeParameter? : GenericParameter → Option TypeParameter
  | type name bounds => some ⟨name, bounds ++ [fieldBound]⟩
  | _ => none

end GenericParameter

/-- Parameters as arguments: the lifetimes first, and each with the comma that follows it.  If the
last lifetime has none, one is added before the other parameters. -/
def genericArguments (parameters : List (GenericParameter × Bool)) : Text :=
  let render (entry : GenericParameter × Bool) : Text :=
    entry.1.name ++ (if entry.2 then [','] else [])
  let lifetimes := parameters.filter fun entry => entry.1.isLifetime
  let others := parameters.filter fun entry => !entry.1.isLifetime
  let joined := (lifetimes.getLast?.map Prod.snd).getD true || others.isEmpty
  if parameters.isEmpty then []
  else ['<'] ++ lifetimes.flatMap render ++ (if joined then [] else [','])
    ++ others.flatMap render ++ ['>']

namespace Expansion

def ofInput : RecordInput → Except ExpansionError Expansion
  | .struct decl =>
    match fieldViews 0 decl.fields with
    | .error fault => .error fault
    | .ok fields =>
      .ok {
        selfType := decl.name ++ genericArguments decl.parameters
        record := decl.name
        fields
        parameters := decl.parameters.filterMap fun entry => entry.1.typeParameter? }
  | _ => .error .notStruct

def recordOf (expansion : Expansion) (values : List Value) : Value :=
  .record expansion.record (expansion.fields.zipWith
    (fun view value => ⟨view.name, view.annotation, value⟩) values)

end Expansion
end FieldRules.Source
