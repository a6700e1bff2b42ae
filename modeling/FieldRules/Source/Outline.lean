import FieldRules.Source.Literal

/-!
# Outlines

What the analysis keeps of a source file: its items with their attributes, the fields of structs,
the method calls, and how all of these are nested.  Other code is kept as the list of its parts.
Code in the value of an attribute is part of what carries the attribute.
-/

namespace FieldRules.Source

/-! ## Attributes -/

inductive Condition where
  | option (name : Text)
  | keyValue (name value : Text)
  | all (parts : List Condition)
  | any (parts : List Condition)
  | not (part : Condition)
  | unreadable
deriving Repr

inductive Arguments where
  | none
  | value
  | list (trees : List Tree)
deriving Repr

structure Attribute where
  /-- The path, if it is a single word. -/
  name : Option Text
  arguments : Arguments
  /-- The predicate that the arguments read as, if they are one. -/
  condition : Option Condition
deriving Repr

namespace Attribute

def literal? (attr : Attribute) : Option Text :=
  match attr.arguments with
  | .list [.literal text _] => StringLiteral.value? text
  | _ => none

/-- The arguments as text, nothing if they do not stand between delimiters. -/
def argumentText (attr : Attribute) : Text :=
  match attr.arguments with
  | .list trees => Tree.textAll trees
  | _ => []

end Attribute

/-! ## Structs -/

inductive GenericParameter where
  | lifetime (name : Text)
  | type (name : Text) (bounds : List Text)
  | const (name : Text)
deriving Repr, DecidableEq

structure FieldDecl where
  name : Option Text
  attributes : List Attribute
  position : Position
deriving Repr

structure StructDecl where
  name : Text
  /-- The parameters, each with whether a comma follows it. -/
  parameters : List (GenericParameter × Bool)
  fields : List FieldDecl
deriving Repr

def plainName (name : Text) : Text := (Text.dropStart? ['r', '#'] name).getD name

/-- The name of the field at a position of its struct, which is the position if it has none. -/
def FieldDecl.label (field : FieldDecl) (index : Nat) : Text :=
  match field.name with
  | some name => plainName name
  | none => Text.ofNat index

/-! ## Code -/

inductive ItemKind where
  | struct (decl : StructDecl)
  | module
  | implementation
  | trait
  | other
deriving Repr

inductive MemberKind where
  | method
  | associated
  | ofTrait
  | foreign
deriving Repr, DecidableEq

inductive Node where
  | item (kind : ItemKind) (attributes : List Attribute) (parts : List Node)
  | member (kind : MemberKind) (attributes : List Attribute) (parts : List Node)
  /-- A method call; what it is called on comes first.  Each argument is followed by the code in
  its attributes. -/
  | methodCall (method : Text) (receiver : List Node) (arguments : List Node)
  | string (value : Text)
  | code (parts : List Node)
deriving Repr

structure Outline where
  nodes : List Node
deriving Repr

end FieldRules.Source
