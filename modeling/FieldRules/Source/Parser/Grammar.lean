import FieldRules.Source.Parser.Cursor

/-!
# The entry points of the grammar

Expressions, types, patterns, statements and items contain each other.  The parser of each takes
the parsers of all as an argument, and the knot is tied once, over the depth of nesting.
-/

namespace FieldRules.Source

inductive Shape where
  | range
  | comparison
  /-- An expression that ends with a block of its own and is a statement without a semicolon. -/
  | blockLike
  | bracedMacro
  | plain
deriving Repr, DecidableEq

structure Expression where
  node : Node
  /-- The code in the attributes before the expression. -/
  attached : List Node := []
  shape : Shape := .plain
  /-- The last tree of the expression is a group in braces. -/
  endsInBrace : Bool := false
  /-- Attributes before the expression belong to it.  They do not if it begins with a form that is
  passed over. -/
  keepsAttributes : Bool := true

structure PathTree where
  parts : List Node
  bare : Bool
  /-- There is one segment, and it has no arguments in parentheses. -/
  single : Bool
  /-- The last segment has no arguments. -/
  openEnded : Bool

structure TypeTree where
  parts : List Node
  single : Bool
  path : Bool

inductive Precedence where
  | least
  | assign
  | range
  | or
  | and
  | compare
  | bitOr
  | bitXor
  | bitAnd
  | shift
  | sum
  | product
  | cast
deriving Repr, DecidableEq

def Precedence.rank : Precedence → Nat
  | least => 0
  | assign => 1
  | range => 2
  | or => 3
  | and => 4
  | compare => 5
  | bitOr => 6
  | bitXor => 7
  | bitAnd => 8
  | shift => 9
  | sum => 10
  | product => 11
  | cast => 12

structure Grammar where
  /-- An expression; the flag tells whether a name followed by braces is a struct. -/
  expression : Bool → Parser Expression
  early : Parser Expression
  unary : Bool → Parser Expression
  climb : Bool → Precedence → Expression → Parser Expression
  /-- A type; the flag tells whether it may be a sum of bounds. -/
  type : Bool → Parser TypeTree
  bound : Parser (List Node × Bool)
  pattern : Parser (List Node)
  statements : Parser (List Node)
  item : Parser Node
  /-- The fields of a field that has neither a name nor a type of its own. -/
  fields : Parser Unit
  imports : Bool → Parser Bool
  condition : Parser Condition

namespace Expression

def plain (node : Node) : Expression := { node }

def block (parts : List Node) : Expression :=
  { node := .code parts, shape := .blockLike, endsInBrace := true }

def passedOver : Expression := { node := .code [], keepsAttributes := false }

/-- The expression comes before the code in its attributes, so that a string literal stays the
first thing in a list of arguments. -/
def parts (expression : Expression) : List Node := expression.node :: expression.attached

def withAttributes (code : List Node) (expression : Expression) : Expression :=
  if expression.keepsAttributes then
    { expression with attached := code ++ expression.attached }
  else expression

/-- A longer expression that begins with this one. -/
def followedBy (left : Expression) (more : List Node) : Expression :=
  { node := .code (left.parts ++ more), keepsAttributes := left.keepsAttributes }

end Expression

end FieldRules.Source
