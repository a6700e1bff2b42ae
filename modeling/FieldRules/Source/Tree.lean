import FieldRules.Text.Basic

/-!
# Token trees

Rust source as a tree: words, marks, literals, and groups of trees between delimiters.  Every
tree knows where in the source it stands.
-/

namespace FieldRules.Source

/-- A place in a source text.  Lines and columns count from one; columns count characters. -/
structure Position where
  line : Nat
  column : Nat
deriving Repr, DecidableEq

def Position.start : Position := ⟨1, 1⟩

def Position.next (position : Position) (c : Char) : Position :=
  if c = '\n' then ⟨position.line + 1, 1⟩ else ⟨position.line, position.column + 1⟩

inductive Delimiter where
  | parenthesis
  | bracket
  | brace
deriving Repr, DecidableEq

inductive Tree where
  /-- An identifier or keyword, as written: a raw identifier begins with `r#`. -/
  | word (text : Text) (position : Position)
  /-- A punctuation character.  It is joint if another one follows directly. -/
  | mark (char : Char) (joint : Bool) (position : Position)
  | literal (text : Text) (position : Position)
  | group (delimiter : Delimiter) (trees : List Tree) (opening closing : Position)
deriving Repr

namespace Delimiter

def opening : Delimiter → Char
  | parenthesis => '('
  | bracket => '['
  | brace => '{'

def closing : Delimiter → Char
  | parenthesis => ')'
  | bracket => ']'
  | brace => '}'

def ofOpening? : Char → Option Delimiter
  | '(' => some parenthesis
  | '[' => some bracket
  | '{' => some brace
  | _ => none

def ofClosing? : Char → Option Delimiter
  | ')' => some parenthesis
  | ']' => some bracket
  | '}' => some brace
  | _ => none

end Delimiter

namespace Tree

def position : Tree → Position
  | word _ position => position
  | mark _ _ position => position
  | literal _ position => position
  | group _ _ opening _ => opening

mutual

def size : Tree → Nat
  | group _ trees _ _ => 1 + sizeAll trees
  | _ => 1

def sizeAll : List Tree → Nat
  | [] => 0
  | tree :: rest => tree.size + sizeAll rest

end

mutual

/-- The text of a tree in uniform spacing.  Braces are set off by blanks inside, parentheses and
brackets are not. -/
def text : Tree → Text
  | word text _ => text
  | mark char _ _ => [char]
  | literal text _ => text
  | group .brace [] _ _ => "\x7b \x7d".toList
  | group .brace (tree :: rest) _ _ => "\x7b ".toList ++ textAll (tree :: rest) ++ " \x7d".toList
  | group delimiter trees _ _ => delimiter.opening :: textAll trees ++ [delimiter.closing]

/-- The texts of trees with one blank between them, but none after a joint mark. -/
def textAll : List Tree → Text
  | [] => []
  | [tree] => tree.text
  | mark char true _ :: second :: rest => char :: textAll (second :: rest)
  | tree :: second :: rest => tree.text ++ ' ' :: textAll (second :: rest)

end

def denseText (trees : List Tree) : Text := (textAll trees).filter (· ≠ ' ')

end Tree
end FieldRules.Source
