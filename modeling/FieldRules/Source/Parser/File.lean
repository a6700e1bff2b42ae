import FieldRules.Source.Lexer
import FieldRules.Source.Parser.Item

/-!
# Reading source files

The knot of the grammar is tied over the depth of nesting, for which the number of trees is
enough: each parser takes a tree before it calls on the others.
-/

namespace FieldRules.Source

/-- The parsers for code that is nested at most so deep. -/
def grammar : Nat → Grammar
  | 0 =>
    { expression := fun _ => Parser.fail
      early := Parser.fail
      unary := fun _ => Parser.fail
      climb := fun _ _ _ => Parser.fail
      type := fun _ => Parser.fail
      bound := Parser.fail
      pattern := Parser.fail
      statements := Parser.fail
      item := Parser.fail
      fields := Parser.fail
      imports := fun _ => Parser.fail
      condition := Parser.fail }
  | depth + 1 =>
    { expression := fun allowStruct cursor => Parser.expression (grammar depth) allowStruct cursor
      early := fun cursor => Parser.early (grammar depth) cursor
      unary := fun allowStruct cursor => Parser.unary (grammar depth) allowStruct cursor
      climb := fun allowStruct base first cursor =>
        Parser.climb (grammar depth) allowStruct base first cursor
      type := fun sum cursor => Parser.type (grammar depth) sum cursor
      bound := fun cursor => Parser.bound (grammar depth) cursor
      pattern := fun cursor => Parser.pattern (grammar depth) cursor
      statements := fun cursor => Parser.statements (grammar depth) cursor
      item := fun cursor => Parser.item (grammar depth) cursor
      fields := fun cursor => discard (Parser.namedFields (grammar depth)) cursor
      imports := fun allowRoot cursor => Parser.imports (grammar depth) allowRoot cursor
      condition := fun cursor => Parser.condition (grammar depth) cursor }

/-- Runs a parser on all trees of a text.  The text ends at its first place. -/
def parseTrees {α : Type} (parser : Grammar → Parser α) (trees : List Tree) :
    Except Position α :=
  let depth := 3 * Tree.sizeAll trees + 8
  match parser (grammar depth) ⟨trees, .start, none⟩ with
  | .error position => .error position
  | .ok (result, cursor) =>
    match cursor.leftover <|> cursor.trees.head?.map Tree.position with
    | some position => .error position
    | none => .ok result

def dropByteOrderMark : Text → Text
  | '\uFEFF' :: rest => rest
  | t => t

def skipBlanks (t : Text) : Text :=
  go t.length t
where
  go : Nat → Text → Text
    | 0, t => t
    | bound + 1, t =>
      match Lexer.blank? t with
      | some rest => go bound rest
      | none => t

/-- A text without the line that names its interpreter.  The line break stays, and a line that
begins an inner attribute is none. -/
def dropInterpreterLine (t : Text) : Text :=
  match t with
  | '#' :: '!' :: rest =>
    match skipBlanks rest with
    | '[' :: _ => t
    | _ => t.dropWhile (· ≠ '\n')
  | _ => t

namespace Outline

def parse (source : Text) : Except Position Outline :=
  match Lexer.read (dropByteOrderMark (dropInterpreterLine (dropByteOrderMark source))) with
  | .error position => .error position
  | .ok trees =>
    match parseTrees
        (fun g => do
          let (_, code) ← Parser.innerAttributes g
          return code ++ (← Parser.many (Parser.item g))) trees with
    | .error position => .error position
    | .ok nodes => .ok ⟨nodes⟩

end Outline

end FieldRules.Source
