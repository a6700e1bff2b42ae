import FieldRules.Source.Outline

/-!
# Cursors

A parser works on the trees that are left of one group.  It fails at a place: that of the tree
that it cannot use, or that of the closing delimiter if the group ends too early.  Trees that are
left over at the end of a group are noted, and count as an error only if nothing else is wrong.
-/

namespace FieldRules.Source

structure Cursor where
  trees : List Tree
  stop : Position
  /-- The first tree that was left over in a group. -/
  leftover : Option Position

abbrev Parser := StateT Cursor (Except Position)

/-! ## Looking ahead -/

/-- A question about the trees that come next. -/
abbrev Peek := List Tree → Bool

namespace Peek

def done : Peek := List.isEmpty

def marks : Text → Peek
  | [], _ => true
  | [c], .mark char _ _ :: _ => c == char && c != '\''
  | c :: more, .mark char joint _ :: rest => c == char && joint && marks more rest
  | _, _ => false

def symbol (text : String) : Peek := marks text.toList

def keyword (text : String) : Peek
  | .word word _ :: _ => word == text.toList
  | _ => false

def reserved : List Text :=
  ["_", "abstract", "as", "async", "await", "become", "box", "break", "const", "continue",
   "crate", "do", "dyn", "else", "enum", "extern", "false", "final", "fn", "for", "if", "impl",
   "in", "let", "loop", "macro", "match", "mod", "move", "mut", "override", "priv", "pub", "ref",
   "return", "Self", "self", "static", "struct", "super", "trait", "true", "try", "type",
   "typeof", "unsafe", "unsized", "use", "virtual", "where", "while", "yield"].map String.toList

def word : Peek
  | .word _ _ :: _ => true
  | _ => false

def name : Peek
  | .word word _ :: _ => !reserved.contains word
  | _ => false

def lifetime : Peek
  | .mark '\'' true _ :: .word _ _ :: _ => true
  | _ => false

def opens (delimiter : Delimiter) : Peek
  | .group other _ _ _ :: _ => delimiter == other
  | _ => false

/-- The next tree is a literal, with a minus sign before it if it is a number, or a truth value. -/
def literal : Peek
  | .literal _ _ :: _ => true
  | .mark '-' _ _ :: .literal text _ :: _ => text.head?.any Char.isDigit
  | .word word _ :: _ => word == "true".toList || word == "false".toList
  | _ => false

def string : Peek
  | .literal text _ :: _ => (StringLiteral.value? text).isSome
  | _ => false

/-- The trees after the next one; a lifetime counts as one. -/
def skip : List Tree → List Tree
  | .mark '\'' true _ :: .word _ _ :: rest => rest
  | _ :: rest => rest
  | [] => []

def second (peek : Peek) : Peek := fun trees => peek (skip trees)

def third (peek : Peek) : Peek := fun trees => peek (skip (skip trees))

def oneOf (peeks : List Peek) : Peek := fun trees => peeks.any fun peek => peek trees

end Peek

namespace Parser

/-! ## Steps -/

def here : Parser Position := do
  let cursor ← get
  return match cursor.trees with
    | [] => cursor.stop
    | tree :: _ => tree.position

def fail {α : Type} : Parser α := do
  throw (← here)

def ahead : Parser (List Tree) := do
  return (← get).trees

def sees (peek : Peek) : Parser Bool := do
  return peek (← get).trees

def atEnd : Parser Bool := sees Peek.done

def advance : Parser Unit := modify fun cursor => { cursor with trees := cursor.trees.drop 1 }

def symbol (text : String) : Parser Unit := do
  if ← sees (Peek.symbol text) then
    modify fun cursor => { cursor with trees := cursor.trees.drop text.length }
  else fail

def symbol? (text : String) : Parser Bool := do
  if ← sees (Peek.symbol text) then symbol text; return true
  else return false

def keyword? (text : String) : Parser Bool := do
  if ← sees (Peek.keyword text) then advance; return true
  else return false

def keyword (text : String) : Parser Unit := do
  unless ← keyword? text do fail

def anyWord : Parser Text := do
  match (← get).trees with
  | .word word _ :: rest => modify fun cursor => { cursor with trees := rest }; return word
  | _ => fail

def name : Parser Text := do
  if ← sees Peek.name then anyWord else fail

def lifetime : Parser Text := do
  match (← get).trees with
  | .mark '\'' true _ :: .word word _ :: rest =>
    modify fun cursor => { cursor with trees := rest }
    return '\'' :: word
  | _ => fail

def lifetime? : Parser Bool := do
  if ← sees Peek.lifetime then discard lifetime; return true
  else return false

def inside {α : Type} (delimiter : Delimiter) (parser : Parser α) : Parser α := do
  let cursor ← get
  match cursor.trees with
  | .group other trees _ closing :: rest =>
    if other = delimiter then
      let (result, inner) ← (parser.run ⟨trees, closing, cursor.leftover⟩ : Except _ _)
      let left := inner.trees.head?.map Tree.position
      set ({ cursor with trees := rest, leftover := inner.leftover <|> left } : Cursor)
      return result
    else fail
  | _ => fail

def anyGroup : Parser (Delimiter × List Tree) := do
  match (← get).trees with
  | .group delimiter trees _ _ :: rest =>
    modify fun cursor => { cursor with trees := rest }
    return (delimiter, trees)
  | _ => fail

/-- Runs a parser and takes back what it did if it fails. -/
def attempt {α : Type} (parser : Parser α) : Parser (Option α) := fun cursor =>
  match parser cursor with
  | .ok (result, next) => .ok (some result, next)
  | .error _ => .ok (none, cursor)

def withTaken {α : Type} (parser : Parser α) : Parser (α × List Tree) := do
  let before := (← get).trees
  let result ← parser
  let after := (← get).trees
  return (result, before.take (before.length - after.length))

/-! ## Repetition -/

/-- Repeats a step until it ends the loop.  A step that goes on takes at least one tree, so that
the number of trees that are left bounds the repetitions. -/
def loop {σ α : Type} (init : σ) (step : σ → Parser (σ ⊕ α)) : Parser α := do
  go ((← get).trees.length + 2) init
where
  go : Nat → σ → Parser α
    | 0, _ => fail
    | bound + 1, state => do
      match ← step state with
      | .inl next => go bound next
      | .inr result => return result

def manyWhile {α : Type} (peek : Peek) (parser : Parser α) : Parser (List α) :=
  loop [] fun results => do
    if ← sees peek then return .inl ((← parser) :: results)
    else return .inr results.reverse

def many {α : Type} (parser : Parser α) : Parser (List α) :=
  manyWhile (fun trees => !trees.isEmpty) parser

/-- Repeats a parser, with a symbol after each but possibly the last, until a question is answered
with yes. -/
def separatedUntil {α : Type} (mark : String) (stop : Peek) (parser : Parser α) :
    Parser (List α) :=
  loop [] fun results => do
    if ← sees stop then return .inr results.reverse
    let result ← parser
    if ← sees stop then return .inr (result :: results).reverse
    symbol mark
    return .inl (result :: results)

def separated {α : Type} (parser : Parser α) : Parser (List α) :=
  separatedUntil "," Peek.done parser

def joinedUntil {α : Type} (mark : String) (stop : Peek) (parser : Parser α) :
    Parser (List α) :=
  loop [] fun results => do
    if ← sees stop then return .inr results.reverse
    let result ← parser
    if ← symbol? mark then return .inl (result :: results)
    return .inr (result :: results).reverse

end Parser
end FieldRules.Source
