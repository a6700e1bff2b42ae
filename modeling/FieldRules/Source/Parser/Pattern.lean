import FieldRules.Source.Parser.Type

/-!
# Patterns

Patterns matter only for the code in the arguments of their paths, in constant blocks and in the
attributes of fields.
-/

namespace FieldRules.Source.Parser

open Peek (second third oneOf)

def seesBar : Peek := fun trees =>
  Peek.symbol "|" trees && !Peek.symbol "||" trees && !Peek.symbol "|=" trees

def alternatives (g : Grammar) : Parser (List Node) := do
  discard (symbol? "|")
  let first ← g.pattern
  let more ← manyWhile seesBar do
    symbol "|"
    g.pattern
  return first ++ more.flatten

/-- The two dots of a range, in any of their forms; answers whether the end is included. -/
def rangeDots : Parser Bool := do
  if ← symbol? "..=" then return true
  if ← symbol? "..." then return true
  symbol ".."
  return false

def rangeBound? (g : Grammar) : Parser (Option (List Node)) := do
  let trees ← ahead
  if oneOf [Peek.done, Peek.symbol "|", Peek.symbol "=",
      fun trees => Peek.symbol ":" trees && !Peek.symbol "::" trees,
      Peek.symbol ",", Peek.symbol ";", Peek.keyword "if"] trees then return none
  if Peek.literal trees then
    if Peek.symbol "-" trees then advance
    advance
    return some []
  if oneOf [Peek.name, Peek.symbol "::", Peek.symbol "<", Peek.keyword "self",
      Peek.keyword "Self", Peek.keyword "super", Peek.keyword "crate"] trees then
    return some (← qualifiedPath g true).1.parts
  if Peek.keyword "const" trees then
    advance
    return some (← inside .brace (attributedStatements g))
  fail

def fieldPattern (g : Grammar) : Parser (List Node) := do
  let boxed ← keyword? "box"
  let byRef ← keyword? "ref"
  let mutable ← keyword? "mut"
  let modified := boxed || byRef || mutable
  let trees ← ahead
  let named := Peek.name trees
  if named then advance
  else
    match trees with
    | .literal text _ :: _ =>
      if !modified && isPlainInteger text then advance else fail
    | _ => fail
  if (!modified && (← sees (Peek.symbol ":"))) || !named then
    symbol ":"
    alternatives g
  else return []

def fieldPatterns (g : Grammar) : Parser (List Node) := inside .brace do
  loop [] fun parts => do
    if ← atEnd then return .inr parts
    let parts := parts ++ (← attributeCode g)
    if ← symbol? ".." then return .inr parts
    let parts := parts ++ (← fieldPattern g)
    if ← atEnd then return .inr parts
    symbol ","
    return .inl parts

def pathPattern (g : Grammar) : Parser (List Node) := do
  let (tree, qualified) ← qualifiedPath g true
  let trees ← ahead
  if !qualified && tree.bare && Peek.symbol "!" trees && !Peek.symbol "!=" trees then
    symbol "!"
    discard anyGroup
    return []
  if Peek.opens .brace trees then return tree.parts ++ (← fieldPatterns g)
  if Peek.opens .parenthesis trees then
    let parts ← inside .parenthesis (separated (alternatives g))
    return tree.parts ++ parts.flatten
  if Peek.symbol ".." trees then
    discard rangeDots
    return tree.parts ++ ((← rangeBound? g).getD [])
  return tree.parts

def literalPattern (g : Grammar) : Parser (List Node) := do
  let start ← rangeBound? g
  if ← sees (Peek.symbol "..") then
    let closed ← rangeDots
    let stop ← rangeBound? g
    if closed && stop.isNone then fail
    return start.getD [] ++ stop.getD []
  return start.getD []

/-- A pattern.  The pattern of a box is passed over. -/
def pattern (g : Grammar) : Parser (List Node) := do
  let trees ← ahead
  if (Peek.name trees && second (oneOf [Peek.symbol "::", Peek.symbol "!", Peek.opens .brace,
        Peek.opens .parenthesis, Peek.symbol ".."]) trees)
      || (Peek.keyword "self" trees && second (Peek.symbol "::") trees)
      || oneOf [Peek.symbol "::", Peek.symbol "<", Peek.keyword "Self", Peek.keyword "super",
        Peek.keyword "crate"] trees then pathPattern g
  else if Peek.keyword "_" trees then
    advance
    return []
  else if Peek.keyword "box" trees then
    advance
    discard g.pattern
    return []
  else if Peek.symbol "-" trees || Peek.literal trees || Peek.keyword "const" trees then
    literalPattern g
  else if oneOf [Peek.keyword "ref", Peek.keyword "mut", Peek.keyword "self", Peek.name]
      trees then
    discard (keyword? "ref")
    discard (keyword? "mut")
    unless ← keyword? "self" do discard name
    if ← symbol? "@" then g.pattern else return []
  else if Peek.symbol "&" trees then
    symbol "&"
    discard (keyword? "mut")
    g.pattern
  else if Peek.opens .parenthesis trees then
    return (← inside .parenthesis (separated (alternatives g))).flatten
  else if Peek.opens .bracket trees then
    return (← inside .bracket (separated (alternatives g))).flatten
  else if Peek.symbol ".." trees && !Peek.symbol "..." trees then
    let closed ← rangeDots
    let stop ← rangeBound? g
    if closed && stop.isNone then fail
    return stop.getD []
  else fail

end FieldRules.Source.Parser
