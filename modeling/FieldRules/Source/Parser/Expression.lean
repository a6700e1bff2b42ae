import FieldRules.Source.Parser.Pattern

/-!
# Expressions

Expressions by the strength of their operators.  What is kept of them are the method calls, the
string literals, and the code in blocks and in attributes.
-/

namespace FieldRules.Source.Parser

open Peek (second third oneOf)

/-! ## Operators -/

/-- The operators between two operands, in the order in which they are tried. -/
def operators : List (String × Precedence) :=
  [("+=", .assign), ("-=", .assign), ("*=", .assign), ("/=", .assign), ("%=", .assign),
   ("^=", .assign), ("&=", .assign), ("|=", .assign), ("<<=", .assign), (">>=", .assign),
   ("&&", .and), ("||", .or), ("<<", .shift), (">>", .shift), ("==", .compare),
   ("<=", .compare), ("!=", .compare), (">=", .compare), ("+", .sum), ("-", .sum),
   ("*", .product), ("/", .product), ("%", .product), ("^", .bitXor), ("&", .bitAnd),
   ("|", .bitOr), ("<", .compare), (">", .compare)]

def operator? (trees : List Tree) : Option (String × Precedence) :=
  operators.find? fun entry => Peek.symbol entry.1 trees

def seesAssignment : Peek := fun trees => Peek.symbol "=" trees && !Peek.symbol "=>" trees

def nextPrecedence (trees : List Tree) : Precedence :=
  match operator? trees with
  | some (_, precedence) => precedence
  | none =>
    if seesAssignment trees then .assign
    else if Peek.symbol ".." trees then .range
    else if Peek.keyword "as" trees then .cast
    else .least

def seesDot : Peek := fun trees => Peek.symbol "." trees && !Peek.symbol ".." trees

def startsExpression : Peek := fun trees =>
  (Peek.word trees && !Peek.keyword "as" trees)
    || oneOf [Peek.opens .parenthesis, Peek.opens .bracket, Peek.opens .brace, Peek.literal,
      Peek.symbol "..", Peek.symbol "::", Peek.lifetime, Peek.symbol "#"] trees
    || (Peek.symbol "!" trees && !Peek.symbol "!=" trees)
    || (Peek.symbol "-" trees && !Peek.symbol "-=" trees && !Peek.symbol "->" trees)
    || (Peek.symbol "*" trees && !Peek.symbol "*=" trees)
    || (Peek.symbol "|" trees && !Peek.symbol "|=" trees)
    || (Peek.symbol "&" trees && !Peek.symbol "&=" trees)
    || (Peek.symbol "<" trees && !Peek.symbol "<=" trees && !Peek.symbol "<<=" trees)

/-! ## Blocks and branches -/

def block (g : Grammar) : Parser (List Node) := inside .brace g.statements

def blockWithAttributes (g : Grammar) : Parser (List Node) :=
  inside .brace (attributedStatements g)

def ifExpression (g : Grammar) : Parser Expression :=
  loop [] fun parts => do
    keyword "if"
    let condition ← g.expression false
    let body ← block g
    let parts := parts ++ condition.parts ++ [.code body]
    if ← keyword? "else" then
      if ← sees (Peek.keyword "if") then return .inl parts
      let last ← block g
      return .inr (.block (parts ++ [.code last]))
    return .inr (.block parts)

def matchArm (g : Grammar) : Parser (List Node) := do
  let code ← attributeCode g
  let pattern ← alternatives g
  let guard ← if ← keyword? "if" then pure (← g.expression true).parts else pure []
  symbol "=>"
  let body ← g.early
  if body.shape ≠ .blockLike && !(← atEnd) then symbol "," else discard (symbol? ",")
  return code ++ pattern ++ guard ++ body.parts

def repetition (g : Grammar) : Parser Expression := do
  let trees ← ahead
  if Peek.keyword "while" trees then
    advance
    let condition ← g.expression false
    return .block (condition.parts ++ (← blockWithAttributes g))
  else if Peek.keyword "for" trees then
    advance
    let pattern ← alternatives g
    keyword "in"
    let source ← g.expression false
    return .block (pattern ++ source.parts ++ (← blockWithAttributes g))
  else if Peek.keyword "loop" trees then
    advance
    return .block (← blockWithAttributes g)
  else if Peek.opens .brace trees then
    return .block (← blockWithAttributes g)
  else fail

def labeled (g : Grammar) : Parser Expression := do
  discard lifetime
  symbol ":"
  repetition g

def matchExpression (g : Grammar) : Parser Expression := do
  keyword "match"
  let subject ← g.expression false
  let arms ← inside .brace do
    let (_, code) ← innerAttributes g
    return code ++ (← many (matchArm g)).flatten
  return .block (subject.parts ++ arms)

/-! ## Atoms -/

def member : Parser (Option Text) := do
  let trees ← ahead
  if Peek.name trees then return some (← anyWord)
  match trees with
  | .literal text _ :: _ =>
    if isPlainInteger text then advance; return none
    else fail
  | _ => fail

def structFields (g : Grammar) : Parser (List Node) := inside .brace do
  loop [] fun parts => do
    if ← atEnd then return .inr parts
    if ← symbol? ".." then
      if ← atEnd then return .inr parts
      return .inr (parts ++ (← g.expression true).parts)
    let parts := parts ++ (← attributeCode g)
    let name ← member
    let parts ← if name.isNone || (← sees (Peek.symbol ":")) then do
        symbol ":"
        pure (parts ++ (← g.expression true).parts)
      else pure parts
    if ← atEnd then return .inr parts
    symbol ","
    return .inl parts

def pathExpression (g : Grammar) (allowStruct : Bool) : Parser Expression := do
  let (tree, qualified) ← qualifiedPath g true
  let trees ← ahead
  if !qualified && tree.bare && Peek.symbol "!" trees && !Peek.symbol "!=" trees then
    symbol "!"
    let (delimiter, _) ← anyGroup
    if delimiter = .brace then
      return { node := .code [], shape := .bracedMacro, endsInBrace := true }
    return .plain (.code [])
  if allowStruct && Peek.opens .brace trees then
    return { node := .code (tree.parts ++ (← structFields g)), endsInBrace := true }
  return .plain (.code tree.parts)

def parenthesized (g : Grammar) : Parser Expression := inside .parenthesis do
  return .plain (.code ((← separated (g.expression true)).flatMap Expression.parts))

def arrayExpression (g : Grammar) : Parser Expression := inside .bracket do
  if ← atEnd then return .plain (.code [])
  let first ← g.expression true
  if ← symbol? ";" then
    let count ← g.expression true
    return .plain (.code (first.parts ++ count.parts))
  if ← atEnd then return .plain (.code first.parts)
  symbol ","
  let more ← separated (g.expression true)
  return .plain (.code (first.parts ++ more.flatMap Expression.parts))

def closure (g : Grammar) (allowStruct : Bool) : Parser Expression := do
  let code := (← binder? g).getD []
  for word in ["const", "static", "async", "move"] do discard (keyword? word)
  symbol "|"
  let inputs ← separatedUntil "," (Peek.symbol "|") do
    let code ← attributeCode g
    let boxed ← sees (Peek.keyword "box")
    let pattern ← g.pattern
    if ← symbol? ":" then return code ++ pattern ++ (← g.type true).parts
    return if boxed then [] else code ++ pattern
  symbol "|"
  if ← symbol? "->" then
    let output ← g.type true
    let body ← block g
    return {
      node := .code (code ++ inputs.flatten ++ output.parts ++ [.code body])
      endsInBrace := true }
  let body ← g.expression allowStruct
  return {
    node := .code (code ++ inputs.flatten ++ body.parts)
    endsInBrace := body.endsInBrace }

/-- A keyword that leaves a block, with the value that it takes along. -/
def leaving (g : Grammar) (allowStruct takesBrace : Bool) : Parser Expression := do
  let trees ← ahead
  if startsExpression trees && (takesBrace || !Peek.opens .brace trees) then
    let value ← g.expression allowStruct
    return { node := .code value.parts, endsInBrace := value.endsInBrace }
  return .plain (.code [])

def rightOperand (g : Grammar) (allowStruct : Bool) (precedence : Precedence) :
    Parser Expression := do
  let first ← g.unary allowStruct
  loop first fun operand => do
    let trees ← ahead
    let next := nextPrecedence trees
    if next.rank > precedence.rank || (next = precedence && precedence = .assign) then
      let result ← g.climb allowStruct next operand
      if (← ahead).length = trees.length then return .inr result
      return .inl result
    else return .inr operand

def rangeEnd (g : Grammar) (allowStruct closed : Bool) : Parser (Option Expression) := do
  let trees ← ahead
  let isOpen := oneOf [Peek.done, Peek.symbol ",", Peek.symbol ";", seesDot, Peek.symbol "?",
    Peek.symbol "=>", Peek.symbol "=", Peek.symbol "+", Peek.symbol "/", Peek.symbol "%",
    Peek.symbol "^", Peek.symbol ">", Peek.symbol "<=", Peek.symbol "!=", Peek.symbol "-=",
    Peek.symbol "*=", Peek.symbol "&=", Peek.symbol "|=", Peek.symbol "<<=",
    Peek.keyword "as"] trees || (!allowStruct && Peek.opens .brace trees)
  if !closed && isOpen then return none
  return some (← rightOperand g allowStruct .range)

def expressionDots : Parser Bool := do
  if ← symbol? "..=" then return true
  if ← sees (Peek.symbol "...") then fail
  symbol ".."
  return false

def rangeExpression (g : Grammar) (allowStruct : Bool) (start : List Node) :
    Parser Expression := do
  let closed ← expressionDots
  match ← rangeEnd g allowStruct closed with
  | some stop =>
    return { node := .code (start ++ stop.parts), shape := .range, endsInBrace := stop.endsInBrace }
  | none => return { node := .code start, shape := .range }

/-- A form that the compiler has for itself: `builtin # name(..)`. -/
def builtinForm : Parser Expression := do
  keyword "builtin"
  symbol "#"
  discard name
  inside .parenthesis (discard (many advance))
  return .passedOver

def atom (g : Grammar) (allowStruct : Bool) : Parser Expression := do
  let trees ← ahead
  if Peek.literal trees then
    match trees with
    | .literal text _ :: _ =>
      advance
      match StringLiteral.value? text with
      | some value => return .plain (.string value)
      | none => return .plain (.code [])
    | _ =>
      if Peek.symbol "-" trees then advance
      advance
      return .plain (.code [])
  else if Peek.keyword "async" trees && (second (Peek.opens .brace) trees
      || (second (Peek.keyword "move") trees && third (Peek.opens .brace) trees)) then
    advance
    discard (keyword? "move")
    return { node := .code (← block g), endsInBrace := true }
  else if Peek.keyword "try" trees && second (Peek.opens .brace) trees then
    advance
    return .block (← block g)
  else if oneOf [Peek.symbol "|", Peek.keyword "move", Peek.keyword "static"] trees
      || (Peek.keyword "for" trees && second opensGenerics trees)
      || (Peek.keyword "const" trees && !second (Peek.opens .brace) trees)
      || (Peek.keyword "async" trees
        && second (oneOf [Peek.symbol "|", Peek.keyword "move"]) trees) then
    closure g allowStruct
  else if Peek.keyword "builtin" trees && second (Peek.symbol "#") trees then builtinForm
  else if oneOf [Peek.name, Peek.symbol "::", Peek.symbol "<", Peek.keyword "self",
        Peek.keyword "Self", Peek.keyword "super", Peek.keyword "crate"] trees
      || (Peek.keyword "try" trees
        && second (oneOf [Peek.symbol "!", Peek.symbol "::"]) trees) then
    pathExpression g allowStruct
  else if Peek.opens .parenthesis trees then parenthesized g
  else if Peek.keyword "break" trees then
    advance
    let trees ← ahead
    if Peek.lifetime trees then
      let start ← here
      if second (Peek.symbol ":") trees then
        discard (g.expression true)
        throw start
      discard lifetime
    leaving g allowStruct allowStruct
  else if Peek.keyword "continue" trees then
    advance
    discard lifetime?
    return .plain (.code [])
  else if Peek.keyword "return" trees then
    advance
    leaving g allowStruct true
  else if Peek.keyword "become" trees then
    advance
    discard (g.expression true)
    return .passedOver
  else if Peek.opens .bracket trees then arrayExpression g
  else if Peek.keyword "let" trees then
    advance
    let pattern ← alternatives g
    symbol "="
    let first ← g.unary allowStruct
    let value ← g.climb allowStruct .compare first
    return { node := .code (pattern ++ value.parts), endsInBrace := value.endsInBrace }
  else if Peek.keyword "if" trees then ifExpression g
  else if oneOf [Peek.keyword "while", Peek.keyword "for", Peek.keyword "loop"] trees then
    repetition g
  else if Peek.keyword "match" trees then matchExpression g
  else if Peek.keyword "yield" trees then
    advance
    leaving g true true
  else if Peek.keyword "unsafe" trees || Peek.keyword "const" trees then
    advance
    return .block (← blockWithAttributes g)
  else if Peek.opens .brace trees then
    return .block (← blockWithAttributes g)
  else if Peek.symbol ".." trees then rangeExpression g allowStruct []
  else if Peek.keyword "_" trees then
    advance
    return .plain (.code [])
  else if Peek.lifetime trees then labeled g
  else fail

/-! ## Calls, fields and operators -/

def callArguments (g : Grammar) : Parser (List Node) := do
  return (← inside .parenthesis (separated (g.expression true))).flatMap Expression.parts

def afterDot (g : Grammar) (receiver : List Node) : Parser Expression := do
  if ← keyword? "await" then return .plain (.code receiver)
  let name? ← member
  match name? with
  | none => return .plain (.code receiver)
  | some method =>
    let trees ← ahead
    if Peek.symbol "::" trees then
      let generics ← angleArguments g
      let arguments ← callArguments g
      return .plain (.methodCall method (receiver ++ generics) arguments)
    else if Peek.opens .parenthesis trees then
      return .plain (.methodCall method receiver (← callArguments g))
    else return .plain (.code receiver)

def trailers (g : Grammar) (first : Expression) : Parser Expression :=
  loop first fun expression => do
    let trees ← ahead
    let ranged := decide (expression.shape = .range)
    if Peek.opens .parenthesis trees then
      let arguments ← callArguments g
      return .inl (.plain (.code (expression.parts ++ arguments)))
    else if seesDot trees && !ranged then
      symbol "."
      let fraction? := match (← ahead) with
        | .literal text _ :: _ => splitFraction? text
        | _ => none
      match fraction? with
      | some (_, fraction) =>
        advance
        if fraction.isEmpty then return .inl (← afterDot g expression.parts)
        return .inl (.plain (.code expression.parts))
      | none => return .inl (← afterDot g expression.parts)
    else if Peek.opens .bracket trees then
      let index ← inside .bracket (g.expression true)
      return .inl (.plain (.code (expression.parts ++ index.parts)))
    else if Peek.symbol "?" trees && !ranged then
      symbol "?"
      return .inl (.plain (.code expression.parts))
    else return .inr expression

def unary (g : Grammar) (allowStruct : Bool) : Parser Expression := do
  let code ← attributeCode g
  let trees ← ahead
  if Peek.symbol "&" trees then
    symbol "&"
    let trees ← ahead
    let raw := Peek.keyword "raw" trees
      && second (oneOf [Peek.keyword "mut", Peek.keyword "const"]) trees
    if raw then advance
    let mutable ← keyword? "mut"
    if raw && !mutable then keyword "const"
    let operand ← g.unary allowStruct
    return { node := .code (code ++ operand.parts), endsInBrace := operand.endsInBrace }
  else if oneOf [Peek.symbol "*", Peek.symbol "!", Peek.symbol "-"] trees then
    advance
    let operand ← g.unary allowStruct
    return { node := .code (code ++ operand.parts), endsInBrace := operand.endsInBrace }
  else return (← trailers g (← atom g allowStruct)).withAttributes code

def afterCast : Parser Unit := do
  let trees ← ahead
  if seesDot trees || oneOf [Peek.symbol "?", Peek.opens .bracket, Peek.opens .parenthesis] trees
  then fail

/-- The rest of an expression behind its first operand, as far as operators bind tightly
enough. -/
def climb (g : Grammar) (allowStruct : Bool) (base : Precedence) (first : Expression) :
    Parser Expression :=
  loop first fun left => do
    let trees ← ahead
    if left.shape = .range then return .inr left
    match operator? trees with
    | some (text, precedence) =>
      if precedence.rank < base.rank then return .inr left
      if precedence = .compare && left.shape = .comparison then fail
      symbol text
      let right ← rightOperand g allowStruct precedence
      let shape := if precedence = .compare then Shape.comparison else .plain
      return .inl { left.followedBy right.parts with
        shape, endsInBrace := right.endsInBrace }
    | none =>
      if Precedence.assign.rank ≥ base.rank && seesAssignment trees then
        symbol "="
        let right ← rightOperand g allowStruct .assign
        return .inl { left.followedBy right.parts with endsInBrace := right.endsInBrace }
      else if Precedence.range.rank ≥ base.rank && Peek.symbol ".." trees then
        return .inl (← rangeExpression g allowStruct left.parts)
      else if Precedence.cast.rank ≥ base.rank && Peek.keyword "as" trees then
        advance
        let type ← g.type false
        afterCast
        return .inl (left.followedBy type.parts)
      else return .inr left

def expression (g : Grammar) (allowStruct : Bool) : Parser Expression := do
  let first ← unary g allowStruct
  climb g allowStruct .least first

/-- An expression that stands as a statement or as the body of a match arm.  If it begins with a
block, it ends with the block, unless a dot or a question mark follows. -/
def early (g : Grammar) : Parser Expression := do
  let code ← attributeCode g
  let trees ← ahead
  let first? : Option (Parser Expression) :=
    if Peek.keyword "if" trees then some (ifExpression g)
    else if Peek.keyword "while" trees || Peek.keyword "loop" trees
        || (Peek.keyword "for" trees && !second opensGenerics trees) then some (repetition g)
    else if Peek.keyword "match" trees then some (matchExpression g)
    else if Peek.keyword "try" trees && second (Peek.opens .brace) trees then
      some do
        advance
        return .block (← block g)
    else if Peek.keyword "unsafe" trees
        || (Peek.keyword "const" trees && second (Peek.opens .brace) trees) then
      some do
        advance
        return .block (← blockWithAttributes g)
    else if Peek.opens .brace trees then some do return .block (← blockWithAttributes g)
    else if Peek.lifetime trees then some (labeled g)
    else none
  match first? with
  | none =>
    let first ← unary g true
    climb g true .least (first.withAttributes code)
  | some parser =>
    let first ← parser
    let trees ← ahead
    if seesDot trees || Peek.symbol "?" trees then
      let whole ← trailers g first
      climb g true .least (whole.withAttributes code)
    else return first.withAttributes code

end FieldRules.Source.Parser
