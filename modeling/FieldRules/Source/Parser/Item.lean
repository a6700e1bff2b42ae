import FieldRules.Source.Parser.Expression

/-!
# Statements and items

The inside of blocks, and all kinds of items with what they contain.  A form that only looks like
an item, such as a function without a body, is passed over with everything in it.
-/

namespace FieldRules.Source.Parser

open Peek (second third oneOf)

def passedOver : Node := .code []

/-- An item or a member with the code in its attributes.  What is passed over is left as it is. -/
def withCode (code : List Node) : Node → Node
  | .item kind attributes parts => .item kind attributes (code ++ parts)
  | .member kind attributes parts => .member kind attributes (code ++ parts)
  | other => other

/-- Attributes, and behind them the item or the member that carries them. -/
def attributed (g : Grammar) (parser : List Attribute → Parser Node) : Parser Node := do
  let (attributes, code) ← outerAttributes g
  return withCode code (← parser attributes)

/-! ## Functions -/

def dropKeyword (text : String) (trees : List Tree) : List Tree :=
  if Peek.keyword text trees then trees.drop 1 else trees

def seesFunction (allowSafe : Bool) : Peek := fun trees =>
  let trees := dropKeyword "async" (dropKeyword "const" trees)
  let trees :=
    if allowSafe && Peek.keyword "safe" trees then trees.drop 1 else dropKeyword "unsafe" trees
  let trees :=
    if Peek.keyword "extern" trees then
      let rest := trees.drop 1
      if Peek.string rest then rest.drop 1 else rest
    else trees
  Peek.keyword "fn" trees

def receiver (g : Grammar) : Parser (List Node) := do
  let reference ← symbol? "&"
  if reference then discard lifetime?
  discard (keyword? "mut")
  keyword "self"
  if !reference && (← symbol? ":") then return (← g.type true).parts
  return []

/-- The inputs of a function.  Only the first can be a receiver. -/
def inputs (g : Grammar) : Parser (List Node) := inside .parenthesis do
  loop ([], true) fun (parts, isFirst) => do
    if ← atEnd then return .inr parts
    let parts := parts ++ (← attributeCode g)
    if ← symbol? "..." then
      unless ← atEnd do symbol ","
      return .inr parts
    let start ← ahead
    match ← attempt (receiver g) with
    | some more =>
      unless isFirst do
        let self := start.find? fun tree => Peek.keyword "self" [tree]
        throw ((self.map Tree.position).getD .start)
      if ← atEnd then return .inr (parts ++ more)
      symbol ","
      return .inl (parts ++ more, false)
    | none =>
      let trees ← ahead
      if Peek.name trees && second (Peek.symbol "<") trees then
        let type ← g.type true
        if ← atEnd then return .inr (parts ++ type.parts)
        symbol ","
        return .inl (parts ++ type.parts, false)
      let pattern ← g.pattern
      symbol ":"
      if ← symbol? "..." then
        unless ← atEnd do symbol ","
        return .inr (parts ++ pattern)
      let type ← g.type true
      let parts := parts ++ pattern ++ type.parts
      if ← atEnd then return .inr parts
      symbol ","
      return .inl (parts, false)

def signature (g : Grammar) (allowSafe : Bool) : Parser (List Node) := do
  discard (keyword? "const")
  discard (keyword? "async")
  unless allowSafe && (← keyword? "safe") do discard (keyword? "unsafe")
  discard callingConvention?
  keyword "fn"
  discard name
  let (_, parameters) ← generics g
  let inputs ← inputs g
  let output ← returnType g true
  let conditions ← whereClause g
  return parameters ++ inputs ++ output ++ conditions

def body (g : Grammar) : Parser (List Attribute × List Node) := inside .brace do
  let (attributes, code) ← innerAttributes g
  return (attributes, code ++ (← g.statements))

/-! ## Structs, enums and unions -/

/-- A struct or a union without a name stands for the type of a field without one. -/
def startsNestedFields : Peek := fun trees =>
  Peek.keyword "struct" trees
    || (Peek.keyword "union" trees && second (Peek.opens .brace) trees)

/-- The type of a field.  Fields in the place of a type are passed over. -/
def fieldType (g : Grammar) (unnamed : Bool) : Parser (List Node) := do
  if unnamed && (← sees startsNestedFields) then
    advance
    g.fields
    return []
  return (← g.type true).parts

def namedField (g : Grammar) : Parser (FieldDecl × List Node) := do
  let (attributes, code) ← outerAttributes g
  discard visibility?
  let position ← here
  let unnamed ← sees (Peek.keyword "_")
  let fieldName ← if unnamed then anyWord else name
  symbol ":"
  let parts ← fieldType g unnamed
  return (⟨some fieldName, attributes, position⟩, code ++ parts)

def namedFields (g : Grammar) : Parser (List (FieldDecl × List Node)) :=
  inside .brace (separated (namedField g))

def tupleField (g : Grammar) : Parser (FieldDecl × List Node) := do
  let (attributes, code) ← outerAttributes g
  discard visibility?
  let position ← here
  let type ← g.type true
  return (⟨none, attributes, position⟩, code ++ type.parts)

def structBody (g : Grammar) : Parser (List FieldDecl × List Node) := do
  let conditional ← sees (Peek.keyword "where")
  let conditions ← whereClause g
  let trees ← ahead
  if Peek.opens .parenthesis trees && !conditional then
    let fields ← inside .parenthesis (separated (tupleField g))
    let more ← whereClause g
    symbol ";"
    return (fields.map Prod.fst, conditions ++ fields.flatMap Prod.snd ++ more)
  else if Peek.opens .brace trees then
    let fields ← namedFields g
    return (fields.map Prod.fst, conditions ++ fields.flatMap Prod.snd)
  else
    symbol ";"
    return ([], conditions)

def structDecl (g : Grammar) : Parser (StructDecl × List Node) := do
  keyword "struct"
  let structName ← name
  let (parameters, head) ← generics g
  let (fields, parts) ← structBody g
  return (⟨structName, parameters, fields⟩, head ++ parts)

def variant (g : Grammar) : Parser (List Node) := do
  let code ← attributeCode g
  discard visibility?
  discard name
  let trees ← ahead
  let fields ←
    if Peek.opens .brace trees then namedFields g
    else if Peek.opens .parenthesis trees then inside .parenthesis (separated (tupleField g))
    else pure []
  let parts := code ++ fields.flatMap Prod.snd
  if ← symbol? "=" then return parts ++ (← g.expression true).parts
  return parts

def enumDecl (g : Grammar) : Parser (List Node) := do
  keyword "enum"
  discard name
  let (_, head) ← generics g
  let conditions ← whereClause g
  let variants ← inside .brace (separated (variant g))
  return head ++ conditions ++ variants.flatten

def unionDecl (g : Grammar) : Parser (List Node) := do
  keyword "union"
  discard name
  let (_, head) ← generics g
  let conditions ← whereClause g
  let fields ← namedFields g
  return head ++ conditions ++ fields.flatMap Prod.snd

/-! ## Other items -/

def macroItem (named : Bool) : Parser Unit := do
  plainPath
  symbol "!"
  if named then
    if ← sees (Peek.keyword "try") then advance
    else if ← sees Peek.name then advance
  let (delimiter, _) ← anyGroup
  unless delimiter = .brace do symbol ";"

/-- A tree of imports; the flag tells whether it may begin with a double colon inside braces.  The
answer is whether it is of the usual form, in which none does. -/
def imports (g : Grammar) (allowRoot : Bool) : Parser Bool := do
  let trees ← ahead
  if oneOf [Peek.name, Peek.keyword "self", Peek.keyword "super", Peek.keyword "crate",
      Peek.keyword "try"] trees then
    advance
    if ← symbol? "::" then return ← g.imports false
    if ← keyword? "as" then
      unless ← keyword? "_" do discard name
    return true
  else if Peek.symbol "*" trees then
    symbol "*"
    return true
  else inside .brace do
    let parts ← separated do
      let rooted ← if allowRoot then symbol? "::" else pure false
      return (← g.imports (allowRoot && !rooted)) && !rooted
    return parts.all id

def typeBounds (g : Grammar) : Parser (Bool × List Node) := do
  unless ← symbol? ":" do return (false, [])
  let stop := oneOf [Peek.keyword "where", Peek.symbol "=", Peek.symbol ";"]
  return (true, (← joinedUntil "+" stop g.bound).flatMap Prod.fst)

/-- A type item: whether it has bounds, whether it is defined, and the code in it. -/
def typeItem (g : Grammar) (before after : Bool) : Parser (Bool × Bool × List Node) := do
  keyword "type"
  discard name
  let (_, head) ← generics g
  let (bounded, bounds) ← typeBounds g
  let conditions ← if before then whereClause g else pure []
  let (defined, definition) ←
    if ← symbol? "=" then pure (true, (← g.type true).parts) else pure (false, [])
  let more ← if after then whereClause g else pure []
  symbol ";"
  return (bounded, defined, head ++ bounds ++ conditions ++ definition ++ more)

/-- A constant, behind its keyword: whether it is one of the usual form, and the code in it. -/
def constant (g : Grammar) : Parser (Bool × Bool × List Node) := do
  let trees ← ahead
  unless Peek.name trees || Peek.keyword "_" trees do fail
  advance
  let generic ← sees (Peek.symbol "<")
  let (_, head) ← generics g
  symbol ":"
  let type ← g.type true
  let value ← if ← symbol? "=" then pure (← g.expression true).parts else pure []
  let conditional ← sees (Peek.keyword "where")
  let conditions ← whereClause g
  symbol ";"
  return (!generic && !conditional, !value.isEmpty, head ++ type.parts ++ value ++ conditions)

def startsMacro : Peek :=
  oneOf [Peek.name, Peek.keyword "self", Peek.keyword "super", Peek.keyword "crate",
    Peek.symbol "::"]

def foreignMember (g : Grammar) : Parser Node := attributed g fun attributes => do
  let start ← ahead
  let visible ← visibility?
  let trees ← ahead
  let safe := Peek.keyword "safe" trees || Peek.keyword "unsafe" trees
  if Peek.keyword "fn" trees || seesFunction true trees then
    let parts ← signature g true
    if ← sees (Peek.opens .brace) then
      discard (body g)
      return passedOver
    symbol ";"
    if Peek.keyword "safe" trees then return passedOver
    return .member .foreign attributes parts
  else if Peek.keyword "static" trees || (safe && second (Peek.keyword "static") trees) then
    if safe then advance
    keyword "static"
    discard (keyword? "mut")
    discard name
    symbol ":"
    let type ← g.type true
    let valued ← symbol? "="
    if valued then discard (g.expression true)
    symbol ";"
    if valued || safe then return passedOver
    return .member .foreign attributes type.parts
  else if Peek.keyword "type" trees then
    let (bounded, defined, parts) ← typeItem g true false
    if bounded || defined then return passedOver
    return .member .foreign attributes parts
  else if !visible && startsMacro trees then
    modify fun cursor => { cursor with trees := start }
    macroItem false
    return .member .foreign attributes []
  else fail

def traitMember (g : Grammar) : Parser Node := attributed g fun attributes => do
  let visible ← visibility?
  let defaulted ← if ← sees (Peek.keyword "default") then
      if ← sees (second (Peek.symbol "!")) then pure false else keyword? "default"
    else pure false
  let plain := !visible && !defaulted
  let trees ← ahead
  let result ← if Peek.keyword "fn" trees || seesFunction false trees then do
      let parts ← signature g false
      if ← sees (Peek.opens .brace) then
        let (inner, statements) ← body g
        pure (Node.member .ofTrait (attributes ++ inner) (parts ++ statements))
      else
        symbol ";"
        pure (Node.member .ofTrait attributes parts)
    else if Peek.keyword "const" trees then do
      advance
      let (usual, _, parts) ← constant g
      pure (if usual then Node.member .ofTrait attributes parts else passedOver)
    else if Peek.keyword "type" trees then do
      let (_, _, parts) ← typeItem g false true
      pure (Node.member .ofTrait attributes parts)
    else if plain && startsMacro trees then do
      macroItem false
      pure (Node.member .ofTrait attributes [])
    else fail
  return if plain then result else passedOver

def implementationMember (g : Grammar) : Parser Node := attributed g fun attributes => do
  let visible ← visibility?
  let trees ← ahead
  let defaulted := Peek.keyword "default" trees && !second (Peek.symbol "!") trees
  if defaulted then advance
  let trees ← ahead
  if Peek.keyword "fn" trees || seesFunction false trees then
    let parts ← signature g false
    if ← symbol? ";" then return passedOver
    let (inner, statements) ← body g
    return .member .method (attributes ++ inner) (parts ++ statements)
  else if Peek.keyword "const" trees then
    advance
    let (usual, valued, parts) ← constant g
    if usual && valued then return .member .associated attributes parts
    return passedOver
  else if Peek.keyword "type" trees then
    let (bounded, defined, parts) ← typeItem g false true
    if bounded || !defined then return passedOver
    return .member .associated attributes parts
  else if !visible && !defaulted && startsMacro trees then
    macroItem false
    return .member .associated attributes []
  else fail

/-- An implementation, behind its visibility: whether it is one of the usual form, the attributes
it begins with, and what is in it. -/
def implementation (g : Grammar) : Parser (Bool × List Attribute × List Node) := do
  discard (keyword? "default")
  discard (keyword? "unsafe")
  keyword "impl"
  let (_, head) ← if ← sees opensGenerics then generics g else pure ([], [])
  let trees ← ahead
  let isConst := Peek.keyword "const" trees
    || (Peek.symbol "?" trees && second (Peek.keyword "const") trees)
  if isConst then
    discard (symbol? "?")
    keyword "const"
  let trees ← ahead
  let negative := Peek.symbol "!" trees && !second (Peek.opens .brace) trees
  if negative then symbol "!"
  let first ← g.type true
  let (usual, subject) ←
    if ← keyword? "for" then pure (first.path, first.parts ++ (← g.type true).parts)
    else pure (true, if negative then [] else first.parts)
  let conditions ← whereClause g
  let (inner, members) ← inside .brace do
    let (inner, code) ← innerAttributes g
    return (inner, code ++ (← many (implementationMember g)))
  return (usual && !isConst, inner, head ++ subject ++ conditions ++ members)

def trait (g : Grammar) (allowAlias : Bool) : Parser (List Attribute × List Node) := do
  discard (keyword? "unsafe")
  discard (keyword? "auto")
  keyword "trait"
  discard name
  let (_, head) ← generics g
  let trees ← ahead
  if allowAlias && Peek.symbol "=" trees then
    symbol "="
    let stop := oneOf [Peek.keyword "where", Peek.symbol ";"]
    let bounds ← separatedUntil "+" stop g.bound
    let conditions ← whereClause g
    symbol ";"
    return ([], head ++ bounds.flatMap Prod.fst ++ conditions)
  unless oneOf [Peek.opens .brace, Peek.symbol ":", Peek.keyword "where"] trees do fail
  let stop := oneOf [Peek.keyword "where", Peek.opens .brace]
  let bounds ← if ← symbol? ":" then separatedUntil "+" stop g.bound else pure []
  let conditions ← whereClause g
  let (inner, members) ← inside .brace do
    let (inner, code) ← innerAttributes g
    return (inner, code ++ (← many (traitMember g)))
  return (inner, head ++ bounds.flatMap Prod.fst ++ conditions ++ members)

def module (g : Grammar) : Parser (List Attribute × List Node) := do
  discard (keyword? "unsafe")
  keyword "mod"
  unless ← keyword? "try" do discard name
  if ← symbol? ";" then return ([], [])
  inside .brace do
    let (inner, code) ← innerAttributes g
    return (inner, code ++ (← many g.item))

def foreignBlock (g : Grammar) : Parser (List Attribute × List Node) := do
  discard (keyword? "unsafe")
  unless ← callingConvention? do fail
  inside .brace do
    let (inner, code) ← innerAttributes g
    return (inner, code ++ (← many (foreignMember g)))

def staticItem (g : Grammar) : Parser (Bool × List Node) := do
  keyword "static"
  discard (keyword? "mut")
  discard name
  if ← symbol? "=" then
    discard (g.expression true)
    symbol ";"
    return (false, [])
  symbol ":"
  let type ← g.type true
  if ← symbol? ";" then return (false, [])
  symbol "="
  let value ← g.expression true
  symbol ";"
  return (true, type.parts ++ value.parts)

def itemAfter (g : Grammar) (attributes : List Attribute) : Parser Node := do
  let start ← ahead
  let visible ← visibility?
  let trees ← ahead
  let usual (flag : Bool) (node : Node) : Node := if flag then node else passedOver
  if Peek.keyword "fn" trees || seesFunction false trees then
    let parts ← signature g false
    if ← symbol? ";" then return passedOver
    let (inner, statements) ← body g
    return .item .other (attributes ++ inner) (parts ++ statements)
  else if Peek.keyword "extern" trees then
    if second (Peek.keyword "crate") trees then
      advance
      advance
      unless ← keyword? "self" do discard name
      if ← keyword? "as" then
        unless ← keyword? "_" do discard name
      symbol ";"
      return .item .other attributes []
    else if second Peek.string trees && !third (Peek.opens .brace) trees then
      advance
      advance
      fail
    else
      let (inner, parts) ← foreignBlock g
      return .item .other (attributes ++ inner) parts
  else if Peek.keyword "use" trees then
    advance
    let rooted ← symbol? "::"
    let flag ← g.imports (!rooted)
    symbol ";"
    return usual flag (.item .other attributes [])
  else if Peek.keyword "static" trees then
    let (flag, parts) ← staticItem g
    return usual flag (.item .other attributes parts)
  else if Peek.keyword "const" trees then
    advance
    let (flag, valued, parts) ← constant g
    return usual (flag && valued) (.item .other attributes parts)
  else if Peek.keyword "unsafe" trees then
    if second (Peek.keyword "trait") trees
        || (second (Peek.keyword "auto") trees && third (Peek.keyword "trait") trees) then
      let (inner, parts) ← trait g false
      return .item .trait (attributes ++ inner) parts
    else if second (Peek.keyword "impl") trees then
      let (flag, inner, parts) ← implementation g
      return usual (flag && !visible) (.item .implementation (attributes ++ inner) parts)
    else if second (Peek.keyword "extern") trees then
      let (inner, parts) ← foreignBlock g
      return .item .other (attributes ++ inner) parts
    else if second (Peek.keyword "mod") trees then
      let (inner, parts) ← module g
      return .item .module (attributes ++ inner) parts
    else
      advance
      fail
  else if Peek.keyword "mod" trees then
    let (inner, parts) ← module g
    return .item .module (attributes ++ inner) parts
  else if Peek.keyword "type" trees then
    let (bounded, defined, parts) ← typeItem g true false
    return usual (!bounded && defined) (.item .other attributes parts)
  else if Peek.keyword "struct" trees then
    let (decl, parts) ← structDecl g
    return .item (.struct decl) attributes parts
  else if Peek.keyword "enum" trees then
    return .item .other attributes (← enumDecl g)
  else if Peek.keyword "union" trees && second Peek.name trees then
    return .item .other attributes (← unionDecl g)
  else if Peek.keyword "trait" trees then
    let (inner, parts) ← trait g true
    return .item .trait (attributes ++ inner) parts
  else if Peek.keyword "auto" trees && second (Peek.keyword "trait") trees then
    let (inner, parts) ← trait g false
    return .item .trait (attributes ++ inner) parts
  else if Peek.keyword "impl" trees
      || (Peek.keyword "default" trees && !second (Peek.symbol "!") trees) then
    let (flag, inner, parts) ← implementation g
    return usual (flag && !visible) (.item .implementation (attributes ++ inner) parts)
  else if Peek.keyword "macro" trees then
    advance
    discard name
    if ← sees (Peek.opens .parenthesis) then discard anyGroup
    inside .brace (discard (many advance))
    return passedOver
  else if !visible && startsMacro trees then
    modify fun cursor => { cursor with trees := start }
    macroItem true
    return .item .other attributes []
  else fail

def item (g : Grammar) : Parser Node := attributed g (itemAfter g)

/-! ## Statements -/

def letStatement (g : Grammar) : Parser (List Node) := do
  keyword "let"
  let pattern ← g.pattern
  let type ← if ← symbol? ":" then pure (← g.type true).parts else pure []
  if ← symbol? "=" then
    let value ← g.expression true
    let otherwise ←
      if !value.endsInBrace && (← sees (Peek.keyword "else")) then do
        keyword "else"
        pure [Node.code (← block g)]
      else pure []
    symbol ";"
    return pattern ++ type ++ value.parts ++ otherwise
  symbol ";"
  return pattern ++ type

def afterPlainPath? (trees : List Tree) : Option (List Tree) :=
  match plainPath ⟨trees, .start, none⟩ with
  | .ok (_, cursor) => some cursor.trees
  | .error _ => none

def seesNamedMacro : Peek := fun trees =>
  match afterPlainPath? trees with
  | some rest => Peek.symbol "!" rest && second (oneOf [Peek.name, Peek.keyword "try"]) rest
  | none => false

def seesBracedMacro : Peek := fun trees =>
  match afterPlainPath? trees with
  | some rest =>
    Peek.symbol "!" rest && second (Peek.opens .brace) rest
      && !third (fun after => seesDot after || Peek.symbol "?" after) rest
  | none => false

def startsItem : Peek := fun trees =>
  oneOf [Peek.keyword "pub", Peek.keyword "extern", Peek.keyword "use", Peek.keyword "fn",
      Peek.keyword "mod", Peek.keyword "type", Peek.keyword "struct", Peek.keyword "enum",
      Peek.keyword "trait", Peek.keyword "impl", Peek.keyword "macro"] trees
    || (Peek.keyword "crate" trees && !second (Peek.symbol "::") trees)
    || (Peek.keyword "static" trees
      && (second (Peek.keyword "mut") trees
        || (second Peek.name trees
          && !(second (Peek.keyword "async") trees
            && third (oneOf [Peek.keyword "move", Peek.symbol "|"]) trees))))
    || (Peek.keyword "const" trees
      && !(second (oneOf [Peek.opens .brace, Peek.keyword "static", Peek.keyword "move",
            Peek.symbol "|"]) trees
        || (second (Peek.keyword "async") trees
          && !third (oneOf [Peek.keyword "unsafe", Peek.keyword "extern", Peek.keyword "fn"])
            trees)))
    || (Peek.keyword "unsafe" trees && !second (Peek.opens .brace) trees)
    || (Peek.keyword "async" trees
      && second (oneOf [Peek.keyword "unsafe", Peek.keyword "extern", Peek.keyword "fn"]) trees)
    || (Peek.keyword "union" trees && second Peek.name trees)
    || (Peek.keyword "auto" trees && second (Peek.keyword "trait") trees)
    || (Peek.keyword "default" trees
      && second (oneOf [Peek.keyword "unsafe", Peek.keyword "impl"]) trees)

/-- A statement, and whether another one may follow it without a semicolon between. -/
def statement (g : Grammar) : Parser (List Node × Bool) := do
  let (attributes, code) ← outerAttributes g
  let trees ← ahead
  let named := seesNamedMacro trees
  if !named && seesBracedMacro trees then
    plainPath
    symbol "!"
    discard anyGroup
    discard (symbol? ";")
    return (code, true)
  else if Peek.keyword "let" trees then return (code ++ (← letStatement g), true)
  else if startsItem trees || named then
    return ([withCode code (← itemAfter g attributes)], true)
  else
    let value ← g.early
    let parts := (value.withAttributes code).parts
    if ← symbol? ";" then return (parts, true)
    return (parts, value.shape = .blockLike || value.shape = .bracedMacro)

def statements (g : Grammar) : Parser (List Node) :=
  loop [] fun found => do
    discard (manyWhile (Peek.symbol ";") (symbol ";"))
    if ← atEnd then return .inr found.reverse.flatten
    let (parts, complete) ← statement g
    if ← atEnd then return .inr (parts :: found).reverse.flatten
    unless complete do fail
    return .inl (parts :: found)

end FieldRules.Source.Parser
