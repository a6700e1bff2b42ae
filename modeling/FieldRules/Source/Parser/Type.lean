import FieldRules.Source.Parser.Grammar

/-!
# Attributes, paths, types and generics

The parts of an item's head.  Types matter only for the code in them: lengths of arrays, constant
arguments and values of attributes.
-/

namespace FieldRules.Source.Parser

open Peek (second third oneOf)

/-! ## Attributes -/

def startsSegment : Peek :=
  oneOf [Peek.name, Peek.keyword "super", Peek.keyword "self", Peek.keyword "Self",
    Peek.keyword "crate"]

def plainPath : Parser Unit := do
  discard (symbol? "::")
  let segment : Parser Unit := do
    if ← sees startsSegment then advance else fail
  segment
  discard (manyWhile (Peek.symbol "::") do
    symbol "::"
    segment)

def pathTrees : Parser (List Tree) := do
  return (← withTaken plainPath).2

def singleName? : List Tree → Option Text
  | [.word word _] => some word
  | _ => none

/-- The path of an attribute, or the keyword `unsafe`, which stands for one. -/
def attributePath : Parser (List Tree) := do
  if ← sees (Peek.keyword "unsafe") then return (← withTaken advance).2
  pathTrees

/-- The value of an attribute, behind the equals sign: the code in it. -/
def attributeValue (g : Grammar) : Parser (List Node) := do
  let trees ← ahead
  match trees with
  | [.literal _ _] =>
    advance
    return []
  | _ =>
    if Peek.symbol "#" trees && second (Peek.opens .bracket) trees then fail
    return (← g.expression true).parts

/-- Parses the trees of a group of their own, and answers nothing unless all of them are used. -/
def parseAll? {α : Type} (parser : Parser α) (trees : List Tree) : Option α :=
  match parser ⟨trees, .start, none⟩ with
  | .ok (result, ⟨[], _, none⟩) => some result
  | _ => none

def condition (g : Grammar) : Parser Condition := do
  let path ← attributePath
  let trees ← ahead
  if oneOf [Peek.opens .parenthesis, Peek.opens .bracket, Peek.opens .brace] trees then
    let (_, inner) ← anyGroup
    let parts? := parseAll? (separated g.condition) inner
    match (singleName? path).map String.ofList, parts? with
    | some "all", some parts => return .all parts
    | some "any", some parts => return .any parts
    | some "not", some [part] => return .not part
    | _, _ => return .unreadable
  else if Peek.symbol "=" trees then
    symbol "="
    let (_, value) ← withTaken (attributeValue g)
    return .keyValue (Tree.textAll path) (Tree.textAll value)
  else return .option (Tree.textAll path)

/-- What is between the brackets of an attribute, and the code in its value. -/
def attributeBody (g : Grammar) : Parser (Attribute × List Node) := do
  let name := singleName? (← attributePath)
  let trees ← ahead
  if oneOf [Peek.opens .parenthesis, Peek.opens .bracket, Peek.opens .brace] trees then
    let (_, inner) ← anyGroup
    return (⟨name, .list inner, parseAll? g.condition inner⟩, [])
  else if Peek.symbol "=" trees then
    symbol "="
    return (⟨name, .value, none⟩, ← attributeValue g)
  else return (⟨name, .none, none⟩, [])

/-- The attributes before something, and the code in them. -/
def outerAttributes (g : Grammar) : Parser (List Attribute × List Node) := do
  let found ← manyWhile (Peek.symbol "#") do
    symbol "#"
    inside .bracket (attributeBody g)
  return (found.map Prod.fst, found.flatMap Prod.snd)

/-- The attributes that the inside of a group begins with, and the code in them. -/
def innerAttributes (g : Grammar) : Parser (List Attribute × List Node) := do
  let found ← manyWhile
    (fun trees => Peek.symbol "#" trees && second (Peek.symbol "!") trees) do
      symbol "#"
      symbol "!"
      inside .bracket (attributeBody g)
  return (found.map Prod.fst, found.flatMap Prod.snd)

def attributeCode (g : Grammar) : Parser (List Node) := do
  return (← outerAttributes g).2

/-- Statements with attributes in front, as the blocks of some expressions have them. -/
def attributedStatements (g : Grammar) : Parser (List Node) := do
  let (_, code) ← innerAttributes g
  return code ++ (← g.statements)

/-! ## Visibility -/

def scope : Parser Unit := inside .parenthesis do
  let trees ← ahead
  if oneOf [Peek.keyword "crate", Peek.keyword "self", Peek.keyword "super"] trees then
    advance
    unless ← atEnd do fail
  else
    keyword "in"
    discard plainPath

def visibility? : Parser Bool := do
  if ← keyword? "pub" then
    if ← sees (Peek.opens .parenthesis) then
      let trees ← ahead
      let restricted := match trees with
        | .group _ inner _ _ :: _ => Peek.keyword "in" inner
        | _ => false
      if restricted then scope else discard (attempt scope)
    return true
  else return false

/-! ## Paths -/

/-- The lifetimes that something is quantified over, as in `for<'a>`: the code in their
attributes. -/
def binder? (g : Grammar) : Parser (Option (List Node)) := do
  unless ← keyword? "for" do return none
  symbol "<"
  let parameters ← separatedUntil "," (Peek.symbol ">") do
    let code ← attributeCode g
    discard lifetime
    if ← symbol? ":" then
      discard (joinedUntil "+" (oneOf [Peek.symbol ",", Peek.symbol ">"]) lifetime)
    return code
  symbol ">"
  return some parameters.flatten

def constArgument (g : Grammar) : Parser (List Node) := do
  let trees ← ahead
  if Peek.literal trees then
    if Peek.symbol "-" trees then advance
    advance
    return []
  else if Peek.name trees then
    advance
    return []
  else inside .brace (attributedStatements g)

def returnType (g : Grammar) (sum : Bool) : Parser (List Node) := do
  if ← symbol? "->" then return (← g.type sum).parts else return []

def parenthesizedArguments (g : Grammar) : Parser (List Node) := do
  let inputs ← inside .parenthesis (separated (g.type true))
  let output ← returnType g false
  return inputs.flatMap TypeTree.parts ++ output

def startsBound : Peek :=
  oneOf [Peek.word, Peek.symbol "::", Peek.symbol "?", Peek.lifetime, Peek.opens .parenthesis]

def genericArgument (g : Grammar) : Parser (List Node) := do
  let trees ← ahead
  if Peek.lifetime trees && !second (Peek.symbol "+") trees then
    discard lifetime
    return []
  if Peek.literal trees || Peek.opens .brace trees then return ← constArgument g
  let argument ← g.type true
  if argument.single then
    if ← symbol? "=" then
      let trees ← ahead
      if Peek.literal trees || Peek.opens .brace trees then
        return argument.parts ++ (← constArgument g)
      return argument.parts ++ (← g.type true).parts
    if ← symbol? ":" then
      let bounds ← joinedUntil "+" (oneOf [Peek.symbol ",", Peek.symbol ">"]) g.bound
      return argument.parts ++ bounds.flatMap Prod.fst
  return argument.parts

def angleArguments (g : Grammar) : Parser (List Node) := do
  discard (symbol? "::")
  symbol "<"
  let arguments ← separatedUntil "," (Peek.symbol ">") (genericArgument g)
  symbol ">"
  return arguments.flatten

/-- A segment of a path: its parts, and whether it has arguments.  In an expression, arguments
come behind a double colon. -/
def pathSegment (g : Grammar) (inExpression : Bool) : Parser (List Node × Bool) := do
  let trees ← ahead
  if oneOf [Peek.keyword "super", Peek.keyword "self", Peek.keyword "crate", Peek.keyword "try"]
      trees then
    advance
    return ([], false)
  if Peek.keyword "Self" trees then advance else discard name
  let trees ← ahead
  if (!inExpression && Peek.symbol "<" trees && !Peek.symbol "<=" trees)
      || (Peek.symbol "::" trees && third (Peek.symbol "<") trees) then
    return (← angleArguments g, true)
  return ([], false)

def path (g : Grammar) (inExpression : Bool) : Parser PathTree := do
  let absolute ← symbol? "::"
  let first ← pathSegment g inExpression
  let more ← manyWhile
    (fun trees => Peek.symbol "::" trees && !third (Peek.opens .parenthesis) trees) do
      symbol "::"
      pathSegment g inExpression
  let segments := first :: more
  return {
    parts := segments.flatMap Prod.fst
    bare := segments.all fun segment => !segment.2
    single := more.isEmpty && !absolute
    openEnded := !((segments.getLast?.map Prod.snd).getD false) }

def qualifiedPath (g : Grammar) (inExpression : Bool) : Parser (PathTree × Bool) := do
  if ← sees (Peek.symbol "<") then
    symbol "<"
    let subject ← g.type true
    let base ← if ← keyword? "as" then pure (← path g false).parts else pure []
    symbol ">"
    symbol "::"
    let first ← pathSegment g inExpression
    let more ← manyWhile (Peek.symbol "::") do
      symbol "::"
      pathSegment g inExpression
    let segments := first :: more
    return ({
      parts := subject.parts ++ base ++ segments.flatMap Prod.fst
      bare := false
      single := false
      openEnded := !((segments.getLast?.map Prod.snd).getD false) }, true)
  else return (← path g inExpression, false)

def callArguments? (g : Grammar) (tree : PathTree) : Parser (Option (List Node)) := do
  let trees ← ahead
  if tree.openEnded && (Peek.opens .parenthesis trees
      || (Peek.symbol "::" trees && third (Peek.opens .parenthesis) trees)) then
    discard (symbol? "::")
    return some (← parenthesizedArguments g)
  return none

/-! ## Bounds and generics -/

/-- The mark of a bound that only holds in constant code. -/
def constantMark? : Parser Bool := do
  let trees ← ahead
  if Peek.opens .bracket trees then
    inside .bracket (keyword "const")
    return true
  else if Peek.symbol "~" trees && second (Peek.keyword "const") trees then
    symbol "~"
    keyword? "const"
  else keyword? "const"

/-- A bound by a trait.  One that only holds in constant code is passed over. -/
def traitBound (g : Grammar) : Parser (List Node) := do
  let before? ← binder? g
  let constant ← constantMark?
  let optional ← symbol? "?"
  let after? ← if optional && before?.isNone then binder? g else pure none
  let tree ← path g false
  let arguments? ← callArguments? g tree
  if constant then return []
  return (before? <|> after?).getD [] ++ tree.parts ++ arguments?.getD []

def bound (g : Grammar) : Parser (List Node × Bool) := do
  let trees ← ahead
  if Peek.lifetime trees then
    discard lifetime
    return ([], false)
  if Peek.keyword "use" trees then
    advance
    symbol "<"
    discard (separatedUntil "," (Peek.symbol ">") do
      if ← sees Peek.lifetime then discard lifetime else discard anyWord)
    symbol ">"
    return ([], true)
  if Peek.opens .parenthesis trees then return (← inside .parenthesis (traitBound g), true)
  return (← traitBound g, true)

/-- Bounds with plus signs between them, and whether one of them is more than a lifetime. -/
def bounds (g : Grammar) (sum : Bool) : Parser (List Node × Bool) :=
  loop ([], false) fun (parts, anyTrait) => do
    let (more, isTrait) ← g.bound
    let found := (parts ++ more, anyTrait || isTrait)
    if sum && (← sees (Peek.symbol "+")) then
      symbol "+"
      if ← sees startsBound then return .inl found
      return .inr found
    return .inr found

def genericParameter (g : Grammar) : Parser (GenericParameter × List Node) := do
  let code ← attributeCode g
  let trees ← ahead
  let stop := oneOf [Peek.symbol ",", Peek.symbol ">"]
  if Peek.lifetime trees then
    let text ← lifetime
    if ← symbol? ":" then discard (joinedUntil "+" stop lifetime)
    return (.lifetime text, code)
  else if Peek.name trees || Peek.keyword "_" trees then
    let text ← anyWord
    let bounds ← if ← symbol? ":" then
        joinedUntil "+" (oneOf [stop, Peek.symbol "="]) (withTaken g.bound)
      else pure []
    let parts := code ++ bounds.flatMap fun bound => bound.1.1
    let texts := bounds.map fun bound => Tree.denseText bound.2
    if ← symbol? "=" then return (.type text texts, parts ++ (← g.type true).parts)
    return (.type text texts, parts)
  else
    keyword "const"
    let text ← name
    symbol ":"
    let parts := code ++ (← g.type true).parts
    if ← symbol? "=" then return (.const text, parts ++ (← constArgument g))
    return (.const text, parts)

def generics (g : Grammar) : Parser (List (GenericParameter × Bool) × List Node) := do
  unless ← symbol? "<" do return ([], [])
  let entries ← loop ([] : List (GenericParameter × Bool × List Node)) fun entries => do
    if ← sees (Peek.symbol ">") then return .inr entries.reverse
    let (parameter, parts) ← genericParameter g
    if ← sees (Peek.symbol ">") then
      return .inr ((parameter, false, parts) :: entries).reverse
    symbol ","
    return .inl ((parameter, true, parts) :: entries)
  symbol ">"
  return (entries.map fun entry => (entry.1, entry.2.1), entries.flatMap fun entry => entry.2.2)

/-- The angle bracket that comes next opens parameters, and not a path. -/
def opensGenerics : Peek := fun trees =>
  Peek.symbol "<" trees
    && (second (oneOf [Peek.symbol ">", Peek.symbol "#", Peek.keyword "const"]) trees
      || (second (oneOf [Peek.lifetime, Peek.name]) trees
        && third (oneOf [Peek.symbol ":", Peek.symbol ",", Peek.symbol ">", Peek.symbol "="])
          trees))

def wherePredicate (g : Grammar) : Parser (List Node) := do
  let trees ← ahead
  let stop := oneOf [Peek.done, Peek.opens .brace, Peek.symbol ",", Peek.symbol ";",
    fun trees => Peek.symbol ":" trees && !Peek.symbol "::" trees, Peek.symbol "="]
  if Peek.lifetime trees && second (Peek.symbol ":") trees then
    discard lifetime
    symbol ":"
    discard (joinedUntil "+" stop lifetime)
    return []
  else
    let code := (← binder? g).getD []
    let type ← g.type true
    symbol ":"
    let bounds ← joinedUntil "+" stop g.bound
    return code ++ type.parts ++ bounds.flatMap Prod.fst

def whereClause (g : Grammar) : Parser (List Node) := do
  unless ← keyword? "where" do return []
  let stop := oneOf [Peek.done, Peek.opens .brace, Peek.symbol ",", Peek.symbol ";",
    fun trees => Peek.symbol ":" trees && !Peek.symbol "::" trees, Peek.symbol "="]
  return (← joinedUntil "," stop (wherePredicate g)).flatten

/-! ## Types -/

def callingConvention? : Parser Bool := do
  if ← keyword? "extern" then
    if ← sees Peek.string then advance
    return true
  else return false

def beforeColon : Peek := fun trees =>
  second (Peek.symbol ":") trees && !second (Peek.symbol "::") trees

def startsNamed : Peek := fun trees =>
  oneOf [Peek.name, Peek.keyword "_"] trees && beforeColon trees

def seesMutableSelf : Peek := fun trees =>
  Peek.keyword "mut" trees && second (Peek.keyword "self") trees

/-- An input of a function type.  Only the first can be a receiver, and one that is mutable is
passed over. -/
def functionInput (g : Grammar) (isFirst : Bool) : Parser (List Node) := do
  let mutable := isFirst && seesMutableSelf (← ahead)
  if mutable then advance
  let trees ← ahead
  let receives := isFirst && Peek.keyword "self" trees && beforeColon trees
  let named := receives || startsNamed trees
  if named then
    advance
    symbol ":"
  if isFirst && !receives && seesMutableSelf (← ahead) then
    advance
    advance
    return []
  if mutable && !named then
    keyword "self"
    return []
  let type ← g.type true
  return if mutable then [] else type.parts

/-- The inputs of a function type.  Dots, with or without a name, can only be the last. -/
def functionInputs (g : Grammar) : Parser (List Node) := inside .parenthesis do
  loop ([], true) fun (parts, isFirst) => do
    if ← atEnd then return .inr parts
    let parts := parts ++ (← attributeCode g)
    let trees ← ahead
    let named := startsNamed trees && third (Peek.symbol "...") trees
    if named || Peek.symbol "..." trees then
      if named then
        advance
        symbol ":"
      symbol "..."
      unless ← atEnd do symbol ","
      return .inr parts
    let parts := parts ++ (← functionInput g isFirst)
    if ← atEnd then return .inr parts
    symbol ","
    return .inl (parts, false)

def functionType (g : Grammar) : Parser (List Node) := do
  discard (keyword? "unsafe")
  discard callingConvention?
  keyword "fn"
  let inputs ← functionInputs g
  let output ← returnType g false
  return inputs ++ output

/-- The bounds of a type that is known by them alone.  If they are all lifetimes, the place where
the type starts is at fault. -/
def objectBounds (g : Grammar) (sum : Bool) (start : Position) : Parser (List Node) := do
  let (parts, anyTrait) ← bounds g sum
  unless anyTrait do throw start
  return parts

def startsBoundType : Peek := fun trees =>
  oneOf [Peek.name, Peek.keyword "fn", Peek.keyword "unsafe", Peek.keyword "extern",
    Peek.keyword "super", Peek.keyword "self", Peek.keyword "Self", Peek.keyword "crate"] trees

def parenthesizedType (g : Grammar) (sum : Bool) : Parser TypeTree := do
  let (parts, extensible) ← inside .parenthesis do
    let trees ← ahead
    if Peek.done trees then return ([], false)
    if Peek.lifetime trees then return (← objectBounds g true (← here), false)
    if Peek.symbol "?" trees then return (← traitBound g, true)
    let first ← g.type true
    if ← sees (Peek.symbol ",") then
      symbol ","
      let more ← separated (g.type true)
      return (first.parts ++ more.flatMap TypeTree.parts, false)
    return (first.parts, first.path)
  if extensible && sum && (← sees (Peek.symbol "+")) then
    let more ← manyWhile (Peek.symbol "+") do
      symbol "+"
      g.bound
    return ⟨parts ++ more.flatMap Prod.fst, false, false⟩
  return ⟨parts, false, false⟩

def type (g : Grammar) (sum : Bool) : Parser TypeTree := do
  let quantified? ← binder? g
  if quantified?.isSome then
    unless ← sees startsBoundType do fail
  let trees ← ahead
  let simple (parts : List Node) : TypeTree := ⟨parts, false, false⟩
  if Peek.opens .parenthesis trees then parenthesizedType g sum
  else if oneOf [Peek.keyword "fn", Peek.keyword "unsafe", Peek.keyword "extern"] trees then
    return simple (quantified?.getD [] ++ (← functionType g))
  else if oneOf [Peek.name, Peek.keyword "super", Peek.keyword "self", Peek.keyword "Self",
      Peek.keyword "crate", Peek.symbol "::", Peek.symbol "<"] trees then
    let (tree, qualified) ← qualifiedPath g false
    let arguments? ← callArguments? g tree
    let parts := tree.parts ++ arguments?.getD []
    if qualified then return ⟨parts, false, false⟩
    let trees ← ahead
    if arguments?.isNone && tree.bare && Peek.symbol "!" trees && !Peek.symbol "!=" trees then
      symbol "!"
      discard anyGroup
      return simple []
    if quantified?.isSome || (sum && Peek.symbol "+" trees) then
      let parts := quantified?.getD [] ++ parts
      if sum && Peek.symbol "+" trees then
        symbol "+"
        if ← sees startsBound then return simple (parts ++ (← bounds g true).1)
      return simple parts
    return ⟨parts, tree.single && arguments?.isNone, true⟩
  else if Peek.keyword "dyn" trees then
    let start ← here
    advance
    let passedOver ← symbol? "*"
    let parts ← objectBounds g sum start
    return simple (if passedOver then [] else parts)
  else if Peek.opens .bracket trees then
    inside .bracket do
      let element ← g.type true
      if ← symbol? ";" then
        return simple (element.parts ++ (← g.expression true).parts)
      return simple element.parts
  else if Peek.symbol "*" trees then
    symbol "*"
    unless ← keyword? "const" do keyword "mut"
    return simple (← g.type false).parts
  else if Peek.symbol "&" trees then
    symbol "&"
    discard lifetime?
    discard (keyword? "mut")
    return simple (← g.type false).parts
  else if Peek.symbol "!" trees && !Peek.symbol "=" trees then
    symbol "!"
    return simple []
  else if Peek.keyword "impl" trees then
    let start ← here
    advance
    return simple (← objectBounds g sum start)
  else if Peek.keyword "_" trees then
    advance
    return simple []
  else if Peek.lifetime trees then
    return simple (← objectBounds g sum (← here))
  else fail

end FieldRules.Source.Parser
