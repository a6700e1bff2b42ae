import FieldRules.Source.Literal
import FieldRules.Text.Blank
import FieldRules.Text.Identifier
import FieldRules.Text.Quoted

/-!
# Reading source into trees

Source text is cut into words, marks and literals, and these are put into groups.  Comments count
as white space, except those that document something: they become attributes.  The reader stops
at the first piece that is none of these, at a delimiter that closes nothing, and at the end of
the text if a group is still open; then it says where.

A recogniser takes a text and answers what follows the piece that the text begins with.
-/

namespace FieldRules.Source.Lexer

open FieldRules.Text

/-! ## White space and comments -/

/-- White space of source text, which includes the marks of writing direction. -/
def isSourceBlank (c : Char) : Bool := isBlank c || c == '\u200E' || c == '\u200F'

def afterLine : Text → Text
  | [] => []
  | '\n' :: rest => '\n' :: rest
  | '\r' :: '\n' :: rest => '\r' :: '\n' :: rest
  | _ :: rest => afterLine rest

def afterBlockComment : Nat → Text → Option Text
  | _, [] => none
  | 0, t => some t
  | depth + 1, '/' :: '*' :: rest => afterBlockComment (depth + 2) rest
  | 1, '*' :: '/' :: rest => some rest
  | depth + 1, '*' :: '/' :: rest => afterBlockComment depth rest
  | depth + 1, _ :: rest => afterBlockComment (depth + 1) rest

/-- What follows a comment that documents nothing. -/
def plainComment? : Text → Option Text
  | '/' :: '/' :: '/' :: '/' :: rest => some (afterLine rest)
  | '/' :: '/' :: '/' :: _ => none
  | '/' :: '/' :: '!' :: _ => none
  | '/' :: '/' :: rest => some (afterLine rest)
  | '/' :: '*' :: '*' :: '/' :: rest => some rest
  | '/' :: '*' :: '*' :: '*' :: rest => afterBlockComment 1 ('*' :: '*' :: rest)
  | '/' :: '*' :: '*' :: _ => none
  | '/' :: '*' :: '!' :: _ => none
  | '/' :: '*' :: rest => afterBlockComment 1 rest
  | _ => none

def blank? : Text → Option Text
  | [] => none
  | c :: rest => if isSourceBlank c then some rest else plainComment? (c :: rest)

def returnsPaired : Text → Bool
  | [] => true
  | '\r' :: '\n' :: rest => returnsPaired rest
  | '\r' :: _ => false
  | _ :: rest => returnsPaired rest

/-- A comment that documents: its text, whether it documents what it stands in rather than what
follows it, and what comes after it. -/
def docComment? (t : Text) : Option (Text × Bool × Text) :=
  let line (inner : Bool) (content : Text) : Option (Text × Bool × Text) :=
    let rest := afterLine content
    some (content.take (content.length - rest.length), inner, rest)
  let block (inner : Bool) (content : Text) : Option (Text × Bool × Text) :=
    (afterBlockComment 1 content).map fun rest =>
      (content.take (content.length - rest.length - 2), inner, rest)
  let found :=
    match t with
    | '/' :: '/' :: '!' :: content => line true content
    | '/' :: '*' :: '!' :: content => block true content
    | '/' :: '/' :: '/' :: '/' :: _ => none
    | '/' :: '/' :: '/' :: content => line false content
    | '/' :: '*' :: '*' :: '*' :: _ => none
    | '/' :: '*' :: '*' :: content => block false content
    | _ => none
  found.filter fun comment => returnsPaired comment.1

/-! ## Words -/

def word? : Text → Option Text
  | [] => none
  | c :: rest =>
    if isIdentifierStart c then some (rest.dropWhile isIdentifierContinue) else none

def upTo (t rest : Text) : Text := t.take (t.length - rest.length)

def neverRaw : List Text :=
  ["_".toList, "super".toList, "self".toList, "Self".toList, "crate".toList]

def anyWord? : Text → Option Text
  | 'r' :: '#' :: body =>
    match word? body with
    | some rest => if neverRaw.contains (upTo body rest) then none else some rest
    | none => none
  | t => word? t

def literalStarts : List Text :=
  ["r\"".toList, "r#\"".toList, "r##".toList, "b\"".toList, "b'".toList, "br\"".toList,
   "br#".toList, "c\"".toList, "cr\"".toList, "cr#".toList]

def identifier? (t : Text) : Option Text :=
  if literalStarts.any fun start => (dropStart? start t).isSome then none else anyWord? t

def afterSuffix (t : Text) : Text := (word? t).getD t

/-! ## Strings and characters -/

inductive Quotation where
  | text
  | bytes
  | terminated
deriving DecidableEq

def byteEscape? (quotation : Quotation) : Text → Option Text
  | high :: low :: rest =>
    match hexDigit? high, hexDigit? low with
    | some h, some l =>
      if quotation = .text ∧ h > 7 then none
      else if quotation = .terminated ∧ h = 0 ∧ l = 0 then none
      else some rest
    | _, _ => none
  | _ => none

def codePointDigits? (quotation : Quotation) : Nat → Nat → Text → Option Text
  | _, _, [] => none
  | value, count, c :: rest =>
    if c = '}' then
      if count = 0 ∨ ¬ value.isValidChar ∨ (quotation = .terminated ∧ value = 0) then none
      else some rest
    else if c = '_' then
      if count = 0 then none else codePointDigits? quotation value count rest
    else
      match hexDigit? c with
      | some digit =>
        if count = 6 then none else codePointDigits? quotation (value * 16 + digit) (count + 1) rest
      | none => none

def escape? (quotation : Quotation) : Text → Option Text
  | 'x' :: rest => byteEscape? quotation rest
  | 'u' :: '{' :: rest => if quotation = .bytes then none else codePointDigits? quotation 0 0 rest
  | '0' :: rest => if quotation = .terminated then none else some rest
  | c :: rest => if (simpleEscape? c).isSome then some rest else none
  | [] => none

def continuation? : Char → Text → Option Text
  | _, [] => none
  | last, c :: rest =>
    if last = '\r' then if c = '\n' then continuation? '\n' rest else none
    else if isContinuationBlank c then continuation? c rest else some (c :: rest)

/-- What follows the closing quote of a string.  The first argument bounds the steps and is the
length of the text. -/
def plainString? (quotation : Quotation) : Nat → Text → Option Text
  | 0, _ => none
  | _ + 1, [] => none
  | _ + 1, '"' :: rest => some rest
  | steps + 1, '\r' :: '\n' :: rest => plainString? quotation steps rest
  | _ + 1, '\r' :: _ => none
  | steps + 1, '\\' :: '\n' :: rest => (continuation? '\n' rest).bind (plainString? quotation steps)
  | steps + 1, '\\' :: '\r' :: rest => (continuation? '\r' rest).bind (plainString? quotation steps)
  | steps + 1, '\\' :: rest => (escape? quotation rest).bind (plainString? quotation steps)
  | steps + 1, c :: rest =>
    if (quotation = .bytes ∧ c.toNat ≥ 0x80) ∨ (quotation = .terminated ∧ c = '\x00') then none
    else plainString? quotation steps rest

def rawString? (quotation : Quotation) (fence : Text) : Text → Option Text
  | [] => none
  | '\r' :: '\n' :: rest => rawString? quotation fence rest
  | c :: rest =>
    let next := if c = '"' then dropStart? fence rest else none
    match next with
    | some after => some after
    | none =>
      if c = '\r' ∨ (quotation = .bytes ∧ c.toNat ≥ 0x80) ∨ (quotation = .terminated ∧ c = '\x00')
      then none else rawString? quotation fence rest

def fencedString? (quotation : Quotation) (t : Text) : Option Text :=
  let fence := t.takeWhile (· == '#')
  match t.drop fence.length with
  | '"' :: rest => if fence.length ≤ 255 then rawString? quotation fence rest else none
  | _ => none

def stringLiteral? : Text → Option Text
  | '"' :: rest => (plainString? .text (rest.length + 1) rest).map afterSuffix
  | 'r' :: rest => (fencedString? .text rest).map afterSuffix
  | 'b' :: '"' :: rest => (plainString? .bytes (rest.length + 1) rest).map afterSuffix
  | 'b' :: 'r' :: rest => (fencedString? .bytes rest).map afterSuffix
  | 'c' :: '"' :: rest => (plainString? .terminated (rest.length + 1) rest).map afterSuffix
  | 'c' :: 'r' :: rest => (fencedString? .terminated rest).map afterSuffix
  | _ => none

def quotedChar? (quotation : Quotation) (t : Text) : Option Text :=
  let inside : Option Text :=
    match t with
    | '\\' :: rest => escape? quotation rest
    | c :: rest => if quotation = .bytes ∧ c.toNat ≥ 0x80 then none else some rest
    | [] => none
  inside.bind (dropStart? ['\''])

def charLiteral? : Text → Option Text
  | 'b' :: '\'' :: rest => (quotedChar? .bytes rest).map afterSuffix
  | '\'' :: rest => (quotedChar? .text rest).map afterSuffix
  | _ => none

/-! ## Numbers -/

def numberEnd? (t : Text) : Option Text :=
  let rest := afterSuffix t
  match rest with
  | c :: _ => if isIdentifierContinue c then none else some rest
  | [] => some rest

def digits? (base : Nat) : Bool → Text → Option Text
  | seen, [] => if seen then some [] else none
  | seen, c :: rest =>
    if c = '_' then if !seen && base == 10 then none else digits? base seen rest
    else
      match hexDigit? c with
      | some digit =>
        if digit < base then digits? base true rest
        else if c.isDigit then none
        else if seen then some (c :: rest) else none
      | none => if seen then some (c :: rest) else none

def integerLiteral? (t : Text) : Option Text :=
  let digits :=
    match t with
    | '0' :: 'x' :: rest => digits? 16 false rest
    | '0' :: 'o' :: rest => digits? 8 false rest
    | '0' :: 'b' :: rest => digits? 2 false rest
    | _ => digits? 10 false t
  digits.bind numberEnd?

/-- What follows the digits of an exponent; the flags tell whether a sign and a digit were read.
The outer answer is missing if a second sign comes before any digit. -/
def exponentDigits? : Bool → Bool → Text → Option Text
  | sign, value, c :: rest =>
    if c = '+' ∨ c = '-' then
      if value then some (c :: rest) else if sign then none else exponentDigits? true value rest
    else if c.isDigit then exponentDigits? sign true rest
    else if c = '_' then exponentDigits? sign value rest
    else if value then some (c :: rest) else none
  | _, value, [] => if value then some [] else none

def floatDigits? : Bool → Text → Option Text
  | point, [] => if point then some [] else none
  | point, c :: rest =>
    if c.isDigit ∨ c = '_' then floatDigits? point rest
    else if c = '.' then
      if point then some (c :: rest)
      else
        match rest with
        | next :: _ => if next = '.' ∨ isIdentifierStart next then none else floatDigits? true rest
        | [] => some []
    else if c = 'e' ∨ c = 'E' then
      match exponentDigits? false false rest with
      | some after => some after
      | none => if point then some (c :: rest) else none
    else if point then some (c :: rest) else none

def floatLiteral? : Text → Option Text
  | c :: rest => if c.isDigit then (floatDigits? false rest).bind numberEnd? else none
  | [] => none

def literal? (t : Text) : Option Text :=
  stringLiteral? t <|> charLiteral? t <|> floatLiteral? t <|> integerLiteral? t

/-! ## Marks -/

def markChars : Text := "~!@#$%^&*-=+|;:,<.>/?'".toList

def markChar? : Text → Option (Char × Text)
  | '/' :: '/' :: _ => none
  | '/' :: '*' :: _ => none
  | c :: rest => if markChars.contains c then some (c, rest) else none
  | [] => none

/-- A mark, whether it is joint, and what follows it.  A single quote is the mark of a lifetime
and stands before a word. -/
def mark? (t : Text) : Option (Char × Bool × Text) :=
  match markChar? t with
  | none => none
  | some ('\'', rest) =>
    match anyWord? rest with
    | none => none
    | some after =>
      match after with
      | '\'' :: _ => none
      | '#' :: _ => if (dropStart? ['r', '#'] rest).isSome then some ('\'', true, rest) else none
      | _ => some ('\'', true, rest)
  | some (c, rest) => some (c, (markChar? rest).isSome, rest)

/-! ## Groups -/

structure OpenGroup where
  delimiter : Delimiter
  opening : Position
  before : List Tree

/-- Where the reader stands: the text that is left, its place, the trees of the innermost open
group, the last one first, and the groups around them, the innermost first. -/
structure State where
  rest : Text
  position : Position
  trees : List Tree
  around : List OpenGroup

def advance (position : Position) (t rest : Text) : Position :=
  (upTo t rest).foldl Position.next position

def writeString (value : Text) : Text := quoted value

def docTrees (content : Text) (inner : Bool) (position : Position) : List Tree :=
  let assignment : List Tree :=
    [.word "doc".toList position, .mark '=' false position,
     .literal (writeString content) position]
  let bracketed : Tree := .group .bracket assignment position position
  if inner then [bracketed, .mark '!' false position, .mark '#' false position]
  else [bracketed, .mark '#' false position]

def step (s : State) : Except Position State :=
  let move (rest : Text) (trees : List Tree) : State :=
    { s with rest := rest, position := advance s.position s.rest rest, trees := trees }
  match docComment? s.rest with
  | some (content, inner, rest) =>
    .ok (move rest (docTrees content inner s.position ++ s.trees))
  | none =>
    match s.rest with
    | [] => .error s.position
    | c :: rest =>
      match Delimiter.ofOpening? c, Delimiter.ofClosing? c with
      | some delimiter, _ =>
        .ok { move rest [] with around := ⟨delimiter, s.position, s.trees⟩ :: s.around }
      | none, some delimiter =>
        match s.around with
        | [] => .error s.position
        | innermost :: around =>
          if innermost.delimiter = delimiter then
            let group := Tree.group delimiter s.trees.reverse innermost.opening s.position
            .ok { move rest (group :: innermost.before) with around := around }
          else .error s.position
      | none, none =>
        match literal? s.rest with
        | some rest => .ok (move rest (.literal (upTo s.rest rest) s.position :: s.trees))
        | none =>
          match mark? s.rest with
          | some (char, joint, rest) => .ok (move rest (.mark char joint s.position :: s.trees))
          | none =>
            match identifier? s.rest with
            | some rest => .ok (move rest (.word (upTo s.rest rest) s.position :: s.trees))
            | none => .error s.position

/-- Reads the text to its end.  Every step takes at least one character, so the length of the text
bounds the steps. -/
def run : Nat → State → Except Position (List Tree)
  | 0, s => .error s.position
  | steps + 1, s =>
    match s.rest, blank? s.rest with
    | [], _ =>
      match s.around with
      | [] => .ok s.trees.reverse
      | innermost :: _ => .error innermost.opening
    | _, some rest =>
      run steps { s with rest := rest, position := advance s.position s.rest rest }
    | _, none =>
      match step s with
      | .ok next => run steps next
      | .error position => .error position

def read (t : Text) : Except Position (List Tree) :=
  run (t.length + 1) ⟨t, .start, [], []⟩

end FieldRules.Source.Lexer
