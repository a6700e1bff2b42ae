import FieldRules.Text.Basic

/-!
# Annotations

An annotation lists the rules of one field: plain invocations of rules by name, and each-clauses,
which apply a list of their own to every element of the field.  The canonical text of an
annotation separates directives by commas and writes a clause as `each={...}`.
-/

namespace FieldRules

/-- The use of one rule.  A rule that is used without `=` has no parameter, which differs from an
empty one. -/
structure Invocation where
  name : Text
  param : Option Text
deriving Repr, DecidableEq

inductive Directive where
  | invoke (invocation : Invocation)
  | each (body : List Directive)
deriving Repr

structure Annotation where
  directives : List Directive
deriving Repr

/-! ## Names with a meaning of their own -/

namespace RuleName

def required : Text := "required".toList
def min : Text := "min".toList
def minimum : Text := "minimum".toList
def max : Text := "max".toList
def maximum : Text := "maximum".toList
def each : Text := "each".toList
def dive : Text := "dive".toList

/-- Names that no rule of a user should take. -/
def reserved : List Text := [required, min, minimum, max, maximum, each, dive]

def bounds : List Text := [min, minimum, max, maximum]

def builtin : List Text := [required, min, minimum, max, maximum]

end RuleName

/-! ## Equality -/

mutual

def Directive.decEq : (a b : Directive) → Decidable (a = b)
  | .invoke a, .invoke b =>
    if h : a = b then isTrue (by rw [h]) else isFalse (by simpa using h)
  | .invoke _, .each _ => isFalse (by simp)
  | .each _, .invoke _ => isFalse (by simp)
  | .each a, .each b =>
    match Directive.decEqList a b with
    | isTrue h => isTrue (by rw [h])
    | isFalse h => isFalse (by simpa using h)

def Directive.decEqList : (a b : List Directive) → Decidable (a = b)
  | [], [] => isTrue rfl
  | [], _ :: _ => isFalse (by simp)
  | _ :: _, [] => isFalse (by simp)
  | a :: as, b :: bs =>
    match Directive.decEq a b, Directive.decEqList as bs with
    | isTrue h, isTrue hs => isTrue (by rw [h, hs])
    | isFalse h, _ => isFalse (by simp [h])
    | _, isFalse hs => isFalse (by simp [hs])

end

instance : DecidableEq Directive := Directive.decEq

deriving instance DecidableEq for Annotation

/-! ## Canonical text -/

def Invocation.render (invocation : Invocation) : Text :=
  match invocation.param with
  | none => invocation.name
  | some param => invocation.name ++ '=' :: param

mutual

def Directive.render : Directive → Text
  | .invoke invocation => invocation.render
  | .each body => RuleName.each ++ ['=', '{'] ++ Directive.renderList body ++ ['}']

def Directive.renderList : List Directive → Text
  | [] => []
  | [directive] => directive.render
  | directive :: second :: rest => directive.render ++ ',' :: Directive.renderList (second :: rest)

end

def Directive.name : Directive → Text
  | .invoke invocation => invocation.name
  | .each _ => RuleName.each

def Annotation.render (rules : Annotation) : Text := Directive.renderList rules.directives

end FieldRules
