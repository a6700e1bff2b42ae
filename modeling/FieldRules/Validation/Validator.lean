import FieldRules.Annotation.Parser
import FieldRules.Validation.Registry

/-!
# Validation

A validator goes through the annotated fields of a record and applies their directives from left
to right, those of an each-clause to one element after the other.  It stops at the first thing
that is wrong.  A run remembers, besides its outcome, which rules and which formatter were
called, and with what.
-/

namespace FieldRules

inductive Halt where
  | invalid (fault : ValidationError)
  | aborted (missing : MissingParameter)
deriving Repr, DecidableEq

inductive Call where
  | rule (context : Context)
  | format (site : Site) (value : Value) (cause : FieldError)

/-- The calls of a validation in order, and its outcome. -/
structure Run where
  calls : List Call
  outcome : Except Halt Unit

namespace Run

def done : Run := ⟨[], .ok ()⟩

def andThen (first second : Run) : Run :=
  match first.outcome with
  | .ok () => ⟨first.calls ++ second.calls, second.outcome⟩
  | .error halt => ⟨first.calls, .error halt⟩

def sequence : List Run → Run
  | [] => done
  | run :: rest => run.andThen (sequence rest)

/-- Ends with what the formatter makes of an error. -/
def report (formatter : Formatter) (site : Site) (value : Value) (cause : FieldError) : Run :=
  ⟨[.format site value cause], .error (.invalid (formatter site value cause))⟩

end Run

structure Validator where
  registry : Registry
  formatter : Formatter

namespace Validator

/-- Uses a rule by name.  A name under which nothing is registered is skipped. -/
def invoke (registry : Registry) (formatter : Formatter) (invocation : Invocation)
    (value : Value) (site : Site) : Run :=
  match registry.get? invocation.name with
  | none => .done
  | some rule =>
    let context : Context := ⟨value, invocation.param, invocation.name, site⟩
    match rule context with
    | .ok () => ⟨[.rule context], .ok ()⟩
    | .error (.aborted missing) => ⟨[.rule context], .error (.aborted missing)⟩
    | .error (.rejected fault) =>
      let reported := Run.report formatter site value (.rule fault)
      ⟨.rule context :: reported.calls, reported.outcome⟩

mutual

def applyDirective (registry : Registry) (formatter : Formatter) :
    Directive → Value → Site → Run
  | .invoke invocation, value, site => invoke registry formatter invocation value site
  | .each body, value, site =>
    match value.elements? with
    | none => .report formatter site value (.notASequence value.kind)
    | some elements =>
      .sequence (elements.zipIdx.map fun entry =>
        applyDirectives registry formatter body entry.1 (site.element entry.2))

def applyDirectives (registry : Registry) (formatter : Formatter) :
    List Directive → Value → Site → Run
  | [], _, _ => .done
  | directive :: rest, value, site =>
    (applyDirective registry formatter directive value site).andThen
      (applyDirectives registry formatter rest value site)

end

def applyField (registry : Registry) (formatter : Formatter) (record : Text)
    (field : Field Value) : Run :=
  match field.annotation with
  | none => .done
  | some source =>
    let site := Site.ofField record field.name source
    match Annotation.parse source with
    | .error fault => .report formatter site field.value (.grammar fault)
    | .ok annotation =>
      applyDirectives registry formatter annotation.directives field.value site

/-- Validates a value with a formatter of the caller's.  Only a record, or an optional one, can be
validated. -/
def validateWith (validator : Validator) (formatter : Formatter) (input : Value) : Run :=
  match input.resolve with
  | .record name fields =>
    .sequence (fields.map (applyField validator.registry formatter name))
  | other => ⟨[], .error (.invalid (.unsupportedInput other.kind))⟩

def validate (validator : Validator) (input : Value) : Run :=
  validator.validateWith validator.formatter input

def new : Validator := ⟨.builtin, defaultFormatter⟩

def ofRegistry (registry : Registry) : Validator := ⟨registry, defaultFormatter⟩

def register (validator : Validator) (name : Text) (rule : Rule) : Validator :=
  { validator with registry := validator.registry.register name rule }

def setFormatter (validator : Validator) (formatter : Formatter) : Validator :=
  { validator with formatter := formatter }

def describe (validator : Validator) : Text :=
  "Validator \x7b registry: ".toList ++ validator.registry.describe ++ ", .. \x7d".toList

end Validator
end FieldRules
