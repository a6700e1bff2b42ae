import FieldRules.Annotation.Segment
import FieldRules.Text.Numeral
import FieldRules.Validation.Site
import FieldRules.Value.Display

/-!
# What validation can find

A rule rejects a value with a rule error.  Together with the ways in which an annotation cannot
be applied these are the field errors, which a formatter turns into the error that the caller of
the validator sees.  Each error has a message and the chain of messages of its causes.
-/

namespace FieldRules

inductive RuleError where
  | violation (text : Text)
  | badParameter (rule param : Text) (reason : NumeralFault)
  | notApplicable (rule : Text) (kind : Kind)
  /-- An error of the rule's own making, with the messages of its causes, the nearest first. -/
  | custom (message : Text) (causes : List Text)
deriving Repr, DecidableEq

namespace RuleError

def message : RuleError → Text
  | violation text => text
  | badParameter rule param reason =>
    rule ++ " expects integer param, got ".toList ++ param.quoted ++ ": ".toList ++ reason.message
  | notApplicable rule kind => rule ++ " is not applicable to type ".toList ++ kind.name
  | custom message _ => message

/-- The messages of the causes, the nearest first. -/
def chain : RuleError → List Text
  | badParameter _ _ reason => [reason.message]
  | custom _ causes => causes
  | _ => []

end RuleError

inductive FieldError where
  | grammar (fault : GrammarError)
  | notASequence (kind : Kind)
  | rule (fault : RuleError)
deriving Repr, DecidableEq

namespace FieldError

def message : FieldError → Text
  | grammar fault => fault.message
  | notASequence kind => "each can be used only with list or array, got ".toList ++ kind.name
  | rule fault => fault.message

def chain : FieldError → List Text
  | rule fault => fault.chain
  | _ => []

end FieldError

inductive ValidationError where
  | unsupportedInput (kind : Kind)
  | field (path message : Text) (cause : FieldError)
  | custom (message : Text) (causes : List Text)
deriving Repr, DecidableEq

namespace ValidationError

def message : ValidationError → Text
  | unsupportedInput kind =>
    "unsupported input type ".toList ++ kind.name ++ ": expected a record".toList
  | field _ message _ => message
  | custom message _ => message

def chain : ValidationError → List Text
  | unsupportedInput _ => []
  | field _ _ cause => cause.message :: cause.chain
  | custom _ causes => causes

end ValidationError

/-- A rule was used without the parameter that it cannot do without.  This is a mistake in the
annotation rather than in the value, and it ends the validation on the spot. -/
structure MissingParameter where
  rule : Text
  path : Text
deriving Repr, DecidableEq

namespace MissingParameter

def message (missing : MissingParameter) : Text :=
  "missing parameter for validator ".toList ++ missing.rule.quoted
    ++ " on field ".toList ++ missing.path.quoted

end MissingParameter

/-- Turns a field error at a site, with the value found there, into the error to report. -/
abbrev Formatter := Site → Value → FieldError → ValidationError

def defaultFormatter : Formatter := fun site value cause =>
  .field site.path
    ("field ".toList ++ site.path.quoted ++ " validation error: ".toList ++ cause.message
      ++ " (received: '".toList ++ value.display ++ "')".toList)
    cause

end FieldRules
