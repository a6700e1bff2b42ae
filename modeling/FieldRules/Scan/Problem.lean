import FieldRules.Annotation.Parser
import FieldRules.Text.Numeral
import FieldRules.Text.Quoted

/-!
# Checking annotations

What is wrong with an annotation can be said without any value: a rule that is not known, or a
parameter that the rule cannot use.  All problems are listed, in the order of the annotation.
-/

namespace FieldRules

namespace Invocation

/-- What to say about a name that is not known.  A colon behind `each` is taken for a slip. -/
def unknownMessage (invocation : Invocation) : Text :=
  match Text.dropStart? "each:".toList invocation.render with
  | some rest =>
    "invalid syntax ".toList ++ invocation.render.quoted
      ++ " - did you mean \"each=".toList ++ rest ++ "\"?".toList
  | none => "unknown validator ".toList ++ invocation.name.quoted

def boundProblem? (invocation : Invocation) : Option Text :=
  match invocation.param with
  | none => some (invocation.name ++ " expects integer parameter, got none".toList)
  | some param =>
    match Text.readInt64 param with
    | .ok _ => none
    | .error _ =>
      some (invocation.name ++ " expects integer parameter, got ".toList ++ param.quoted)

/-- What is wrong with the use of a rule, where `custom` are the names of registered rules. -/
def problem? (custom : List Text) (invocation : Invocation) : Option Text :=
  if invocation.name = [] then some "empty validator name".toList
  else if !RuleName.builtin.contains invocation.name && !custom.contains invocation.name then
    some invocation.unknownMessage
  else if RuleName.bounds.contains invocation.name then invocation.boundProblem?
  else if invocation.name = RuleName.required ∧ invocation.param.isSome then
    some "required validator does not accept parameters".toList
  else none

end Invocation

mutual

def Directive.problems (custom : List Text) : Directive → List Text
  | .invoke invocation => (invocation.problem? custom).toList
  | .each body => problemsIn custom body

def problemsIn (custom : List Text) : List Directive → List Text
  | [] => []
  | directive :: rest => directive.problems custom ++ problemsIn custom rest

end

def annotationProblems (custom : List Text) (source : Text) : List Text :=
  match Annotation.parse source with
  | .error fault => [fault.message]
  | .ok annotation => problemsIn custom annotation.directives

end FieldRules
