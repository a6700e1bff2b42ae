import FieldRules.Validation.Fault

/-!
# Rules

A rule is a function of the context in which it is used.  The built-in rules ask for presence
and compare a measure of the value with a limit.
-/

namespace FieldRules

structure Context where
  value : Value
  /-- The parameter, if the rule is used with one. -/
  param : Option Text
  rule : Text
  site : Site

inductive RuleFailure where
  | rejected (fault : RuleError)
  | aborted (missing : MissingParameter)
deriving Repr, DecidableEq

abbrev Rule := Context → Except RuleFailure Unit

namespace Context

def resolved (context : Context) : Value := context.value.resolve

/-- The parameter of a rule that cannot do without. -/
def requireParam (context : Context) : Except RuleFailure Text :=
  match context.param with
  | some param => .ok param
  | none => .error (.aborted ⟨context.rule, context.site.path⟩)

end Context

def RuleFailure.violation (text : Text) : RuleFailure := .rejected (.violation text)

/-! ## Bounds -/

/-- The side on which a limit stands. -/
inductive Bound where
  | lower
  | upper
deriving Repr, DecidableEq

namespace Bound

def holds (bound : Bound) (measure limit : Int) : Bool :=
  match bound with
  | lower => decide (limit ≤ measure)
  | upper => decide (measure ≤ limit)

/-- The same for a float, with the limit rounded to the nearest float.  No NaN is on the right
side of anything. -/
def holdsFloat (bound : Bound) (bits : UInt64) (limit : Int) : Bool :=
  let rounded := (Int64.ofInt limit).toFloat
  match bound with
  | lower => decide (rounded ≤ Float.ofBits bits)
  | upper => decide (Float.ofBits bits ≤ rounded)

def lengthMessage (bound : Bound) (limit : Int) : Text :=
  match bound with
  | lower => "should have length at least ".toList ++ Text.ofInt limit
  | upper => "should have length at most ".toList ++ Text.ofInt limit

def valueMessage (bound : Bound) (limit : Int) : Text :=
  match bound with
  | lower => "should be >= ".toList ++ Text.ofInt limit
  | upper => "should be <= ".toList ++ Text.ofInt limit

/-- Compares a value with a limit.  Absent values count as empty; booleans, nested optionals and
records have no measure. -/
def check (bound : Bound) (rule : Text) (limit : Int) (value : Value) : Except RuleFailure Unit :=
  let checkLength (length : Nat) : Except RuleFailure Unit :=
    if bound.holds length limit then .ok ()
    else .error (.violation (bound.lengthMessage limit))
  let checkValue (passes : Bool) : Except RuleFailure Unit :=
    if passes then .ok () else .error (.violation (bound.valueMessage limit))
  match value with
  | .nil => checkLength 0
  | .text text => checkLength text.byteLength
  | .list elements => checkLength elements.length
  | .array elements => checkLength elements.length
  | .map size => checkLength size
  | .int number => checkValue (bound.holds number limit)
  | .uint number => checkValue (bound.holds number limit)
  | .float bits => checkValue (bound.holdsFloat bits limit)
  | other => .error (.rejected (.notApplicable rule other.kind))

def readLimit (context : Context) : Except RuleFailure Int :=
  match context.requireParam with
  | .error failure => .error failure
  | .ok param =>
    match Text.readInt64 param with
    | .ok limit => .ok limit
    | .error reason => .error (.rejected (.badParameter context.rule param reason))

def rule (bound : Bound) : Rule := fun context =>
  match readLimit context with
  | .error failure => .error failure
  | .ok limit => bound.check context.rule limit context.resolved

end Bound

namespace Rule

def minimum : Rule := Bound.lower.rule

def maximum : Rule := Bound.upper.rule

def required : Rule := fun context =>
  if context.value.isNil || context.resolved.isZero then .error (.violation "is required".toList)
  else .ok ()

def builtins : List (Text × Rule) :=
  [(RuleName.min, minimum), (RuleName.minimum, minimum), (RuleName.max, maximum),
   (RuleName.maximum, maximum), (RuleName.required, required)]

end Rule
end FieldRules
