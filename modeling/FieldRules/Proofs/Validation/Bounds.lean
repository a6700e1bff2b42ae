import FieldRules.Proofs.Text.NumeralFaults
import FieldRules.Proofs.Validation.CleanAnnotations
import Mathlib.Data.List.Basic

/-!
# What bounds answer

A bound compares the measure of a value with its limit, both as exact integers.  This
file says what the measure of a value is, and then what a bound answers in every case:
it asks for a parameter first, then for a limit that can be read, and only then for a
value that has a measure.  Floats are compared as floats and have no measure here.
-/

namespace FieldRules

/-- What a bound compares with its limit: how long a value is, or the number itself. -/
inductive Measure where
  | length (count : Nat)
  | number (value : Int)

def Measure.amount : Measure → Int
  | .length count => count
  | .number value => value

/-- An absent value is as long as an empty one, and a text as long as it is in UTF-8. -/
def Value.measure? : Value → Option Measure
  | .nil => some (.length 0)
  | .text content => some (.length (String.ofList content).utf8ByteSize)
  | .list elements => some (.length elements.length)
  | .array elements => some (.length elements.length)
  | .map size => some (.length size)
  | .int number => some (.number number)
  | .uint number => some (.number number)
  | .bool _ => none
  | .float _ => none
  | .optional _ => none
  | .record _ _ => none

/-- What is said of a measure on the wrong side of the limit. -/
def Bound.message (bound : Bound) (limit : Int) : Measure → Text
  | .length _ => bound.lengthMessage limit
  | .number _ => bound.valueMessage limit

theorem Text.byteLength_eq_utf8ByteSize (t : Text) :
    t.byteLength = (String.ofList t).utf8ByteSize := by
  induction t with
  | nil => rfl
  | cons c rest ih =>
      rw [byteLength, ih, ← List.singleton_append, String.ofList_append,
        String.utf8ByteSize_append, ← String.singleton_eq_ofList, String.utf8ByteSize_singleton]

/-! ## Comparing -/

namespace Bound

variable {bound : Bound} {limit : Int} {value : Value}

theorem check_of_measure (name : Text) {measure : Measure} (h : value.measure? = some measure) :
    bound.check name limit value =
      if bound.holds measure.amount limit then .ok ()
      else .error (.violation (bound.message limit measure)) := by
  cases value with
  | text content =>
      cases h
      rw [check, Text.byteLength_eq_utf8ByteSize]
      rfl
  | nil | list | array | map | int | uint =>
      cases h
      rfl
  | bool | float | optional | record => cases h

theorem check_of_no_measure
    (name : Text) (h : value.measure? = none) (hfloat : value.kind ≠ .float) :
    bound.check name limit value = .error (.rejected (.notApplicable name value.kind)) := by
  cases value with
  | bool | optional | record => rfl
  | float => exact absurd rfl hfloat
  | nil | text | list | array | map | int | uint => cases h

/-! ## Answers -/

theorem rule_of_no_param {context : Context} (hparam : context.param = none) :
    bound.rule context = .error (.aborted ⟨context.rule, context.site.path⟩) := by
  simp only [rule, readLimit, Context.requireParam, hparam]

theorem rule_of_refused
    {context : Context} {param : Text} {reason : NumeralFault} (hparam : context.param = some param)
    (hrefused : param.RefusedFor reason) :
    bound.rule context = .error (.rejected (.badParameter context.rule param reason)) := by
  have hread := Text.readInt64_eq_error_iff.mpr hrefused
  simp only [rule, readLimit, Context.requireParam, hparam, hread]

theorem rule_of_limit
    {context : Context} {param : Text} (hparam : context.param = some param)
    (hlimit : param.WritesInt64 limit) :
    bound.rule context = bound.check context.rule limit context.resolved := by
  have hread := Text.readInt64_eq_ok_iff.mpr hlimit
  simp only [rule, readLimit_eq_ok hparam hread]

end Bound

namespace Rule

variable {context : Context} {param : Text} {limit : Int} {measure : Measure}

theorem minimum_of_measure
    (hparam : context.param = some param) (hlimit : param.WritesInt64 limit)
    (hmeasure : context.resolved.measure? = some measure) :
    minimum context =
      if limit ≤ measure.amount then .ok ()
      else .error (.violation (Bound.lower.message limit measure)) := by
  rw [minimum, Bound.rule_of_limit hparam hlimit, Bound.check_of_measure _ hmeasure]
  simp only [Bound.holds, decide_eq_true_eq]

theorem maximum_of_measure
    (hparam : context.param = some param) (hlimit : param.WritesInt64 limit)
    (hmeasure : context.resolved.measure? = some measure) :
    maximum context =
      if measure.amount ≤ limit then .ok ()
      else .error (.violation (Bound.upper.message limit measure)) := by
  rw [maximum, Bound.rule_of_limit hparam hlimit, Bound.check_of_measure _ hmeasure]
  simp only [Bound.holds, decide_eq_true_eq]

theorem minimum_eq_ok_iff
    (hparam : context.param = some param) (hlimit : param.WritesInt64 limit)
    (hmeasure : context.resolved.measure? = some measure) :
    minimum context = .ok () ↔ limit ≤ measure.amount := by
  rw [minimum_of_measure hparam hlimit hmeasure]
  split <;> simp [*]

theorem maximum_eq_ok_iff
    (hparam : context.param = some param) (hlimit : param.WritesInt64 limit)
    (hmeasure : context.resolved.measure? = some measure) :
    maximum context = .ok () ↔ measure.amount ≤ limit := by
  rw [maximum_of_measure hparam hlimit hmeasure]
  split <;> simp [*]

theorem forall_mem_bounds {P : Rule → Prop} (h : ∀ bound : Bound, P bound.rule) :
    ∀ rule ∈ [minimum, maximum], P rule := by
  intro rule hrule
  rcases List.mem_pair.mp hrule with rfl | rfl
  · exact h .lower
  · exact h .upper

theorem bound_optional
    (bound : Bound) {value : Value} (hvalue : ∀ inner, value ≠ .optional inner)
    (param : Option Text) (name : Text) (site : Site) :
    bound.rule ⟨.optional value, param, name, site⟩ = bound.rule ⟨value, param, name, site⟩ := by
  have hresolve : value.resolve = value := by
    cases value with
    | optional inner => exact absurd rfl (hvalue inner)
    | _ => rfl
  simp only [Bound.rule, Bound.readLimit, Context.requireParam, Context.resolved, hresolve]
  rfl

/-- The whole range of answers of a bound to a value that is not a float.  For a value that has a
measure, a lower bound becomes stricter and an upper bound laxer with a greater limit, and the value
is below a limit exactly if it is at most the integer before.  A value that is there is treated like
one that could not have been absent. -/
theorem bounds_exact :
    (∀ context : Context,
      match context.param with
      | none =>
        ∀ rule ∈ [minimum, maximum],
          rule context = .error (.aborted ⟨context.rule, context.site.path⟩)
      | some param =>
        ((∀ limit, ¬param.WritesInt64 limit) →
          ∃ reason, param.RefusedFor reason ∧ ∀ rule ∈ [minimum, maximum],
            rule context = .error (.rejected (.badParameter context.rule param reason))) ∧
        ∀ limit, param.WritesInt64 limit →
          match context.resolved.measure? with
          | none =>
            context.resolved.kind ≠ .float → ∀ rule ∈ [minimum, maximum],
              rule context =
                .error (.rejected (.notApplicable context.rule context.resolved.kind))
          | some measure =>
            minimum context =
                (if limit ≤ measure.amount then .ok ()
                else .error (.violation (Bound.lower.message limit measure))) ∧
              maximum context =
                (if measure.amount ≤ limit then .ok ()
                else .error (.violation (Bound.upper.message limit measure)))) ∧
    (∀ (value : Value) (measure : Measure) (name : Text) (site : Site) (low high : Text)
        (limit more : Int),
      value.resolve.measure? = some measure →
      low.WritesInt64 limit → high.WritesInt64 more →
      let answer (rule : Rule) (param : Text) := rule ⟨value, some param, name, site⟩
      (limit ≤ more →
        (answer minimum high = .ok () → answer minimum low = .ok ()) ∧
          (answer maximum low = .ok () → answer maximum high = .ok ())) ∧
        (limit = more - 1 → (answer minimum high ≠ .ok () ↔ answer maximum low = .ok ()))) ∧
    ∀ (value : Value) (param : Option Text) (name : Text) (site : Site),
      (∀ inner, value ≠ .optional inner) → ∀ rule ∈ [minimum, maximum],
        rule ⟨.optional value, param, name, site⟩ = rule ⟨value, param, name, site⟩ := by
  refine ⟨?_, ?_, ?_⟩
  · intro context
    cases hparam : context.param with
    | none => exact forall_mem_bounds fun bound => Bound.rule_of_no_param hparam
    | some param =>
        refine ⟨?_, ?_⟩
        · intro hnot
          obtain ⟨reason, hread⟩ := Text.exists_readInt64_error_iff.mpr hnot
          have hrefused := Text.readInt64_eq_error_iff.mp hread
          exact ⟨reason, hrefused, forall_mem_bounds fun bound =>
            Bound.rule_of_refused hparam hrefused⟩
        · intro limit hlimit
          cases hmeasure : context.resolved.measure? with
          | none =>
              intro hfloat
              apply forall_mem_bounds
              intro bound
              rw [Bound.rule_of_limit hparam hlimit]
              exact Bound.check_of_no_measure context.rule hmeasure hfloat
          | some measure =>
              exact ⟨minimum_of_measure hparam hlimit hmeasure,
                maximum_of_measure hparam hlimit hmeasure⟩
  · intro value measure name site low high limit more hmeasure hlow hhigh answer
    have hminLow : answer minimum low = .ok () ↔ limit ≤ measure.amount :=
      minimum_eq_ok_iff rfl hlow hmeasure
    have hminHigh : answer minimum high = .ok () ↔ more ≤ measure.amount :=
      minimum_eq_ok_iff rfl hhigh hmeasure
    have hmaxLow : answer maximum low = .ok () ↔ measure.amount ≤ limit :=
      maximum_eq_ok_iff rfl hlow hmeasure
    have hmaxHigh : answer maximum high = .ok () ↔ measure.amount ≤ more :=
      maximum_eq_ok_iff rfl hhigh hmeasure
    rw [Ne, hminLow, hminHigh, hmaxLow, hmaxHigh]
    omega
  · intro value param name site hvalue
    exact forall_mem_bounds fun bound => bound_optional bound hvalue param name site

/-- Limits at the ends of their range, a number beyond it, and a parameter that cannot be read, which
is reported although the value has no measure. -/
theorem bounds_exact_wide :
    let site : Site := ⟨"Order".toList, "total".toList, [], [3]⟩
    let answer (value : Value) (rule : Rule) (param : Text) : Except RuleFailure Unit :=
      rule ⟨value, some param, "limit".toList, site⟩
    let huge : Value := .uint 18446744073709551615
    let least : Text := "-9223372036854775808".toList
    let second : Text := "-9223372036854775807".toList
    minimum ⟨huge, none, "limit".toList, site⟩ =
        .error (.aborted ⟨"limit".toList, "total[3]".toList⟩) ∧
      answer (.bool true) minimum "1_0".toList =
        .error (.rejected (.badParameter "limit".toList "1_0".toList .invalidDigit)) ∧
      answer (.optional (.optional .nil)) maximum "+5".toList =
        .error (.rejected (.notApplicable "limit".toList .optional)) ∧
      answer huge maximum "9223372036854775807".toList =
        .error (.violation "should be <= 9223372036854775807".toList) ∧
      answer (.text "né".toList) minimum "004".toList =
        .error (.violation "should have length at least 4".toList) ∧
      answer (.int (-9223372036854775808)) minimum second ≠ .ok () ∧
      answer (.int (-9223372036854775808)) maximum least = .ok () ∧
      answer (.optional huge) maximum least = answer huge maximum least := by
  intro site answer huge least second
  obtain ⟨hcontext, hlimits, hoptional⟩ := bounds_exact
  have hleast : least.WritesInt64 (-9223372036854775808) := Text.readInt64_eq_ok_iff.mp rfl
  have hsecond : second.WritesInt64 (-9223372036854775807) := Text.readInt64_eq_ok_iff.mp rfl
  have hmost : Text.WritesInt64 "9223372036854775807".toList 9223372036854775807 :=
    Text.readInt64_eq_ok_iff.mp rfl
  have hfive : Text.WritesInt64 "+5".toList 5 := Text.readInt64_eq_ok_iff.mp rfl
  have hfour : Text.WritesInt64 "004".toList 4 := Text.readInt64_eq_ok_iff.mp rfl
  have hnot : ∀ limit, ¬Text.WritesInt64 "1_0".toList limit :=
    Text.exists_readInt64_error_iff.mp ⟨.invalidDigit, rfl⟩
  have hpasses : answer (.int (-9223372036854775808)) maximum least = .ok () :=
    ((hcontext ⟨.int (-9223372036854775808), some least, "limit".toList, site⟩).2 _ hleast).2
  have hfails : answer (.int (-9223372036854775808)) minimum second ≠ .ok () ↔
      answer (.int (-9223372036854775808)) maximum least = .ok () :=
    (hlimits (.int (-9223372036854775808)) (.number (-9223372036854775808)) "limit".toList site
      least second _ _ rfl hleast hsecond).2 rfl
  refine ⟨?_, ?_, ?_, ?_, ?_, hfails.mpr hpasses, hpasses, ?_⟩
  · exact hcontext ⟨huge, none, "limit".toList, site⟩ minimum List.mem_cons_self
  · obtain ⟨reason, hreason, hrules⟩ :=
      (hcontext ⟨.bool true, some "1_0".toList, "limit".toList, site⟩).1 hnot
    rw [Text.RefusedFor.unique (Text.readInt64_eq_error_iff.mp rfl) hreason]
    exact hrules minimum List.mem_cons_self
  · have hnone := (hcontext
      ⟨.optional (.optional .nil), some "+5".toList, "limit".toList, site⟩).2 _ hfive
    exact hnone (by decide) maximum (by simp)
  · exact ((hcontext ⟨huge, some "9223372036854775807".toList, "limit".toList, site⟩).2 _ hmost).2
  · exact ((hcontext ⟨.text "né".toList, some "004".toList, "limit".toList, site⟩).2 _ hfour).1
  · exact hoptional huge (some least) "limit".toList site (by simp [huge]) maximum (by simp)

end Rule
end FieldRules
