import FieldRules.Proofs.Text.Numerals
import Mathlib.Data.List.TakeWhile

/-!
# Why a numeral is refused

A text that is no numeral of an integer in the range can be wrong in two ways at once:
it has a character that is no digit, and its digits lead out of the range.  Which of
the two is reported is settled by the digits in front of the first such character.
If their number is out of the range then this comes first, and if it is not then the
character does.
-/

namespace FieldRules.Text

/-- The number to which the digits at the front of the text continue the given one. -/
def leadingFrom (value : Nat) (t : Text) : Nat :=
  Nat.ofDigitChars 10 (t.takeWhile Char.isDigit) value

/-- The number of the digits behind the sign, under this sign, whatever follows the digits. -/
def leadingNumber : Text → Int
  | '+' :: rest => leadingFrom 0 rest
  | '-' :: rest => -leadingFrom 0 rest
  | t => leadingFrom 0 t

/-- The text is no numeral of an integer in the range, for the given reason. -/
inductive RefusedFor : Text → NumeralFault → Prop where
  | empty : RefusedFor [] .empty
  | tooLarge {t : Text} (hmax : maxInt64 < t.leadingNumber) : RefusedFor t .tooLarge
  | tooSmall {t : Text} (hmin : t.leadingNumber < minInt64) : RefusedFor t .tooSmall
  | invalidDigit {t : Text} (hne : t ≠ []) (hmin : minInt64 ≤ t.leadingNumber)
      (hmax : t.leadingNumber ≤ maxInt64) (hnot : ∀ n, ¬WritesInt64 t n) :
      RefusedFor t .invalidDigit

/-! ## Digits at the front -/

theorem leadingFrom_of_not_digit {c : Char} (hc : digit? c = none) (value : Nat) (rest : Text) :
    leadingFrom value (c :: rest) = value := by
  have hnot : ¬c.isDigit := by
    intro hdigit
    rw [digit?_of_isDigit hdigit] at hc
    contradiction
  rw [leadingFrom, List.takeWhile_cons_of_neg hnot]
  rfl

theorem leadingFrom_of_digit
    {c : Char} {digit : Nat} (hc : digit? c = some digit) (value : Nat) (rest : Text) :
    leadingFrom value (c :: rest) = leadingFrom (value * 10 + digit) rest := by
  by_cases hdigit : c.isDigit
  · rw [digit?_of_isDigit hdigit, Option.some.injEq] at hc
    rw [leadingFrom, List.takeWhile_cons_of_pos hdigit, Nat.ofDigitChars_cons, Nat.mul_comm, hc]
    rfl
  · rw [digit?_of_not_isDigit hdigit] at hc
    contradiction

theorem le_leadingFrom (value : Nat) (t : Text) : value ≤ leadingFrom value t := by
  have hdigits : DigitsFrom value (t.takeWhile Char.isDigit) (leadingFrom value t) :=
    ⟨fun _ hc => List.mem_takeWhile_imp hc, rfl⟩
  exact hdigits.le

theorem WritesNat.leadingFrom_eq {t : Text} {n : Nat} (h : t.WritesNat n) :
    leadingFrom 0 t = n := by
  rw [leadingFrom, List.takeWhile_eq_self_iff.mpr h.digits, h.value]

theorem leadingNumber_unsigned
    {t : Text} (hplus : ∀ rest, t ≠ '+' :: rest) (hminus : ∀ rest, t ≠ '-' :: rest) :
    t.leadingNumber = leadingFrom 0 t := by
  unfold leadingNumber
  split
  · exact absurd rfl (hplus _)
  · exact absurd rfl (hminus _)
  · rfl

theorem WritesInt.leadingNumber_eq {t : Text} {n : Int} (h : t.WritesInt n) :
    t.leadingNumber = n := by
  cases h with
  | plus hdigits => rw [leadingNumber, hdigits.leadingFrom_eq]
  | minus hdigits => rw [leadingNumber, hdigits.leadingFrom_eq]
  | unsigned hdigits =>
      rw [leadingNumber_unsigned, hdigits.leadingFrom_eq]
      · rintro rest rfl
        exact not_writesNat_of_sign (by decide) hdigits
      · rintro rest rfl
        exact not_writesNat_of_sign (by decide) hdigits

/-! ## Giving up -/

theorem readUp_error
    {value : Nat} {t : Text} {reason : NumeralFault} (hvalue : (value : Int) ≤ maxInt64)
    (hread : readUp value t = .error reason) :
    reason = .tooLarge ∧ maxInt64 < leadingFrom value t ∨
      reason = .invalidDigit ∧ leadingFrom value t ≤ maxInt64 := by
  induction t generalizing value with
  | nil => contradiction
  | cons c rest ih =>
      rw [readUp] at hread
      cases hdigit : digit? c with
      | none =>
          simp only [hdigit, Except.error.injEq] at hread
          rw [leadingFrom_of_not_digit hdigit]
          exact .inr ⟨hread.symm, hvalue⟩
      | some digit =>
          simp only [hdigit] at hread
          rw [leadingFrom_of_digit hdigit]
          split at hread
          next hroom => exact ih (by push_cast; exact hroom) (by push_cast; exact hread)
          next hfull =>
            have hle := le_leadingFrom (value * 10 + digit) rest
            exact .inl ⟨(Except.error.inj hread).symm, by omega⟩

theorem readDown_error
    {value : Nat} {t : Text} {reason : NumeralFault} (hvalue : minInt64 ≤ -(value : Int))
    (hread : readDown (-value) t = .error reason) :
    reason = .tooSmall ∧ -(leadingFrom value t : Int) < minInt64 ∨
      reason = .invalidDigit ∧ minInt64 ≤ -(leadingFrom value t : Int) := by
  induction t generalizing value with
  | nil => contradiction
  | cons c rest ih =>
      rw [readDown] at hread
      cases hdigit : digit? c with
      | none =>
          simp only [hdigit, Except.error.injEq] at hread
          rw [leadingFrom_of_not_digit hdigit]
          exact .inr ⟨hread.symm, hvalue⟩
      | some digit =>
          have hnext : -(value : Int) * 10 - digit = -((value * 10 + digit : Nat) : Int) := by
            omega
          simp only [hdigit, hnext] at hread
          rw [leadingFrom_of_digit hdigit]
          split at hread
          next hroom => exact ih hroom hread
          next hfull =>
            have hle := le_leadingFrom (value * 10 + digit) rest
            exact .inl ⟨(Except.error.inj hread).symm, by omega⟩

/-! ## The reason -/

theorem not_writesInt64_nil (n : Int) : ¬WritesInt64 [] n := by
  intro hwrites
  have hread := readInt64_eq_ok_iff.mpr hwrites
  contradiction

theorem RefusedFor.not_writesInt64 {t : Text} {reason : NumeralFault} (h : t.RefusedFor reason) :
    ∀ n, ¬WritesInt64 t n := by
  intro n hwrites
  have hvalue := hwrites.1.leadingNumber_eq
  have hrange := hwrites.2
  cases h with
  | empty => exact not_writesInt64_nil n hwrites
  | tooLarge hmax => omega
  | tooSmall hmin => omega
  | invalidDigit _ _ _ hnot => exact hnot n hwrites

theorem RefusedFor.unique
    {t : Text} {reason other : NumeralFault} (h : t.RefusedFor reason)
    (hother : t.RefusedFor other) : reason = other := by
  have hrange : minInt64 ≤ maxInt64 := by decide
  cases h with
  | empty =>
      cases hother with
      | empty => rfl
      | tooLarge hmax => exact absurd hmax (by decide)
      | tooSmall hmin => exact absurd hmin (by decide)
      | invalidDigit hne _ _ _ => exact absurd rfl hne
  | tooLarge hmax =>
      cases hother with
      | empty => exact absurd hmax (by decide)
      | tooLarge _ => rfl
      | tooSmall hmin => omega
      | invalidDigit _ _ hle _ => omega
  | tooSmall hmin =>
      cases hother with
      | empty => exact absurd hmin (by decide)
      | tooLarge hmax => omega
      | tooSmall _ => rfl
      | invalidDigit _ hle _ _ => omega
  | invalidDigit hne hmin hmax _ =>
      cases hother with
      | empty => exact absurd rfl hne
      | tooLarge hlt => omega
      | tooSmall hlt => omega
      | invalidDigit _ _ _ _ => rfl

theorem refusedFor_of_readUp
    {t rest : Text} {reason : NumeralFault} (hne : t ≠ [])
    (hnumber : t.leadingNumber = leadingFrom 0 rest) (hnot : ∀ n, ¬WritesInt64 t n)
    (hread : readUp 0 rest = .error reason) : t.RefusedFor reason := by
  have hzero : ((0 : Nat) : Int) ≤ maxInt64 := by decide
  have hmin : minInt64 ≤ 0 := by decide
  rcases readUp_error hzero hread with ⟨rfl, hmax⟩ | ⟨rfl, hmax⟩
  · exact .tooLarge (by omega)
  · exact .invalidDigit hne (by omega) (by omega) hnot

theorem refusedFor_of_readDown
    {t rest : Text} {reason : NumeralFault} (hne : t ≠ [])
    (hnumber : t.leadingNumber = -leadingFrom 0 rest) (hnot : ∀ n, ¬WritesInt64 t n)
    (hread : readDown 0 rest = .error reason) : t.RefusedFor reason := by
  have hzero : minInt64 ≤ -((0 : Nat) : Int) := by decide
  have hmax : 0 ≤ maxInt64 := by decide
  rcases readDown_error hzero hread with ⟨rfl, hmin⟩ | ⟨rfl, hmin⟩
  · exact .tooSmall (by omega)
  · exact .invalidDigit hne (by omega) (by omega) hnot

theorem refusedFor_of_readInt64
    {t : Text} {reason : NumeralFault} (hread : readInt64 t = .error reason) :
    t.RefusedFor reason := by
  have hnot := exists_readInt64_error_iff.mp ⟨reason, hread⟩
  unfold readInt64 at hread
  split at hread
  next =>
    rw [← Except.error.inj hread]
    exact .empty
  next =>
    rw [← Except.error.inj hread]
    exact .invalidDigit (by simp) (by decide) (by decide) hnot
  next =>
    rw [← Except.error.inj hread]
    exact .invalidDigit (by simp) (by decide) (by decide) hnot
  next rest _ => exact refusedFor_of_readUp (by simp) rfl hnot hread
  next rest _ => exact refusedFor_of_readDown (by simp) rfl hnot hread
  next hne _ _ hplus hminus =>
    exact refusedFor_of_readUp hne (leadingNumber_unsigned hplus hminus) hnot hread

/-- A text that is no numeral of an integer in the range is refused for the reason that comes first
in it. -/
theorem readInt64_eq_error_iff {t : Text} {reason : NumeralFault} :
    readInt64 t = .error reason ↔ t.RefusedFor reason := by
  constructor
  · exact refusedFor_of_readInt64
  · intro h
    obtain ⟨other, hread⟩ := exists_readInt64_error_iff.mpr h.not_writesInt64
    rw [hread, h.unique (refusedFor_of_readInt64 hread)]

/-! ## Numerals that are written -/

theorem writesNat_ofNat (n : Nat) : (ofNat n).WritesNat n where
  ne_nil := Nat.toDigits_ne_nil
  digits := fun _ hc => Nat.isDigit_of_mem_toDigits (by decide) (by decide) hc
  value := Nat.ofDigitChars_ten_toDigits.symm

theorem ofNat_injective : Function.Injective ofNat := by
  intro m n heq
  have hvalue := congrArg (fun t => Nat.ofDigitChars 10 t 0) heq
  simpa only [ofNat, Nat.ofDigitChars_ten_toDigits] using hvalue

/-- No zero is written in front of other digits. -/
theorem ofNat_ne_zero_cons (n : Nat) (c : Char) (rest : Text) : ofNat n ≠ '0' :: c :: rest := by
  induction n using Nat.strongRecOn generalizing c rest with
  | ind n ih =>
      rw [ofNat, Nat.toDigits_eq_if (by decide)]
      split
      · simp
      next hmore =>
        intro heq
        have hquotient : n / 10 < n := Nat.div_lt_self (by omega) (by decide)
        cases hfront : Nat.toDigits 10 (n / 10) with
        | nil => exact Nat.toDigits_ne_nil hfront
        | cons first front =>
            rw [hfront, List.cons_append, List.cons.injEq] at heq
            obtain ⟨hfirst, _⟩ := heq
            cases front with
            | nil =>
                have hvalue : Nat.ofDigitChars 10 ['0'] 0 = n / 10 := by
                  rw [← hfirst, ← hfront, Nat.ofDigitChars_ten_toDigits]
                have hzero : Nat.ofDigitChars 10 ['0'] 0 = 0 := by decide
                omega
            | cons second front =>
                rw [hfirst] at hfront
                exact ih _ hquotient second front hfront

theorem writesInt_ofInt (n : Int) : (ofInt n).WritesInt n := by
  unfold ofInt
  split
  next hneg =>
    obtain ⟨m, rfl⟩ : ∃ m : Nat, n = -m := ⟨n.natAbs, by omega⟩
    rw [Int.natAbs_neg, Int.natAbs_natCast]
    exact .minus (writesNat_ofNat m)
  next hnonneg =>
    obtain ⟨m, rfl⟩ := Int.eq_ofNat_of_zero_le (Int.not_lt.mp hnonneg)
    rw [Int.natAbs_natCast]
    exact .unsigned (writesNat_ofNat m)

end FieldRules.Text
