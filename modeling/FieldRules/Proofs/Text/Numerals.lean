import FieldRules.Text.Numeral

/-!
# What integer numerals stand for

A numeral is read digit by digit, and given up as soon as it leads out of the range.
What it stands for has nothing to do with the range: it is the number with these
decimal digits, under the sign in front of them.  Digits only make a number greater,
so a numeral is given up exactly if its number is out of the range.
-/

namespace FieldRules.Text

/-- The text consists of decimal digits, at least one, and they are those of the number.  There may
be zeros in front of them. -/
structure WritesNat (t : Text) (n : Nat) : Prop where
  ne_nil : t ≠ []
  digits : ∀ c ∈ t, c.isDigit
  value : n = Nat.ofDigitChars 10 t 0

/-- The text writes the integer with a sign, or without one if it is not negative. -/
inductive WritesInt : Text → Int → Prop where
  | unsigned {t : Text} {n : Nat} (hdigits : t.WritesNat n) : WritesInt t n
  | plus {t : Text} {n : Nat} (hdigits : t.WritesNat n) : WritesInt ('+' :: t) n
  | minus {t : Text} {n : Nat} (hdigits : t.WritesNat n) : WritesInt ('-' :: t) (-n)

/-- The text is a numeral of a signed 64-bit integer. -/
def WritesInt64 (t : Text) (n : Int) : Prop :=
  WritesInt t n ∧ minInt64 ≤ n ∧ n ≤ maxInt64

/-! ## Digits -/

theorem isDigit_iff {c : Char} : c.isDigit ↔ '0' ≤ c ∧ c ≤ '9' := by
  rw [Char.isDigit, Bool.and_eq_true, decide_eq_true_eq, decide_eq_true_eq]
  rfl

theorem digit?_of_isDigit {c : Char} (h : c.isDigit) : digit? c = some (c.toNat - '0'.toNat) := by
  rw [digit?, if_pos (isDigit_iff.mp h)]

theorem digit?_of_not_isDigit {c : Char} (h : ¬c.isDigit) : digit? c = none := by
  rw [digit?, if_neg (mt isDigit_iff.mpr h)]

/-- The digits of the text continue a number with the given value to one with another. -/
structure DigitsFrom (value : Nat) (t : Text) (n : Nat) : Prop where
  digits : ∀ c ∈ t, c.isDigit
  value_eq : n = Nat.ofDigitChars 10 t value

theorem digitsFrom_nil_iff {value n : Nat} : DigitsFrom value [] n ↔ n = value := by
  constructor
  · intro h
    exact h.value_eq
  · intro h
    exact ⟨by simp, h⟩

theorem digitsFrom_cons_iff {value n : Nat} {c : Char} {rest : Text} :
    DigitsFrom value (c :: rest) n ↔
      ∃ digit, digit? c = some digit ∧ DigitsFrom (value * 10 + digit) rest n := by
  constructor
  · intro h
    obtain ⟨hc, hrest⟩ := List.forall_mem_cons.mp h.digits
    refine ⟨_, digit?_of_isDigit hc, hrest, ?_⟩
    rw [h.value_eq, Nat.ofDigitChars_cons, Nat.mul_comm]
  · intro h
    obtain ⟨digit, hdigit, hdigits⟩ := h
    by_cases hc : c.isDigit
    · rw [digit?_of_isDigit hc, Option.some.injEq] at hdigit
      refine ⟨List.forall_mem_cons.mpr ⟨hc, hdigits.digits⟩, ?_⟩
      rw [hdigits.value_eq, Nat.ofDigitChars_cons, Nat.mul_comm, hdigit]
    · rw [digit?_of_not_isDigit hc] at hdigit
      contradiction

theorem DigitsFrom.le {value n : Nat} {t : Text} (h : DigitsFrom value t n) : value ≤ n := by
  induction t generalizing value with
  | nil => exact Nat.le_of_eq (digitsFrom_nil_iff.mp h).symm
  | cons c rest ih =>
      obtain ⟨digit, _, hrest⟩ := digitsFrom_cons_iff.mp h
      have hle := ih hrest
      omega

theorem writesNat_iff {t : Text} {n : Nat} :
    t.WritesNat n ↔ t ≠ [] ∧ DigitsFrom 0 t n := by
  constructor
  · intro h
    exact ⟨h.ne_nil, h.digits, h.value⟩
  · intro h
    obtain ⟨hne, hdigits⟩ := h
    exact ⟨hne, hdigits.digits, hdigits.value_eq⟩

/-! ## Reading -/

theorem readUp_eq_ok_iff {value : Nat} {t : Text} {n : Int} (hvalue : (value : Int) ≤ maxInt64) :
    readUp value t = .ok n ↔ ∃ m : Nat, DigitsFrom value t m ∧ n = m ∧ n ≤ maxInt64 := by
  induction t generalizing value with
  | nil =>
      simp only [readUp, digitsFrom_nil_iff, Except.ok.injEq]
      constructor
      · intro h
        exact ⟨value, rfl, h.symm, by omega⟩
      · intro h
        obtain ⟨m, hm, hn, _⟩ := h
        omega
  | cons c rest ih =>
      rw [readUp]
      cases hdigit : digit? c with
      | none => simp [digitsFrom_cons_iff, hdigit]
      | some digit =>
          simp only [digitsFrom_cons_iff, hdigit, Option.some.injEq, exists_eq_left']
          split
          next hroom =>
            rw [← ih (by push_cast; exact hroom)]
            push_cast
            rfl
          next hfull =>
            simp only [reduceCtorEq, false_iff]
            intro h
            obtain ⟨m, hm, hn, hmax⟩ := h
            have hle := hm.le
            omega

theorem readDown_eq_ok_iff {value : Nat} {t : Text} {n : Int} (hvalue : minInt64 ≤ -(value : Int)) :
    readDown (-value) t = .ok n ↔ ∃ m : Nat, DigitsFrom value t m ∧ n = -m ∧ minInt64 ≤ n := by
  induction t generalizing value with
  | nil =>
      simp only [readDown, digitsFrom_nil_iff, Except.ok.injEq]
      constructor
      · intro h
        exact ⟨value, rfl, h.symm, by omega⟩
      · intro h
        obtain ⟨m, hm, hn, _⟩ := h
        omega
  | cons c rest ih =>
      rw [readDown]
      cases hdigit : digit? c with
      | none => simp [digitsFrom_cons_iff, hdigit]
      | some digit =>
          have hnext : -(value : Int) * 10 - digit = -((value * 10 + digit : Nat) : Int) := by
            omega
          simp only [digitsFrom_cons_iff, hdigit, Option.some.injEq, exists_eq_left', hnext]
          split
          next hroom => rw [← ih hroom]
          next hfull =>
            simp only [reduceCtorEq, false_iff]
            intro h
            obtain ⟨m, hm, hn, hmin⟩ := h
            have hle := hm.le
            omega

/-! ## Signs -/

theorem not_writesNat_of_sign {sign : Char} {rest : Text} {n : Nat} (hsign : digit? sign = none) :
    ¬WritesNat (sign :: rest) n := by
  intro h
  obtain ⟨digit, hdigit, _⟩ := digitsFrom_cons_iff.mp (writesNat_iff.mp h).2
  rw [hsign] at hdigit
  contradiction

theorem writesInt_plus_iff {rest : Text} {n : Int} :
    WritesInt ('+' :: rest) n ↔ ∃ m : Nat, rest.WritesNat m ∧ n = m := by
  constructor
  · intro h
    cases h with
    | unsigned hdigits => exact absurd hdigits (not_writesNat_of_sign (by decide))
    | plus hdigits => exact ⟨_, hdigits, rfl⟩
  · intro h
    obtain ⟨m, hdigits, rfl⟩ := h
    exact .plus hdigits

theorem writesInt_minus_iff {rest : Text} {n : Int} :
    WritesInt ('-' :: rest) n ↔ ∃ m : Nat, rest.WritesNat m ∧ n = -m := by
  constructor
  · intro h
    cases h with
    | unsigned hdigits => exact absurd hdigits (not_writesNat_of_sign (by decide))
    | minus hdigits => exact ⟨_, hdigits, rfl⟩
  · intro h
    obtain ⟨m, hdigits, rfl⟩ := h
    exact .minus hdigits

theorem writesInt_unsigned_iff
    {t : Text} {n : Int} (hplus : ∀ rest, t ≠ '+' :: rest) (hminus : ∀ rest, t ≠ '-' :: rest) :
    WritesInt t n ↔ ∃ m : Nat, t.WritesNat m ∧ n = m := by
  constructor
  · intro h
    cases h with
    | unsigned hdigits => exact ⟨_, hdigits, rfl⟩
    | plus _ => exact absurd rfl (hplus _)
    | minus _ => exact absurd rfl (hminus _)
  · intro h
    obtain ⟨m, hdigits, rfl⟩ := h
    exact .unsigned hdigits

theorem readUp_zero_eq_ok_iff {t : Text} {n : Int} (hne : t ≠ []) :
    readUp 0 t = .ok n ↔ (∃ m : Nat, t.WritesNat m ∧ n = m) ∧ minInt64 ≤ n ∧ n ≤ maxInt64 := by
  have hzero : ((0 : Nat) : Int) ≤ maxInt64 := by decide
  have hread := readUp_eq_ok_iff (t := t) (n := n) hzero
  have hmin : minInt64 ≤ 0 := by decide
  simp only [writesNat_iff, hne, ne_eq, not_false_eq_true, true_and]
  rw [Int.natCast_zero] at hread
  rw [hread]
  constructor
  · intro h
    obtain ⟨m, hm, hn, hmax⟩ := h
    exact ⟨⟨m, hm, hn⟩, by omega, hmax⟩
  · intro h
    obtain ⟨⟨m, hm, hn⟩, _, hmax⟩ := h
    exact ⟨m, hm, hn, hmax⟩

theorem readDown_zero_eq_ok_iff {t : Text} {n : Int} (hne : t ≠ []) :
    readDown 0 t = .ok n ↔ (∃ m : Nat, t.WritesNat m ∧ n = -m) ∧ minInt64 ≤ n ∧ n ≤ maxInt64 := by
  have hzero : minInt64 ≤ -((0 : Nat) : Int) := by decide
  have hread := readDown_eq_ok_iff (t := t) (n := n) hzero
  have hmax : 0 ≤ maxInt64 := by decide
  simp only [writesNat_iff, hne, ne_eq, not_false_eq_true, true_and]
  rw [Int.natCast_zero, Int.neg_zero] at hread
  rw [hread]
  constructor
  · intro h
    obtain ⟨m, hm, hn, hmin⟩ := h
    exact ⟨⟨m, hm, hn⟩, hmin, by omega⟩
  · intro h
    obtain ⟨⟨m, hm, hn⟩, hmin, _⟩ := h
    exact ⟨m, hm, hn, hmin⟩

theorem not_writesNat_nil {n : Nat} : ¬WritesNat [] n := by
  simp [writesNat_iff]

/-- A text is read as an integer exactly if it is a numeral of it and the integer is in the range. -/
theorem readInt64_eq_ok_iff {t : Text} {n : Int} :
    readInt64 t = .ok n ↔ WritesInt64 t n := by
  unfold readInt64 WritesInt64
  split
  next => simp [writesInt_unsigned_iff, not_writesNat_nil]
  next => simp [writesInt_plus_iff, not_writesNat_nil]
  next => simp [writesInt_minus_iff, not_writesNat_nil]
  next rest hne => rw [writesInt_plus_iff, readUp_zero_eq_ok_iff hne]
  next rest hne => rw [writesInt_minus_iff, readDown_zero_eq_ok_iff hne]
  next hne _ _ hplus hminus =>
    rw [writesInt_unsigned_iff hplus hminus, readUp_zero_eq_ok_iff hne]

/-- A text that is refused is no numeral of any integer in the range. -/
theorem exists_readInt64_error_iff {t : Text} :
    (∃ reason, readInt64 t = .error reason) ↔ ∀ n, ¬WritesInt64 t n := by
  simp only [← readInt64_eq_ok_iff]
  cases readInt64 t with
  | ok n => simp
  | error reason => simp

end FieldRules.Text
