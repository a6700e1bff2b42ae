import FieldRules.Proofs.Text.Quoting
import Mathlib.Algebra.Ring.Nat

/-!
# Line breaks in texts

How many characters of a text break the line.  A quoted text has none whatever it
quotes, since a character is quoted as itself only if it is printable, and a number
has none either.  Texts that are written one below the other have one break each
besides those inside of them.
-/

namespace FieldRules.Text

/-- Line feed, vertical tab, form feed, carriage return, next line, and the separators of lines and
of paragraphs. -/
def lineBreaks : List Char :=
  ['\n', '\x0b', '\x0c', '\r', '\u0085', '\u2028', '\u2029']

def isLineBreak (c : Char) : Bool := lineBreaks.contains c

def breaks (t : Text) : Nat := t.countP isLineBreak

@[simp] theorem breaks_nil : breaks [] = 0 := rfl

@[simp] theorem breaks_append (s t : Text) : breaks (s ++ t) = breaks s + breaks t :=
  List.countP_append

@[simp] theorem breaks_cons (c : Char) (t : Text) :
    breaks (c :: t) = breaks t + if isLineBreak c then 1 else 0 :=
  List.countP_cons

theorem breaks_eq_zero_iff {t : Text} : breaks t = 0 ↔ ∀ c ∈ t, isLineBreak c = false := by
  simp [breaks, List.countP_eq_zero]

theorem breaks_flatMap {α : Type} (list : List α) (inside : α → Text) :
    breaks (list.flatMap inside) = (list.map fun value => breaks (inside value)).sum := by
  induction list with
  | nil => rfl
  | cons first rest ih => simp [ih]

/-! ## Numbers and quoted texts -/

theorem isLineBreak_digitChar : ∀ n < 16, isLineBreak (Nat.digitChar n) = false := by
  decide

theorem breaks_toDigits {base : Nat} (hbase : 1 < base) (hsmall : base ≤ 16) (n : Nat) :
    breaks (Nat.toDigits base n) = 0 := by
  induction n using Nat.strongRecOn with
  | ind n ih =>
      rw [Nat.toDigits_eq_if hbase]
      split
      · next hlast => simp [isLineBreak_digitChar n (by omega)]
      · next hmore =>
          have hquotient : n / base < n := Nat.div_lt_self (by omega) hbase
          have hremainder : n % base < 16 := by
            have hlt := Nat.mod_lt n (Nat.zero_lt_of_lt hbase)
            omega
          simp [ih _ hquotient, isLineBreak_digitChar _ hremainder]

@[simp] theorem breaks_ofNat (n : Nat) : breaks (ofNat n) = 0 :=
  breaks_toDigits (by decide) (by decide) n

theorem not_printable_of_isLineBreak {c : Char} (hbreak : isLineBreak c = true) :
    isPrintable c = false := by
  have hall : lineBreaks.all (fun d => !isPrintable d) = true := by decide +kernel
  have hmem : c ∈ lineBreaks := by simpa [isLineBreak] using hbreak
  simpa using List.all_eq_true.mp hall c hmem

theorem breaks_quoteChar (c : Char) : breaks (quoteChar c) = 0 := by
  unfold quoteChar
  split_ifs with hnull htab hreturn hline hself hplain
  · decide
  · decide
  · decide
  · decide
  · rw [Bool.or_eq_true, decide_eq_true_iff, decide_eq_true_iff] at hself
    rcases hself with rfl | rfl <;> decide
  · have hbreak : isLineBreak c = false := by
      rw [← Bool.not_eq_true]
      intro hbreak
      simp [not_printable_of_isLineBreak hbreak] at hplain
    simp [hbreak]
  · have hfront : breaks ['\\', 'u', '\x7b'] = 0 := by decide
    have hback : breaks ['\x7d'] = 0 := by decide
    rw [escapeCodePoint, breaks_append, breaks_append, hfront, hback,
      breaks_toDigits (by decide) (by decide)]

@[simp] theorem breaks_quoted (t : Text) : breaks (quoted t) = 0 := by
  have hquote : breaks ['"'] = 0 := by decide
  have hinside : breaks (t.flatMap quoteChar) = 0 := by
    rw [breaks_eq_zero_iff]
    intro c hc
    obtain ⟨d, _, hd⟩ := List.mem_flatMap.mp hc
    exact breaks_eq_zero_iff.mp (breaks_quoteChar d) c hd
  rw [quoted, breaks_append, breaks_append, hquote, hinside]

end FieldRules.Text
