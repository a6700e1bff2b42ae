import FieldRules.Proofs.Text.Trimming
import FieldRules.Text.Quoted

/-!
# Quoted texts can be told apart

The quoted form of a character is never the beginning of that of another one, and
never begins with the closing quote.  So a quoted text tells which text was quoted,
whatever comes behind it.
-/

namespace FieldRules.Text

/-! ## Hexadecimal digits -/

theorem hexDigit_inj :
    ∀ m < 16, ∀ n < 16, Nat.digitChar m = Nat.digitChar n → m = n := by
  decide

theorem hexDigit_ne_brace : ∀ n < 16, Nat.digitChar n ≠ '}' := by
  decide

theorem brace_not_mem_hexDigits (n : Nat) : '}' ∉ Nat.toDigits 16 n := by
  induction n using Nat.strongRecOn with
  | ind n ih =>
      rw [Nat.toDigits_eq_if (by decide)]
      split
      · next hsmall =>
          rw [List.mem_singleton]
          exact (hexDigit_ne_brace n hsmall).symm
      · next hlarge =>
          rw [List.mem_append, List.mem_singleton, not_or]
          exact ⟨ih (n / 16) (by omega), (hexDigit_ne_brace (n % 16) (by omega)).symm⟩

theorem hexDigits_injective : Function.Injective (Nat.toDigits 16) := by
  intro m
  induction m using Nat.strongRecOn with
  | ind m ih =>
      intro n heq
      have hlonger (k : Nat) (first last : Char) : [first] ≠ Nat.toDigits 16 k ++ [last] := by
        intro hsame
        have hwhole : [] ++ [first] = Nat.toDigits 16 k ++ [last] := hsame
        exact Nat.toDigits_ne_nil (List.append_inj' hwhole rfl).1.symm
      have hother : Nat.toDigits 16 n = _ := Nat.toDigits_eq_if (by decide)
      rw [Nat.toDigits_eq_if (by decide), hother] at heq
      split at heq
      · next hm =>
          split at heq
          · next hn => exact hexDigit_inj m hm n hn (List.singleton_inj.mp heq)
          · exact absurd heq (hlonger _ _ _)
      · next hm =>
          split at heq
          · exact absurd heq.symm (hlonger _ _ _)
          · next hn =>
              obtain ⟨hfront, hlast⟩ := List.append_inj' heq rfl
              have hquotient : m / 16 = n / 16 := ih (m / 16) (by omega) hfront
              have hremainder : m % 16 = n % 16 :=
                hexDigit_inj _ (by omega) _ (by omega) (List.singleton_inj.mp hlast)
              omega

/-! ## Quoted characters -/

/-- The character that is meant by a letter behind the backslash. -/
def unescapeLetter : Char → Char
  | '0' => '\x00'
  | 't' => '\t'
  | 'r' => '\r'
  | 'n' => '\n'
  | c => c

/-- The ways in which a character is quoted. -/
inductive QuotedAs : Char → Text → Prop where
  | letter (c : Char) (hletter : c ≠ 'u') : QuotedAs (unescapeLetter c) ['\\', c]
  | plain {c : Char} (hbackslash : c ≠ '\\') (hquote : c ≠ '"') : QuotedAs c [c]
  | codePoint (c : Char) :
      QuotedAs c ('\\' :: 'u' :: '{' :: (Nat.toDigits 16 c.toNat ++ ['}']))

theorem quotedAs_quoteChar (c : Char) : QuotedAs c (quoteChar c) := by
  unfold quoteChar
  split_ifs with hnull htab hreturn hline hself hplain
  · rw [hnull]
    exact .letter '0' (by decide)
  · rw [htab]
    exact .letter 't' (by decide)
  · rw [hreturn]
    exact .letter 'r' (by decide)
  · rw [hline]
    exact .letter 'n' (by decide)
  · rw [Bool.or_eq_true, decide_eq_true_iff, decide_eq_true_iff] at hself
    rcases hself with rfl | rfl
    · exact .letter '\\' (by decide)
    · exact .letter '"' (by decide)
  · rw [Bool.or_eq_true, decide_eq_true_iff, decide_eq_true_iff, not_or] at hself
    exact .plain hself.1 hself.2
  · exact .codePoint c

theorem QuotedAs.append_inj
    {c d : Char} {s t left right : Text} (hc : QuotedAs c s) (hd : QuotedAs d t)
    (heq : s ++ left = t ++ right) : c = d ∧ left = right := by
  cases hc with
  | letter a ha =>
      cases hd with
      | letter b hb =>
          simp only [List.cons_append, List.nil_append, List.cons.injEq] at heq
          obtain ⟨-, rfl, hrest⟩ := heq
          exact ⟨rfl, hrest⟩
      | plain hbackslash _ => exact absurd (List.cons.inj heq).1.symm hbackslash
      | codePoint => exact absurd (List.cons.inj (List.cons.inj heq).2).1 ha
  | plain hbackslash _ =>
      cases hd with
      | letter b hb => exact absurd (List.cons.inj heq).1 hbackslash
      | plain _ _ => exact List.cons.inj heq
      | codePoint => exact absurd (List.cons.inj heq).1 hbackslash
  | codePoint =>
      cases hd with
      | letter b hb => exact absurd (List.cons.inj (List.cons.inj heq).2).1.symm hb
      | plain hbackslash _ => exact absurd (List.cons.inj heq).1.symm hbackslash
      | codePoint =>
          simp only [List.cons_append, List.append_assoc, List.nil_append, List.cons.injEq,
            true_and] at heq
          obtain ⟨hdigits, hrest⟩ :=
            mark_append_inj (brace_not_mem_hexDigits _) (brace_not_mem_hexDigits _) heq
          exact ⟨Char.toNat_inj.mp (hexDigits_injective hdigits), hrest⟩

theorem QuotedAs.not_closing
    {c : Char} {s left right : Text} (hc : QuotedAs c s) : s ++ left ≠ '"' :: right := by
  intro heq
  cases hc with
  | letter a ha => exact absurd (List.cons.inj heq).1 (by decide)
  | plain _ hquote => exact hquote (List.cons.inj heq).1
  | codePoint => exact absurd (List.cons.inj heq).1 (by decide)

/-! ## Quoted texts -/

/-- A quoted text ends where the quotes close, and tells what it quotes. -/
theorem quoted_append_inj
    {s t left right : Text} (heq : quoted s ++ left = quoted t ++ right) :
    s = t ∧ left = right := by
  simp only [quoted, List.append_assoc, List.cons_append, List.nil_append, List.cons.injEq,
    true_and] at heq
  induction s generalizing t with
  | nil =>
      cases t with
      | nil => exact ⟨rfl, (List.cons.inj heq).2⟩
      | cons d t =>
          rw [List.flatMap_cons, List.append_assoc] at heq
          exact absurd heq.symm (quotedAs_quoteChar d).not_closing
  | cons c s ih =>
      rw [List.flatMap_cons, List.append_assoc] at heq
      cases t with
      | nil => exact absurd heq (quotedAs_quoteChar c).not_closing
      | cons d t =>
          rw [List.flatMap_cons, List.append_assoc] at heq
          obtain ⟨rfl, hrest⟩ := (quotedAs_quoteChar c).append_inj (quotedAs_quoteChar d) heq
          obtain ⟨rfl, htail⟩ := ih hrest
          exact ⟨rfl, htail⟩

end FieldRules.Text
