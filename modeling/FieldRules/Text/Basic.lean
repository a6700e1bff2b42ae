/-!
# Texts

A text is the list of its characters, so that every function on texts is a function on lists
and every statement about them is proved by induction on lists.
-/

namespace FieldRules

abbrev Text := List Char

namespace Text

/-- The number of bytes of the text in UTF-8. -/
def byteLength : Text → Nat
  | [] => 0
  | c :: rest => c.utf8Size + byteLength rest

def splitOnce? (mark : Char) : Text → Option (Text × Text)
  | [] => none
  | c :: rest =>
    if c = mark then some ([], rest)
    else (splitOnce? mark rest).map fun parts => (c :: parts.1, parts.2)

def dropStart? : Text → Text → Option Text
  | [], t => some t
  | _ :: _, [] => none
  | s :: start, c :: rest => if s = c then dropStart? start rest else none

def dropEnd? (ending t : Text) : Option Text :=
  (dropStart? ending.reverse t.reverse).map List.reverse

def ofNat (n : Nat) : Text := Nat.toDigits 10 n

def ofInt (n : Int) : Text :=
  if n < 0 then '-' :: ofNat n.natAbs else ofNat n.natAbs

/-- Texts in the order of their code points, which is also that of their bytes in UTF-8: the first
difference decides, and a text comes before its continuations. -/
protected def compare : Text → Text → Ordering
  | [], [] => .eq
  | [], _ :: _ => .lt
  | _ :: _, [] => .gt
  | a :: s, b :: t => (compare a.toNat b.toNat).then (Text.compare s t)

theorem splitOnce?_length {mark : Char} {t left right : Text}
    (h : splitOnce? mark t = some (left, right)) : left.length + right.length + 1 = t.length := by
  induction t generalizing left with
  | nil => simp [splitOnce?] at h
  | cons c rest ih =>
    unfold splitOnce? at h
    split at h
    · cases h; simp
    · obtain ⟨parts, hparts, hpair⟩ := Option.map_eq_some_iff.1 h
      have hlength : parts.1.length + right.length + 1 = rest.length :=
        ih (by rw [hparts]; cases hpair; rfl)
      cases hpair
      simp only [List.length_cons]
      omega

@[simp] theorem compare_eq_eq_iff {s t : Text} : Text.compare s t = .eq ↔ s = t := by
  induction s generalizing t with
  | nil => cases t <;> simp [Text.compare]
  | cons a s ih =>
    cases t with
    | nil => simp [Text.compare]
    | cons b t =>
      rw [Text.compare, Ordering.then_eq_eq, ih, Nat.compare_eq_eq, List.cons.injEq]
      exact and_congr_left fun _ => Char.toNat_inj

end Text
end FieldRules
