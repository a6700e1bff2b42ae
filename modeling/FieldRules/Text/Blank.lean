import FieldRules.Text.Basic
import FieldRules.Text.Ranges

/-!
# White space and trimming

Blank characters are the 25 code points of the Unicode property White_Space.  The zero width
space and the byte order mark are not among them.
-/

namespace FieldRules.Text

/-- Code points with the property White_Space. -/
def blankRanges : List (Nat × Nat) :=
  [(0x0009, 0x000D), (0x0020, 0x0020), (0x0085, 0x0085), (0x00A0, 0x00A0), (0x1680, 0x1680),
   (0x2000, 0x200A), (0x2028, 0x2029), (0x202F, 0x202F), (0x205F, 0x205F), (0x3000, 0x3000)]

def isBlank (c : Char) : Bool := inRanges blankRanges c.toNat

def trimLeft (t : Text) : Text := t.dropWhile isBlank

def trimRight (t : Text) : Text := (t.reverse.dropWhile isBlank).reverse

def trim (t : Text) : Text := trimRight (trimLeft t)

theorem length_trimLeft_le (t : Text) : (trimLeft t).length ≤ t.length :=
  (List.dropWhile_sublist isBlank).length_le

theorem length_trimRight_le (t : Text) : (trimRight t).length ≤ t.length := by
  simpa [trimRight] using (List.dropWhile_sublist (l := t.reverse) isBlank).length_le

theorem length_trim_le (t : Text) : (trim t).length ≤ t.length :=
  Nat.le_trans (length_trimRight_le _) (length_trimLeft_le t)

end FieldRules.Text
