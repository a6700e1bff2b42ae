import FieldRules.Annotation.Basic
import FieldRules.Text.Quoted

/-!
# Segments

Cutting a text at the commas that stand outside all braces.  A text is cut only if its braces
balance: no closing brace comes before its opening one, and none stays open.
-/

namespace FieldRules

inductive GrammarError where
  | unclosedBraces (source : Text)
  | unopenedBraces (source : Text)
deriving Repr, DecidableEq

namespace GrammarError

def source : GrammarError → Text
  | unclosedBraces source => source
  | unopenedBraces source => source

def message : GrammarError → Text
  | unclosedBraces source => "unclosed braces in ".toList ++ source.quoted
  | unopenedBraces source => "unopened braces in ".toList ++ source.quoted

end GrammarError

namespace Text

def braceStep (c : Char) : Int :=
  if c = '{' then 1 else if c = '}' then -1 else 0

def braceDepth (depth : Int) : Text → Int
  | [] => depth
  | c :: rest => braceDepth (depth + braceStep c) rest

/-- Some closing brace of the text, which begins at the given depth, leads below depth zero. -/
def dipsBelow (depth : Int) : Text → Bool
  | [] => false
  | c :: rest => decide (depth + braceStep c < 0) || dipsBelow (depth + braceStep c) rest

/-- The parts between the commas at depth zero, of a text that begins at the given depth.  There
is always at least one part. -/
def cutCommas (depth : Int) : Text → List Text
  | [] => [[]]
  | c :: rest =>
    if c = ',' ∧ depth = 0 then [] :: cutCommas depth rest
    else
      match cutCommas (depth + braceStep c) rest with
      | [] => [[c]]
      | part :: parts => (c :: part) :: parts

/-- The segments of a text, or why its braces do not balance.  A closing brace without an opening
one is reported even if later braces make up for it. -/
def segments (t : Text) : Except GrammarError (List Text) :=
  if dipsBelow 0 t then .error (.unopenedBraces t)
  else if braceDepth 0 t > 0 then .error (.unclosedBraces t)
  else .ok (cutCommas 0 t)

theorem length_le_of_mem_cutCommas {depth : Int} {t part : Text} (h : part ∈ cutCommas depth t) :
    part.length ≤ t.length := by
  induction t generalizing depth part with
  | nil => simp_all [cutCommas]
  | cons c rest ih =>
    unfold cutCommas at h
    split at h
    · rcases List.mem_cons.1 h with rfl | hrest
      · simp
      · exact Nat.le_succ_of_le (ih hrest)
    · cases hcut : cutCommas (depth + braceStep c) rest with
      | nil => simp_all
      | cons first parts =>
        rw [hcut] at h
        rcases List.mem_cons.1 h with rfl | hparts
        · have hfirst : first.length ≤ rest.length :=
            ih (by rw [hcut]; exact List.mem_cons_self)
          simpa using hfirst
        · exact Nat.le_succ_of_le (ih (by rw [hcut]; exact List.mem_cons_of_mem _ hparts))

theorem length_le_of_mem_segments {t part : Text} {parts : List Text}
    (h : segments t = .ok parts) (hpart : part ∈ parts) : part.length ≤ t.length := by
  unfold segments at h
  split at h
  · cases h
  · split at h
    · cases h
    · cases h
      exact length_le_of_mem_cutCommas hpart

end Text
end FieldRules
