import FieldRules.Annotation.Segment
import FieldRules.Text.Blank

/-!
# Reading annotations

An annotation is read segment by segment.  Blank segments are skipped.  A segment is cut at its
first `=`, and one that is named `each` is a clause, whose parameter is read as a list of
directives, with or without braces around it.
-/

namespace FieldRules

def Invocation.ofSegment (segment : Text) : Invocation :=
  match Text.splitOnce? '=' segment with
  | some (name, param) => ⟨name.trim, some param.trim⟩
  | none => ⟨segment.trim, none⟩

namespace Text

/-- The trimmed text without the pair of braces at its ends, trimmed again, if it has one. -/
def stripBraces (t : Text) : Text :=
  match t.trim with
  | '{' :: rest => if rest.getLast? = some '}' then trim rest.dropLast else '{' :: rest
  | other => other

theorem length_stripBraces_le (t : Text) : t.stripBraces.length ≤ t.length := by
  have htrim := length_trim_le t
  unfold stripBraces
  split
  · next rest heq =>
    rw [heq] at htrim
    split
    · have hinner := length_trim_le rest.dropLast
      simp only [List.length_dropLast, List.length_cons] at *
      omega
    · exact htrim
  · exact htrim

end Text

namespace Invocation

/-- The text that an each-clause reads as its directives.  A clause without `=` has none. -/
def eachBody (invocation : Invocation) : Text :=
  match invocation.param with
  | none => []
  | some param => param.stripBraces

theorem length_eachBody_ofSegment_lt {segment : Text} (h : segment ≠ []) :
    (ofSegment segment).eachBody.length < segment.length := by
  unfold ofSegment
  split
  · next name param heq =>
    have hparts := Text.splitOnce?_length heq
    have hstrip := Text.length_stripBraces_le (Text.trim param)
    have htrim := Text.length_trim_le param
    simp only [eachBody]
    omega
  · simp only [eachBody, List.length_nil]
    exact List.length_pos_iff.2 h

end Invocation

namespace Directive

mutual

def parseList (source : Text) : Except GrammarError (List Directive) :=
  match h : source.segments with
  | .error fault => .error fault
  | .ok segments =>
    parseSegments source.length segments fun _ hmem => Text.length_le_of_mem_segments h hmem
termination_by (source.length, 1, 0)

/-- Reads the directives of segments, none of which is longer than the given bound. -/
def parseSegments (bound : Nat) (segments : List Text)
    (hbound : ∀ segment ∈ segments, segment.length ≤ bound) :
    Except GrammarError (List Directive) :=
  match segments, hbound with
  | [], _ => .ok []
  | raw :: rest, hbound =>
    let segment := raw.trim
    if hblank : segment = [] then
      parseSegments bound rest fun other hother => hbound other (List.mem_cons_of_mem _ hother)
    else
      let invocation := Invocation.ofSegment segment
      have _hbody : invocation.eachBody.length < bound :=
        Nat.lt_of_lt_of_le (Invocation.length_eachBody_ofSegment_lt hblank)
          (Nat.le_trans (Text.length_trim_le raw) (hbound raw List.mem_cons_self))
      let first : Except GrammarError Directive :=
        if invocation.name = RuleName.each then
          match parseList invocation.eachBody with
          | .error fault => .error fault
          | .ok body => .ok (.each body)
        else .ok (.invoke invocation)
      match first with
      | .error fault => .error fault
      | .ok directive =>
        match parseSegments bound rest
            fun other hother => hbound other (List.mem_cons_of_mem _ hother) with
        | .error fault => .error fault
        | .ok directives => .ok (directive :: directives)
termination_by (bound, 0, segments.length)

end

def ofSegment (read : Text → Except GrammarError (List Directive)) (segment : Text) :
    Except GrammarError Directive :=
  let invocation := Invocation.ofSegment segment
  if invocation.name = RuleName.each then
    match read invocation.eachBody with
    | .error fault => .error fault
    | .ok body => .ok (.each body)
  else .ok (.invoke invocation)

def ofSegments (read : Text → Except GrammarError (List Directive)) :
    List Text → Except GrammarError (List Directive)
  | [] => .ok []
  | raw :: rest =>
    if raw.trim = [] then ofSegments read rest
    else
      match ofSegment read raw.trim with
      | .error fault => .error fault
      | .ok directive =>
        match ofSegments read rest with
        | .error fault => .error fault
        | .ok directives => .ok (directive :: directives)

theorem parseSegments_eq_ofSegments (bound : Nat) (segments : List Text)
    (hbound : ∀ segment ∈ segments, segment.length ≤ bound) :
    parseSegments bound segments hbound = ofSegments parseList segments := by
  induction segments with
  | nil => simp [parseSegments, ofSegments]
  | cons raw rest ih =>
    rw [parseSegments, ofSegments]
    simp only [ih, ofSegment]
    split <;> rfl

/-- Reading a text is cutting it and reading the segments, clause bodies in the same way. -/
theorem parseList_eq_ofSegments (source : Text) :
    parseList source =
      match source.segments with
      | .error fault => .error fault
      | .ok segments => ofSegments parseList segments := by
  rw [parseList]
  split <;> simp_all [parseSegments_eq_ofSegments]

end Directive

def Annotation.parse (source : Text) : Except GrammarError Annotation :=
  match Directive.parseList source with
  | .error fault => .error fault
  | .ok directives => .ok ⟨directives⟩

end FieldRules
