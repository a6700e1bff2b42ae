import FieldRules.Proofs.Annotation.Canonical
import FieldRules.Proofs.Annotation.Failures

/-!
# Annotations made of annotations

A comma joins two annotations, and the braces of a clause turn an annotation into a
directive.  What is made in this way is read part by part.  For a comma it is enough
that the first text can be cut, because a cut which has come back to depth zero goes
on as if nothing had been before.

The text in the braces of a clause may be anything.  One that closes the braces early
can still leave a text behind which is read, but that text has more than one segment
and gives more than one directive.
-/

namespace FieldRules

open Text

namespace Text

/-- The text in the braces of an each-clause. -/
def inEach (t : Text) : Text :=
  RuleName.each ++ ['=', '{'] ++ t ++ ['}']

theorem inEach_eq (t : Text) :
    inEach t = 'e' :: (['a', 'c', 'h', '=', '{'] ++ t ++ ['}']) :=
  rfl

/-! ## Segments of texts that are joined -/

/-- In front of a comma a text is cut as it is on its own. -/
theorem segments_append_comma_iff
    {t more : Text} {first parts : List Text} (hcut : t.segments = .ok first) :
    (t ++ ',' :: more).segments = .ok parts ↔
      ∃ second, more.segments = .ok second ∧ parts = first ++ second := by
  have hbalanced : t.Balanced := balanced_of_segments hcut
  obtain ⟨hfirst, hclosed, hjoin⟩ := segments_eq_ok_iff.mp hcut
  have hboth {second : List Text} (hmore : more.segments = .ok second) :
      (t ++ ',' :: more).segments = .ok (first ++ second) := by
    obtain ⟨hsecond, hmoreClosed, hmoreJoin⟩ := segments_eq_ok_iff.mp hmore
    apply segments_eq_ok_iff.mpr
    refine ⟨by simp [hfirst], ?_, ?_⟩
    · intro part hpart
      exact (List.mem_append.mp hpart).elim (hclosed part) (hmoreClosed part)
    · rw [intercalate_comma_append hfirst hsecond, hjoin, hmoreJoin]
  constructor
  · intro hparts
    have hmore : more.Balanced :=
      hbalanced.append_comma_iff.mp (balanced_of_segments hparts)
    have hsecond := segments_of_balanced hmore
    rw [hboth hsecond, Except.ok.injEq] at hparts
    exact ⟨_, hsecond, hparts.symm⟩
  · intro hsecond
    obtain ⟨second, hmore, hparts⟩ := hsecond
    rw [hparts]
    exact hboth hmore

theorem trim_ne_nil_of_starts
    {start : Char} {t part more : Text} (hstart : isBlank start = false) (hcomma : start ≠ ',')
    (hpart : start :: t = part ++ ',' :: more) : part.trim ≠ [] := by
  intro hnil
  cases part with
  | nil => exact hcomma (List.cons.inj hpart).1
  | cons c part =>
      have hmem : start ∈ c :: part := by
        rw [(List.cons.inj hpart).1]
        exact List.mem_cons_self
      exact (trim_eq_nil_iff.mp hnil).not_mem hstart hmem

theorem trim_ne_nil_of_ends
    {stop : Char} {t part more : Text} (hstop : isBlank stop = false) (hcomma : stop ≠ ',')
    (hpart : t ++ [stop] = more ++ ',' :: part) : part.trim ≠ [] := by
  intro hnil
  have hlast : (',' :: part).getLast? = some stop := by
    rw [← List.getLast?_append_cons more ',' part, ← hpart, List.getLast?_concat]
  cases part with
  | nil => exact hcomma (Option.some.inj hlast).symm
  | cons c part =>
      rw [List.getLast?_cons_cons] at hlast
      exact (trim_eq_nil_iff.mp hnil).not_mem hstop (List.mem_of_getLast? hlast)

end Text

namespace Directive

variable {read : Text → Except GrammarError (List Directive)}

/-! ## Directives of texts that are joined -/

theorem ofSegments_append_eq_ok_iff
    {segments others : List Text} {directives : List Directive} :
    ofSegments read (segments ++ others) = .ok directives ↔
      ∃ first second, ofSegments read segments = .ok first ∧
        ofSegments read others = .ok second ∧ directives = first ++ second := by
  induction segments generalizing directives with
  | nil => simp [ofSegments, eq_comm]
  | cons segment segments ih =>
      rw [List.cons_append]
      by_cases hblank : segment.Blank
      · rw [ofSegments_cons_blank hblank, ofSegments_cons_blank hblank, ih]
      · simp only [ofSegments_cons_eq_ok_iff hblank, ih]
        constructor
        · rintro ⟨directive, _, hsegment, ⟨first, second, hfirst, hsecond, rfl⟩, rfl⟩
          exact ⟨directive :: first, second, ⟨directive, first, hsegment, hfirst, rfl⟩,
            hsecond, rfl⟩
        · rintro ⟨_, second, ⟨directive, first, hsegment, hfirst, rfl⟩, hsecond, rfl⟩
          exact ⟨directive, first ++ second, hsegment, ⟨first, second, hfirst, hsecond, rfl⟩,
            rfl⟩

theorem parseList_append_comma_iff
    {t more : Text} {segments : List Text} {directives : List Directive}
    (hcut : t.segments = .ok segments) :
    parseList (t ++ ',' :: more) = .ok directives ↔
      ∃ first second, parseList t = .ok first ∧ parseList more = .ok second ∧
        directives = first ++ second := by
  simp only [parseList_eq_ok_iff, segments_append_comma_iff hcut, hcut]
  constructor
  · rintro ⟨_, ⟨others, hothers, rfl⟩, hread⟩
    obtain ⟨first, second, hfirst, hsecond, hdirectives⟩ := ofSegments_append_eq_ok_iff.mp hread
    exact ⟨first, second, ⟨segments, rfl, hfirst⟩, ⟨others, hothers, hsecond⟩, hdirectives⟩
  · rintro ⟨first, second, ⟨_, hsame, hfirst⟩, ⟨others, hothers, hsecond⟩, hdirectives⟩
    rw [← Except.ok.inj hsame] at hfirst
    exact ⟨segments ++ others, ⟨others, hothers, rfl⟩,
      ofSegments_append_eq_ok_iff.mpr ⟨first, second, hfirst, hsecond, hdirectives⟩⟩

/-! ## One segment -/

/-- Each segment that is not blank gives one directive. -/
theorem length_of_ofSegments
    {segments : List Text} {directives : List Directive}
    (hread : ofSegments read segments = .ok directives) :
    directives.length = segments.countP fun segment => segment.trim ≠ [] := by
  induction segments generalizing directives with
  | nil =>
      rw [ofSegments, Except.ok.injEq] at hread
      rw [← hread]
      rfl
  | cons segment segments ih =>
      by_cases hblank : segment.Blank
      · rw [ofSegments_cons_blank hblank] at hread
        rw [ih hread, List.countP_cons_of_neg (by simp [trim_eq_nil_iff.mpr hblank])]
      · obtain ⟨first, others, _, hothers, rfl⟩ := (ofSegments_cons_eq_ok_iff hblank).mp hread
        rw [List.length_cons, ih hothers,
          List.countP_cons_of_pos (by simpa [trim_eq_nil_iff] using hblank)]

/-- A text with neither a comma nor a blank at its ends is a single segment if it gives a single
directive. -/
theorem segments_of_parseList_singleton
    {start stop : Char} {inner : Text} {directive : Directive}
    (hstart : isBlank start = false) (hstartComma : start ≠ ',')
    (hstop : isBlank stop = false) (hstopComma : stop ≠ ',')
    (hread : parseList (start :: (inner ++ [stop])) = .ok [directive]) :
    Text.segments (start :: (inner ++ [stop])) = .ok [start :: (inner ++ [stop])] := by
  obtain ⟨parts, hcut, hparts⟩ := parseList_eq_ok_iff.mp hread
  obtain ⟨hne, _, hjoin⟩ := segments_eq_ok_iff.mp hcut
  have hcount := length_of_ofSegments hparts
  obtain ⟨first, rest, rfl⟩ := List.exists_cons_of_ne_nil hne
  by_cases hrest : rest = []
  · rw [hrest, List.intercalate_singleton] at hjoin
    rw [hcut, hrest, hjoin]
  · exfalso
    obtain ⟨init, last, hconcat⟩ := List.eq_nil_or_concat rest |>.resolve_left hrest
    have hfirst : first.trim ≠ [] := by
      rw [List.intercalate_cons_of_ne_nil hrest, List.append_assoc, List.singleton_append] at hjoin
      exact trim_ne_nil_of_starts hstart hstartComma hjoin.symm
    have hlast : last.trim ≠ [] := by
      rw [hconcat, List.concat_eq_append, ← List.cons_append,
        intercalate_comma_append (by simp) (by simp), List.intercalate_singleton,
        ← List.cons_append] at hjoin
      exact trim_ne_nil_of_ends hstop hstopComma hjoin.symm
    rw [List.countP_cons_of_pos (by simpa using hfirst), List.length_singleton] at hcount
    have hnone : rest.countP (fun segment => segment.trim ≠ []) = 0 := by omega
    rw [List.countP_eq_zero] at hnone
    apply hnone last
    · simp [hconcat]
    · simpa using hlast

theorem parseList_of_segment
    {t : Text} {directive : Directive} (hcut : t.segments = .ok [t]) (hvisible : ¬t.Blank) :
    parseList t = .ok [directive] ↔ ofSegment parseList t = .ok directive := by
  rw [parseList_eq_ofSegments, hcut]
  simp only [ofSegments_cons_eq_ok_iff hvisible]
  simp [ofSegments]

/-! ## A text in the braces of a clause -/

theorem ofSegment_inEach_iff {t : Text} {body : List Directive} :
    ofSegment parseList t.inEach = .ok (.each body) ↔ parseList t = .ok body := by
  have hbraced : Braced ('{' :: (t ++ ['}'])) := ⟨t, rfl⟩
  have hread : Invocation.ofSegment t.inEach =
      ⟨RuleName.each, some ('{' :: (t ++ ['}']))⟩ := by
    apply Invocation.ofSegment_eq_each_iff.mpr
    refine ⟨RuleName.each, '{' :: (t ++ ['}']), by simp [inEach], ?_, ?_⟩
    · exact pads_iff_trim_eq.mpr (by decide)
    · exact pads_iff_trim_eq.mpr hbraced.trimmed.trim_eq
  rw [ofSegment_of_each hread, stripBraces_braces, ← parseList_trim_iff]
  cases parseList t.trim with
  | error fault => simp [Except.map]
  | ok directives => simp [Except.map]

/-- As a single clause, a text in braces is read as it is on its own. -/
theorem parseList_inEach_iff {t : Text} {body : List Directive} :
    parseList t.inEach = .ok [.each body] ↔ parseList t = .ok body := by
  have hvisible : ¬t.inEach.Blank := by
    intro hblank
    exact hblank.not_mem (c := '=') (by decide) (by simp [inEach])
  constructor
  · intro hread
    have hcut : t.inEach.segments = .ok [t.inEach] := by
      rw [inEach_eq] at hread ⊢
      apply segments_of_parseList_singleton
        (by decide) (by decide) (by decide) (by decide) hread
    exact ofSegment_inEach_iff.mp ((parseList_of_segment hcut hvisible).mp hread)
  · intro hread
    have hclosed : t.inEach.Closed := by
      have hbraces := (balanced_of_parseList hread).closed_braces
      rw [← closed_plain_append plain_each_mark] at hbraces
      simpa [inEach] using hbraces
    have hcut : t.inEach.segments = .ok [t.inEach] := by
      apply segments_eq_ok_iff.mpr
      simp [hclosed]
    exact (parseList_of_segment hcut hvisible).mpr (ofSegment_inEach_iff.mpr hread)

end Directive

namespace Annotation

/-- Annotations that a comma joins are read one after the other, if the first can be cut.  A text in
the braces of a clause is read as the body of that clause. -/
theorem parse_joined_and_inEach :
    (∀ (t more : Text) (segments : List Text), t.segments = .ok segments →
      ∀ rules, parse (t ++ ',' :: more) = .ok rules ↔
        ∃ first second, parse t = .ok first ∧ parse more = .ok second ∧
          rules.directives = first.directives ++ second.directives) ∧
    ∀ (t : Text) (body : List Directive),
      parse t.inEach = .ok ⟨[.each body]⟩ ↔ parse t = .ok ⟨body⟩ := by
  simp only [parse_eq_ok_iff]
  constructor
  · intro t more segments hcut rules
    rw [Directive.parseList_append_comma_iff hcut]
    constructor
    · intro hparts
      obtain ⟨first, second, hfirst, hsecond, hdirectives⟩ := hparts
      exact ⟨⟨first⟩, ⟨second⟩, hfirst, hsecond, hdirectives⟩
    · intro hparts
      obtain ⟨first, second, hfirst, hsecond, hdirectives⟩ := hparts
      exact ⟨first.directives, second.directives, hfirst, hsecond, hdirectives⟩
  · intro t body
    exact Directive.parseList_inEach_iff

/-- Two texts with clauses, and a text that closes the clause around it early. -/
theorem parse_joined_and_inEach_nested :
    let t : Text := " {a=b}, each={ x={1,2} }".toList
    let more : Text := "each = y = z=w ,".toList
    let early : Text := "\x7d,\x7b".toList
    let rules : List Directive := [.invoke ⟨"\x7ba".toList, some "b\x7d".toList⟩,
      .each [.invoke ⟨"x".toList, some "{1,2}".toList⟩],
      .each [.invoke ⟨"y".toList, some "z=w".toList⟩]]
    parse (t ++ ',' :: more) = .ok ⟨rules⟩ ∧
      parse (inEach (t ++ ',' :: more)) = .ok ⟨[.each rules]⟩ ∧
      parse early.inEach = .ok ⟨[.each [], .invoke ⟨"{}".toList, none⟩]⟩ ∧
      ∀ body, parse early.inEach ≠ .ok ⟨[.each body]⟩ := by
  intro t more early rules
  have hcut : t.segments = .ok [" {a=b}".toList, " each={ x={1,2} }".toList] := by
    rfl
  have hfirst : parse t = .ok ⟨[.invoke ⟨"\x7ba".toList, some "b\x7d".toList⟩,
      .each [.invoke ⟨"x".toList, some "{1,2}".toList⟩]]⟩ := by
    rw [parse_eq_ok_iff, ← Directive.iterate_readSegments 2]
    rfl
  have hsecond : parse more = .ok ⟨[.each [.invoke ⟨"y".toList, some "z=w".toList⟩]]⟩ := by
    rw [parse_eq_ok_iff, ← Directive.iterate_readSegments 2]
    rfl
  obtain ⟨hjoined, hclause⟩ := parse_joined_and_inEach
  have hboth : parse (t ++ ',' :: more) = .ok ⟨rules⟩ := by
    apply (hjoined t more _ hcut ⟨rules⟩).mpr
    exact ⟨_, _, hfirst, hsecond, rfl⟩
  have hearly : parse early = .error (.unopenedBraces early) := by
    rw [parse_eq_error_iff, ← Directive.iterate_readSegments 1]
    rfl
  refine ⟨hboth, (hclause _ _).mpr hboth, ?_, ?_⟩
  · rw [parse_eq_ok_iff, ← Directive.iterate_readSegments 2]
    rfl
  · intro body hread
    rw [hclause, hearly] at hread
    contradiction

end Annotation

end FieldRules
