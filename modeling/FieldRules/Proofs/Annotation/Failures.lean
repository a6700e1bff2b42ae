import FieldRules.Proofs.Annotation.Reading
import Mathlib.Data.List.Lex

/-!
# Where reading fails

An annotation whose own braces do not balance is refused as a whole.  In a balanced
one only the body of an each-clause can fail, and only in one way: the braces at
the ends of the parameter are taken off although they are not a pair.  The clause
that is reported is then the first such one, where clauses are ordered by their
places in the tree of segments.
-/

namespace FieldRules

open Text

/-! ## Clauses and their places -/

/-- The text has an each-clause with the given trimmed parameter at a place.  A place
is the list of the positions of segments that leads to the clause, so that clauses
begin in the order of their places, and none of them after those in its body. -/
inductive ClauseAt : Text → List Nat → Text → Prop where
  | here {segments : List Text} {position : Nat} {left right param : Text}
      (hclosed : ∀ segment ∈ segments, segment.Closed)
      (hsegment : segments[position]? = some (left ++ '=' :: right))
      (hname : left.Pads RuleName.each)
      (hparam : right.Pads param) :
      ClauseAt ([','].intercalate segments) [position] param
  | inBraces {t body param : Text} {position : Nat} {place : List Nat}
      (houter : ClauseAt t [position] ('{' :: (body ++ ['}'])))
      (hinner : ClauseAt body.trim place param) :
      ClauseAt t (position :: place) param
  | inBare {t outer param : Text} {position : Nat} {place : List Nat}
      (houter : ClauseAt t [position] outer)
      (hbare : ¬outer.Braced)
      (hinner : ClauseAt outer place param) :
      ClauseAt t (position :: place) param

/-- The parameter of the clause has braces at its ends that are not a pair. -/
structure BrokenAt (t : Text) (place : List Nat) (body : Text) : Prop where
  clause : ClauseAt t place ('{' :: (body ++ ['}']))
  early : body.ClosedEarly

structure FirstBrokenAt (t : Text) (place : List Nat) (body : Text) : Prop where
  broken : BrokenAt t place body
  first : ∀ other otherBody, BrokenAt t other otherBody →
    place = other ∨ List.Lex (· < ·) place other

/-! ## Clauses as the parser finds them -/

namespace Invocation

theorem ofSegment_eq_each_iff {segment param : Text} :
    ofSegment segment = ⟨RuleName.each, some param⟩ ↔
      ∃ left right : Text, segment = left ++ '=' :: right ∧
        left.Pads RuleName.each ∧ right.Pads param := by
  constructor
  · intro hsegment
    rcases segment_cases segment with hmark | ⟨left, right, hmark, rfl⟩
    · rw [ofSegment_of_not_mem hmark] at hsegment
      simp at hsegment
    · rw [ofSegment_append hmark, Invocation.mk.injEq, Option.some.injEq] at hsegment
      exact ⟨left, right, rfl, pads_iff_trim_eq.mpr hsegment.1,
        pads_iff_trim_eq.mpr hsegment.2⟩
  · rintro ⟨left, right, rfl, hname, hparam⟩
    have hmark : '=' ∉ left := hname.not_mem (by decide) (by decide)
    rw [ofSegment_append hmark, hname.trim_eq, hparam.trim_eq]

end Invocation

theorem not_clauseAt_nil {t param : Text} : ¬ClauseAt t [] param := by
  intro h
  cases h

/-- The clauses of a text are those of its segments and those in their bodies. -/
theorem clauseAt_cons_iff {t param : Text} {position : Nat} {place : List Nat} :
    ClauseAt t (position :: place) param ↔
      ∃ segments segment outer, t.segments = .ok segments ∧
        segments[position]? = some segment ∧
        Invocation.ofSegment segment = ⟨RuleName.each, some outer⟩ ∧
        (place = [] ∧ outer = param ∨ ClauseAt outer.stripBraces place param) := by
  have hhere {outer : Text} (h : ClauseAt t [position] outer) :
      ∃ segments segment, t.segments = .ok segments ∧
        segments[position]? = some segment ∧
        Invocation.ofSegment segment = ⟨RuleName.each, some outer⟩ := by
    cases h with
    | @here segments _ left right _ hclosed hsegment hname hparam =>
        have hne : segments ≠ [] := by
          rintro rfl
          simp at hsegment
        exact ⟨segments, _, segments_eq_ok_iff.mpr ⟨hne, hclosed, rfl⟩, hsegment,
          Invocation.ofSegment_eq_each_iff.mpr ⟨left, right, rfl, hname, hparam⟩⟩
    | inBraces _ hinner => exact absurd hinner not_clauseAt_nil
    | inBare _ _ hinner => exact absurd hinner not_clauseAt_nil
  constructor
  · intro h
    cases h with
    | here hclosed hsegment hname hparam =>
        obtain ⟨segments, segment, hcut, hat, hread⟩ :=
          hhere (.here hclosed hsegment hname hparam)
        exact ⟨segments, segment, param, hcut, hat, hread, .inl ⟨rfl, rfl⟩⟩
    | @inBraces _ body _ _ _ houter hinner =>
        obtain ⟨segments, segment, hcut, hat, hread⟩ := hhere houter
        refine ⟨segments, segment, _, hcut, hat, hread, .inr ?_⟩
        rwa [stripBraces_braces]
    | @inBare _ outer _ _ _ houter hbare hinner =>
        obtain ⟨segments, segment, hcut, hat, hread⟩ := hhere houter
        refine ⟨segments, segment, outer, hcut, hat, hread, .inr ?_⟩
        obtain ⟨_, _, _, _, hparam⟩ := Invocation.ofSegment_eq_each_iff.mp hread
        rwa [stripBraces_of_not_braced hparam.trimmed hbare]
  · rintro ⟨segments, segment, outer, hcut, hat, hread, hcases⟩
    obtain ⟨left, right, rfl, hname, hparam⟩ := Invocation.ofSegment_eq_each_iff.mp hread
    obtain ⟨_, hclosed, rfl⟩ := segments_eq_ok_iff.mp hcut
    have houter := ClauseAt.here hclosed hat hname hparam
    rcases hcases with ⟨rfl, rfl⟩ | hinner
    · exact houter
    · by_cases hbraced : outer.Braced
      · obtain ⟨body, rfl⟩ := hbraced
        rw [stripBraces_braces] at hinner
        exact .inBraces houter hinner
      · rw [stripBraces_of_not_braced hparam.trimmed hbraced] at hinner
        exact .inBare houter hbraced hinner

/-- A parameter is that of one clause at most in each place. -/
theorem ClauseAt.unique {t param other : Text} {place : List Nat}
    (h : ClauseAt t place param) (hother : ClauseAt t place other) : param = other := by
  induction place generalizing t with
  | nil => exact absurd h not_clauseAt_nil
  | cons position place ih =>
      obtain ⟨segments, segment, outer, hcut, hat, hread, hcases⟩ := clauseAt_cons_iff.mp h
      obtain ⟨segments', segment', outer', hcut', hat', hread', hcases'⟩ :=
        clauseAt_cons_iff.mp hother
      rw [hcut, Except.ok.injEq] at hcut'
      rw [← hcut', hat, Option.some.injEq] at hat'
      rw [← hat', hread, Invocation.mk.injEq, Option.some.injEq] at hread'
      rw [← hread'.2] at hcases'
      cases place with
      | nil =>
          have hparam : outer = param := by
            simpa [not_clauseAt_nil] using hcases
          have hother : outer = other := by
            simpa [not_clauseAt_nil] using hcases'
          rw [← hparam, hother]
      | cons next place =>
          exact ih (by simpa using hcases) (by simpa using hcases')

theorem ClauseAt.isInfix {t param : Text} {place : List Nat} (h : ClauseAt t place param) :
    param <:+: t ∧ param.length < t.length := by
  induction h with
  | @here segments position left right param hclosed hsegment hname hparam =>
      have hmem := List.mem_of_getElem? hsegment
      have hsegmentPart := isInfix_intercalate hmem
      have hright : right <:+: left ++ '=' :: right := ⟨left ++ ['='], [], by simp⟩
      have hinside : param <:+: right := hparam.trim_eq ▸ trim_isInfix right
      refine ⟨(hinside.trans hright).trans hsegmentPart, ?_⟩
      have hshort := hinside.length_le
      have hlong := hsegmentPart.length_le
      rw [List.length_append, List.length_cons] at hlong
      omega
  | @inBraces t body param position place houter hinner ihouter ihinner =>
      have hbody : body <:+: '{' :: (body ++ ['}']) := ⟨['{'], ['}'], by simp⟩
      have htrim := (trim_isInfix body).trans hbody
      refine ⟨(ihinner.1.trans htrim).trans ihouter.1, ?_⟩
      have hlong := htrim.length_le
      have hinnerShort := ihinner.2
      have houterShort := ihouter.2
      omega
  | @inBare t outer param position place houter hbare hinner ihouter ihinner =>
      exact ⟨ihinner.1.trans ihouter.1, Nat.lt_trans ihinner.2 ihouter.2⟩

/-- The text between braces at the ends of a part is a proper part of the whole. -/
theorem trim_isInfix_of_braces {t body : Text} (h : '{' :: (body ++ ['}']) <:+: t) :
    body.trim <:+: t ∧ body.trim ≠ t := by
  have hbody : body <:+: '{' :: (body ++ ['}']) := ⟨['{'], ['}'], by simp⟩
  refine ⟨((Text.trim_isInfix body).trans hbody).trans h, ?_⟩
  intro heq
  have htrim := length_trim_le body
  have hlong := h.length_le
  rw [heq] at htrim
  simp only [List.length_cons, List.length_append] at hlong
  omega

theorem BrokenAt.trim_isInfix {t body : Text} {place : List Nat} (h : BrokenAt t place body) :
    body.trim <:+: t ∧ body.trim ≠ t :=
  trim_isInfix_of_braces h.clause.isInfix.1

theorem ClauseAt.trimmed {t param : Text} {place : List Nat} (h : ClauseAt t place param) :
    param.Trimmed := by
  induction h with
  | here _ _ _ hparam => exact hparam.trimmed
  | inBraces _ _ _ ih => exact ih
  | inBare _ _ _ _ ih => exact ih

theorem plain_of_pads_each {left : Text} (hname : left.Pads RuleName.each) :
    Plain (left ++ ['=']) := by
  obtain ⟨before, after, hbefore, hafter, rfl⟩ := hname.around
  intro c hc
  simp only [List.mem_append, List.mem_singleton] at hc
  rcases hc with ((hc | hc) | hc) | rfl
  · exact hbefore.plain c hc
  · exact plain_each c hc
  · exact hafter.plain c hc
  · decide

/-- The parameter of a clause is balanced if its segment is. -/
theorem balanced_of_ofSegment_eq_each
    {segment param : Text} (hsegment : segment.Balanced)
    (hread : Invocation.ofSegment segment = ⟨RuleName.each, some param⟩) :
    param.Balanced := by
  obtain ⟨left, right, rfl, hname, hparam⟩ := Invocation.ofSegment_eq_each_iff.mp hread
  rw [List.append_cons] at hsegment
  have hright := balanced_insert_plain (plain_of_pads_each hname) [] right
  rw [List.nil_append, List.nil_append] at hright
  exact hparam.balanced_iff.mp (hright.mp hsegment)

/-- Taking off braces can spoil the balance of a parameter only by closing too early. -/
theorem stripBraces_balanced_or_early
    {param : Text} (hbalanced : param.Balanced) (htrimmed : param.Trimmed) :
    param.stripBraces.Balanced ∨
      ∃ body : Text, param = '{' :: (body ++ ['}']) ∧ body.ClosedEarly := by
  by_cases hbraced : param.Braced
  · obtain ⟨body, rfl⟩ := hbraced
    rw [stripBraces_braces, ← (pads_trim body).balanced_iff]
    by_cases hbody : Balanced body
    · exact .inl hbody
    · have hsettled : excess body = 0 := by
        rw [← excess_braces]
        exact hbalanced.settled
      exact .inr ⟨body, rfl, closedEarly_of_not_balanced hsettled hbody⟩
  · rw [stripBraces_of_not_braced htrimmed hbraced]
    exact .inl hbalanced

/-! ## The clause that is reported -/

namespace Directive

theorem parseList_of_open
    {t : Text} (hnonneg : ∀ start, start <+: t → 0 ≤ excess start)
    (hopen : 0 < excess t) : parseList t = .error (.unclosedBraces t) := by
  rw [parseList_eq_ofSegments, segments_of_open hnonneg hopen]

theorem parseList_of_dips
    {t : Text} (hdips : ∃ start, start <+: t ∧ excess start < 0) :
    parseList t = .error (.unopenedBraces t) := by
  rw [parseList_eq_ofSegments, segments_of_dips hdips]

theorem parseList_of_closedEarly
    {body : Text} (hsettled : excess body = 0) (hearly : body.ClosedEarly) :
    parseList body.trim = .error (.unopenedBraces body.trim) := by
  have htrim : body.trim.ClosedEarly := by
    apply closedEarly_of_not_balanced
    · rw [← (pads_trim body).excess_eq, hsettled]
    · rw [← (pads_trim body).balanced_iff]
      exact hearly.not_balanced
  exact parseList_of_dips htrim.dips

variable {read : Text → Except GrammarError (List Directive)}

theorem ofSegment_of_each {segment param : Text}
    (hread : Invocation.ofSegment segment = ⟨RuleName.each, some param⟩) :
    ofSegment read segment = (read param.stripBraces).map Directive.each := by
  simp only [ofSegment, hread, if_true, Invocation.eachBody]
  cases read param.stripBraces <;> rfl

/-- Only a clause with a parameter can fail. -/
theorem ofSegment_eq_error_iff {segment : Text} {fault : GrammarError} :
    ofSegment parseList segment = .error fault ↔
      ∃ param, Invocation.ofSegment segment = ⟨RuleName.each, some param⟩ ∧
        parseList param.stripBraces = .error fault := by
  constructor
  · intro hfail
    by_cases hname : (Invocation.ofSegment segment).name = RuleName.each
    · cases hparam : (Invocation.ofSegment segment).param with
      | none => simp [ofSegment, hname, hparam, Invocation.eachBody] at hfail
      | some param =>
          have hread : Invocation.ofSegment segment = ⟨RuleName.each, some param⟩ := by
            rw [← hname, ← hparam]
          refine ⟨param, hread, ?_⟩
          rw [ofSegment_of_each hread] at hfail
          cases hbody : parseList param.stripBraces with
          | ok directives => simp [hbody, Except.map] at hfail
          | error other => simpa [hbody, Except.map] using hfail
    · rw [ofSegment_of_name_ne_each hname] at hfail
      contradiction
  · rintro ⟨param, hread, hbody⟩
    rw [ofSegment_of_each hread, hbody]
    rfl

theorem ofSegments_cons_eq_error_iff
    {raw : Text} {rest : List Text} {fault : GrammarError} (hvisible : ¬raw.Blank) :
    ofSegments read (raw :: rest) = .error fault ↔
      ofSegment read raw = .error fault ∨
        (∃ first, ofSegment read raw = .ok first) ∧
          ofSegments read rest = .error fault := by
  have hne : raw.trim ≠ [] := fun hnil => hvisible (trim_eq_nil_iff.mp hnil)
  rw [ofSegments, if_neg hne, ofSegment_trim]
  cases hfirst : ofSegment read raw with
  | error other => simp
  | ok first =>
      cases hrest : ofSegments read rest with
      | error other => simp
      | ok others => simp

/-- The segments before the first that fails have been read. -/
theorem ofSegments_eq_error
    {segments : List Text} {fault : GrammarError}
    (hfail : ofSegments read segments = .error fault) :
    ∃ position segment, segments[position]? = some segment ∧
      ofSegment read segment = .error fault ∧
      ∀ (earlier : Nat) (other : Text), earlier < position →
        segments[earlier]? = some other →
          other.Blank ∨ ∃ directive, ofSegment read other = .ok directive := by
  induction segments with
  | nil => contradiction
  | cons raw rest ih =>
      have hcases : ofSegment read raw = .error fault ∨
          (raw.Blank ∨ ∃ directive, ofSegment read raw = .ok directive) ∧
            ofSegments read rest = .error fault := by
        by_cases hblank : raw.Blank
        · rw [ofSegments_cons_blank hblank] at hfail
          exact .inr ⟨.inl hblank, hfail⟩
        · rcases (ofSegments_cons_eq_error_iff hblank).mp hfail with hfirst | ⟨hfirst, hrest⟩
          · exact .inl hfirst
          · exact .inr ⟨.inr hfirst, hrest⟩
      rcases hcases with hfirst | ⟨hfirst, hrest⟩
      · exact ⟨0, raw, rfl, hfirst, by simp⟩
      · obtain ⟨position, segment, hat, hsegment, hearlier⟩ := ih hrest
        refine ⟨position + 1, segment, by simpa using hat, hsegment, ?_⟩
        intro earlier other hlt hother
        cases earlier with
        | zero =>
            obtain rfl : raw = other := by simpa using hother
            exact hfirst
        | succ earlier => exact hearlier earlier other (by omega) (by simpa using hother)

theorem ofSegment_ok_of_mem
    {segments : List Text} {directives : List Directive} {segment : Text}
    (hread : ofSegments read segments = .ok directives) (hmem : segment ∈ segments)
    (hvisible : ¬segment.Blank) : ∃ directive, ofSegment read segment = .ok directive := by
  induction segments generalizing directives with
  | nil => contradiction
  | cons raw rest ih =>
      by_cases hblank : raw.Blank
      · rw [ofSegments_cons_blank hblank] at hread
        rcases List.mem_cons.mp hmem with rfl | hrest
        · exact absurd hblank hvisible
        · exact ih hread hrest
      · obtain ⟨first, others, hfirst, hothers, _⟩ :=
          (ofSegments_cons_eq_ok_iff hblank).mp hread
        rcases List.mem_cons.mp hmem with rfl | hrest
        · exact ⟨first, hfirst⟩
        · exact ih hothers hrest

end Directive

theorem not_blank_of_ofSegment_eq_each
    {segment param : Text}
    (hread : Invocation.ofSegment segment = ⟨RuleName.each, some param⟩) :
    ¬segment.Blank := by
  obtain ⟨left, right, rfl, _, _⟩ := Invocation.ofSegment_eq_each_iff.mp hread
  intro hblank
  exact hblank.not_mem (c := '=') (by decide) (by simp)

/-- A clause whose body cannot be read makes its segment fail. -/
theorem not_ok_of_body_not_ok
    {segment param : Text} {directive : Directive}
    (hread : Invocation.ofSegment segment = ⟨RuleName.each, some param⟩)
    (hbody : ∀ body, Directive.parseList param.stripBraces ≠ .ok body) :
    Directive.ofSegment Directive.parseList segment ≠ .ok directive := by
  intro hok
  rw [Directive.ofSegment_of_each hread] at hok
  cases hinner : Directive.parseList param.stripBraces with
  | error fault => simp [hinner, Except.map] at hok
  | ok body => exact hbody body hinner

/-- The clause with the given parameter is broken, or one in its body is. -/
def BrokenWithin (param : Text) (place : List Nat) (body : Text) : Prop :=
  (place = [] ∧ param = '{' :: (body ++ ['}']) ∧ body.ClosedEarly) ∨
    BrokenAt param.stripBraces place body

theorem BrokenAt.within
    {t body : Text} {position : Nat} {place : List Nat}
    (h : BrokenAt t (position :: place) body) :
    ∃ segments segment param, t.segments = .ok segments ∧
      segments[position]? = some segment ∧
      Invocation.ofSegment segment = ⟨RuleName.each, some param⟩ ∧
      BrokenWithin param place body := by
  obtain ⟨segments, segment, param, hcut, hat, hread, hcases⟩ :=
    clauseAt_cons_iff.mp h.clause
  refine ⟨segments, segment, param, hcut, hat, hread, ?_⟩
  rcases hcases with ⟨hplace, hparam⟩ | hinner
  · exact .inl ⟨hplace, hparam, h.early⟩
  · exact .inr ⟨hinner, h.early⟩

theorem not_brokenAt_nil {t body : Text} : ¬BrokenAt t [] body :=
  fun h => not_clauseAt_nil h.clause

/-- What is left of a parameter without its braces is not balanced if they are not a pair. -/
theorem not_balanced_stripBraces
    {body : Text} (hearly : body.ClosedEarly) :
    ¬(stripBraces ('{' :: (body ++ ['}']))).Balanced := by
  rw [stripBraces_braces, ← (pads_trim body).balanced_iff]
  exact hearly.not_balanced

theorem BrokenAt.parseList_ne_ok
    {t body : Text} {place : List Nat} (h : BrokenAt t place body) :
    ∀ directives, Directive.parseList t ≠ .ok directives := by
  induction place generalizing t with
  | nil => exact absurd h not_brokenAt_nil
  | cons position place ih =>
      intro directives hok
      obtain ⟨segments, segment, param, hcut, hat, hread, hwithin⟩ := h.within
      obtain ⟨parts, hparts, hsegments⟩ := Directive.parseList_eq_ok_iff.mp hok
      rw [hcut, Except.ok.injEq] at hparts
      rw [← hparts] at hsegments
      obtain ⟨directive, hsegment⟩ := Directive.ofSegment_ok_of_mem hsegments
        (List.mem_of_getElem? hat) (not_blank_of_ofSegment_eq_each hread)
      refine not_ok_of_body_not_ok hread ?_ hsegment
      rcases hwithin with ⟨_, rfl, hearly⟩ | hinner
      · intro inner hinner
        exact not_balanced_stripBraces hearly (Directive.balanced_of_parseList hinner)
      · exact ih hinner

theorem BrokenWithin.parseList_ne_ok
    {param body : Text} {place : List Nat} (h : BrokenWithin param place body) :
    ∀ directives, Directive.parseList param.stripBraces ≠ .ok directives := by
  intro directives hok
  rcases h with ⟨_, rfl, hearly⟩ | hinner
  · exact not_balanced_stripBraces hearly (Directive.balanced_of_parseList hok)
  · exact hinner.parseList_ne_ok directives hok

/-- In a text whose earlier segments can be read, the first broken clause of a
segment is the first of the text. -/
theorem firstBrokenAt_cons
    {t body segment param : Text} {segments : List Text}
    {position : Nat} {place : List Nat}
    (hcut : t.segments = .ok segments) (hat : segments[position]? = some segment)
    (hread : Invocation.ofSegment segment = ⟨RuleName.each, some param⟩)
    (hearlier : ∀ (earlier : Nat) (other : Text), earlier < position →
      segments[earlier]? = some other → other.Blank ∨
        ∃ directive, Directive.ofSegment Directive.parseList other = .ok directive)
    (hbroken : BrokenAt t (position :: place) body)
    (hfirst : ∀ other otherBody, BrokenWithin param other otherBody →
      place = other ∨ List.Lex (· < ·) place other) :
    FirstBrokenAt t (position :: place) body := by
  refine ⟨hbroken, ?_⟩
  intro other otherBody hother
  cases other with
  | nil => exact absurd hother not_brokenAt_nil
  | cons next rest =>
      obtain ⟨parts, part, outer, hparts, hpart, hpartRead, hwithin⟩ := hother.within
      rw [hcut, Except.ok.injEq] at hparts
      rw [← hparts] at hpart
      rcases Nat.lt_trichotomy position next with hlt | rfl | hgt
      · exact .inr (.rel hlt)
      · rw [hat, Option.some.injEq] at hpart
        rw [← hpart, hread, Invocation.mk.injEq, Option.some.injEq] at hpartRead
        rw [← hpartRead.2] at hwithin
        rcases hfirst rest otherBody hwithin with rfl | hlex
        · exact .inl rfl
        · exact .inr (.cons hlex)
      · rcases hearlier next part hgt hpart with hblank | ⟨directive, hok⟩
        · exact absurd hblank (not_blank_of_ofSegment_eq_each hpartRead)
        · exact absurd hok (not_ok_of_body_not_ok hpartRead hwithin.parseList_ne_ok)

/-- What fails in a balanced text is the first clause whose braces are not a pair. -/
theorem exists_firstBrokenAt_of_parseList
    {t : Text} {fault : GrammarError} (hbalanced : t.Balanced)
    (hfail : Directive.parseList t = .error fault) :
    ∃ place body, FirstBrokenAt t place body ∧ fault = .unopenedBraces body.trim := by
  induction hlength : t.length using Nat.strong_induction_on generalizing t fault with
  | _ n ih =>
      have hcut := segments_of_balanced hbalanced
      rw [Directive.parseList_eq_ofSegments, hcut] at hfail
      obtain ⟨position, segment, hat, hsegment, hearlier⟩ :=
        Directive.ofSegments_eq_error hfail
      obtain ⟨param, hread, hbody⟩ := Directive.ofSegment_eq_error_iff.mp hsegment
      have hmem := List.mem_of_getElem? hat
      have hclosed := (segments_eq_ok_iff.mp hcut).2.1 segment hmem
      have hparam := balanced_of_ofSegment_eq_each hclosed.balanced hread
      obtain ⟨left, right, _, _, hpads⟩ := Invocation.ofSegment_eq_each_iff.mp hread
      have hclause : ClauseAt t [position] param :=
        clauseAt_cons_iff.mpr ⟨_, segment, param, hcut, hat, hread, .inl ⟨rfl, rfl⟩⟩
      rcases stripBraces_balanced_or_early hparam hpads.trimmed with
        hinner | ⟨body, rfl, hearly⟩
      · have hshort : param.stripBraces.length < n := by
          have hstrip := length_stripBraces_le param
          have hpart := hclause.isInfix.2
          omega
        obtain ⟨place, body, hfirst, hfault⟩ := ih _ hshort hinner hbody rfl
        refine ⟨position :: place, body, ?_, hfault⟩
        refine firstBrokenAt_cons hcut hat hread hearlier ⟨?_, hfirst.broken.early⟩ ?_
        · exact clauseAt_cons_iff.mpr
            ⟨_, segment, param, hcut, hat, hread, .inr hfirst.broken.clause⟩
        · rintro other otherBody (⟨_, rfl, hearly⟩ | hother)
          · exact absurd hinner (not_balanced_stripBraces hearly)
          · exact hfirst.first other otherBody hother
      · refine ⟨[position], body, ?_, ?_⟩
        · refine firstBrokenAt_cons hcut hat hread hearlier ⟨hclause, hearly⟩ ?_
          intro other otherBody _
          cases other with
          | nil => exact .inl rfl
          | cons next rest => exact .inr .nil
        · have hsettled : excess body = 0 := by
            rw [← excess_braces]
            exact hparam.settled
          rw [stripBraces_braces, Directive.parseList_of_closedEarly hsettled hearly] at hbody
          exact (Except.error.inj hbody).symm

theorem firstBrokenAt_unique
    {t body otherBody : Text} {place other : List Nat}
    (h : FirstBrokenAt t place body) (hother : FirstBrokenAt t other otherBody) :
    place = other ∧ body = otherBody := by
  have hplace : place = other := by
    rcases h.first other otherBody hother.broken with heq | hlt
    · exact heq
    · rcases hother.first place body h.broken with heq | hgt
      · exact heq.symm
      · exact absurd hgt (Std.Asymm.asymm _ _ hlt)
  subst hplace
  have hparam := h.broken.clause.unique hother.broken.clause
  exact ⟨rfl, by simpa using hparam⟩

/-- Only a text with a brace of its own that stays open is reported as unclosed. -/
theorem parseList_eq_unclosed_iff {t source : Text} :
    Directive.parseList t = .error (.unclosedBraces source) ↔
      source = t ∧ (∀ start, start <+: t → 0 ≤ excess start) ∧ 0 < excess t := by
  constructor
  · intro hfail
    rcases balanced_or_dips_or_open t with hbalanced | hdips | ⟨hnonneg, hopen⟩
    · obtain ⟨_, _, _, hfault⟩ := exists_firstBrokenAt_of_parseList hbalanced hfail
      contradiction
    · rw [Directive.parseList_of_dips hdips] at hfail
      simp at hfail
    · rw [Directive.parseList_of_open hnonneg hopen] at hfail
      cases hfail
      exact ⟨rfl, hnonneg, hopen⟩
  · rintro ⟨rfl, hnonneg, hopen⟩
    exact Directive.parseList_of_open hnonneg hopen

theorem ClauseAt.balanced {t param : Text} {place : List Nat} (h : ClauseAt t place param) :
    param.Balanced := by
  induction h with
  | @here segments position left right param hclosed hsegment hname hparam =>
      have hmem := List.mem_of_getElem? hsegment
      exact balanced_of_ofSegment_eq_each (hclosed _ hmem).balanced
        (Invocation.ofSegment_eq_each_iff.mpr ⟨left, right, rfl, hname, hparam⟩)
  | inBraces _ _ _ ih => exact ih
  | inBare _ _ _ _ ih => exact ih

/-- The body of a clause opens as many braces as it closes, so none stays open in it. -/
theorem ClauseAt.parseList_ne_unclosed
    {t param source : Text} {place : List Nat} (h : ClauseAt t place param) :
    Directive.parseList param.stripBraces ≠ .error (.unclosedBraces source) := by
  intro hfail
  obtain ⟨_, _, hopen⟩ := parseList_eq_unclosed_iff.mp hfail
  have hsettled : excess param.stripBraces = 0 := by
    by_cases hbraced : param.Braced
    · obtain ⟨body, rfl⟩ := hbraced
      rw [stripBraces_braces, ← (pads_trim body).excess_eq, ← excess_braces]
      exact h.balanced.settled
    · rw [stripBraces_of_not_braced h.trimmed hbraced]
      exact h.balanced.settled
  omega

namespace Annotation

theorem parse_eq_error_iff {t : Text} {fault : GrammarError} :
    parse t = .error fault ↔ Directive.parseList t = .error fault := by
  unfold parse
  cases Directive.parseList t with
  | error other => simp
  | ok directives => simp

/-- A text is refused as a whole if its own braces do not balance.  A balanced text is refused
exactly for a clause whose braces are not a pair, and the first one is reported. -/
theorem parse_failure (t : Text) :
    (∀ source, parse t = .error (.unclosedBraces source) ↔
      source = t ∧ (∀ start, start <+: t → 0 ≤ excess start) ∧ 0 < excess t) ∧
    ((∃ start, start <+: t ∧ excess start < 0) → parse t = .error (.unopenedBraces t)) ∧
    (t.Balanced →
      ((∃ fault, parse t = .error fault) ↔ ∃ place body, BrokenAt t place body) ∧
      (∀ fault, parse t = .error fault ↔
        ∃ place body, FirstBrokenAt t place body ∧ fault = .unopenedBraces body.trim) ∧
      ∀ place body, BrokenAt t place body → body.trim <:+: t ∧ body.trim ≠ t) ∧
    ∀ place param, ClauseAt t place param →
      ∀ source, parse param.stripBraces ≠ .error (.unclosedBraces source) := by
  simp only [ne_eq, parse_eq_error_iff]
  refine ⟨fun _ => parseList_eq_unclosed_iff, Directive.parseList_of_dips, ?_, ?_⟩
  · intro hbalanced
    have hfails {place : List Nat} {body : Text} (hbroken : BrokenAt t place body) :
        ∃ fault, Directive.parseList t = .error fault := by
      cases hread : Directive.parseList t with
      | error fault => exact ⟨fault, rfl⟩
      | ok directives => exact absurd hread (hbroken.parseList_ne_ok directives)
    refine ⟨⟨?_, ?_⟩, ?_, fun _ _ => BrokenAt.trim_isInfix⟩
    · rintro ⟨fault, hfail⟩
      obtain ⟨place, body, hfirst, _⟩ := exists_firstBrokenAt_of_parseList hbalanced hfail
      exact ⟨place, body, hfirst.broken⟩
    · rintro ⟨place, body, hbroken⟩
      exact hfails hbroken
    · intro fault
      refine ⟨exists_firstBrokenAt_of_parseList hbalanced, ?_⟩
      rintro ⟨place, body, hfirst, rfl⟩
      obtain ⟨fault, hfail⟩ := hfails hfirst.broken
      obtain ⟨_, other, hother, rfl⟩ := exists_firstBrokenAt_of_parseList hbalanced hfail
      rw [hfail, (firstBrokenAt_unique hfirst hother).2]
  · intro place param hclause source
    exact hclause.parseList_ne_unclosed

/-- A broken clause in a body is reported, and not the broken one that comes after it. -/
theorem parse_failure_nested :
    let t : Text := "x={a}, each={ each={min=1}, each = {}{ } }, each={a}b{c}".toList
    t.Balanced ∧ parse t = .error (.unopenedBraces "\x7d\x7b".toList) ∧
      ∃ place body, FirstBrokenAt t place body ∧ "\x7d\x7b".toList = body.trim := by
  intro t
  have hbalanced : t.Balanced := by
    have hcut : t.segments =
        .ok ["x={a}".toList, " each={ each={min=1}, each = {}{ } }".toList,
          " each={a}b{c}".toList] := by
      rfl
    exact balanced_of_segments hcut
  have hfail : parse t = .error (.unopenedBraces "\x7d\x7b".toList) := by
    rw [parse_eq_error_iff, ← Directive.iterate_readSegments 3]
    rfl
  obtain ⟨place, body, hfirst, hfault⟩ := (((parse_failure t).2.2.1 hbalanced).2.1 _).mp hfail
  exact ⟨hbalanced, hfail, place, body, hfirst, by simpa using hfault⟩

end Annotation

end FieldRules
