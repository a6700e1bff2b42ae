import FieldRules.Annotation.Segment
import FieldRules.Proofs.Text.Trimming

/-!
# Balanced braces and outer commas

A text is balanced when no beginning of it closes more braces than it opens and
the whole closes all of them.  Segments are the closed texts: balanced, and
without a comma outside of all braces.  The main statement is that a text is cut
into segments exactly when it is their comma-join, so the cut is the only one.

The definitions count braces in beginnings of a text.  The proofs read the text
from left to right at a running depth, and the first section relates the two.
-/

namespace FieldRules
namespace Text

/-- How many braces a text opens beyond those that it closes. -/
def excess (t : Text) : Int :=
  (t.count '{' : Int) - (t.count '}' : Int)

/-- No beginning of the text closes more than it opens, and nothing stays open. -/
structure Balanced (t : Text) : Prop where
  nonneg : ∀ start, start <+: t → 0 ≤ excess start
  settled : excess t = 0

/-- A balanced text in which every comma is inside of some braces. -/
structure Closed (t : Text) : Prop where
  balanced : t.Balanced
  inside : ∀ start rest, t = start ++ ',' :: rest → excess start ≠ 0

/-- Nothing that matters to the cut of a text. -/
def Plain (t : Text) : Prop :=
  ∀ c ∈ t, c ≠ '{' ∧ c ≠ '}' ∧ c ≠ ','

/-! ## Depths -/

@[simp] theorem excess_nil : excess [] = 0 := by
  simp [excess]

@[simp] theorem excess_cons (c : Char) (t : Text) :
    excess (c :: t) = braceStep c + excess t := by
  unfold excess braceStep
  rw [List.count_cons, List.count_cons]
  by_cases hopen : c = '{'
  · subst c
    simp
    omega
  · by_cases hclose : c = '}'
    · subst c
      simp
      omega
    · simp [hopen, hclose]

@[simp] theorem excess_append (s t : Text) :
    excess (s ++ t) = excess s + excess t := by
  unfold excess
  rw [List.count_append, List.count_append]
  push_cast
  omega

theorem braceDepth_eq (depth : Int) (t : Text) :
    braceDepth depth t = depth + excess t := by
  induction t generalizing depth with
  | nil => simp [braceDepth]
  | cons c rest ih =>
      rw [braceDepth, ih, excess_cons]
      omega

@[simp] theorem braceStep_comma : braceStep ',' = 0 := by
  decide

/-- Read from the given depth, the text never leads below depth zero. -/
def StaysAbove (depth : Int) : Text → Prop
  | [] => 0 ≤ depth
  | c :: rest => 0 ≤ depth ∧ StaysAbove (depth + braceStep c) rest

/-- Read from the given depth, the text has no comma at depth zero. -/
def CommasInside (depth : Int) : Text → Prop
  | [] => True
  | c :: rest => (c = ',' → depth ≠ 0) ∧ CommasInside (depth + braceStep c) rest

theorem staysAbove_append {depth : Int} {s t : Text} :
    StaysAbove depth (s ++ t) ↔
      StaysAbove depth s ∧ StaysAbove (depth + excess s) t := by
  induction s generalizing depth with
  | nil =>
      cases t with
      | nil => simp [StaysAbove]
      | cons c t => simp [StaysAbove]
  | cons c s ih =>
      simp only [List.cons_append, StaysAbove, ih, excess_cons, and_assoc,
        Int.add_assoc]

theorem commasInside_append {depth : Int} {s t : Text} :
    CommasInside depth (s ++ t) ↔
      CommasInside depth s ∧ CommasInside (depth + excess s) t := by
  induction s generalizing depth with
  | nil => simp [CommasInside]
  | cons c s ih =>
      simp only [List.cons_append, CommasInside, ih, excess_cons, and_assoc,
        Int.add_assoc]

theorem StaysAbove.le {depth : Int} {t : Text} (h : StaysAbove depth t) :
    0 ≤ depth ∧ 0 ≤ depth + excess t := by
  induction t generalizing depth with
  | nil =>
      have hdepth : 0 ≤ depth := h
      simpa using hdepth
  | cons c rest ih =>
      obtain ⟨hdepth, hrest⟩ := h
      have hend := (ih hrest).2
      rw [excess_cons]
      omega

/-- A text that stays above zero goes on doing so from any greater depth. -/
theorem StaysAbove.mono
    {low high : Int} {t : Text} (hle : low ≤ high) (h : StaysAbove low t) :
    StaysAbove high t := by
  induction t generalizing low high with
  | nil => exact Int.le_trans h hle
  | cons c rest ih =>
      obtain ⟨hlow, hrest⟩ := h
      exact ⟨Int.le_trans hlow hle, ih (by omega) hrest⟩

theorem staysAbove_iff {depth : Int} {t : Text} :
    StaysAbove depth t ↔ ∀ start, start <+: t → 0 ≤ depth + excess start := by
  constructor
  · rintro h start ⟨rest, rfl⟩
    exact (staysAbove_append.mp h).1.le.2
  · intro h
    induction t generalizing depth with
    | nil => simpa [StaysAbove] using h [] (List.nil_prefix)
    | cons c rest ih =>
        refine ⟨by simpa using h [] (List.nil_prefix), ih ?_⟩
        intro start hstart
        have hcons := h (c :: start) ((List.prefix_cons_inj c).mpr hstart)
        rw [excess_cons] at hcons
        omega

theorem commasInside_iff {depth : Int} {t : Text} :
    CommasInside depth t ↔
      ∀ start rest, t = start ++ ',' :: rest → depth + excess start ≠ 0 := by
  constructor
  · rintro h start rest rfl
    exact (commasInside_append.mp h).2.1 rfl
  · intro h
    induction t generalizing depth with
    | nil => trivial
    | cons c t ih =>
        constructor
        · rintro rfl
          simpa using h [] t rfl
        · apply ih
          rintro start rest rfl
          have hcons := h (c :: start) rest rfl
          rw [excess_cons] at hcons
          omega

theorem dipsBelow_eq_false_iff {depth : Int} {t : Text} (hdepth : 0 ≤ depth) :
    dipsBelow depth t = false ↔ StaysAbove depth t := by
  induction t generalizing depth with
  | nil => simpa [dipsBelow, StaysAbove] using hdepth
  | cons c rest ih =>
      rw [dipsBelow, Bool.or_eq_false_iff, decide_eq_false_iff_not, Int.not_lt]
      constructor
      · rintro ⟨hstep, hrest⟩
        exact ⟨hdepth, (ih hstep).mp hrest⟩
      · rintro ⟨_, hrest⟩
        exact ⟨hrest.le.1, (ih hrest.le.1).mpr hrest⟩

theorem balanced_iff {t : Text} : t.Balanced ↔ StaysAbove 0 t ∧ excess t = 0 := by
  constructor
  · intro h
    refine ⟨staysAbove_iff.mpr ?_, h.settled⟩
    intro start hstart
    simpa using h.nonneg start hstart
  · rintro ⟨hstays, hsettled⟩
    refine ⟨?_, hsettled⟩
    intro start hstart
    simpa using staysAbove_iff.mp hstays start hstart

theorem closed_iff {t : Text} :
    t.Closed ↔ StaysAbove 0 t ∧ CommasInside 0 t ∧ excess t = 0 := by
  constructor
  · intro h
    obtain ⟨hstays, hsettled⟩ := balanced_iff.mp h.balanced
    refine ⟨hstays, commasInside_iff.mpr ?_, hsettled⟩
    intro start rest ht
    simpa using h.inside start rest ht
  · rintro ⟨hstays, hinside, hsettled⟩
    refine ⟨balanced_iff.mpr ⟨hstays, hsettled⟩, ?_⟩
    intro start rest ht
    simpa using commasInside_iff.mp hinside start rest ht

/-! ## Plain texts do not matter -/

theorem Plain.excess_eq_zero {t : Text} (hplain : t.Plain) : excess t = 0 := by
  unfold excess
  rw [List.count_eq_zero_of_not_mem, List.count_eq_zero_of_not_mem]
  · rfl
  · intro hmem
    exact (hplain _ hmem).2.1 rfl
  · intro hmem
    exact (hplain _ hmem).1 rfl

theorem Plain.braceStep_eq_zero
    {c : Char} {t : Text} (hplain : Plain (c :: t)) : braceStep c = 0 := by
  obtain ⟨hopen, hclose, _⟩ := hplain c List.mem_cons_self
  simp [braceStep, hopen, hclose]

theorem Plain.tail {c : Char} {t : Text} (hplain : Plain (c :: t)) : t.Plain := by
  intro d hd
  exact hplain d (List.mem_cons_of_mem c hd)

theorem Plain.staysAbove_iff
    {depth : Int} {t : Text} (hplain : t.Plain) : StaysAbove depth t ↔ 0 ≤ depth := by
  induction t with
  | nil => rfl
  | cons c rest ih =>
      rw [StaysAbove, hplain.braceStep_eq_zero, Int.add_zero, ih hplain.tail]
      exact and_self_iff

theorem Plain.commasInside
    {depth : Int} {t : Text} (hplain : t.Plain) : CommasInside depth t := by
  induction t with
  | nil => trivial
  | cons c rest ih =>
      rw [CommasInside, hplain.braceStep_eq_zero, Int.add_zero]
      refine ⟨?_, ih hplain.tail⟩
      intro hcomma
      exact absurd hcomma (hplain c List.mem_cons_self).2.2

theorem Blank.plain {t : Text} (hblank : t.Blank) : t.Plain := by
  intro c hc
  refine ⟨?_, ?_, ?_⟩ <;>
    · rintro rfl
      exact hblank.not_mem (by decide) hc

/-- A plain stretch may be taken out of a text, or put in. -/
theorem balanced_insert_plain
    {plain : Text} (hplain : plain.Plain) (left right : Text) :
    Balanced (left ++ plain ++ right) ↔ Balanced (left ++ right) := by
  simp only [balanced_iff, staysAbove_append, excess_append,
    hplain.staysAbove_iff, hplain.excess_eq_zero, Int.add_zero]
  constructor
  · rintro ⟨⟨⟨hleft, _⟩, hright⟩, hsettled⟩
    exact ⟨⟨hleft, hright⟩, hsettled⟩
  · rintro ⟨⟨hleft, hright⟩, hsettled⟩
    exact ⟨⟨⟨hleft, hleft.le.2⟩, hright⟩, hsettled⟩

theorem closed_insert_plain
    {plain : Text} (hplain : plain.Plain) (left right : Text) :
    Closed (left ++ plain ++ right) ↔ Closed (left ++ right) := by
  simp only [closed_iff, staysAbove_append, commasInside_append, excess_append,
    hplain.staysAbove_iff, hplain.excess_eq_zero, Int.add_zero]
  constructor
  · rintro ⟨⟨⟨hleft, _⟩, hright⟩, ⟨⟨hinLeft, _⟩, hinRight⟩, hsettled⟩
    exact ⟨⟨hleft, hright⟩, ⟨hinLeft, hinRight⟩, hsettled⟩
  · rintro ⟨⟨hleft, hright⟩, ⟨hinLeft, hinRight⟩, hsettled⟩
    exact ⟨⟨⟨hleft, hleft.le.2⟩, hright⟩,
      ⟨⟨hinLeft, hplain.commasInside⟩, hinRight⟩, hsettled⟩

theorem closed_plain_append
    {plain t : Text} (hplain : plain.Plain) : Closed (plain ++ t) ↔ Closed t := by
  simpa using closed_insert_plain hplain [] t

theorem closed_append_plain
    {plain t : Text} (hplain : plain.Plain) : Closed (t ++ plain) ↔ Closed t := by
  simpa using closed_insert_plain hplain t []

theorem Pads.closed_append_iff
    {t core : Text} (h : t.Pads core) (rest : Text) :
    Closed (t ++ rest) ↔ Closed (core ++ rest) := by
  obtain ⟨left, right, hleft, hright, rfl⟩ := h.around
  rw [closed_insert_plain hright.plain, List.append_assoc,
    closed_plain_append hleft.plain]

theorem Pads.append_closed_iff
    {t core : Text} (h : t.Pads core) (first : Text) :
    Closed (first ++ t) ↔ Closed (first ++ core) := by
  obtain ⟨left, right, hleft, hright, rfl⟩ := h.around
  rw [← List.append_assoc, closed_append_plain hright.plain, ← List.append_assoc,
    closed_insert_plain hleft.plain]

theorem Pads.closed_iff {t core : Text} (h : t.Pads core) :
    t.Closed ↔ core.Closed := by
  simpa using h.closed_append_iff []

theorem Pads.balanced_iff {t core : Text} (h : t.Pads core) :
    t.Balanced ↔ core.Balanced := by
  obtain ⟨left, right, hleft, hright, rfl⟩ := h.around
  have hcut := balanced_insert_plain hright.plain (left ++ core) []
  rw [List.append_nil, List.append_nil] at hcut
  rw [hcut]
  simpa using balanced_insert_plain hleft.plain [] core

theorem Pads.excess_eq {t core : Text} (h : t.Pads core) : excess t = excess core := by
  obtain ⟨left, right, hleft, hright, rfl⟩ := h.around
  rw [excess_append, excess_append, hleft.plain.excess_eq_zero,
    hright.plain.excess_eq_zero]
  omega

/-! ## Joining and bracing -/

theorem balanced_nil : Balanced [] := by
  rw [balanced_iff]
  simp [StaysAbove]

theorem Balanced.append_comma_iff {s t : Text} (hs : s.Balanced) :
    Balanced (s ++ ',' :: t) ↔ t.Balanced := by
  rw [balanced_iff] at hs
  rw [balanced_iff, balanced_iff, staysAbove_append, excess_append, hs.2]
  simp only [StaysAbove, excess_cons, braceStep_comma, Int.add_zero, Int.zero_add,
    Int.le_refl, true_and, hs.1]

theorem balanced_intercalate_comma
    {parts : List Text} (hparts : ∀ part ∈ parts, part.Balanced) :
    Balanced ([','].intercalate parts) := by
  induction parts with
  | nil => exact balanced_nil
  | cons first rest ih =>
      have hfirst : first.Balanced := hparts first List.mem_cons_self
      have hrest := ih fun part hpart => hparts part (List.mem_cons_of_mem first hpart)
      cases rest with
      | nil => simpa using hfirst
      | cons second rest =>
          rw [List.intercalate_cons_cons, List.append_assoc]
          exact hfirst.append_comma_iff.mpr hrest

/-- Braces around a balanced text hide all of its commas. -/
theorem Balanced.closed_braces {body : Text} (hbody : body.Balanced) :
    Closed ('{' :: (body ++ ['}'])) := by
  obtain ⟨hstays, hsettled⟩ := balanced_iff.mp hbody
  have hdeep : StaysAbove 1 body := hstays.mono (by decide)
  have hinside : CommasInside 1 body := by
    rw [commasInside_iff]
    rintro start rest rfl
    have hstart := (staysAbove_append.mp hstays).1.le.2
    omega
  rw [closed_iff]
  have hopen : braceStep '{' = 1 := by decide
  have hclose : braceStep '}' = -1 := by decide
  simp only [StaysAbove, CommasInside, staysAbove_append, commasInside_append,
    excess_cons, excess_append, excess_nil, hopen, hclose, hsettled]
  simp [hdeep, hinside]

theorem intercalate_comma_append
    {first second : List Text} (hfirst : first ≠ []) (hsecond : second ≠ []) :
    [','].intercalate (first ++ second) =
      [','].intercalate first ++ ',' :: [','].intercalate second := by
  induction first with
  | nil => exact absurd rfl hfirst
  | cons part rest ih =>
      cases rest with
      | nil =>
          rw [List.singleton_append, List.intercalate_cons_of_ne_nil hsecond,
            List.intercalate_singleton, List.append_assoc, List.singleton_append]
      | cons next rest =>
          rw [List.cons_append, List.intercalate_cons_of_ne_nil (by simp), ih (by simp),
            List.intercalate_cons_cons, List.append_assoc, List.append_assoc,
            List.append_assoc]

theorem isInfix_intercalate
    {part : Text} {parts : List Text} (hpart : part ∈ parts) :
    part <:+: [','].intercalate parts := by
  induction parts with
  | nil => contradiction
  | cons first rest ih =>
      cases rest with
      | nil =>
          have hwhole : [','].intercalate [first] = first := List.intercalate_singleton
          exact ⟨[], [], by simp [hwhole, List.mem_singleton.mp hpart]⟩
      | cons second rest =>
          rw [List.intercalate_cons_cons, List.append_assoc]
          rcases List.mem_cons.mp hpart with rfl | hrest
          · exact (List.prefix_append part _).isInfix
          · have htail := (List.suffix_append [','] ([','].intercalate (second :: rest))).isInfix
            exact ((ih hrest).trans htail).trans (List.suffix_append first _).isInfix

theorem excess_braces (body : Text) : excess ('{' :: (body ++ ['}'])) = excess body := by
  have hopen : braceStep '{' = 1 := by decide
  have hclose : braceStep '}' = -1 := by decide
  rw [excess_cons, excess_append, excess_cons, excess_nil, hopen, hclose]
  omega

/-! ## Closing too early -/

/-- An opening brace in front of the text would be closed inside of it. -/
def ClosedEarly (body : Text) : Prop :=
  ∃ inner rest, inner.Balanced ∧ body = inner ++ '}' :: rest

/-- What stands before the first closing brace without an opening one is balanced. -/
theorem exists_unopened_of_not_staysAbove
    {depth : Int} {t : Text} (hdepth : 0 ≤ depth) (hdips : ¬StaysAbove depth t) :
    ∃ inner rest, t = inner ++ '}' :: rest ∧ StaysAbove depth inner ∧
      depth + excess inner = 0 := by
  induction t generalizing depth with
  | nil => exact absurd hdepth hdips
  | cons c t ih =>
      by_cases hstep : 0 ≤ depth + braceStep c
      · have hrest : ¬StaysAbove (depth + braceStep c) t :=
          fun hstays => hdips ⟨hdepth, hstays⟩
        obtain ⟨inner, rest, rfl, hinner, hsettled⟩ := ih hstep hrest
        refine ⟨c :: inner, rest, rfl, ⟨hdepth, hinner⟩, ?_⟩
        rw [excess_cons]
        omega
      · have hclose : c = '}' ∧ depth = 0 := by
          unfold braceStep at hstep
          split at hstep
          · omega
          · split at hstep
            · exact ⟨‹_›, by omega⟩
            · omega
        obtain ⟨rfl, rfl⟩ := hclose
        exact ⟨[], t, rfl, Int.le_refl 0, by simp⟩

theorem ClosedEarly.dips {body : Text} (h : body.ClosedEarly) :
    ∃ start, start <+: body ∧ excess start < 0 := by
  obtain ⟨inner, rest, hinner, rfl⟩ := h
  refine ⟨inner ++ ['}'], ⟨rest, by simp⟩, ?_⟩
  have hclose : braceStep '}' = -1 := by decide
  rw [excess_append, hinner.settled, excess_cons, excess_nil, hclose]
  omega

theorem ClosedEarly.not_balanced {body : Text} (h : body.ClosedEarly) : ¬body.Balanced := by
  obtain ⟨start, hstart, hneg⟩ := h.dips
  intro hbody
  have hnonneg := hbody.nonneg start hstart
  omega

theorem closedEarly_of_not_balanced
    {body : Text} (hsettled : excess body = 0) (hbody : ¬body.Balanced) :
    body.ClosedEarly := by
  have hdips : ¬StaysAbove 0 body :=
    fun hstays => hbody (balanced_iff.mpr ⟨hstays, hsettled⟩)
  obtain ⟨inner, rest, hsplit, hinner, hdepth⟩ :=
    exists_unopened_of_not_staysAbove (Int.le_refl 0) hdips
  exact ⟨inner, rest, balanced_iff.mpr ⟨hinner, by simpa using hdepth⟩, hsplit⟩

/-! ## The cut -/

/-- Read from the given depth, the text comes down to zero at its end, without
going below it before and without a comma there. -/
structure ClosesFrom (depth : Int) (t : Text) : Prop where
  stays : StaysAbove depth t
  inside : CommasInside depth t
  settled : depth + excess t = 0

theorem closesFrom_zero_iff {t : Text} : ClosesFrom 0 t ↔ t.Closed := by
  rw [closed_iff]
  constructor
  · intro h
    exact ⟨h.stays, h.inside, by simpa using h.settled⟩
  · rintro ⟨hstays, hinside, hsettled⟩
    exact ⟨hstays, hinside, by simpa using hsettled⟩

theorem ClosesFrom.tail
    {depth : Int} {c : Char} {t : Text} (h : ClosesFrom depth (c :: t)) :
    ClosesFrom (depth + braceStep c) t := by
  refine ⟨h.stays.2, h.inside.2, ?_⟩
  have hsettled := h.settled
  rw [excess_cons] at hsettled
  omega

theorem cutCommas_of_closesFrom
    {depth : Int} {t : Text} (h : ClosesFrom depth t) : cutCommas depth t = [t] := by
  induction t generalizing depth with
  | nil => rfl
  | cons c rest ih =>
      have houter : ¬(c = ',' ∧ depth = 0) := by
        rintro ⟨hcomma, hzero⟩
        exact h.inside.1 hcomma hzero
      rw [cutCommas, if_neg houter, ih h.tail]

/-- The first comma behind a closed text is where the cut begins. -/
theorem cutCommas_append_comma
    {depth : Int} {first : Text} (h : ClosesFrom depth first) (rest : Text) :
    cutCommas depth (first ++ ',' :: rest) = first :: cutCommas 0 rest := by
  induction first generalizing depth with
  | nil =>
      have hzero : depth = 0 := by simpa using h.settled
      rw [List.nil_append, cutCommas, if_pos ⟨rfl, hzero⟩, hzero]
  | cons c first ih =>
      have houter : ¬(c = ',' ∧ depth = 0) := by
        rintro ⟨hcomma, hzero⟩
        exact h.inside.1 hcomma hzero
      rw [List.cons_append, cutCommas, if_neg houter, ih h.tail]

theorem cutCommas_intercalate
    {parts : List Text} (hparts : parts ≠ []) (hclosed : ∀ part ∈ parts, part.Closed) :
    cutCommas 0 ([','].intercalate parts) = parts := by
  induction parts with
  | nil => exact absurd rfl hparts
  | cons first rest ih =>
      have hfirst : ClosesFrom 0 first :=
        closesFrom_zero_iff.mpr (hclosed first List.mem_cons_self)
      cases rest with
      | nil =>
          rw [List.intercalate_singleton]
          exact cutCommas_of_closesFrom hfirst
      | cons second rest =>
          rw [List.intercalate_cons_cons, List.append_assoc, List.singleton_append,
            cutCommas_append_comma hfirst, ih (by simp)]
          intro part hpart
          exact hclosed part (List.mem_cons_of_mem first hpart)

/-- What the cut of a text gives, read from a depth from which it comes down to zero. -/
theorem cutCommas_spec
    {depth : Int} {t : Text} (hstays : StaysAbove depth t)
    (hsettled : depth + excess t = 0) :
    ∃ first rest, cutCommas depth t = first :: rest ∧ ClosesFrom depth first ∧
      (∀ part ∈ rest, part.Closed) ∧ [','].intercalate (first :: rest) = t := by
  induction t generalizing depth with
  | nil => exact ⟨[], [], rfl, ⟨hstays, trivial, hsettled⟩, by simp, by simp⟩
  | cons c t ih =>
      have hsettled' : depth + braceStep c + excess t = 0 := by
        rw [excess_cons] at hsettled
        omega
      obtain ⟨first, rest, hcut, hfirst, hrest, hjoin⟩ := ih hstays.2 hsettled'
      by_cases houter : c = ',' ∧ depth = 0
      · obtain ⟨rfl, rfl⟩ := houter
        rw [braceStep_comma, Int.add_zero] at hcut hfirst
        refine ⟨[], first :: rest, ?_, ⟨hstays.1, trivial, rfl⟩, ?_, ?_⟩
        · rw [cutCommas, if_pos ⟨rfl, rfl⟩, hcut]
        · intro part hpart
          rcases List.mem_cons.mp hpart with rfl | hmem
          · exact closesFrom_zero_iff.mp hfirst
          · exact hrest part hmem
        · rw [List.intercalate_cons_cons, hjoin]
          rfl
      · refine ⟨c :: first, rest, ?_, ⟨⟨hstays.1, hfirst.stays⟩, ⟨?_, hfirst.inside⟩, ?_⟩,
          hrest, ?_⟩
        · rw [cutCommas, if_neg houter, hcut]
        · intro hcomma hzero
          exact houter ⟨hcomma, hzero⟩
        · have hdone := hfirst.settled
          rw [excess_cons]
          omega
        · cases rest with
          | nil =>
              rw [List.intercalate_singleton] at hjoin ⊢
              rw [hjoin]
          | cons second rest =>
              rw [List.intercalate_cons_cons] at hjoin ⊢
              rw [← hjoin]
              rfl

theorem segments_of_balanced {t : Text} (h : t.Balanced) :
    t.segments = .ok (cutCommas 0 t) := by
  obtain ⟨hstays, hsettled⟩ := balanced_iff.mp h
  have hdips : dipsBelow 0 t = false := (dipsBelow_eq_false_iff (Int.le_refl 0)).mpr hstays
  simp [segments, hdips, braceDepth_eq, hsettled]

theorem balanced_of_segments {t : Text} {parts : List Text} (h : t.segments = .ok parts) :
    t.Balanced := by
  unfold segments at h
  split at h
  · contradiction
  · next hdips =>
      split at h
      · contradiction
      · next hdepth =>
          have hstays : StaysAbove 0 t :=
            (dipsBelow_eq_false_iff (Int.le_refl 0)).mp (by simpa using hdips)
          have hend := hstays.le.2
          rw [braceDepth_eq] at hdepth
          exact balanced_iff.mpr ⟨hstays, by omega⟩

/-- A text is cut exactly into the closed texts of which it is the comma-join. -/
theorem segments_eq_ok_iff {t : Text} {parts : List Text} :
    t.segments = .ok parts ↔
      parts ≠ [] ∧ (∀ part ∈ parts, part.Closed) ∧ [','].intercalate parts = t := by
  constructor
  · intro h
    have hbalanced := balanced_of_segments h
    obtain ⟨hstays, hsettled⟩ := balanced_iff.mp hbalanced
    obtain ⟨first, rest, hcut, hfirst, hrest, hjoin⟩ :=
      cutCommas_spec hstays (by simpa using hsettled)
    rw [segments_of_balanced hbalanced, hcut] at h
    cases h
    refine ⟨by simp, ?_, hjoin⟩
    intro part hpart
    rcases List.mem_cons.mp hpart with rfl | hmem
    · exact closesFrom_zero_iff.mp hfirst
    · exact hrest part hmem
  · rintro ⟨hparts, hclosed, rfl⟩
    have hbalanced : Balanced ([','].intercalate parts) :=
      balanced_intercalate_comma fun part hpart => (hclosed part hpart).balanced
    rw [segments_of_balanced hbalanced, cutCommas_intercalate hparts hclosed]

/-- A closed text is its own cut. -/
theorem segments_eq_self_iff {t : Text} : t.segments = .ok [t] ↔ t.Closed := by
  simp [segments_eq_ok_iff]

instance (t : Text) : Decidable t.Closed :=
  decidable_of_iff (t.segments = .ok [t]) segments_eq_self_iff

/-! ## Texts that are not cut -/

theorem balanced_or_dips_or_open (t : Text) :
    t.Balanced ∨ (∃ start, start <+: t ∧ excess start < 0) ∨
      ((∀ start, start <+: t → 0 ≤ excess start) ∧ 0 < excess t) := by
  by_cases hdips : ∃ start, start <+: t ∧ excess start < 0
  · exact .inr (.inl hdips)
  · have hnonneg : ∀ start, start <+: t → 0 ≤ excess start := by
      intro start hstart
      by_contra hneg
      exact hdips ⟨start, hstart, Int.not_le.mp hneg⟩
    have hend : 0 ≤ excess t := hnonneg t List.prefix_rfl
    by_cases hzero : excess t = 0
    · exact .inl ⟨hnonneg, hzero⟩
    · exact .inr (.inr ⟨hnonneg, by omega⟩)

theorem segments_of_open
    {t : Text} (hnonneg : ∀ start, start <+: t → 0 ≤ excess start)
    (hopen : 0 < excess t) : t.segments = .error (.unclosedBraces t) := by
  have hstays : StaysAbove 0 t := by
    rw [staysAbove_iff]
    intro start hstart
    simpa using hnonneg start hstart
  have hdips : dipsBelow 0 t = false :=
    (dipsBelow_eq_false_iff (Int.le_refl 0)).mpr hstays
  simp [segments, hdips, braceDepth_eq, hopen]

theorem segments_of_dips
    {t : Text} (hdips : ∃ start, start <+: t ∧ excess start < 0) :
    t.segments = .error (.unopenedBraces t) := by
  obtain ⟨start, hstart, hneg⟩ := hdips
  have hnot : ¬StaysAbove 0 t := by
    intro hstays
    have hnonneg := staysAbove_iff.mp hstays start hstart
    omega
  have htrue : dipsBelow 0 t = true := by
    rw [← dipsBelow_eq_false_iff (Int.le_refl 0)] at hnot
    simpa using hnot
  rw [segments, if_pos htrue]

end Text
end FieldRules
