import FieldRules.Json.Printer
import FieldRules.Json.Reader
import FieldRules.Proofs.Text.NumeralFaults

/-!
# Printed values are read back

Reading takes a value from the beginning of a text, so the statements are about a printed value
with something behind it.  What follows matters for numbers alone, which would go on with another
digit.  Printing several lines adds blanks only in places where they are skipped.
-/

namespace FieldRules.Json

/-- Nothing of the value is lost when it is printed: its numbers are natural numbers, and all of it
is readable. -/
inductive Printable : Json → Prop where
  | null : Printable .null
  | bool (value : Bool) : Printable (.bool value)
  | number (n : Nat) : Printable (.number (Text.ofNat n))
  | string (text : Text) : Printable (.string text)
  | array {elements : List Json} (helements : ∀ element ∈ elements, Printable element) :
      Printable (.array elements)
  | object {members : List (Text × Json)} (hmembers : ∀ entry ∈ members, Printable entry.2) :
      Printable (.object members)

/-- A number does not go on with the text. -/
def EndsNumber (rest : Text) : Prop :=
  ∀ c ∈ rest.head?, c.isDigit = false ∧ c ≠ '.' ∧ c ≠ 'e' ∧ c ≠ 'E'

/-- The text begins with something, and not with the end of a list. -/
def Starts (t : Text) : Prop :=
  ∃ c rest, t = c :: rest ∧ isBlank c = false ∧ c ≠ ']' ∧ c ≠ '}'

/-! ## What is printed -/

section Printing

variable (level : Nat)

theorem printAt_null : printAt level .null = ['n', 'u', 'l', 'l'] := rfl

theorem printAt_true : printAt level (.bool true) = ['t', 'r', 'u', 'e'] := rfl

theorem printAt_false : printAt level (.bool false) = ['f', 'a', 'l', 's', 'e'] := rfl

theorem printAt_number (numeral : Text) : printAt level (.number numeral) = numeral := rfl

theorem printAt_string (text : Text) :
    printAt level (.string text) = '"' :: (text.flatMap escape ++ ['"']) := rfl

theorem printAt_array_nil : printAt level (.array []) = ['[', ']'] := rfl

theorem printAt_object_nil : printAt level (.object []) = ['{', '}'] := rfl

theorem printAt_array {elements : List Json} (helements : elements ≠ []) :
    printAt level (.array elements) =
      '[' :: (lineStart (level + 1) ++ (printElements (level + 1) elements ++
        (lineStart level ++ [']']))) := by
  cases elements with
  | nil => contradiction
  | cons element rest =>
      have hprint : printAt level (.array (element :: rest)) =
          '[' :: lineStart (level + 1) ++ printElements (level + 1) (element :: rest)
            ++ lineStart level ++ [']'] := rfl
      simp only [hprint, List.cons_append, List.append_assoc]

theorem printAt_object {members : List (Text × Json)} (hmembers : members ≠ []) :
    printAt level (.object members) =
      '{' :: (lineStart (level + 1) ++ (printMembers (level + 1) members ++
        (lineStart level ++ ['}']))) := by
  cases members with
  | nil => contradiction
  | cons entry rest =>
      have hprint : printAt level (.object (entry :: rest)) =
          '{' :: lineStart (level + 1) ++ printMembers (level + 1) (entry :: rest)
            ++ lineStart level ++ ['}'] := rfl
      simp only [hprint, List.cons_append, List.append_assoc]

theorem printElements_singleton (element : Json) :
    printElements level [element] = printAt level element := rfl

theorem printElements_cons (element second : Json) (rest : List Json) :
    printElements level (element :: second :: rest) =
      printAt level element ++ ',' :: (lineStart level ++ printElements level (second :: rest)) := by
  have hprint : printElements level (element :: second :: rest) =
      printAt level element ++ ',' :: lineStart level ++ printElements level (second :: rest) := rfl
  simp only [hprint, List.cons_append, List.append_assoc]

theorem printMembers_singleton (name : Text) (value : Json) :
    printMembers level [(name, value)] =
      '"' :: (name.flatMap escape ++ '"' :: ':' :: ' ' :: printAt level value) := by
  have hprint : printMembers level [(name, value)] =
      printString name ++ ':' :: ' ' :: printAt level value := rfl
  simp only [hprint, printString, List.cons_append, List.append_assoc, List.nil_append]

theorem printMembers_cons (name : Text) (value : Json) (second : Text × Json)
    (rest : List (Text × Json)) :
    printMembers level ((name, value) :: second :: rest) =
      '"' :: (name.flatMap escape ++ '"' :: ':' :: ' ' ::
        (printAt level value ++ ',' :: (lineStart level ++ printMembers level (second :: rest)))) := by
  have hprint : printMembers level ((name, value) :: second :: rest) =
      printString name ++ ':' :: ' ' :: printAt level value
        ++ ',' :: lineStart level ++ printMembers level (second :: rest) := rfl
  simp only [hprint, printString, List.cons_append, List.append_assoc, List.nil_append]

end Printing

/-! ## Strings -/

theorem hexQuad?_hexPair :
    ∀ n < 32, hexQuad? '0' '0' (Nat.digitChar (n / 16)) (Nat.digitChar (n % 16)) = some n := by
  decide

theorem readUnits_short {mark c : Char} (hescape : shortEscape? mark = some c) (rest : Text) :
    readUnits ('\\' :: mark :: rest) =
      (readUnits rest).map fun parts => (.char c :: parts.1, parts.2) := by
  have hmark : mark ≠ 'u' := by
    intro heq
    rw [heq] at hescape
    contradiction
  rw [readUnits, hescape]
  · cases readUnits rest with
    | none => rfl
    | some parts => rfl
  · simp [hmark]

theorem readUnits_control {c : Char} (hcontrol : c < ' ') (rest : Text) :
    readUnits (['\\', 'u', '0', '0'] ++ hexPair c.toNat ++ rest) =
      (readUnits rest).map fun parts => (.char c :: parts.1, parts.2) := by
  have hsmall : c.toNat < 32 := hcontrol
  have hunit : Unit16.ofNat c.toNat = .char c := by
    rw [Unit16.ofNat, if_neg (by omega), if_neg (by omega), Char.ofNat_toNat]
  simp only [hexPair, List.cons_append, List.nil_append]
  rw [readUnits, hexQuad?_hexPair _ hsmall]
  cases readUnits rest with
  | none => rfl
  | some parts => simp [hunit]

theorem readUnits_plain
    {c : Char} (hquote : c ≠ '"') (hbackslash : c ≠ '\\') (hcontrol : ¬c < ' ') (rest : Text) :
    readUnits (c :: rest) = (readUnits rest).map fun parts => (.char c :: parts.1, parts.2) := by
  rw [readUnits, if_neg hcontrol]
  · cases readUnits rest with
    | none => rfl
    | some parts => rfl
  · simp [hquote]
  · simp [hbackslash]
  · simp [hbackslash]

/-- What a character is escaped as stands for the character again. -/
theorem readUnits_escape (c : Char) (rest : Text) :
    readUnits (escape c ++ rest) =
      (readUnits rest).map fun parts => (.char c :: parts.1, parts.2) := by
  unfold escape
  split_ifs with hquote hbackslash hnewline hreturn htab hbackspace hfeed hcontrol
  · rw [hquote]
    exact readUnits_short rfl rest
  · rw [hbackslash]
    exact readUnits_short rfl rest
  · rw [hnewline]
    exact readUnits_short rfl rest
  · rw [hreturn]
    exact readUnits_short rfl rest
  · rw [htab]
    exact readUnits_short rfl rest
  · rw [hbackspace]
    exact readUnits_short rfl rest
  · rw [hfeed]
    exact readUnits_short rfl rest
  · exact readUnits_control hcontrol rest
  · exact readUnits_plain hquote hbackslash hcontrol rest

theorem readUnits_flatMap_escape (text rest : Text) :
    readUnits (text.flatMap escape ++ '"' :: rest) = some (text.map .char, rest) := by
  induction text with
  | nil => rfl
  | cons c text ih =>
      rw [List.flatMap_cons, List.append_assoc, readUnits_escape, ih]
      rfl

theorem pairUnits_map_char (text : Text) : pairUnits (text.map .char) = some text := by
  induction text with
  | nil => rfl
  | cons c text ih => rw [List.map_cons, pairUnits, ih, Option.map_some]

/-! ## Numbers -/

theorem takeDigits?_ofNat (n : Nat) {rest : Text} (hends : EndsNumber rest) :
    takeDigits? (Text.ofNat n ++ rest) = some (Text.ofNat n, rest) := by
  have hdigits := (Text.writesNat_ofNat n).digits
  have hstop : rest.takeWhile Char.isDigit = [] ∧ rest.dropWhile Char.isDigit = rest := by
    cases rest with
    | nil => exact ⟨rfl, rfl⟩
    | cons c more =>
        obtain ⟨hdigit, _⟩ := hends c rfl
        simp [hdigit]
  obtain ⟨htake, hdrop⟩ := hstop
  rw [takeDigits?, List.takeWhile_append_of_pos hdigits, htake, List.append_nil,
    List.dropWhile_append_of_pos hdigits, hdrop]
  split
  · next hnil => exact absurd hnil (Text.writesNat_ofNat n).ne_nil
  · rfl

theorem takeWhole?_ofNat (n : Nat) {rest : Text} (hends : EndsNumber rest) :
    takeWhole? (Text.ofNat n ++ rest) = some (Text.ofNat n, rest) := by
  rw [takeWhole?, takeDigits?_ofNat n hends]
  split
  · next heq =>
    obtain ⟨hzero, _⟩ := Prod.mk.inj (Option.some.inj heq)
    exact absurd hzero (Text.ofNat_ne_zero_cons n _ _)
  · rfl

theorem takeUnsigned?_ofNat (n : Nat) {rest : Text} (hends : EndsNumber rest) :
    takeUnsigned? (Text.ofNat n ++ rest) = some (Text.ofNat n, rest) := by
  have hfraction : takeFraction? rest = some ([], rest) := by
    unfold takeFraction?
    split
    · exact absurd rfl (hends '.' rfl).2.1
    · rfl
  have hexponent : takeExponent? rest = some ([], rest) := by
    cases rest with
    | nil => rfl
    | cons c more =>
        obtain ⟨_, _, hsmall, hgreat⟩ := hends c rfl
        simp [takeExponent?, hsmall, hgreat]
  rw [takeUnsigned?, takeWhole?_ofNat n hends]
  simp only [Option.bind_eq_bind, Option.bind_some, hfraction, hexponent, List.append_nil]
  rfl

theorem exists_digit_ofNat (n : Nat) : ∃ c rest, Text.ofNat n = c :: rest ∧ c.isDigit = true := by
  cases hdigits : Text.ofNat n with
  | nil => exact absurd hdigits (Text.writesNat_ofNat n).ne_nil
  | cons c rest =>
      refine ⟨c, rest, rfl, (Text.writesNat_ofNat n).digits c ?_⟩
      rw [hdigits]
      exact List.mem_cons_self

theorem ne_of_isDigit {c mark : Char} (hdigit : c.isDigit = true) (hmark : mark.isDigit = false) :
    c ≠ mark := by
  intro heq
  rw [heq, hmark] at hdigit
  contradiction

theorem takeNumber?_ofNat (n : Nat) {rest : Text} (hends : EndsNumber rest) :
    takeNumber? (Text.ofNat n ++ rest) = some (Text.ofNat n, rest) := by
  rw [← takeUnsigned?_ofNat n hends]
  obtain ⟨c, more, hdigits, hdigit⟩ := exists_digit_ofNat n
  rw [hdigits, List.cons_append, takeNumber?]
  simp [ne_of_isDigit hdigit (by decide : '-'.isDigit = false)]

theorem readValue_digit {c : Char} (hdigit : c.isDigit = true) (depth : Nat) (rest : Text) :
    readValue (depth + 1) (c :: rest) =
      (takeNumber? (c :: rest)).map fun parts => (.number parts.1, parts.2) := by
  have hother (mark : Char) (more : Text) (hmark : mark.isDigit = false) :
      c :: rest ≠ mark :: more := fun heq => ne_of_isDigit hdigit hmark (List.cons.inj heq).1
  rw [readValue]
  all_goals
    intro more
    exact hother _ _ (by decide)

/-! ## Blanks -/

theorem skipBlanks_cons {c : Char} (hc : isBlank c = false) (rest : Text) :
    skipBlanks (c :: rest) = c :: rest :=
  List.dropWhile_cons_of_neg (by simp [hc])

theorem skipBlanks_of_starts {t : Text} (hstarts : Starts t) : skipBlanks t = t := by
  obtain ⟨c, rest, rfl, hc, _⟩ := hstarts
  exact skipBlanks_cons hc rest

theorem skipBlanks_lineStart (level : Nat) (t : Text) :
    skipBlanks (lineStart level ++ t) = skipBlanks t := by
  apply List.dropWhile_append_of_pos
  intro c hc
  rcases List.mem_cons.mp hc with rfl | hc
  · decide
  · rw [List.eq_of_mem_replicate hc]
    decide

theorem Starts.append {t : Text} (hstarts : Starts t) (rest : Text) : Starts (t ++ rest) := by
  obtain ⟨c, more, rfl, hc⟩ := hstarts
  exact ⟨c, more ++ rest, rfl, hc⟩

theorem Starts.exists_succ {t : Text} (hstarts : Starts t) {depth : Nat} (hdepth : t.length ≤ depth) :
    ∃ fuel, depth = fuel + 1 := by
  obtain ⟨c, rest, rfl, _⟩ := hstarts
  rw [List.length_cons] at hdepth
  exact ⟨depth - 1, by omega⟩

theorem starts_cons {c : Char} (hc : isBlank c = false ∧ c ≠ ']' ∧ c ≠ '}') (rest : Text) :
    Starts (c :: rest) :=
  ⟨c, rest, rfl, hc⟩

theorem endsNumber_cons
    {c : Char} (hc : c.isDigit = false ∧ c ≠ '.' ∧ c ≠ 'e' ∧ c ≠ 'E') (rest : Text) :
    EndsNumber (c :: rest) := by
  intro first hfirst
  rw [← Option.some.inj hfirst]
  exact hc

theorem endsNumber_lineStart (level : Nat) (rest : Text) : EndsNumber (lineStart level ++ rest) :=
  endsNumber_cons (by decide) _

theorem starts_of_isDigit {c : Char} (hdigit : c.isDigit = true) :
    isBlank c = false ∧ c ≠ ']' ∧ c ≠ '}' := by
  have hne (mark : Char) (hmark : mark.isDigit = false) : c ≠ mark := ne_of_isDigit hdigit hmark
  simp [isBlank, hne ' ' (by decide), hne '\n' (by decide), hne '\t' (by decide),
    hne '\r' (by decide), hne ']' (by decide), hne '}' (by decide)]

theorem Printable.starts {value : Json} (h : value.Printable) (level : Nat) :
    Starts (printAt level value) := by
  cases h with
  | null =>
      rw [printAt_null]
      exact starts_cons (by decide) _
  | bool value =>
      cases value with
      | true =>
          rw [printAt_true]
          exact starts_cons (by decide) _
      | false =>
          rw [printAt_false]
          exact starts_cons (by decide) _
  | number n =>
      obtain ⟨c, rest, hdigits, hdigit⟩ := exists_digit_ofNat n
      rw [printAt_number, hdigits]
      exact starts_cons (starts_of_isDigit hdigit) rest
  | string text =>
      rw [printAt_string]
      exact starts_cons (by decide) _
  | @array elements _ =>
      by_cases hnil : elements = []
      · rw [hnil, printAt_array_nil]
        exact starts_cons (by decide) _
      · rw [printAt_array level hnil]
        exact starts_cons (by decide) _
  | @object members _ =>
      by_cases hnil : members = []
      · rw [hnil, printAt_object_nil]
        exact starts_cons (by decide) _
      · rw [printAt_object level hnil]
        exact starts_cons (by decide) _

theorem starts_printElements
    {level : Nat} {element : Json} (hstarts : Starts (printAt level element)) (rest : List Json) :
    Starts (printElements level (element :: rest)) := by
  cases rest with
  | nil => exact hstarts
  | cons second rest =>
      rw [printElements_cons]
      exact hstarts.append _

theorem starts_printMembers (level : Nat) {members : List (Text × Json)} (hmembers : members ≠ []) :
    Starts (printMembers level members) := by
  cases members with
  | nil => contradiction
  | cons entry others =>
      cases others with
      | nil =>
          rw [printMembers_singleton level entry.1 entry.2]
          exact starts_cons (by decide) _
      | cons second others =>
          rw [printMembers_cons level entry.1 entry.2 second others]
          exact starts_cons (by decide) _

/-! ## Values -/

/-- Wherever the value is printed, reading it gives it back. -/
def ReadsBack (value : Json) : Prop :=
  ∀ level depth rest, (printAt level value).length ≤ depth → EndsNumber rest →
    readValue depth (printAt level value ++ rest) = some (value, rest)

/-- Elements are read back, each with one step of the depth and at least so much of the text. -/
theorem readElements_printElements
    {elements : List Json} (hne : elements ≠ []) {level : Nat}
    (hstarts : ∀ element ∈ elements, Starts (printAt level element))
    (hreads : ∀ element ∈ elements, ReadsBack element) {depth : Nat}
    (hdepth : (printElements level elements).length < depth) (lower : Nat) (rest : Text) :
    readElements depth (printElements level elements ++ (lineStart lower ++ ']' :: rest)) =
      some (elements, rest) := by
  induction elements generalizing depth with
  | nil => contradiction
  | cons element others ih =>
      obtain ⟨fuel, rfl⟩ : ∃ fuel, depth = fuel + 1 := ⟨depth - 1, by omega⟩
      have hread := hreads element List.mem_cons_self
      cases others with
      | nil =>
          rw [printElements_singleton] at hdepth ⊢
          rw [readElements, hread level fuel _ (by omega) (endsNumber_lineStart _ _)]
          simp only [skipBlanks_lineStart, skipBlanks_cons (by decide : isBlank ']' = false)]
      | cons second others =>
          obtain ⟨_, hstarts⟩ := List.forall_mem_cons.mp hstarts
          obtain ⟨_, hreads⟩ := List.forall_mem_cons.mp hreads
          have hsecond := starts_printElements (hstarts second List.mem_cons_self) others
          simp only [printElements_cons, List.length_append, List.length_cons] at hdepth
          have hothers := ih (by simp) hstarts hreads (by omega : _ < fuel)
          simp only [printElements_cons, List.append_assoc, List.cons_append]
          rw [readElements, hread level fuel _ (by omega) (endsNumber_cons (by decide) _)]
          simp only [skipBlanks_cons (by decide : isBlank ',' = false), skipBlanks_lineStart,
            skipBlanks_of_starts (hsecond.append _), hothers, Option.map_some]

theorem readMembers_printMembers
    {members : List (Text × Json)} (hne : members ≠ []) {level : Nat}
    (hstarts : ∀ entry ∈ members, Starts (printAt level entry.2))
    (hreads : ∀ entry ∈ members, ReadsBack entry.2) {depth : Nat}
    (hdepth : (printMembers level members).length < depth) (lower : Nat) (rest : Text) :
    readMembers depth (printMembers level members ++ (lineStart lower ++ '}' :: rest)) =
      some (members.map fun entry => (some entry.1, entry.2), rest) := by
  induction members generalizing depth with
  | nil => contradiction
  | cons entry others ih =>
      obtain ⟨name, value⟩ := entry
      obtain ⟨fuel, rfl⟩ : ∃ fuel, depth = fuel + 1 := ⟨depth - 1, by omega⟩
      have hread : ReadsBack value := hreads (name, value) List.mem_cons_self
      have hstart (more : Text) := (hstarts (name, value) List.mem_cons_self).append more
      have hcolon : isBlank ':' = false := by decide
      have hblank (more : Text) : skipBlanks (' ' :: more) = skipBlanks more :=
        List.dropWhile_cons_of_pos (by decide)
      cases others with
      | nil =>
          simp only [printMembers_singleton, List.length_append, List.length_cons] at hdepth
          simp only [printMembers_singleton, List.append_assoc, List.cons_append]
          rw [readMembers, readUnits_flatMap_escape]
          simp only [skipBlanks_cons hcolon, hblank, skipBlanks_of_starts (hstart _)]
          rw [hread level fuel _ (by omega) (endsNumber_lineStart _ _)]
          simp only [skipBlanks_lineStart, skipBlanks_cons (by decide : isBlank '}' = false),
            pairUnits_map_char, List.map_singleton]
      | cons second others =>
          obtain ⟨_, hstarts⟩ := List.forall_mem_cons.mp hstarts
          obtain ⟨_, hreads⟩ := List.forall_mem_cons.mp hreads
          have hsecond := starts_printMembers level (List.cons_ne_nil second others)
          simp only [printMembers_cons, List.length_append, List.length_cons] at hdepth
          have hothers := ih (by simp) hstarts hreads (by omega : _ < fuel)
          simp only [printMembers_cons, List.append_assoc, List.cons_append]
          rw [readMembers, readUnits_flatMap_escape]
          simp only [skipBlanks_cons hcolon, hblank, skipBlanks_of_starts (hstart _)]
          rw [hread level fuel _ (by omega) (endsNumber_cons (by decide) _)]
          simp only [skipBlanks_cons (by decide : isBlank ',' = false), skipBlanks_lineStart,
            skipBlanks_of_starts (hsecond.append _), hothers, Option.map_some, pairUnits_map_char,
            List.map_cons]

theorem mapM_map_eq_some
    {α β : Type} {read : β → Option α} {write : α → β} {list : List α}
    (hread : ∀ item ∈ list, read (write item) = some item) :
    (list.map write).mapM read = some list := by
  induction list with
  | nil => rfl
  | cons item rest ih =>
      obtain ⟨hitem, hrest⟩ := List.forall_mem_cons.mp hread
      rw [List.map_cons, List.mapM_cons, hitem, ih hrest]
      rfl

theorem ofMembers_map_some (members : List (Text × Json)) :
    ofMembers (members.map fun entry => (some entry.1, entry.2)) = .object members := by
  have hall : (members.map fun entry => (some entry.1, entry.2)).mapM
      (fun entry => entry.1.map fun name => (name, entry.2)) = some members :=
    mapM_map_eq_some fun _ _ => rfl
  rw [ofMembers, hall]

theorem readValue_string (depth : Nat) (text rest : Text) :
    readValue (depth + 1) ('"' :: (text.flatMap escape ++ '"' :: rest)) =
      some (.string text, rest) := by
  rw [readValue, readUnits_flatMap_escape]
  simp only [pairUnits_map_char]

theorem readValue_array (depth level : Nat) {t : Text} (hstarts : Starts t) :
    readValue (depth + 1) ('[' :: (lineStart level ++ t)) =
      (readElements depth t).map fun parts => (.array parts.1, parts.2) := by
  rw [readValue, skipBlanks_lineStart, skipBlanks_of_starts hstarts]
  obtain ⟨c, rest, rfl, _, hend, _⟩ := hstarts
  split
  · next heq => exact absurd (List.cons.inj heq).1 hend
  · rfl

theorem readValue_object (depth level : Nat) {t : Text} (hstarts : Starts t) :
    readValue (depth + 1) ('{' :: (lineStart level ++ t)) =
      (readMembers depth t).map fun parts => (ofMembers parts.1, parts.2) := by
  rw [readValue, skipBlanks_lineStart, skipBlanks_of_starts hstarts]
  obtain ⟨c, rest, rfl, _, _, hend⟩ := hstarts
  split
  · next heq => exact absurd (List.cons.inj heq).1 hend
  · rfl

theorem Printable.readsBack {value : Json} (h : value.Printable) : value.ReadsBack := by
  induction h with
  | null =>
      intro level depth rest hdepth _
      obtain ⟨fuel, rfl⟩ := (Printable.null.starts level).exists_succ hdepth
      rw [printAt_null]
      rfl
  | bool value =>
      intro level depth rest hdepth _
      obtain ⟨fuel, rfl⟩ := ((Printable.bool value).starts level).exists_succ hdepth
      cases value with
      | true =>
          rw [printAt_true]
          rfl
      | false =>
          rw [printAt_false]
          rfl
  | number n =>
      intro level depth rest hdepth hends
      obtain ⟨fuel, rfl⟩ := ((Printable.number n).starts level).exists_succ hdepth
      obtain ⟨c, more, hdigits, hdigit⟩ := exists_digit_ofNat n
      have hread := takeNumber?_ofNat n hends
      rw [hdigits, List.cons_append] at hread
      rw [printAt_number, hdigits, List.cons_append, readValue_digit hdigit, hread, Option.map_some]
  | string text =>
      intro level depth rest hdepth _
      obtain ⟨fuel, rfl⟩ := ((Printable.string text).starts level).exists_succ hdepth
      rw [printAt_string, List.cons_append, List.append_assoc]
      exact readValue_string fuel text rest
  | @array elements helements ih =>
      intro level depth rest hdepth _
      obtain ⟨fuel, rfl⟩ := ((Printable.array helements).starts level).exists_succ hdepth
      cases elements with
      | nil =>
          rw [printAt_array_nil]
          rfl
      | cons element others =>
          have hstarts (entry) (hentry : entry ∈ element :: others) :
              Starts (printAt (level + 1) entry) := (helements entry hentry).starts (level + 1)
          have hfirst := starts_printElements (hstarts element List.mem_cons_self) others
          rw [printAt_array level (List.cons_ne_nil element others)] at hdepth ⊢
          simp only [List.length_cons, List.length_append] at hdepth
          simp only [List.cons_append, List.append_assoc, List.nil_append]
          rw [readValue_array _ _ (hfirst.append _),
            readElements_printElements (List.cons_ne_nil element others) hstarts ih (by omega),
            Option.map_some]
  | @object members hmembers ih =>
      intro level depth rest hdepth _
      obtain ⟨fuel, rfl⟩ := ((Printable.object hmembers).starts level).exists_succ hdepth
      by_cases hnil : members = []
      · rw [hnil, printAt_object_nil]
        rfl
      · have hstarts (entry) (hentry : entry ∈ members) :
            Starts (printAt (level + 1) entry.2) := (hmembers entry hentry).starts (level + 1)
        have hfirst := starts_printMembers (level + 1) hnil
        rw [printAt_object level hnil] at hdepth ⊢
        simp only [List.length_cons, List.length_append] at hdepth
        simp only [List.cons_append, List.append_assoc, List.nil_append]
        rw [readValue_object _ _ (hfirst.append _),
          readMembers_printMembers hnil hstarts ih (by omega), Option.map_some, ofMembers_map_some]

/-- A value is read back from what is printed of it, also with blanks behind. -/
theorem read?_print_append
    {value : Json} (h : value.Printable) {blanks : Text} (hblanks : ∀ c ∈ blanks, isBlank c = true) :
    read? (value.print ++ blanks) = some value := by
  have hends : EndsNumber blanks := by
    intro c hc
    have hblank := hblanks c (List.mem_of_mem_head? hc)
    simp only [isBlank, Bool.or_eq_true, beq_iff_eq] at hblank
    rcases hblank with ((rfl | rfl) | rfl) | rfl
    all_goals decide
  have hlength : (printAt 0 value).length ≤ 2 * (printAt 0 value ++ blanks).length + 2 := by
    rw [List.length_append]
    omega
  have hstarts : Starts (printAt 0 value ++ blanks) := (h.starts 0).append blanks
  have hrest : skipBlanks blanks = [] := List.dropWhile_eq_nil_iff.mpr hblanks
  rw [print, read?, skipBlanks_of_starts hstarts, h.readsBack 0 _ blanks hlength hends]
  simp [hrest]

end FieldRules.Json
