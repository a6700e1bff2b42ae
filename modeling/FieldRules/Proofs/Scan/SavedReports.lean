import FieldRules.CommandLine
import FieldRules.Proofs.Json.RoundTrip
import FieldRules.Scan.ReportText

/-!
# Reports that are saved and loaded

A report printed as JSON is read back as it was, whatever characters its texts have.  The numbers
must fit into 64 bits, which is what they are counted in.
-/

namespace FieldRules

/-! ## Parts of a value -/

namespace Json

theorem natural?_ofNat {n : Nat} (hfits : n < 18446744073709551616) :
    (Json.number (Text.ofNat n)).natural? = some n := by
  have hdigits := Text.writesNat_ofNat n
  have hall : (Text.ofNat n).all Char.isDigit = true := List.all_eq_true.mpr hdigits.digits
  have hvalue : (Text.ofNat n).foldl (fun value c => value * 10 + (c.toNat - '0'.toNat)) 0 = n := by
    calc (Text.ofNat n).foldl (fun value c => value * 10 + (c.toNat - '0'.toNat)) 0
      _ = Nat.ofDigitChars 10 (Text.ofNat n) 0 := by simp only [Nat.ofDigitChars, Nat.mul_comm]
      _ = n := hdigits.value.symm
  simp only [natural?, hall, hvalue, hfits, if_true]

theorem listOf?_map {α : Type} {read : Json → Option α} {write : α → Json} {list : List α}
    (hread : ∀ item ∈ list, read (write item) = some item) :
    (Json.array (list.map write)).listOf? read = some list :=
  mapM_map_eq_some hread

/-- The value of the only member with the name. -/
def member? (members : List (Text × Json)) (name : Text) : Option Json :=
  match members.filter fun entry => entry.1 = name with
  | [(_, value)] => some value
  | _ => none

theorem fields?_object (names : List Text) (members : List (Text × Json)) :
    (Json.object members).fields? names = names.mapM (member? members) := rfl

theorem member?_append_cons
    {front behind : List (Text × Json)} {name : Text} (value : Json)
    (hfront : ∀ entry ∈ front, entry.1 ≠ name) (hbehind : ∀ entry ∈ behind, entry.1 ≠ name) :
    member? (front ++ (name, value) :: behind) name = some value := by
  have hnone (members : List (Text × Json)) (hmembers : ∀ entry ∈ members, entry.1 ≠ name) :
      (members.filter fun entry => entry.1 = name) = [] :=
    List.filter_eq_nil_iff.mpr fun entry hentry => by simpa using hmembers entry hentry
  rw [member?, List.filter_append, List.filter_cons_of_pos (by simp), hnone front hfront,
    hnone behind hbehind]
  rfl

/-- The induction goes through the names that are still to be looked up; their values stand behind
the members that have been passed. -/
theorem mapM_member?_append_zip
    {names : List Text} {values : List Json} (hnames : names.Nodup)
    (hlength : names.length = values.length) {front : List (Text × Json)}
    (hfront : ∀ entry ∈ front, entry.1 ∉ names) :
    names.mapM (member? (front ++ names.zip values)) = some values := by
  induction names generalizing values front with
  | nil =>
      rw [List.eq_nil_of_length_eq_zero hlength.symm]
      rfl
  | cons name names ih =>
      cases values with
      | nil => contradiction
      | cons value values =>
          obtain ⟨hname, hnames⟩ := List.nodup_cons.mp hnames
          have hpassed : ∀ entry ∈ front, entry.1 ≠ name := by
            intro entry hentry heq
            exact hfront entry hentry (heq ▸ List.mem_cons_self)
          have hahead : ∀ entry ∈ names.zip values, entry.1 ≠ name := by
            intro entry hentry heq
            exact hname (heq ▸ (List.of_mem_zip hentry).1)
          have hnext : ∀ entry ∈ front ++ [(name, value)], entry.1 ∉ names := by
            intro entry hentry
            rcases List.mem_append.mp hentry with hold | hnew
            · exact mt (List.mem_cons_of_mem name) (hfront entry hold)
            · rw [List.mem_singleton.mp hnew]
              exact hname
          have hrest := ih hnames (Nat.succ.inj hlength) hnext
          rw [List.append_assoc, List.singleton_append] at hrest
          rw [List.zip_cons_cons, List.mapM_cons, member?_append_cons value hpassed hahead, hrest]
          rfl

theorem fields?_zip
    {names : List Text} {values : List Json} (hnames : names.Nodup)
    (hlength : names.length = values.length) :
    (Json.object (names.zip values)).fields? names = some values := by
  have hall : names.mapM (member? ([] ++ names.zip values)) = some values :=
    mapM_member?_append_zip hnames hlength (by simp)
  rw [fields?_object]
  exact hall

theorem Printable.of_zip {names : List Text} {values : List Json}
    (hvalues : ∀ value ∈ values, Printable value) : Printable (.object (names.zip values)) :=
  .object fun _ hentry => hvalues _ (List.of_mem_zip hentry).2

theorem Printable.of_map {α : Type} {write : α → Json} (list : List α)
    (hwrite : ∀ item, Printable (write item)) : Printable (.array (list.map write)) := by
  apply Printable.array
  intro element helement
  obtain ⟨item, _, rfl⟩ := List.mem_map.mp helement
  exact hwrite item

end Json

/-! ## Reports -/

/-- The numbers of the report fit into 64 bits. -/
structure Report.Fits (report : Report) : Prop where
  filesScanned : report.filesScanned < 18446744073709551616
  line : ∀ diagnostic ∈ report.diagnostics, diagnostic.line < 18446744073709551616
  column : ∀ diagnostic ∈ report.diagnostics, diagnostic.column < 18446744073709551616

theorem Diagnostic.ofJson?_toJson
    {diagnostic : Diagnostic} (hline : diagnostic.line < 18446744073709551616)
    (hcolumn : diagnostic.column < 18446744073709551616) :
    ofJson? diagnostic.toJson = some diagnostic := by
  rw [ofJson?, toJson, Json.fields?_zip (by decide) rfl]
  simp only [Json.text?, Json.natural?_ofNat hline, Json.natural?_ofNat hcolumn]
  rfl

theorem Report.ofJson?_toJson {report : Report} (hfits : report.Fits) :
    ofJson? report.toJson = some report := by
  have hnames : (Json.array (report.customValidators.map .string)).listOf? Json.text? =
      some report.customValidators := Json.listOf?_map fun _ _ => rfl
  have hdiagnostics : (Json.array (report.diagnostics.map Diagnostic.toJson)).listOf?
      Diagnostic.ofJson? = some report.diagnostics :=
    Json.listOf?_map fun diagnostic hmem =>
      Diagnostic.ofJson?_toJson (hfits.line diagnostic hmem) (hfits.column diagnostic hmem)
  rw [ofJson?, toJson, Json.fields?_zip (by decide) rfl]
  simp only [Json.natural?_ofNat hfits.filesScanned, hnames, hdiagnostics]
  rfl

theorem Diagnostic.printable_toJson (diagnostic : Diagnostic) : diagnostic.toJson.Printable := by
  apply Json.Printable.of_zip
  simp [Json.Printable.string, Json.Printable.number]

theorem Report.printable_toJson (report : Report) : report.toJson.Printable := by
  apply Json.Printable.of_zip
  simp [Json.Printable.number, Json.Printable.of_map _ Json.Printable.string,
    Json.Printable.of_map _ Diagnostic.printable_toJson]

theorem Report.read?_print_append
    {report : Report} (hfits : report.Fits) {blanks : Text}
    (hblanks : ∀ c ∈ blanks, Json.isBlank c = true) :
    read? (report.print ++ blanks) = some report := by
  rw [read?, print, Json.read?_print_append report.printable_toJson hblanks, Option.bind_some,
    ofJson?_toJson hfits]

/-- What the command line prints of a report as JSON is read back as the same report. -/
theorem Report.read?_exact {report : Report} (hfits : report.Fits) :
    read? report.print = some report ∧
      read? (CommandLine.showReport .json report).out = some report ∧
      ∀ root tree, ofPackage .standard root tree = .ok report →
        read? (CommandLine.scan .json root tree).out = some report := by
  have hshown : read? (CommandLine.showReport .json report).out = some report := by
    have hout : (CommandLine.showReport .json report).out = report.print ++ ['\n'] := by
      simp [CommandLine.showReport, CommandLine.unlines]
    rw [hout]
    exact read?_print_append hfits (List.forall_mem_singleton.mpr rfl)
  refine ⟨?_, hshown, ?_⟩
  · rw [← List.append_nil report.print]
    exact read?_print_append hfits (by simp)
  · intro root tree hreport
    rw [CommandLine.scan, hreport]
    exact hshown

/-- The greatest number, and texts with braces, quotes, a backslash, control characters and
characters beyond ASCII. -/
theorem Report.read?_exact_escapes :
    let report : Report := ⟨18446744073709551615, ["caf\u00e9".toList], [{
      file := ⟨"src\\order.rs".toList⟩
      line := 18446744073709551615
      column := 1
      record := "\u6ce8\u6587".toList
      field := "\x00\x1f\x7f".toList
      annotation := "each:\x7b\"min\"=\t1\x7d".toList
      message := "two\nlines\u2028\ud7ff".toList }]⟩
    report.Fits ∧ read? report.print = some report ∧
      read? (CommandLine.showReport .json report).out = some report := by
  intro report
  have hfits : report.Fits := by
    constructor
    · decide
    · simp [report]
    · simp [report]
  obtain ⟨hread, hshown, _⟩ := read?_exact hfits
  exact ⟨hfits, hread, hshown⟩

end FieldRules
