import FieldRules.Proofs.Validation.Bounds

/-!
# What counts as present

The rule that asks for presence looks for something that is not zero.  It looks into
arrays and records, at any depth, but neither into lists nor into optional values
below the first level.  The leaves of a value say where it looks, and the rule fails
exactly if all of them are zero.  Where the size of a value can be counted, this is
the same as asking for a size of at least one.
-/

namespace FieldRules

namespace Value

/-- The second value is reached from the first one through elements of arrays and fields of records,
and it is neither an array nor a record itself. -/
inductive HasLeaf : Value → Value → Prop where
  | leaf {value : Value} (harray : value.kind ≠ .array) (hrecord : value.kind ≠ .record) :
      HasLeaf value value
  | element {elements : List Value} {element leaf : Value} (hmem : element ∈ elements)
      (h : HasLeaf element leaf) : HasLeaf (.array elements) leaf
  | field {name : Text} {fields : List (Field Value)} {field : Field Value} {leaf : Value}
      (hmem : field ∈ fields) (h : HasLeaf field.value leaf) : HasLeaf (.record name fields) leaf

/-- The leaves that are zero.  A list is only if it is empty, an optional value never. -/
inductive ZeroLeaf : Value → Prop where
  | nil : ZeroLeaf .nil
  | bool : ZeroLeaf (.bool false)
  | int : ZeroLeaf (.int 0)
  | uint : ZeroLeaf (.uint 0)
  | float : ZeroLeaf (.float 0)
  | text : ZeroLeaf (.text [])
  | list : ZeroLeaf (.list [])
  | map : ZeroLeaf (.map 0)

/-! ## Leaves -/

variable {value leaf : Value}

theorem hasLeaf_iff_eq (harray : value.kind ≠ .array) (hrecord : value.kind ≠ .record) :
    value.HasLeaf leaf ↔ leaf = value := by
  constructor
  · intro h
    cases h with
    | leaf _ _ => rfl
    | element _ _ => contradiction
    | field _ _ => contradiction
  · rintro rfl
    exact .leaf harray hrecord

theorem hasLeaf_array_iff {elements : List Value} :
    (Value.array elements).HasLeaf leaf ↔ ∃ element ∈ elements, element.HasLeaf leaf := by
  constructor
  · intro h
    cases h with
    | leaf harray _ => contradiction
    | element hmem h => exact ⟨_, hmem, h⟩
  · rintro ⟨element, hmem, h⟩
    exact .element hmem h

theorem hasLeaf_record_iff {name : Text} {fields : List (Field Value)} :
    (Value.record name fields).HasLeaf leaf ↔ ∃ field ∈ fields, field.value.HasLeaf leaf := by
  constructor
  · intro h
    cases h with
    | leaf _ hrecord => contradiction
    | field hmem h => exact ⟨_, hmem, h⟩
  · rintro ⟨field, hmem, h⟩
    exact .field hmem h

/-- A value that is neither an array nor a record is zero if it is a leaf that is. -/
theorem isZero_eq_true_iff_zeroLeaf
    (harray : value.kind ≠ .array) (hrecord : value.kind ≠ .record) :
    value.isZero = true ↔ value.ZeroLeaf := by
  constructor
  · intro hzero
    cases value with
    | nil => exact .nil
    | optional inner => contradiction
    | array elements => contradiction
    | record name fields => contradiction
    | _ =>
        simp only [isZero, Bool.not_eq_true', beq_iff_eq, List.isEmpty_iff] at hzero
        subst hzero
        constructor
  · intro hzero
    cases hzero <;> rfl

/-! ## A value is zero if its leaves are -/

def AllLeavesZero (value : Value) : Prop := ∀ leaf, value.HasLeaf leaf → leaf.ZeroLeaf

theorem allLeavesZero_iff_zeroLeaf
    (harray : value.kind ≠ .array) (hrecord : value.kind ≠ .record) :
    value.AllLeavesZero ↔ value.ZeroLeaf := by
  simp only [AllLeavesZero, hasLeaf_iff_eq harray hrecord, forall_eq]

theorem allLeavesZero_array_iff {elements : List Value} :
    (Value.array elements).AllLeavesZero ↔ ∀ element ∈ elements, element.AllLeavesZero := by
  simp only [AllLeavesZero, hasLeaf_array_iff]
  exact ⟨fun h element hmem leaf hleaf => h leaf ⟨element, hmem, hleaf⟩,
    fun h leaf ⟨element, hmem, hleaf⟩ => h element hmem leaf hleaf⟩

theorem allLeavesZero_record_iff {name : Text} {fields : List (Field Value)} :
    (Value.record name fields).AllLeavesZero ↔
      ∀ field ∈ fields, field.value.AllLeavesZero := by
  simp only [AllLeavesZero, hasLeaf_record_iff]
  exact ⟨fun h field hmem leaf hleaf => h leaf ⟨field, hmem, hleaf⟩,
    fun h leaf ⟨field, hmem, hleaf⟩ => h field hmem leaf hleaf⟩

mutual

theorem isZero_eq_true_iff : ∀ value : Value, value.isZero = true ↔ value.AllLeavesZero
  | .array elements => by
      rw [isZero, allZero_eq_true_iff elements, allLeavesZero_array_iff]
  | .record name fields => by
      rw [isZero, allFieldsZero_eq_true_iff fields, allLeavesZero_record_iff]
  | .nil | .bool _ | .int _ | .uint _ | .float _ | .text _ | .list _ | .map _ | .optional _ => by
      rw [isZero_eq_true_iff_zeroLeaf, allLeavesZero_iff_zeroLeaf] <;> simp [kind]

theorem allZero_eq_true_iff :
    ∀ elements : List Value,
      allZero elements = true ↔ ∀ element ∈ elements, element.AllLeavesZero
  | [] => by simp [allZero]
  | element :: rest => by
      rw [allZero, Bool.and_eq_true, isZero_eq_true_iff element, allZero_eq_true_iff rest,
        List.forall_mem_cons]

theorem allFieldsZero_eq_true_iff :
    ∀ fields : List (Field Value),
      allFieldsZero fields = true ↔ ∀ field ∈ fields, field.value.AllLeavesZero
  | [] => by simp [allFieldsZero]
  | ⟨name, annotation, value⟩ :: rest => by
      rw [allFieldsZero, Bool.and_eq_true, isZero_eq_true_iff value,
        allFieldsZero_eq_true_iff rest, List.forall_mem_cons]

end

end Value

/-! ## Sizes -/

/-- The kinds for which to be zero is to have no size.  A negative number is not zero and still below
one, and an array of zeros has elements. -/
def Kind.counted : List Kind := [.nil, .text, .list, .map, .uint]

theorem Value.exists_measure_of_counted {value : Value} (hkind : value.kind ∈ Kind.counted) :
    ∃ measure, value.measure? = some measure ∧ (1 ≤ measure.amount ↔ value.isZero = false) := by
  cases value with
  | nil => exact ⟨_, rfl, by decide⟩
  | text content =>
      refine ⟨_, rfl, ?_⟩
      cases content with
      | nil => exact iff_of_false (by decide) (by decide)
      | cons c rest =>
          have hsize := c.utf8Size_pos
          rw [isZero, Measure.amount, ← Text.byteLength_eq_utf8ByteSize, Text.byteLength]
          exact iff_of_true (by omega) rfl
  | list elements =>
      refine ⟨_, rfl, ?_⟩
      rw [isZero, Measure.amount, List.isEmpty_eq_false_iff, ← List.length_pos_iff]
      omega
  | map size | uint size =>
      refine ⟨_, rfl, ?_⟩
      rw [isZero, Measure.amount, beq_eq_false_iff_ne]
      omega
  | bool | int | float | array | optional | record => simp [Value.kind, Kind.counted] at hkind

/-! ## Answers -/

namespace Rule

variable {context : Context}

theorem required_of_isZero (hzero : context.resolved.isZero = true) :
    required context = .error (.violation "is required".toList) := by
  rw [required, hzero, Bool.or_true, if_pos rfl]

theorem required_of_not_isZero (hzero : context.resolved.isZero = false) :
    required context = .ok () := by
  have hnil : context.value.isNil = false := by
    rw [Context.resolved] at hzero
    cases hvalue : context.value with
    | nil =>
        rw [hvalue] at hzero
        contradiction
    | _ => rfl
  rw [required, hnil, hzero, Bool.or_false, if_neg Bool.false_ne_true]

theorem required_eq_ok_iff : required context = .ok () ↔ context.resolved.isZero = false := by
  cases hzero : context.resolved.isZero with
  | true => simp [required_of_isZero hzero]
  | false => simp [required_of_not_isZero hzero]

theorem required_eq_error_iff :
    required context = .error (.violation "is required".toList) ↔
      context.resolved.isZero = true := by
  cases hzero : context.resolved.isZero with
  | true => simp [required_of_isZero hzero]
  | false => simp [required_of_not_isZero hzero]

theorem required_eq_ok_iff_minimum
    {one : Text} (hkind : context.resolved.kind ∈ Kind.counted) (hone : one.WritesInt64 1) :
    required context = .ok () ↔ minimum { context with param := some one } = .ok () := by
  obtain ⟨measure, hmeasure, hsize⟩ := Value.exists_measure_of_counted hkind
  have hminimum : minimum { context with param := some one } = .ok () ↔ 1 ≤ measure.amount :=
    minimum_eq_ok_iff rfl hone hmeasure
  rw [required_eq_ok_iff, hminimum, hsize]

theorem required_optional (hvalue : ∀ inner, context.value ≠ .optional inner) :
    required { context with value := .optional context.value } = required context := by
  have hresolved : context.value.resolve = context.value := by
    cases hcase : context.value with
    | optional inner => exact absurd hcase (hvalue inner)
    | _ => rfl
  have hsame : Context.resolved { context with value := .optional context.value } =
      context.resolved := hresolved.symm
  cases hzero : context.resolved.isZero with
  | true => rw [required_of_isZero hzero, required_of_isZero (hsame ▸ hzero)]
  | false => rw [required_of_not_isZero hzero, required_of_not_isZero (hsame ▸ hzero)]

/-- A value is present if some leaf of it is not zero, with or without a parameter, and else the rule
says that it is required.  So nothing is present in an array or a record without parts, while every
float is but the one without any bit.  For a value whose size can be counted, presence is a size of
at least one.  A value that is there is treated like one that could not have been absent. -/
theorem required_exact :
    (∀ context : Context,
      (required context = .ok () ↔ ∃ leaf, context.resolved.HasLeaf leaf ∧ ¬leaf.ZeroLeaf) ∧
        (required context = .error (.violation "is required".toList) ↔
          ∀ leaf, context.resolved.HasLeaf leaf → leaf.ZeroLeaf)) ∧
    (∀ (param : Option Text) (name : Text) (site : Site),
      let answer (value : Value) := required ⟨value, param, name, site⟩
      answer (.array []) = .error (.violation "is required".toList) ∧
        (∀ record, answer (.record record []) = .error (.violation "is required".toList)) ∧
        answer (.float (-0.0 : Float).toBits) = .ok () ∧
        ∀ bits, (Float.ofBits bits).isNaN = true → answer (.float bits) = .ok ()) ∧
    (∀ (context : Context) (one : Text),
      context.resolved.kind ∈ Kind.counted → one.WritesInt64 1 →
      (required context = .ok () ↔ minimum { context with param := some one } = .ok ())) ∧
    ∀ context : Context, (∀ inner, context.value ≠ .optional inner) →
      required { context with value := .optional context.value } = required context := by
  refine ⟨?_, ?_, ?_, ?_⟩
  · intro context
    have hzero := context.resolved.isZero_eq_true_iff
    refine ⟨?_, required_eq_error_iff.trans hzero⟩
    rw [required_eq_ok_iff, ← Bool.not_eq_true, hzero, Value.AllLeavesZero]
    simp only [not_forall, exists_prop]
  · intro param name site answer
    refine ⟨rfl, fun _ => rfl, rfl, ?_⟩
    intro bits hnan
    apply required_eq_ok_iff.mpr
    apply beq_eq_false_iff_ne.mpr
    rintro rfl
    exact absurd hnan (by decide)
  · intro context one hkind hone
    exact required_eq_ok_iff_minimum hkind hone
  · intro context hvalue
    exact required_optional hvalue

/-- Zeros at several depths, beside a list that holds nothing but absent values and is present, an
optional value below the first level, a float that is no number, and a size of one byte. -/
theorem required_exact_nested :
    let site : Site := ⟨"Order".toList, "lines".toList, [], [3]⟩
    let answer (value : Value) (rule : Rule) (param : Option Text) : Except RuleFailure Unit :=
      rule ⟨value, param, "needed".toList, site⟩
    let line (codes : List Value) : Value := .record "Line".toList
      [⟨"count".toList, none, .array [.int 0, .float 0]⟩, ⟨"codes".toList, none, .list codes⟩]
    let zeros : Value := .array [line [], .array [], line []]
    let nan : UInt64 := 0x7FF8000000000000
    answer (.optional zeros) required (some "x".toList) =
        .error (.violation "is required".toList) ∧
      answer (.array [line [], line [.nil]]) required none = .ok () ∧
      answer (.optional (.optional .nil)) required none = .ok () ∧
      answer (.float nan) required none = .ok () ∧
      (answer (.optional (.text "\n".toList)) required none = .ok () ↔
        answer (.optional (.text "\n".toList)) minimum (some "+01".toList) = .ok ()) ∧
      answer (.optional zeros) required none = answer zeros required none := by
  intro site answer line zeros nan
  obtain ⟨hleaves, hcases, hminimum, hoptional⟩ := required_exact
  refine ⟨?_, ?_, ?_, ?_, ?_, ?_⟩
  · have hzeros := (Value.isZero_eq_true_iff zeros).mp rfl
    exact (hleaves ⟨.optional zeros, some "x".toList, "needed".toList, site⟩).2.mpr hzeros
  · apply (hleaves ⟨.array [line [], line [.nil]], none, "needed".toList, site⟩).1.mpr
    have hcodes : (line [.nil]).HasLeaf (.list [.nil]) :=
      .field (List.mem_cons_of_mem _ List.mem_cons_self) (.leaf (by decide) (by decide))
    exact ⟨.list [.nil], .element (List.mem_cons_of_mem _ List.mem_cons_self) hcodes, nofun⟩
  · apply (hleaves ⟨.optional (.optional .nil), none, "needed".toList, site⟩).1.mpr
    exact ⟨.optional .nil, .leaf (by decide) (by decide), nofun⟩
  · exact (hcases none "needed".toList site).2.2.2 nan (by decide)
  · exact hminimum ⟨.optional (.text "\n".toList), none, "needed".toList, site⟩ "+01".toList
      (by decide) (Text.readInt64_eq_ok_iff.mp rfl)
  · exact hoptional ⟨zeros, none, "needed".toList, site⟩ (by simp [zeros])

end Rule
end FieldRules
