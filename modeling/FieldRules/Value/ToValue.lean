import FieldRules.Float64
import FieldRules.Value.Basic
import Std.Data.HashMap
import Std.Data.TreeMap

/-!
# Views of data

How the usual types are seen as values.  Signed and unsigned integers of every width are seen at
64 bits, sequences of any length as lists, and those of a length fixed by their type as arrays.
-/

namespace FieldRules

/-- A type whose elements are seen as values. -/
class ToValue (α : Type) where
  toValue : α → Value

export ToValue (toValue)

instance : ToValue Value := ⟨id⟩

instance : ToValue Bool := ⟨.bool⟩

instance : ToValue Int8 := ⟨fun n => .int n.toInt⟩
instance : ToValue Int16 := ⟨fun n => .int n.toInt⟩
instance : ToValue Int32 := ⟨fun n => .int n.toInt⟩
instance : ToValue Int64 := ⟨fun n => .int n.toInt⟩
instance : ToValue UInt8 := ⟨fun n => .uint n.toNat⟩
instance : ToValue UInt16 := ⟨fun n => .uint n.toNat⟩
instance : ToValue UInt32 := ⟨fun n => .uint n.toNat⟩
instance : ToValue UInt64 := ⟨fun n => .uint n.toNat⟩

instance : ToValue Float := ⟨fun x => .float x.toBits⟩
instance : ToValue Float32 := ⟨fun x => .float (Float64.widen x.toBits)⟩

instance : ToValue String := ⟨fun s => .text s.toList⟩

variable {α β : Type}

instance [ToValue α] : ToValue (List α) := ⟨fun list => .list (list.map toValue)⟩
instance [ToValue α] : ToValue (Array α) := ⟨fun list => .list (list.toList.map toValue)⟩

instance [ToValue α] {n : Nat} : ToValue (Vector α n) :=
  ⟨fun vector => .array (vector.toList.map toValue)⟩

instance [BEq α] [Hashable α] : ToValue (Std.HashMap α β) := ⟨fun map => .map map.size⟩
instance {cmp : α → α → Ordering} : ToValue (Std.TreeMap α β cmp) := ⟨fun map => .map map.size⟩

/-- A value that is there is marked as one that could have been absent. -/
instance [ToValue α] : ToValue (Option α) where
  toValue
    | some value => .optional (toValue value)
    | none => .nil

end FieldRules
