import FieldRules.Text.Basic

/-!
# Shortest decimals

The text of a 64-bit binary float: the fewest decimal digits that no other float is nearer to,
written positionally.  All arithmetic is exact, on the integers that the bits stand for.
-/

namespace FieldRules.Float64

/-- A finite float without its sign, `mantissa * 2 ^ exponent`. -/
structure Binary where
  mantissa : Nat
  exponent : Int
  /-- The next smaller float is only half as far away as the next larger one. -/
  narrowBelow : Bool

structure Decimal where
  digits : Nat
  exponent : Int

def isNegative (bits : UInt64) : Bool := bits >>> 63 == 1

def exponentField (bits : UInt64) : Nat := ((bits >>> 52) &&& 0x7FF).toNat

def fractionField (bits : UInt64) : Nat := (bits &&& 0xFFFFFFFFFFFFF).toNat

def Binary.ofBits (bits : UInt64) : Binary :=
  if exponentField bits = 0 then ⟨fractionField bits, -1074, false⟩
  else
    ⟨4503599627370496 + fractionField bits, exponentField bits - 1075,
      fractionField bits == 0 && exponentField bits > 1⟩

def scaleUp (n base : Nat) (exponent : Int) : Nat := n * Nat.pow base exponent.toNat

/-- Exact comparison of `a * 10 ^ i` with `b * 2 ^ j`. -/
def compareScaled (a : Nat) (i : Int) (b : Nat) (j : Int) : Ordering :=
  compare (scaleUp (scaleUp a 10 i) 2 (-j)) (scaleUp (scaleUp b 2 j) 10 (-i))

/-- The decimal lies among the reals that are nearest to the float; the two ends of that interval
belong to it when the mantissa is even. -/
def Binary.identifiedBy (x : Binary) (d : Decimal) : Bool :=
  let lower := if x.narrowBelow then 4 * x.mantissa - 1 else 4 * x.mantissa - 2
  let upper := 4 * x.mantissa + 2
  let closed := x.mantissa % 2 == 0
  let below := compareScaled d.digits d.exponent lower (x.exponent - 2)
  let above := compareScaled d.digits d.exponent upper (x.exponent - 2)
  (below == .gt || (closed && below == .eq)) && (above == .lt || (closed && above == .eq))

def Binary.floorAt (x : Binary) (unit : Int) : Nat :=
  scaleUp (scaleUp x.mantissa 2 x.exponent) 10 (-unit)
    / scaleUp (scaleUp 1 10 unit) 2 (-x.exponent)

/-- The multiple of `10 ^ unit` that identifies the float: the nearer of the two around it, on a
tie the larger. -/
def Binary.onGrid? (x : Binary) (unit : Int) : Option Decimal :=
  let low : Decimal := ⟨x.floorAt unit, unit⟩
  let high : Decimal := ⟨x.floorAt unit + 1, unit⟩
  match x.identifiedBy low, x.identifiedBy high with
  | false, false => none
  | true, false => some low
  | false, true => some high
  | true, true =>
    if compareScaled (low.digits + high.digits) unit (2 * x.mantissa) x.exponent == .gt
    then some low else some high

def Binary.exact (x : Binary) : Decimal :=
  ⟨scaleUp (scaleUp x.mantissa 2 x.exponent) 5 (-x.exponent), min x.exponent 0⟩

/-- The least `k` with the value below `10 ^ k`, searched from a first guess. -/
def Binary.scale (x : Binary) : Int :=
  let bits : Int := x.mantissa.log2 + x.exponent
  let guess := bits * 30103 / 100000 - 1
  let candidates := (List.range 5).map fun (i : Nat) => guess + (i : Int)
  (candidates.find? fun k => compareScaled 1 k x.mantissa x.exponent == .gt).getD (guess + 5)

def Binary.shortest (x : Binary) : Decimal :=
  let top := x.scale
  ((List.range 17).findSome? fun (n : Nat) => x.onGrid? (top - 1 - n)).getD x.exact

def Decimal.positional (d : Decimal) : Text :=
  let digits := Text.ofNat d.digits
  let shift := (-d.exponent).toNat
  let padded := List.replicate (shift + 1 - digits.length) '0' ++ digits
  let whole := padded.take (padded.length - shift)
  let fraction := (padded.drop (padded.length - shift)).reverse.dropWhile (· == '0') |>.reverse
  let zeros := List.replicate d.exponent.toNat '0'
  whole ++ zeros ++ if fraction.isEmpty then [] else '.' :: fraction

def text (bits : UInt64) : Text :=
  let sign := if isNegative bits then ['-'] else []
  if exponentField bits = 0x7FF then
    if fractionField bits = 0 then sign ++ "inf".toList else "NaN".toList
  else
    let x := Binary.ofBits bits
    if x.mantissa = 0 then sign ++ ['0'] else sign ++ x.shortest.positional

/-- The bits of the 64-bit float with the value of a 32-bit one.  A NaN keeps its payload and
becomes quiet. -/
def widen (bits : UInt32) : UInt64 :=
  let sign := (bits >>> 31).toUInt64 <<< 63
  let exponent := ((bits >>> 23) &&& 0xFF).toUInt64
  let fraction := (bits &&& 0x7FFFFF).toUInt64
  if exponent == 0xFF then
    let quiet := if fraction == 0 then 0 else (0x8000000000000 : UInt64)
    sign ||| ((0x7FF : UInt64) <<< 52) ||| (fraction <<< 29) ||| quiet
  else if exponent != 0 then
    sign ||| ((exponent + 896) <<< 52) ||| (fraction <<< 29)
  else if fraction == 0 then sign
  else
    let top := fraction.toNat.log2
    sign ||| (((874 + top).toUInt64) <<< 52)
      ||| (((fraction <<< (52 - top).toUInt64)) &&& 0xFFFFFFFFFFFFF)

end FieldRules.Float64
