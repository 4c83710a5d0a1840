/-!
# Binary floating-point formats

A bit pattern of an IEEE 754 binary interchange format stands for a NaN, an infinity or a
finite value `±m · 2^e`. This module reads patterns into that view and rounds exact
rationals back into patterns, to nearest with ties to even: every conversion the library
makes (decimal text to a double, a double to a single, a single to a double) is one such
rounding of an exact value.
-/

namespace ObjectWire

/-- A nonnegative decimal `digits · 10^exp10`. -/
structure Decimal where
  digits : Nat
  exp10 : Int
  deriving DecidableEq, Repr

namespace Binary

/-- An interchange format, by the widths of its fraction and exponent fields. -/
structure Format where
  fracBits : Nat
  expBits : Nat
  deriving DecidableEq, Repr

namespace Format

/-- binary32: 23 fraction bits, 8 exponent bits. -/
def single : Format := ⟨23, 8⟩

/-- binary64: 52 fraction bits, 11 exponent bits. -/
def double : Format := ⟨52, 11⟩

/-- The exponent bias. -/
def bias (f : Format) : Nat := Nat.pow 2 (f.expBits - 1) - 1

/-- The exponent of the least significand unit in the subnormal range. -/
def minExp (f : Format) : Int := 1 - (f.bias : Int) - f.fracBits

/-- The exponent of the least significand unit in the highest finite binade. -/
def maxExp (f : Format) : Int := ((Nat.pow 2 f.expBits - 2 : Nat) : Int) - f.bias - f.fracBits

/-- The weight of the sign bit. -/
def signBit (f : Format) : Nat := Nat.pow 2 (f.fracBits + f.expBits)

/-- The pattern of an infinity. -/
def infinity (f : Format) (neg : Bool) : Nat :=
  (if neg then f.signBit else 0) + (Nat.pow 2 f.expBits - 1) * Nat.pow 2 f.fracBits

/-- The quiet NaN with an empty payload, as arithmetic produces it. -/
def quietNaN (f : Format) : Nat :=
  (Nat.pow 2 f.expBits - 1) * Nat.pow 2 f.fracBits + Nat.pow 2 (f.fracBits - 1)

end Format

/-- What a bit pattern stands for. -/
inductive Decoded where
  | nan
  | infinite (neg : Bool)
  /-- The value `(-1)^neg · m · 2^e`, where `m < 2^(fracBits+1)`. -/
  | finite (neg : Bool) (m : Nat) (e : Int)
  deriving DecidableEq, Repr

/-- Reads a bit pattern of format `f`. -/
def decode (f : Format) (bits : Nat) : Decoded :=
  let frac := bits % Nat.pow 2 f.fracBits
  let field := bits / Nat.pow 2 f.fracBits % Nat.pow 2 f.expBits
  let neg := bits / f.signBit % 2 == 1
  if field = Nat.pow 2 f.expBits - 1 then
    if frac = 0 then .infinite neg else .nan
  else if field = 0 then .finite neg frac f.minExp
  else .finite neg (frac + Nat.pow 2 f.fracBits) (field + f.minExp - 1)

/-- The pattern of `(-1)^neg · m · 2^e` for a significand already in range: `m < 2^(p+1)`,
and `e` the subnormal exponent whenever `m < 2^p`. -/
def pack (f : Format) (neg : Bool) (m : Nat) (e : Int) : Nat :=
  let sign := if neg then f.signBit else 0
  if m < Nat.pow 2 f.fracBits then sign + m
  else sign + (e - f.minExp + 1).toNat * Nat.pow 2 f.fracBits + (m - Nat.pow 2 f.fracBits)

/-- `num / den` rounded to the nearest integer, a tie going to the even one. -/
def roundHalfEven (num den : Nat) : Nat :=
  let q := num / den
  let r := num % den
  if 2 * r < den then q
  else if den < 2 * r then q + 1
  else if q % 2 = 0 then q else q + 1

/-- Whether `den · 2^k ≤ num`, for an exponent of either sign. -/
def scaledLe (num den : Nat) (k : Int) : Bool :=
  if 0 ≤ k then den * Nat.pow 2 k.toNat ≤ num else den ≤ num * Nat.pow 2 (-k).toNat

/-- `⌊log₂ (num / den)⌋` for positive `num` and `den`. -/
def floorLog2 (num den : Nat) : Int :=
  let k : Int := (Nat.log2 num : Int) - Nat.log2 den
  if scaledLe num den k then k else k - 1

/-- The pattern nearest to `(-1)^neg · num / den`, ties to even; `den` is positive. -/
def ofRatio (f : Format) (neg : Bool) (num den : Nat) : Nat :=
  if num = 0 then (if neg then f.signBit else 0)
  else
    let e := max f.minExp (floorLog2 num den - f.fracBits)
    let m := roundHalfEven (num * Nat.pow 2 (-e).toNat) (den * Nat.pow 2 e.toNat)
    let (m, e) := if m = Nat.pow 2 (f.fracBits + 1) then (Nat.pow 2 f.fracBits, e + 1) else (m, e)
    if f.maxExp < e then f.infinity neg else pack f neg m e

/-- The exact value `m · 2^e` as a numerator over a power-of-two denominator. -/
def toRatio (m : Nat) (e : Int) : Nat × Nat :=
  (m * Nat.pow 2 e.toNat, Nat.pow 2 (-e).toNat)

/-- Converts a pattern of format `f` to format `g`, rounding to nearest; NaNs become the
quiet NaN of `g`. -/
def convert (f g : Format) (bits : Nat) : Nat :=
  match decode f bits with
  | .nan => g.quietNaN
  | .infinite neg => g.infinity neg
  | .finite neg m e =>
    let (num, den) := toRatio m e
    ofRatio g neg num den

/-- The number of decimal digits of `n` (one for zero). -/
def decimalLength (n : Nat) : Nat := (Nat.toDigits 10 n).length

/-- The pattern nearest to `(-1)^neg · digits · 10^exp10`. Values beyond every finite
number of the format, or below half its least subnormal, are settled before any big power
is formed. -/
def ofDecimal (f : Format) (neg : Bool) (digits : Nat) (exp10 : Int) : Nat :=
  let magnitude := exp10 + decimalLength digits
  if digits = 0 then (if neg then f.signBit else 0)
  else if (Nat.pow 2 f.expBits : Nat) < magnitude then f.infinity neg
  else if magnitude < -(Nat.pow 2 f.expBits : Nat) then (if neg then f.signBit else 0)
  else if 0 ≤ exp10 then ofRatio f neg (digits * Nat.pow 10 exp10.toNat) 1
  else ofRatio f neg digits (Nat.pow 10 (-exp10).toNat)

end Binary
end ObjectWire

namespace ObjectWire

/-- A binary64 value, by its bit pattern; two values are equal when their bits are. -/
structure Binary64 where
  bits : UInt64
  deriving DecidableEq, Repr, Inhabited

/-- A binary32 value, by its bit pattern. -/
structure Binary32 where
  bits : UInt32
  deriving DecidableEq, Repr, Inhabited

namespace Binary

/-- The exact value of a finite pattern as a signed fraction over a power of two. -/
def signedRatio (neg : Bool) (m : Nat) (e : Int) : Int × Nat :=
  let (num, den) := toRatio m e
  (if neg then -(num : Int) else num, den)

/-- Numeric comparison of two patterns: `none` when either is a NaN; zeros of either sign
are equal. -/
def compare? (f : Format) (a b : Nat) : Option Ordering :=
  let rank : Decoded → Option (Int × Int × Nat) := fun
    | .nan => none
    | .infinite neg => some (if neg then -1 else 1, 0, 1)
    | .finite neg m e => let (n, d) := signedRatio neg m e; some (0, n, d)
  match rank (decode f a), rank (decode f b) with
  | some (ia, na, da), some (ib, nb, db) =>
    if ia != ib then some (compare ia ib)
    else some (compare (na * db) (nb * da))
  | _, _ => none

/-- Rounds a pattern to an integral value, halves away from zero; the sign of a zero result
is the sign of the input. -/
def roundHalfAway (f : Format) (bits : Nat) : Nat :=
  match decode f bits with
  | .finite neg m e =>
    if 0 ≤ e then bits
    else
      let k := (-e).toNat
      ofRatio f neg ((m + Nat.pow 2 (k - 1)) / Nat.pow 2 k) 1
  | _ => bits

end Binary

namespace Binary64

/-- The quiet NaN. -/
def nan : Binary64 := ⟨(Binary.Format.double.quietNaN).toUInt64⟩

/-- Positive zero. -/
def zero : Binary64 := ⟨0⟩

/-- The pattern as a natural number. -/
def toNat (x : Binary64) : Nat := x.bits.toNat

/-- The double nearest to `(-1)^neg · digits · 10^exp10`. -/
def ofDecimal (neg : Bool) (d : Decimal) : Binary64 :=
  ⟨(Binary.ofDecimal .double neg d.digits d.exp10).toUInt64⟩

/-- The double of an integer (exact below 2^53, rounded to nearest above). -/
def ofInt (i : Int) : Binary64 := ofDecimal (i < 0) ⟨i.natAbs, 0⟩

/-- Whether the value is a NaN. -/
def isNaN (x : Binary64) : Bool := Binary.decode .double x.toNat == .nan

/-- Numeric comparison, `none` when either side is a NaN. -/
def compare? (x y : Binary64) : Option Ordering := Binary.compare? .double x.toNat y.toNat

/-- Rounds to an integral value, halves away from zero. -/
def round (x : Binary64) : Binary64 :=
  ⟨(Binary.roundHalfAway .double x.toNat).toUInt64⟩

/-- The nearest single. -/
def toBinary32 (x : Binary64) : Binary32 :=
  ⟨(Binary.convert .double .single x.toNat).toUInt32⟩

/-- The eight bytes of the pattern, least significant first. -/
def toBytes (x : Binary64) : List UInt8 :=
  (List.range 8).map fun i => (x.toNat / Nat.pow 2 (8 * i) % 256).toUInt8

end Binary64

namespace Binary32

/-- The pattern as a natural number. -/
def toNat (x : Binary32) : Nat := x.bits.toNat

/-- The double of equal value. -/
def toBinary64 (x : Binary32) : Binary64 :=
  ⟨(Binary.convert .single .double x.toNat).toUInt64⟩

end Binary32

end ObjectWire
