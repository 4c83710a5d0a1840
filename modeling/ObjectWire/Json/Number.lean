import ObjectWire.Number.Notation
/-!
# Numbers of request documents

What a number written in a request stands for. A number without fraction and exponent that
fits in 64 bits, from `-2^63` to `2^64 - 1` with `-0` left out, is an integer. Every other
number is a double, found by a fast rule that is not always the nearest double:

* the digits, integer part first, are gathered into a significand for as long as it stays
  below `2^64`; integer digits after the first one refused count as powers of ten, fraction
  digits after it are dropped;
* the significand is rounded to a double and then multiplied by the double nearest to
  `10^k`, or divided by the one nearest to `10^-k`, one rounding per step, with steps of
  `10^308` while the power is beyond the table of `10^0 … 10^308`;
* an exponent beyond `2^31 - 1` gives a zero when the significand is zero or the exponent is
  negative, and a number that grows past the largest double is refused.

So `0.10971136093268985` reads as `0.10971136093268984`: its significand `10971136093268985`
rounds to an even double first, and the division by `10^17` then stays below the exact
quotient.
-/

/-!
## JSON documents

Requests and answers are JSON documents. A number is an integer of at most 64 bits or a
double; how written numbers come to be one or the other is the subject of `Json.Number`.
Objects keep their fields in order.
-/

namespace ObjectWire

/-- A JSON document. -/
inductive Json where
  | null
  | bool (b : Bool)
  /-- An integer. -/
  | int (i : Int)
  /-- A double; answers hold finite ones only. -/
  | float (x : Binary64)
  | str (s : String)
  | arr (items : List Json)
  | obj (fields : List (String × Json))
  deriving Inhabited

namespace Json

/-- The value of a field of an object, if the document is an object that has it. -/
def get? (j : Json) (key : String) : Option Json :=
  match j with
  | .obj fields => (fields.find? (·.1 == key)).map (·.2)
  | _ => none

/-- The value of a field, reading an absent field and `null` alike as `none`. -/
def field? (j : Json) (key : String) : Option Json :=
  match j.get? key with
  | some .null => none
  | other => other

/-- A natural number written as an integer. -/
def nat (n : Nat) : Json := .int n

/-- A double, by bit pattern: finite values as numbers, NaN and infinities as the strings
`NaN`, `Infinity` and `-Infinity`. -/
def double (bits : Nat) : Json :=
  match Binary.decode .double bits with
  | .nan => .str "NaN"
  | .infinite neg => .str (if neg then "-Infinity" else "Infinity")
  | .finite _ _ _ => .float ⟨bits.toUInt64⟩

end Json
end ObjectWire

namespace ObjectWire
namespace Json
namespace Number

open Binary

/-- The largest significand, `2^64 - 1`. -/
def significandMax : Nat := 18446744073709551615

/-- The largest exponent that is written out, `2^31 - 1`. -/
def exponentMax : Nat := 2147483647

/-- The largest power of ten in the table. -/
def tableMax : Nat := 308

/-- Gathers digits into a significand while it stays within `significandMax`: the significand,
the number of digits taken, and whether a digit was refused (which ends the gathering). -/
def gather (sig : Nat) : List Nat → Nat × Nat × Bool
  | [] => (sig, 0, false)
  | d :: ds =>
    if sig * 10 + d ≤ significandMax then
      let (s, k, refused) := gather (sig * 10 + d) ds
      (s, k + 1, refused)
    else (sig, 0, true)

/-- The value of exponent digits, or `none` once it would pass `exponentMax`. -/
def gatherExponent (e : Nat) : List Nat → Option Nat
  | [] => some e
  | d :: ds => if e * 10 + d ≤ exponentMax then gatherExponent (e * 10 + d) ds else none

/-- An exponent kept within the 32-bit range. -/
def clampExponent (e : Int) : Int :=
  max (-(exponentMax : Int) - 1) (min exponentMax e)

/-- The double nearest to `10^k`. -/
def powerOfTen (k : Nat) : Nat := Binary.ofDecimal .double false 1 k

/-- The exact value of a nonnegative finite double as a fraction (zero for other patterns). -/
def ratio (bits : Nat) : Nat × Nat :=
  match decode .double bits with
  | .finite _ m e => toRatio m e
  | _ => (0, 1)

/-- The double nearest to the product of two nonnegative finite doubles. -/
def mul (a b : Nat) : Nat :=
  let (na, da) := ratio a
  let (nb, db) := ratio b
  ofRatio .double false (na * nb) (da * db)

/-- The double nearest to the quotient of two nonnegative finite doubles, the divisor
positive. -/
def div (a b : Nat) : Nat :=
  let (na, da) := ratio a
  let (nb, db) := ratio b
  ofRatio .double false (na * db) (da * nb)

/-- Scales a nonnegative double by `10^e` as the rule says, or `none` when it grows past the
largest double. Each step beyond the table divides by `10^308`; a double made from a
significand is below `2^64`, so two such steps reach zero and three units of fuel always
suffice. -/
def scale : Nat → Nat → Int → Option Nat
  | 0, f, _ => some f
  | fuel + 1, f, e =>
    if e.natAbs ≤ tableMax then
      if 0 ≤ e then
        let g := mul f (powerOfTen e.toNat)
        if g = Format.double.infinity false then none else some g
      else some (div f (powerOfTen e.natAbs))
    else if f = 0 then some f
    else if 0 ≤ e then none
    else scale fuel (div f (powerOfTen tableMax)) (e + tableMax)

/-- The double of a significand. -/
def ofSignificand (sig : Nat) : Nat := ofRatio .double false sig 1

/-- A double with the sign given. -/
def signed (neg : Bool) (bits : Nat) : Json :=
  .float ⟨(if neg then bits + Format.double.signBit else bits).toUInt64⟩

/-- The double for a significand and a power of ten, or the refusal of a number out of
range. -/
def fromParts (neg : Bool) (sig : Nat) (e : Int) : Except String Json :=
  match scale 4 (ofSignificand sig) e with
  | some f => .ok (signed neg f)
  | none => .error "number out of range"

end Number

/-- A number as written: its sign, the digits of its integer part, the digits after a point
if a point is written, and an exponent with its sign if one is written. -/
structure Numeral where
  neg : Bool
  whole : List Nat
  frac : Option (List Nat)
  exp : Option (Bool × List Nat)

namespace Numeral

open Number

/-- What a written number stands for, as the module doc says. -/
def read (n : Numeral) : Except String Json :=
  let (intSig, intTaken, refused) := gather 0 n.whole
  let dropped : Int := (n.whole.length - intTaken : Nat)
  match n.frac, n.exp with
  | none, none =>
    if refused then fromParts n.neg intSig dropped
    else if !n.neg then .ok (.int intSig)
    else if intSig = 0 || Nat.pow 2 63 < intSig then .ok (signed true (ofSignificand intSig))
    else .ok (.int (-(intSig : Int)))
  | frac, exp =>
    let (sig, fracTaken, _) := gather intSig (frac.getD [])
    let e0 := dropped - fracTaken
    match exp with
    | none => fromParts n.neg sig e0
    | some (eneg, ds) =>
      match gatherExponent 0 ds with
      | some e => fromParts n.neg sig (clampExponent (if eneg then e0 - e else e0 + e))
      | none =>
        if sig ≠ 0 && !eneg then .error "number out of range"
        else .ok (signed n.neg 0)

end Numeral

end Json
end ObjectWire
