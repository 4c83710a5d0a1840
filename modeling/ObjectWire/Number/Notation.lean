import ObjectWire.Number.Binary
/-!
# Writing and reading floating-point numbers

A finite value is written from its shortest decimal digits, either positionally or in
scientific form `d.ddde-7`; a `Style` says which, how many fraction digits positional form
keeps at least, and how NaN and infinity are spelt. Two styles serve the library: `display`
is always positional with no forced fraction (`2`, `0.0000001`, `1000000000000000000000`);
`debug` keeps one fraction digit and turns scientific below `1e-4` and from `1e16` on
(`2.0`, `1e-7`, `1e21`).
-/

/-!
## Shortest decimal digits of a binary value

A finite positive value `m · 2^e` of a binary format is read back from any decimal inside its
rounding interval: the reals nearer to it than to either neighbour, the ends included exactly
when `m` is even (a tie reads back to the even significand). The interval is symmetric
except at the bottom of a binade, where the lower neighbour is half as far.

`shortest` finds the fewest significant digits that land in that interval and, of the two
grid points of that length around the value, the nearer one. All comparisons are exact
natural-number arithmetic on the value scaled by powers of two and ten.
-/

namespace ObjectWire

namespace Shortest

open Binary

/-- Compares `a · 10^s` with `b · 2^t` exactly. -/
def compareScaled (a : Nat) (s : Int) (b : Nat) (t : Int) : Ordering :=
  compare (a * Nat.pow 10 s.toNat * Nat.pow 2 (-t).toNat) (b * Nat.pow 2 t.toNat * Nat.pow 10 (-s).toNat)

/-- `⌊log₁₀ (num / den)⌋` for positive `num` and `den`. -/
def floorLog10 (num den : Nat) : Int :=
  let k : Int := (decimalLength num : Int) - decimalLength den
  let fits := if 0 ≤ k then den * Nat.pow 10 k.toNat ≤ num else den ≤ num * Nat.pow 10 (-k).toNat
  if fits then k else k - 1

/-- The rounding interval of `m · 2^e`, in units of `2^(e-2)`: its low and high ends, and
whether they belong to it. -/
structure Interval where
  low : Nat
  high : Nat
  inclusive : Bool

/-- The interval of reals that read back as `m · 2^e` in format `f` (with `0 < m`). -/
def interval (f : Format) (m : Nat) (e : Int) : Interval :=
  let lowerHalved := m = Nat.pow 2 f.fracBits ∧ f.minExp < e
  { low := 4 * m - (if lowerHalved then 1 else 2)
    high := 4 * m + 2
    inclusive := m % 2 = 0 }

/-- Whether `d · 10^s` reads back as the value whose interval (scaled by `2^(e-2)`) is `iv`. -/
def Interval.holds (iv : Interval) (e : Int) (d : Nat) (s : Int) : Bool :=
  let lo := compareScaled d s iv.low (e - 2)
  let hi := compareScaled d s iv.high (e - 2)
  let aboveLow := lo == .gt || (iv.inclusive && lo == .eq)
  let belowHigh := hi == .lt || (iv.inclusive && hi == .eq)
  aboveLow && belowHigh

/-- Drops trailing zero digits into the exponent. -/
def normalize (digits : Nat) (exp10 : Int) (fuel : Nat) : Decimal :=
  match fuel with
  | 0 => ⟨digits, exp10⟩
  | fuel + 1 =>
    if digits ≠ 0 ∧ digits % 10 = 0 then normalize (digits / 10) (exp10 + 1) fuel
    else ⟨digits, exp10⟩

/-- The candidates with `k` significant digits around `num / den`, whose leading digit has
exponent `lead`: the grid point below (or at) the value and the one above, or the nearer of
the two when both read back. -/
def candidate (f : Format) (m : Nat) (e : Int) (num den : Nat) (lead : Int) (k : Nat) :
    Option Decimal :=
  let iv := interval f m e
  let s := lead - k + 1
  let below := num * Nat.pow 10 (-s).toNat / (den * Nat.pow 10 s.toNat)
  let above := below + 1
  let okBelow := iv.holds e below s
  let okAbove := iv.holds e above s
  let pick := fun (d : Nat) => some (normalize d s (decimalLength d))
  if okBelow && okAbove then
    match compareScaled (2 * below + 1) s m (e + 1) with
    | .gt => pick below
    | .lt => pick above
    | .eq => if below % 2 = 0 then pick below else pick above
  else if okBelow then pick below
  else if okAbove then pick above
  else none

/-- The shortest decimal that reads back as `m · 2^e` in format `f` (`0 < m`), and of those
the nearest. -/
def shortest (f : Format) (m : Nat) (e : Int) : Decimal :=
  let (num, den) := toRatio m e
  let lead := floorLog10 num den
  let tries := (List.range 40).map (· + 1)
  match tries.findSome? (candidate f m e num den lead) with
  | some d => d
  | none => normalize (num * Nat.pow 10 1100 / den) (-1100) 1200

end Shortest
end ObjectWire

namespace ObjectWire
namespace Notation

open Binary

/-- How finite values, NaN and infinities are written. -/
structure Style where
  /-- Leading-digit exponents below this are written in scientific form. -/
  sciBelow : Option Int
  /-- Leading-digit exponents from this one on are written in scientific form. -/
  sciFrom : Option Int
  /-- The fewest digits positional form writes after the point (none: no point at all). -/
  minFraction : Nat
  nan : String
  infinity : String

/-- Always positional, no fraction forced, `inf` for infinity. -/
def Style.display : Style := ⟨none, none, 0, "NaN", "inf"⟩

/-- One fraction digit at least; scientific below `1e-4` and from `1e16` on. -/
def Style.debug : Style := ⟨some (-4), some 16, 1, "NaN", "inf"⟩

/-- `n` zero characters. -/
def zeros (n : Nat) : String := String.ofList (List.replicate n '0')

/-- The decimal digits of a natural number. -/
def digitText (n : Nat) : String := String.ofList (Nat.toDigits 10 n)

/-- Positional form of a nonzero decimal. -/
def positional (minFraction : Nat) (d : Decimal) : String :=
  let ds := digitText d.digits
  let fraction := fun (text : String) =>
    if text.length < minFraction then text ++ zeros (minFraction - text.length) else text
  if 0 ≤ d.exp10 then
    let whole := ds ++ zeros d.exp10.toNat
    if minFraction = 0 then whole else whole ++ "." ++ fraction ""
  else
    let intLen : Int := ds.length + d.exp10
    if 0 < intLen then
      let chars := ds.toList
      String.ofList (chars.take intLen.toNat) ++ "." ++
        fraction (String.ofList (chars.drop intLen.toNat))
    else "0." ++ fraction (zeros (-intLen).toNat ++ ds)

/-- Scientific form `d.ddde<exp>` of a nonzero decimal whose leading digit has exponent `lead`. -/
def scientific (d : Decimal) (lead : Int) : String :=
  let chars := (digitText d.digits).toList
  let mantissa :=
    match chars with
    | c :: rest@(_ :: _) => String.ofList (c :: '.' :: rest)
    | _ => String.ofList chars
  mantissa ++ "e" ++ toString lead

/-- The text of a nonnegative decimal in a style. -/
def Style.writeDecimal (st : Style) (d : Decimal) : String :=
  if d.digits = 0 then
    if st.minFraction = 0 then "0" else "0." ++ zeros st.minFraction
  else
    let lead : Int := (digitText d.digits).length - 1 + d.exp10
    let low := match st.sciBelow with | some b => lead < b | none => false
    let high := match st.sciFrom with | some b => b ≤ lead | none => false
    if low || high then scientific d lead else positional st.minFraction d

/-- The text of a bit pattern of format `f` in a style. -/
def Style.write (st : Style) (f : Format) (bits : Nat) : String :=
  match decode f bits with
  | .nan => st.nan
  | .infinite neg => (if neg then "-" else "") ++ st.infinity
  | .finite neg m e =>
    let d := if m = 0 then ⟨0, 0⟩ else Shortest.shortest f m e
    (if neg then "-" else "") ++ st.writeDecimal d

/-- The value of a run of decimal digits. -/
def digitsValue (cs : List Char) : Nat :=
  cs.foldl (fun acc c => acc * 10 + (c.toNat - 48)) 0

end Notation
end ObjectWire
