import ObjectWire.Error
import ObjectWire.Number.Binary
import ObjectWire.Wire.Writer
/-!
# Reading the wire

A reader walks a byte array from a position. Fixed-width values go through the value codec,
which fails with `endOfInput n` when fewer than the `n` bytes it asks for remain. Counts are
checked against what remains before anything is read for them: a negative count, or one
whose items (each at least `min` bytes) cannot fit, is an invalid length.
-/

namespace ObjectWire

/-- A reader: the whole input, the position, and the encoding of strings. -/
structure Reader where
  input : Array UInt8
  pos : Nat := 0
  encoding : TextEncoding
  deriving Inhabited

/-- Computations that read. -/
abbrev Take := EStateM Error Reader

namespace Reader

/-- A reader at the start of `bytes`. -/
def new (bytes : List UInt8) (encoding : TextEncoding) : Reader := { input := bytes.toArray, encoding }

/-- The bytes after the position. -/
def remaining (r : Reader) : Nat := r.input.size - r.pos

/-- The structural rendering of a reader, showing its input and position. -/
def debug (r : Reader) : String :=
  "BinaryReader \x7b cursor: Cursor \x7b inner: [" ++
    ", ".intercalate (r.input.toList.map (toString ·.toNat)) ++ "], pos: " ++ toString r.pos ++
    " \x7d, encoding: " ++ r.encoding.debugName ++ " \x7d"

end Reader

/-- The value of little-endian bytes. -/
def leValue (bs : List UInt8) : Nat :=
  bs.foldr (fun b acc => b.toNat + 256 * acc) 0

/-- The signed value of `width` little-endian two's complement bytes. -/
def signedValue (width : Nat) (bs : List UInt8) : Int :=
  let n := leValue bs
  if n < Nat.pow 2 (8 * width - 1) then n else (n : Int) - (Nat.pow 2 (8 * width) : Nat)

namespace Take

/-- The next `n` bytes, moving past them (the caller has checked that they exist). -/
def advance (n : Nat) : Take (List UInt8) := do
  let r ← get
  set { r with pos := r.pos + n }
  pure (r.input.extract r.pos (r.pos + n)).toList

/-- The `n` bytes of a fixed-width value; too few is a codec fault. -/
def exact (n : Nat) : Take (List UInt8) := do
  if (← get).remaining < n then throw (.codec (.endOfInput n))
  advance n

/-- `n` raw bytes; more than remain is an invalid length. -/
def raw (n : Nat) : Take (List UInt8) := do
  let rem := (← get).remaining
  if rem < n then throw (.data (.invalidLength n rem))
  advance n

/-- A boolean byte: 0 or 1. -/
def bool : Take Bool := do
  match ← exact 1 with
  | [b] => if b = 0 then pure false else if b = 1 then pure true
           else throw (.codec (.invalidBool b.toNat))
  | _ => pure false

/-- An `i32`, little-endian two's complement. -/
def i32 : Take Int := do pure (signedValue 4 (← exact 4))

/-- A double. -/
def f64 : Take Binary64 := do pure ⟨(leValue (← exact 8)).toUInt64⟩

/-- A count prefix whose items take at least `min` bytes each. -/
def count (min : Nat) : Take Nat := do
  let raw ← i32
  let rem := (← get).remaining
  if raw < 0 then throw (.data (.invalidLength raw rem))
  if rem < raw.toNat * min then throw (.data (.invalidLength raw rem))
  pure raw.toNat

/-- A count prefix, then that many raw bytes. -/
def bytes : Take (List UInt8) := do raw (← count 1)

/-- A string payload in the reader's encoding. -/
def string : Take String := do
  let bs ← bytes
  match (← get).encoding.decode bs with
  | .ok s => pure s
  | .error msg => throw (.data (.invalidString msg))

end Take
end ObjectWire
