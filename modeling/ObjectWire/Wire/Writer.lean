import ObjectWire.Error
import ObjectWire.Number.Binary
import ObjectWire.Text.Utf8
/-!
# Writing the wire

A writer appends bytes to a sink. A sink may have limited room: it keeps what fits of each
offer and refuses the rest, so a failed write leaves a prefix of its bytes behind. Two kinds
of writes fail differently: fixed-width values go through the value codec and fail with a
codec fault, while raw bytes (the header marker, payloads of strings and byte arrays) fail
with the sink's own I/O error.

Counts are `i32` little-endian; a count above `i32::MAX` cannot be written.
-/

/-!
## Text encodings of the wire

Strings travel in one of two encodings, chosen by the serializer's options: UTF-8, or UTF-16
with little-endian units. Decoding a payload either gives the text or the message of the
first fault.
-/

/-!
## UTF-16 little-endian byte sequences

The second text encoding of the wire: each character becomes one 16-bit unit, or a pair of
surrogate units above U+FFFF, and each unit is two bytes, low byte first. Decoding refuses an
odd byte count and any surrogate that does not stand in a high-low pair.
-/

namespace ObjectWire
namespace Utf16

/-- Why a byte sequence is not UTF-16 text. -/
inductive Fault where
  | oddLength
  | loneSurrogate
  deriving DecidableEq, Repr

/-- The message of a fault, in the wording the library reports. -/
def Fault.message : Fault → String
  | .oddLength => "odd UTF-16 byte count"
  | .loneSurrogate => "invalid utf-16: lone surrogate found"

/-- The 16-bit units of one character. -/
def units (c : Char) : List Nat :=
  let n := c.toNat
  if n < 0x10000 then [n]
  else
    let m := n - 0x10000
    [0xD800 + m / 1024, 0xDC00 + m % 1024]

/-- The bytes of a text: its units, each low byte first. -/
def encode (s : String) : List UInt8 :=
  (s.toList.flatMap units).flatMap fun u => [(u % 256).toUInt8, (u / 256).toUInt8]

/-- Bytes paired into units, low byte first; `none` on an odd count. -/
def pairUp : List UInt8 → Option (List Nat)
  | [] => some []
  | [_] => none
  | lo :: hi :: rest => (pairUp rest).map ((hi.toNat * 256 + lo.toNat) :: ·)

/-- Units into characters, joining surrogate pairs. -/
def decodeUnits : List Nat → Except Fault (List Char)
  | [] => .ok []
  | u :: rest =>
    if 0xD800 ≤ u ∧ u < 0xDC00 then
      match rest with
      | v :: rest' =>
        if 0xDC00 ≤ v ∧ v < 0xE000 then
          (decodeUnits rest').map
            (Char.ofNat (0x10000 + (u - 0xD800) * 1024 + (v - 0xDC00)) :: ·)
        else .error .loneSurrogate
      | [] => .error .loneSurrogate
    else if 0xDC00 ≤ u ∧ u < 0xE000 then .error .loneSurrogate
    else (decodeUnits rest).map (Char.ofNat u :: ·)

/-- The text a UTF-16LE byte sequence spells, or why it is not one. -/
def decode (bytes : List UInt8) : Except Fault String :=
  match pairUp bytes with
  | none => .error .oddLength
  | some us => (decodeUnits us).map String.ofList

end Utf16
end ObjectWire

namespace ObjectWire

/-- The encoding of string payloads. -/
inductive TextEncoding where
  | utf8
  | utf16le
  deriving DecidableEq, Repr, Inhabited

namespace TextEncoding

/-- The name of an encoding in structural renderings. -/
def debugName : TextEncoding → String
  | .utf8 => "Utf8"
  | .utf16le => "Utf16Le"

/-- The payload bytes of a text. -/
def encode : TextEncoding → String → List UInt8
  | .utf8, s => Utf8.encode s
  | .utf16le, s => Utf16.encode s

/-- The text of a payload, or the message of its first fault. -/
def decode : TextEncoding → List UInt8 → Except String String
  | .utf8, bs => (Utf8.decode bs).mapError Utf8.Fault.message
  | .utf16le, bs => (Utf16.decode bs).mapError Utf16.Fault.message

end TextEncoding
end ObjectWire

namespace ObjectWire

/-- A writer: the encoding of strings, the bytes the sink holds, the room left in the sink
(`none` when unlimited), and the bytes of completed writes. -/
structure Writer where
  encoding : TextEncoding
  out : Array UInt8 := #[]
  room : Option Nat := none
  written : Nat := 0
  deriving Inhabited

/-- Computations that write. The writer survives a failure, holding what the sink took. -/
abbrev Emit := EStateM Error Writer

/-- The `width` bytes of `n mod 2^(8·width)`, least significant first. -/
def leBytes (width n : Nat) : List UInt8 :=
  (List.range width).map fun i => (n / Nat.pow 2 (8 * i) % 256).toUInt8

/-- Two's complement of `i` in `width` bytes, as a natural number. -/
def twosComplement (width : Nat) (i : Int) : Nat :=
  (i % (Nat.pow 2 (8 * width) : Nat)).toNat

/-- The largest count a prefix holds. -/
def maxCount : Nat := Nat.pow 2 31 - 1

namespace Writer

/-- A writer over an unlimited sink. -/
def new (encoding : TextEncoding) : Writer := { encoding }

/-- The sink keeps what fits of `bytes`; the flag says whether it kept them all. -/
def offer (w : Writer) (bytes : List UInt8) : Writer × Bool :=
  match w.room with
  | none => ({ w with out := w.out ++ bytes.toArray, written := w.written + bytes.length }, true)
  | some r =>
    if bytes.length ≤ r then
      ({ w with out := w.out ++ bytes.toArray, room := some (r - bytes.length),
                written := w.written + bytes.length }, true)
    else ({ w with out := w.out ++ (bytes.take r).toArray, room := some 0 }, false)

/-- The bytes the sink holds. -/
def bytes (w : Writer) : List UInt8 := w.out.toList

/-- The structural rendering `BinaryWriter { encoding: Utf8, written: 3 }`. -/
def debug (w : Writer) : String :=
  "BinaryWriter \x7b encoding: " ++ w.encoding.debugName ++ ", written: " ++
    toString w.written ++ " \x7d"

end Writer

namespace Emit

/-- Offers bytes to the sink, failing with `fault` when it refuses any. -/
def offer (bytes : List UInt8) (fault : Error) : Emit Unit := do
  let (w, ok) := (← get).offer bytes
  set w
  unless ok do throw fault

/-- Raw bytes; a refusal is the sink's I/O error. -/
def raw (bytes : List UInt8) : Emit Unit := offer bytes (.io .sinkFull)

/-- The bytes of a fixed-width value; a refusal is a codec fault. -/
def value (bytes : List UInt8) : Emit Unit := offer bytes (.codec .sinkRefused)

/-- A boolean as one byte, 0 or 1. -/
def bool (b : Bool) : Emit Unit := value [if b then 1 else 0]

/-- An `i32`, little-endian two's complement. -/
def i32 (i : Int) : Emit Unit := value (leBytes 4 (twosComplement 4 i))

/-- A double, its bit pattern little-endian. -/
def f64 (x : Binary64) : Emit Unit := value x.toBytes

/-- A count prefix; counts above `i32::MAX` do not fit. -/
def count (n : Nat) : Emit Unit :=
  if n ≤ maxCount then i32 n else throw (.data (.lengthOverflow n))

/-- A count prefix, then the bytes themselves. -/
def bytes (bs : List UInt8) : Emit Unit := do
  count bs.length
  raw bs

/-- A string: the byte count of its payload in the writer's encoding, then the payload. -/
def string (s : String) : Emit Unit := do
  bytes ((← get).encoding.encode s)

end Emit
end ObjectWire
