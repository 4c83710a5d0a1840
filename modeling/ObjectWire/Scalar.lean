import ObjectWire.Value
import ObjectWire.Wire.Writer
import ObjectWire.Wire.Reader
/-!
# Scalars and their fixed-width codec

The primitive types: booleans, unsigned and signed integers of 8 to 128 bits and of pointer
width, the two float widths, and characters. Integers and floats are written little-endian
in their width (pointer width is 64 bits); a boolean is one byte, 0 or 1; a character is its
UTF-8 bytes, one to four. Reading a character looks at its first byte for the width, reads
the rest, and refuses a sequence that is not one UTF-8 character.
-/

namespace ObjectWire

/-- A primitive type. -/
inductive Scalar where
  | bool | u8 | u16 | u32 | u64 | u128 | usize
  | i8 | i16 | i32 | i64 | i128 | isize
  | f32 | f64 | char
  deriving DecidableEq, Repr, Inhabited

namespace Scalar

/-- Every scalar, in the order the built-in converters are registered. -/
def all : List Scalar :=
  [.bool, .u8, .u16, .u32, .u64, .u128, .usize, .i8, .i16, .i32, .i64, .i128, .isize,
    .f32, .f64, .char]

/-- The type name of a scalar. -/
def name : Scalar → String
  | .bool => "bool" | .u8 => "u8" | .u16 => "u16" | .u32 => "u32" | .u64 => "u64"
  | .u128 => "u128" | .usize => "usize" | .i8 => "i8" | .i16 => "i16" | .i32 => "i32"
  | .i64 => "i64" | .i128 => "i128" | .isize => "isize" | .f32 => "f32" | .f64 => "f64"
  | .char => "char"

/-- The scalar of a type name. -/
def ofName? (s : String) : Option Scalar := all.find? (·.name == s)

/-- The width in bytes of an integer type. -/
def intWidth? : Scalar → Option Nat
  | .u8 | .i8 => some 1
  | .u16 | .i16 => some 2
  | .u32 | .i32 => some 4
  | .u64 | .i64 | .usize | .isize => some 8
  | .u128 | .i128 => some 16
  | _ => none

/-- Whether a scalar is a signed integer type. -/
def isSigned : Scalar → Bool
  | .i8 | .i16 | .i32 | .i64 | .i128 | .isize => true
  | _ => false

/-- Whether a scalar is an unsigned integer type. -/
def isUnsigned : Scalar → Bool
  | .u8 | .u16 | .u32 | .u64 | .u128 | .usize => true
  | _ => false

/-- The default value of a scalar type. -/
def default : Scalar → Value
  | .bool => .bool false
  | .f32 => .f32 ⟨0⟩
  | .f64 => .f64 ⟨0⟩
  | .char => .char (Char.ofNat 0)
  | s => if s.isSigned then .int 0 else .nat 0

/-- Whether a value is one of this scalar type. -/
def holds (s : Scalar) (v : Value) : Bool :=
  match s, v with
  | .bool, .bool _ => true
  | .f32, .f32 _ => true
  | .f64, .f64 _ => true
  | .char, .char _ => true
  | s, .nat n => s.isUnsigned && (match s.intWidth? with | some w => n < Nat.pow 2 (8 * w) | none => false)
  | s, .int i => s.isSigned && (match s.intWidth? with
      | some w => -((Nat.pow 2 (8 * w - 1) : Nat) : Int) ≤ i ∧ i < ((Nat.pow 2 (8 * w - 1) : Nat) : Int)
      | none => false)
  | _, _ => false

/-- The bytes of a value of this scalar type. -/
def encode (s : Scalar) (v : Value) : List UInt8 :=
  match s, v with
  | .bool, .bool b => [if b then 1 else 0]
  | .f32, .f32 x => leBytes 4 x.toNat
  | .f64, .f64 x => x.toBytes
  | .char, .char c => Utf8.encodeChar c
  | s, .nat n => leBytes (s.intWidth?.getD 0) n
  | s, .int i => let w := s.intWidth?.getD 0; leBytes w (twosComplement w i)
  | _, _ => []

/-- Writes a value of this scalar type through the value codec. -/
def write (s : Scalar) (v : Value) : Emit Unit := Emit.value (s.encode v)

/-- The four bytes of a refused character, padded with zeros. -/
def padChar (bs : List UInt8) : List Nat :=
  (bs.map UInt8.toNat ++ [0, 0, 0, 0]).take 4

/-- Reads a character: its first byte gives the width, the rest must complete one UTF-8
character. -/
def readChar : Take Value := do
  let first ← Take.exact 1
  let b := first.headD 0
  let w := Utf8.width b
  if w = 0 then throw (.codec (.invalidChar (padChar [b])))
  if w = 1 then return .char (Char.ofNat b.toNat)
  let rest ← Take.exact (w - 1)
  let bs := b :: rest
  match Utf8.decode bs with
  | .ok s =>
    match s.toList with
    | [c] => pure (.char c)
    | _ => throw (.codec (.invalidChar (padChar bs)))
  | .error _ => throw (.codec (.invalidChar (padChar bs)))

/-- Reads a value of this scalar type through the value codec. -/
def read (s : Scalar) : Take Value :=
  match s with
  | .bool => do pure (.bool (← Take.bool))
  | .f32 => do pure (.f32 ⟨(leValue (← Take.exact 4)).toUInt32⟩)
  | .f64 => do pure (.f64 (← Take.f64))
  | .char => readChar
  | s =>
    let w := s.intWidth?.getD 0
    if s.isSigned then do pure (.int (signedValue w (← Take.exact w)))
    else do pure (.nat (leValue (← Take.exact w)))

end Scalar
end ObjectWire
