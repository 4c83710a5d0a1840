/-!
# UTF-8 byte sequences

Text payloads are UTF-8. Decoding checks the sequence as RFC 3629 defines it (no overlong
forms, no surrogates, nothing above U+10FFFF) and, at the first fault, reports how far the
valid part reaches and how long the broken sequence is. A sequence cut short by the end of
the input has no length: it is incomplete rather than invalid.
-/

namespace ObjectWire
namespace Utf8

/-- Where decoding stopped: the valid prefix's length, and the broken sequence's length
(`none` when the input ended inside a character). -/
structure Fault where
  validUpTo : Nat
  errorLen : Option Nat
  deriving DecidableEq, Repr

/-- The message of a fault, in the wording the library reports. -/
def Fault.message (f : Fault) : String :=
  match f.errorLen with
  | some n => s!"invalid utf-8 sequence of {n} bytes from index {f.validUpTo}"
  | none => s!"incomplete utf-8 byte sequence from index {f.validUpTo}"

/-- A continuation octet, `10xxxxxx`. -/
def isTail (b : UInt8) : Bool := 0x80 ≤ b && b ≤ 0xBF

/-- The range the second octet must fall in after a given first octet. -/
def secondRange (b : UInt8) : UInt8 × UInt8 :=
  if b = 0xE0 then (0xA0, 0xBF)
  else if b = 0xED then (0x80, 0x9F)
  else if b = 0xF0 then (0x90, 0xBF)
  else if b = 0xF4 then (0x80, 0x8F)
  else (0x80, 0xBF)

/-- How many octets a character starting with `b` takes, or 0 if no character starts so. -/
def width (b : UInt8) : Nat :=
  if b ≤ 0x7F then 1
  else if 0xC2 ≤ b ∧ b ≤ 0xDF then 2
  else if 0xE0 ≤ b ∧ b ≤ 0xEF then 3
  else if 0xF0 ≤ b ∧ b ≤ 0xF4 then 4
  else 0

/-- The code point of a checked sequence of `w` octets. -/
def codePoint (w : Nat) (bs : List UInt8) : Nat :=
  let v := fun (i : Nat) => (bs.getD i 0).toNat
  match w with
  | 1 => v 0
  | 2 => (v 0 % 32) * 64 + v 1 % 64
  | 3 => (v 0 % 16) * 4096 + (v 1 % 64) * 64 + v 2 % 64
  | _ => (v 0 % 8) * 262144 + (v 1 % 64) * 4096 + (v 2 % 64) * 64 + v 3 % 64

/-- Checks the octets after a first octet of width `w`: `ok` with the number of octets the
character takes, or the length of the broken part (`none` when the input ends first). -/
def checkTail (first : UInt8) (w : Nat) (rest : List UInt8) : Except (Option Nat) Unit :=
  let (lo, hi) := secondRange first
  match w, rest with
  | 2, b :: _ => if isTail b then .ok () else .error (some 1)
  | 3, b :: c :: _ =>
    if !(lo ≤ b && b ≤ hi) then .error (some 1)
    else if !isTail c then .error (some 2) else .ok ()
  | 3, [b] => if !(lo ≤ b && b ≤ hi) then .error (some 1) else .error none
  | 4, b :: c :: d :: _ =>
    if !(lo ≤ b && b ≤ hi) then .error (some 1)
    else if !isTail c then .error (some 2)
    else if !isTail d then .error (some 3) else .ok ()
  | 4, [b, c] =>
    if !(lo ≤ b && b ≤ hi) then .error (some 1)
    else if !isTail c then .error (some 2) else .error none
  | 4, [b] => if !(lo ≤ b && b ≤ hi) then .error (some 1) else .error none
  | _, _ => .error none

/-- Decodes octets into characters, counting the octets already accepted in `done`. -/
def decodeFrom (done : Nat) : List UInt8 → Except Fault (List Char)
  | [] => .ok []
  | b :: rest =>
    let w := width b
    if w = 0 then .error ⟨done, some 1⟩
    else if w = 1 then (decodeFrom (done + 1) rest).map (Char.ofNat b.toNat :: ·)
    else
      match checkTail b w rest with
      | .error len => .error ⟨done, len⟩
      | .ok () =>
        let c := Char.ofNat (codePoint w (b :: rest))
        have : (rest.drop (w - 1)).length < rest.length + 1 := by
          simp only [List.length_drop]; omega
        (decodeFrom (done + w) (rest.drop (w - 1))).map (c :: ·)
termination_by bs => bs.length
decreasing_by
  all_goals simp only [List.length_cons, List.length_drop]
  all_goals omega

/-- The text a UTF-8 sequence spells, or where and how it breaks. -/
def decode (bytes : List UInt8) : Except Fault String :=
  (decodeFrom 0 bytes).map String.ofList

/-- The UTF-8 octets of one character. -/
def encodeChar (c : Char) : List UInt8 :=
  let n := c.toNat
  if n < 0x80 then [n.toUInt8]
  else if n < 0x800 then [(0xC0 + n / 64).toUInt8, (0x80 + n % 64).toUInt8]
  else if n < 0x10000 then
    [(0xE0 + n / 4096).toUInt8, (0x80 + n / 64 % 64).toUInt8, (0x80 + n % 64).toUInt8]
  else
    [(0xF0 + n / 262144).toUInt8, (0x80 + n / 4096 % 64).toUInt8,
      (0x80 + n / 64 % 64).toUInt8, (0x80 + n % 64).toUInt8]

/-- The UTF-8 octets of a text. -/
def encode (s : String) : List UInt8 :=
  s.toList.flatMap encodeChar

end Utf8
end ObjectWire
