import ObjectWire.Json.Number
/-!
# Writing JSON text

Documents are written compactly: `,` and `:` without spaces, fields in their order. In
strings the quote and the backslash are escaped, control characters are written as
`\u00XX` (or their short escapes), and every other character stands as itself. A double is
written from its shortest digits with a point or an exponent (`2.0`, `1e21`), so a reader
takes it for a float and never for an integer; a double that is not finite has no number and
is written `null`.
-/

/-!
## Hexadecimal byte text

Bytes travel through requests and answers as hexadecimal text: two digits per byte, high
nibble first. Writing uses lowercase digits; reading accepts either case and refuses an odd
number of digits or any other character.
-/

namespace ObjectWire
namespace Hex

/-- The lowercase digit of a nibble. -/
def digit (n : Nat) : Char :=
  if n < 10 then Char.ofNat (48 + n) else Char.ofNat (87 + n)

/-- The value of a hexadecimal digit of either case. -/
def nibble? (c : Char) : Option Nat :=
  if '0' ≤ c ∧ c ≤ '9' then some (c.toNat - 48)
  else if 'a' ≤ c ∧ c ≤ 'f' then some (c.toNat - 87)
  else if 'A' ≤ c ∧ c ≤ 'F' then some (c.toNat - 55)
  else none

/-- Two lowercase digits per byte, high nibble first. -/
def encode (bytes : List UInt8) : String :=
  String.ofList (bytes.flatMap fun b => [digit (b.toNat / 16), digit (b.toNat % 16)])

/-- Pairs of digits back into bytes; `none` on an odd count or a non-digit. -/
def decodeChars : List Char → Option (List UInt8)
  | [] => some []
  | [_] => none
  | h :: l :: rest => do
    let hi ← nibble? h
    let lo ← nibble? l
    let tail ← decodeChars rest
    pure ((hi * 16 + lo).toUInt8 :: tail)

/-- The bytes a hexadecimal text stands for, if it is one. -/
def decode? (s : String) : Option (List UInt8) :=
  decodeChars s.toList

end Hex
end ObjectWire

namespace ObjectWire
namespace Json

/-- The text that stands for one character inside a string. -/
def escapeChar (c : Char) : String :=
  if c = '"' then "\\\""
  else if c = '\\' then "\\\\"
  else if c = '\n' then "\\n"
  else if c = '\r' then "\\r"
  else if c = '\t' then "\\t"
  else if c.toNat < 0x20 then
    "\\u00" ++ String.ofList [Hex.digit (c.toNat / 16), Hex.digit (c.toNat % 16)]
  else String.singleton c

/-- A string literal. -/
def quote (s : String) : String :=
  "\"" ++ String.join (s.toList.map escapeChar) ++ "\""

/-- The text of a number written with a fraction or an exponent. -/
def decimalText (neg : Bool) (d : Decimal) : String :=
  (if neg then "-" else "") ++ Notation.Style.debug.writeDecimal d

/-- The text of a double: its shortest decimal, or `null` when it is not finite. -/
def floatText (x : Binary64) : String :=
  match Binary.decode .double x.toNat with
  | .finite neg m e => decimalText neg (if m = 0 then ⟨0, 0⟩ else Shortest.shortest .double m e)
  | _ => "null"

mutual

/-- The compact text of a document. -/
def render : Json → String
  | .null => "null"
  | .bool b => if b then "true" else "false"
  | .int i => toString i
  | .float x => floatText x
  | .str s => quote s
  | .arr items => "[" ++ renderItems items ++ "]"
  | .obj fields => "\x7b" ++ renderFields fields ++ "\x7d"

/-- Array elements, comma separated. -/
def renderItems : List Json → String
  | [] => ""
  | [j] => render j
  | j :: rest => render j ++ "," ++ renderItems rest

/-- Object fields, comma separated. -/
def renderFields : List (String × Json) → String
  | [] => ""
  | [(k, v)] => quote k ++ ":" ++ render v
  | (k, v) :: rest => quote k ++ ":" ++ render v ++ "," ++ renderFields rest

end

end Json
end ObjectWire
