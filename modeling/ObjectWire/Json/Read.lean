import ObjectWire.Json.Number
import ObjectWire.Json.Write
/-!
# Reading JSON text

A reader for RFC 8259 documents over the characters of a line. Strings decode every escape,
joining `\u` surrogate pairs and refusing a surrogate that stands alone. Each nested reader
is given one unit of fuel less than its caller and each step consumes a character, so fuel
equal to the text's length plus two never runs out.
-/

namespace ObjectWire
namespace Json

/-- Drops JSON whitespace. -/
def skipBlank (cs : List Char) : List Char :=
  cs.dropWhile fun c => c = ' ' || c = '\t' || c = '\n' || c = '\r'

/-- The value of four hexadecimal digits. -/
def hex4? (a b c d : Char) : Option Nat := do
  let n ← Hex.nibble? a
  let m ← Hex.nibble? b
  let k ← Hex.nibble? c
  let l ← Hex.nibble? d
  pure (((n * 16 + m) * 16 + k) * 16 + l)

/-- The character of a simple escape `\x`. -/
def simpleEscape? : Char → Option Char
  | '"' => some '"'
  | '\\' => some '\\'
  | '/' => some '/'
  | 'b' => some (Char.ofNat 8)
  | 'f' => some (Char.ofNat 12)
  | 'n' => some '\n'
  | 'r' => some '\r'
  | 't' => some '\t'
  | _ => none

/-- Reads the rest of a string after its opening quote: the characters and what follows the
closing quote. -/
def readString : List Char → Except String (List Char × List Char)
  | [] => .error "unterminated string"
  | '"' :: rest => .ok ([], rest)
  | '\\' :: 'u' :: a :: b :: c :: d :: rest =>
    match hex4? a b c d with
    | none => .error "bad unicode escape"
    | some u =>
      if 0xD800 ≤ u ∧ u < 0xDC00 then
        match rest with
        | '\\' :: 'u' :: e :: f :: g :: h :: rest' =>
          match hex4? e f g h with
          | some v =>
            if 0xDC00 ≤ v ∧ v < 0xE000 then
              let ch := Char.ofNat (0x10000 + (u - 0xD800) * 1024 + (v - 0xDC00))
              (readString rest').map fun (s, r) => (ch :: s, r)
            else .error "lone surrogate"
          | none => .error "bad unicode escape"
        | _ => .error "lone surrogate"
      else if 0xDC00 ≤ u ∧ u < 0xE000 then .error "lone surrogate"
      else (readString rest).map fun (s, r) => (Char.ofNat u :: s, r)
  | '\\' :: e :: rest =>
    match simpleEscape? e with
    | some ch => (readString rest).map fun (s, r) => (ch :: s, r)
    | none => .error "bad escape"
  | c :: rest =>
    if c.toNat < 0x20 then .error "control character in string"
    else (readString rest).map fun (s, r) => (c :: s, r)

/-- The values of decimal digit characters. -/
def digitValues (cs : List Char) : List Nat := cs.map fun c => c.toNat - '0'.toNat

/-- Reads a number: `-? digits (. digits)? ([eE] [+-]? digits)?`, where the integer digits
have no leading zero; its value is given by `Numeral.read`. -/
def readNumber (cs : List Char) : Except String (Json × List Char) :=
  let (neg, body) := match cs with
    | '-' :: r => (true, r)
    | r => (false, r)
  let whole := body.takeWhile Char.isDigit
  let rest := body.dropWhile Char.isDigit
  if whole.isEmpty then .error "bad number"
  else if whole.length > 1 && whole.head? == some '0' then .error "leading zero in number"
  else
    let (frac, rest) : Option (List Char) × List Char :=
      match rest with
      | '.' :: r => (some (r.takeWhile Char.isDigit), r.dropWhile Char.isDigit)
      | _ => (none, rest)
    if frac == some [] then .error "bad number"
    else
      let expo : Except String (Option (Bool × List Char) × List Char) :=
        match rest with
        | e :: r =>
          if e = 'e' || e = 'E' then
            let (eneg, r) := match r with
              | '-' :: r => (true, r)
              | '+' :: r => (false, r)
              | r => (false, r)
            let ds := r.takeWhile Char.isDigit
            if ds.isEmpty then .error "bad number"
            else .ok (some (eneg, ds), r.dropWhile Char.isDigit)
          else .ok (none, rest)
        | [] => .ok (none, [])
      do
        let (ex, rest) ← expo
        let numeral : Numeral :=
          { neg, whole := digitValues whole, frac := frac.map digitValues,
            exp := ex.map fun (eneg, ds) => (eneg, digitValues ds) }
        let v ← numeral.read
        pure (v, rest)

/-- Adds a field to fields held last first: a new key goes in front, a key already present
has its value replaced where it stands. -/
def putField (key : String) (v : Json) (acc : List (String × Json)) : List (String × Json) :=
  if acc.any (·.1 == key) then acc.map fun (k, w) => if k == key then (k, v) else (k, w)
  else (key, v) :: acc

mutual

/-- Reads one value, then returns what follows it. -/
def readValue : Nat → List Char → Except String (Json × List Char)
  | 0, _ => .error "document too deep"
  | fuel + 1, cs =>
    match skipBlank cs with
    | 'n' :: 'u' :: 'l' :: 'l' :: r => .ok (.null, r)
    | 't' :: 'r' :: 'u' :: 'e' :: r => .ok (.bool true, r)
    | 'f' :: 'a' :: 'l' :: 's' :: 'e' :: r => .ok (.bool false, r)
    | '"' :: r => (readString r).map fun (s, rest) => (.str (String.ofList s), rest)
    | '[' :: r =>
      match skipBlank r with
      | ']' :: rest => .ok (.arr [], rest)
      | _ => readItems fuel r []
    | '{' :: r =>
      match skipBlank r with
      | '}' :: rest => .ok (.obj [], rest)
      | _ => readFields fuel r []
    | cs' => readNumber cs'

/-- Reads the elements of an array after its opening bracket; `acc` holds those read so far,
last first. -/
def readItems : Nat → List Char → List Json → Except String (Json × List Char)
  | 0, _, _ => .error "document too deep"
  | fuel + 1, cs, acc => do
    let (v, rest) ← readValue fuel cs
    match skipBlank rest with
    | ',' :: r => readItems fuel r (v :: acc)
    | ']' :: r => .ok (.arr (v :: acc).reverse, r)
    | _ => .error "expected , or ]"

/-- Reads the fields of an object after its opening brace; `acc` holds those read so far,
last first. A key written twice keeps its first place and takes its later value. -/
def readFields : Nat → List Char → List (String × Json) → Except String (Json × List Char)
  | 0, _, _ => .error "document too deep"
  | fuel + 1, cs, acc =>
    match skipBlank cs with
    | '"' :: r => do
      let (key, rest) ← readString r
      match skipBlank rest with
      | ':' :: r' => do
        let (v, rest') ← readValue fuel r'
        match skipBlank rest' with
        | ',' :: r'' => readFields fuel r'' (putField (String.ofList key) v acc)
        | '}' :: r'' => .ok (.obj (putField (String.ofList key) v acc).reverse, r'')
        | _ => .error "expected , or \x7d"
      | _ => .error "expected :"
    | _ => .error "expected a field name"

end

/-- Reads a whole text as one document; only whitespace may follow it. -/
def parse (text : String) : Except String Json := do
  let cs := text.toList
  let (v, rest) ← readValue (cs.length + 2) cs
  if (skipBlank rest).isEmpty then pure v else .error "trailing characters"

end Json
end ObjectWire
