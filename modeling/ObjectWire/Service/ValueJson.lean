import ObjectWire.Order
import ObjectWire.Json.Number
import ObjectWire.Json.Write
/-!
# Values as JSON

How a value of a type is written in a request and in an answer. Booleans, small integers and
strings are JSON's own; integers of 64 bits and more are decimal strings (requests also take
JSON integers); floats are numbers, with NaN and the infinities as strings; a character is a
one-character string; a byte vector is a hex string; sequences are arrays; an option is
`null` or a one-element array; a box is its content; a pair and a map entry are two-element
arrays and a map is an array of entries; an enum value is its variant's name; an object is a
JSON object of its stored fields, where a missing field takes its default and an unknown
field is refused.

Reading a map keeps the later of two entries with equal keys and orders the entries by key.
-/

namespace ObjectWire
namespace Service

/-- The type with its boxes removed: a box is written as its content. -/
def unboxed : Ty → Ty
  | .box t => unboxed t
  | t => t

/-- Whether integers of a scalar type are written as decimal strings. -/
def isWide (s : Scalar) : Bool := (s.intWidth?.getD 0) ≥ 8

/-- Reads a decimal integer with an optional sign; a minus sign only when `signed`. -/
def readInteger (signed : Bool) (s : String) : Option Int :=
  let digitsOf (cs : List Char) : Option Nat :=
    if cs.isEmpty || !cs.all Char.isDigit then none
    else some (cs.foldl (fun n c => 10 * n + (c.toNat - '0'.toNat)) 0)
  match s.toList with
  | '+' :: rest => (digitsOf rest).map Int.ofNat
  | '-' :: rest => if signed then (digitsOf rest).map fun n => -(n : Int) else none
  | cs => (digitsOf cs).map Int.ofNat

/-- The double a JSON number stands for, or one of the words `NaN`, `Infinity` and
`-Infinity`; no other text is a float. -/
def doubleOf : Json → Except String Binary64
  | .int i => pure (Binary64.ofInt i)
  | .float x => pure x
  | .str "NaN" => pure Binary64.nan
  | .str "Infinity" => pure ⟨(Binary.Format.double.infinity false).toUInt64⟩
  | .str "-Infinity" => pure ⟨(Binary.Format.double.infinity true).toUInt64⟩
  | .str s => throw s!"bad float string '{s}'"
  | _ => throw "expected a number"

/-- The integer of a JSON integer, or of a decimal string when `text` allows one. -/
def integerOf (signed text : Bool) : Json → Except String Int
  | .int i => pure i
  | .str s => if text then
      match readInteger signed s with
      | some i => pure i
      | none => throw s!"bad integer '{s}'"
    else throw "expected an integer"
  | _ => throw "expected an integer"

/-- Reads a value of a scalar type. -/
def scalarOf (s : Scalar) (j : Json) : Except String Value := do
  match s, j with
  | .bool, .bool b => pure (.bool b)
  | .bool, _ => throw "expected a bool"
  | .f64, j => pure (.f64 (← doubleOf j))
  | .f32, j => pure (.f32 (← doubleOf j).toBinary32)
  | .char, .str str => match str.toList with
    | [c] => pure (.char c)
    | _ => throw "expected one character"
  | .char, _ => throw "expected a character"
  | s, j =>
    let i ← integerOf s.isSigned (isWide s) j
    let v : Value := if s.isSigned then .int i else .nat i.toNat
    if i ≥ 0 || s.isSigned then
      if s.holds v then pure v else throw s!"{i} out of range for {s.name}"
    else throw s!"{i} out of range for {s.name}"

/-- Reads a scalar, or a newtype over one, from JSON. -/
def leafOf (t : Ty) (j : Json) : Except String Value :=
  match t with
  | .scalar s => scalarOf s j
  | .newtype _ s => scalarOf s j
  | t => throw s!"value does not fit '{t.name}'"

/-- The element type of a sequence type. -/
def elementOf? : Ty → Option Ty
  | .vec e => some e
  | .deque e => some e
  | _ => none

/-- The key and value types of a map type. -/
def entryOf? : Ty → Option (Ty × Ty)
  | .hashMap k v => some (k, v)
  | .btreeMap k v => some (k, v)
  | _ => none

mutual

/-- Reads a value of type `t` from JSON. -/
def valueOf (cat : Catalog) (t : Ty) : Json → Except String Value
  | .null => match unboxed t with
    | .placeholder => pure .unit
    | .option _ => pure .absent
    | t => leafOf t .null
  | .str s => match unboxed t with
    | .string => pure (.str s)
    | .vec (.scalar .u8) => match Hex.decode? s with
      | some bytes => pure (.list (bytes.map fun b => .nat b.toNat))
      | none => throw s!"bad hex '{s}'"
    | .enum p =>
      if ((cat.enum? p).map (·.variants.any (·.1 == s))).getD false then pure (.variant s)
      else throw s!"unknown variant '{s}'"
    | t => leafOf t (.str s)
  | .arr items => match unboxed t with
    | .option e => match items with
      | [x] => do pure (.present (← valueOf cat e x))
      | _ => throw "an option is null or a one-element array"
    | .pair a b => match items with
      | [x, y] => do pure (.pair (← valueOf cat a x) (← valueOf cat b y))
      | _ => throw "a pair is a two-element array"
    | t => match elementOf? t, entryOf? t with
      | some e, _ => do pure (.list (← valuesOf cat e items))
      | _, some (k, v) => do pure (cat.mapOf k (← entriesOf cat k v items))
      | _, _ => throw s!"value does not fit '{t.name}'"
  | .obj fields => match unboxed t with
    | .object p => do
      let decl := ((cat.object? p).map (·.fields)).getD []
      fieldsOf cat decl fields (cat.default (.object p))
    | t => throw s!"value does not fit '{t.name}'"
  | j => leafOf (unboxed t) j

/-- Reads the items of a sequence. -/
def valuesOf (cat : Catalog) (t : Ty) : List Json → Except String (List Value)
  | [] => pure []
  | x :: xs => do pure ((← valueOf cat t x) :: (← valuesOf cat t xs))

/-- Reads the entries of a map. -/
def entriesOf (cat : Catalog) (k v : Ty) : List Json → Except String (List (Value × Value))
  | [] => pure []
  | .arr [a, b] :: xs => do
    let key ← valueOf cat k a
    let val ← valueOf cat v b
    pure ((key, val) :: (← entriesOf cat k v xs))
  | _ :: _ => throw "a map entry is a pair"

/-- Overlays the fields of a JSON object on an object value. -/
def fieldsOf (cat : Catalog) (decl : List (String × Ty)) :
    List (String × Json) → Value → Except String Value
  | [], acc => pure acc
  | (name, j) :: rest, acc => do
    match decl.find? (·.1 == name) with
    | some (_, t) => fieldsOf cat decl rest (acc.setField name (← valueOf cat t j))
    | none => throw s!"unknown field '{name}'"

end

/-- Writes a value of a scalar type. -/
def scalarJson (s : Scalar) (v : Value) : Json :=
  match v with
  | .bool b => .bool b
  | .nat n => if isWide s then .str (toString n) else .int n
  | .int i => if isWide s then .str (toString i) else .int i
  | .f64 x => Json.double x.toNat
  | .f32 x => Json.double x.toBinary64.toNat
  | .char c => .str (String.singleton c)
  | _ => .null

mutual

/-- Writes a value of type `t` as JSON. -/
def jsonOf (cat : Catalog) (t : Ty) : Value → Json
  | .str s => .str s
  | .absent => .null
  | .present x => match unboxed t with
    | .option e => .arr [jsonOf cat e x]
    | _ => .arr [jsonOf cat .placeholder x]
  | .list items => match unboxed t with
    | .vec (.scalar .u8) => .str (Hex.encode (items.map fun x => x.toNat.toUInt8))
    | t => .arr (jsonsOf cat ((elementOf? t).getD .placeholder) items)
  | .pair x y => match unboxed t with
    | .pair a b => .arr [jsonOf cat a x, jsonOf cat b y]
    | _ => .arr [jsonOf cat .placeholder x, jsonOf cat .placeholder y]
  | .map entries =>
    let (k, v) := (entryOf? (unboxed t)).getD (.placeholder, .placeholder)
    .arr (entriesJson cat k v entries)
  | .variant s => .str s
  | .object fields => match unboxed t with
    | .object p => .obj (fieldsJson cat (((cat.object? p).map (·.fields)).getD []) fields)
    | _ => .obj (fieldsJson cat [] fields)
  | .unit => .null
  | v => match unboxed t with
    | .scalar s => scalarJson s v
    | .newtype _ s => scalarJson s v
    | _ => scalarJson .u8 v

/-- Writes the items of a sequence. -/
def jsonsOf (cat : Catalog) (t : Ty) : List Value → List Json
  | [] => []
  | x :: xs => jsonOf cat t x :: jsonsOf cat t xs

/-- Writes the entries of a map. -/
def entriesJson (cat : Catalog) (k v : Ty) : List (Value × Value) → List Json
  | [] => []
  | (a, b) :: rest => .arr [jsonOf cat k a, jsonOf cat v b] :: entriesJson cat k v rest

/-- Writes the stored fields of an object. -/
def fieldsJson (cat : Catalog) (decl : List (String × Ty)) : List (String × Value) → List (String × Json)
  | [] => []
  | (name, x) :: rest =>
    (name, jsonOf cat (((decl.find? (·.1 == name)).map (·.2)).getD .placeholder) x) ::
      fieldsJson cat decl rest

end

end Service
end ObjectWire
