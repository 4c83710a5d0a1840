import ObjectWire.Service.ValueJson
import ObjectWire.Mapping.Session
import ObjectWire.Sample.Catalog
/-!
# Requests and replies

A request is a JSON object naming an operation; a reply is the fields of the answer object, or
a failure. A failure is a library error, a malformed request, or one of the two failures of the
derive operation. This module reads the parts requests share: types, values, hex bytes,
engines, versions and serializer options.
-/

/-!
## Type names in requests

A request names its type the way the type is spelled in code, with generic arguments in angle
brackets and pairs in parentheses (`HashMap<String, u32>`, `(u8, (bool, char))`); blanks do
not matter. The service accepts a fixed list of root types and every type of the sample
catalog.
-/

namespace ObjectWire
namespace Service

open Sample

/-- The spelling of a type in a request, without blanks: the last path segment of a named
type, the short word of a container. -/
def spelling : Ty → String
  | .scalar s => s.name
  | .string => "String"
  | .placeholder => "Opaque"
  | .newtype p _ => lastSegment p
  | .option t => "Option<" ++ spelling t ++ ">"
  | .box t => "Box<" ++ spelling t ++ ">"
  | .vec t => "Vec<" ++ spelling t ++ ">"
  | .deque t => "VecDeque<" ++ spelling t ++ ">"
  | .hashMap k v => "HashMap<" ++ spelling k ++ "," ++ spelling v ++ ">"
  | .btreeMap k v => "BTreeMap<" ++ spelling k ++ "," ++ spelling v ++ ">"
  | .pair a b => "(" ++ spelling a ++ "," ++ spelling b ++ ")"
  | .enum p => lastSegment p
  | .object p => lastSegment p
where
  /-- The part of a path after its last separator. -/
  lastSegment (p : String) : String := ((p.splitOn "::").getLast?).getD p

/-- The root types that are not catalog types of their own. -/
def rootTypes : List Ty :=
  let s := Ty.scalar
  Scalar.all.map s ++
  [.string,
   .vec (s .u8), .vec (s .u16), .vec (s .u32), .vec (s .i64), .vec (s .f64), .vec (s .bool),
   .vec (s .char), .vec .string, .deque (s .u8), .deque (s .i16), .vec (.vec (s .u8)),
   .vec (.vec (s .i32)), .vec (.option .string), .vec (.option (s .u8)),
   .option (s .u32), .option .string, .option (.vec (s .u8)), .option (.option (s .i32)),
   .option (.box (.option (s .u8))), .box (s .u32), .box .string, .box (.option .string),
   .box (.vec (s .u16)),
   .hashMap .string (s .u32), .hashMap (s .u32) .string, .hashMap (s .u8) (.vec .string),
   .hashMap (.pair (s .u8) (s .u8)) .string, .hashMap biomeTy (s .u8),
   .btreeMap (s .u8) .string, .btreeMap .string (.option (s .i32)),
   .btreeMap (s .i32) (.btreeMap (s .u8) (s .bool)),
   .pair .string (s .u64), .pair (s .u8) (.pair (s .bool) (s .char)), .vec (.pair (s .u8) .string),
   .option (.pair (s .u16) (s .u16)),
   biomeTy, .vec biomeTy, .option biomeTy, celsiusTy,
   .vec (obj "Line"), .vec (obj "Inventory"), .option (obj "Line"), .box (obj "Line"),
   .hashMap .string (obj "Line"), .pair (obj "Line") (s .u8), .vec (obj "Tree"),
   .btreeMap (s .u8) (obj "Tree"), .vec (.option (obj "Line")),
   .placeholder]

/-- Every type a request may name. -/
def knownTypes : List Ty :=
  rootTypes ++ Sample.objects.map fun o => Ty.object o.path

/-- The type a request names, if the service knows it. -/
def lookupType (name : String) : Option Ty :=
  let key := String.ofList (name.toList.filter fun c => !c.isWhitespace)
  knownTypes.find? fun t => spelling t == key

end Service
end ObjectWire

namespace ObjectWire
namespace Service

/-- Why a request has no regular answer. -/
inductive Failure where
  /-- The library failed. -/
  | library (e : Error)
  /-- The request itself is malformed. -/
  | badInput (msg : String)
  /-- A derive source is not an item. -/
  | parse (msg : String)
  /-- A derive source is an item the derive refuses. -/
  | derive (msg : String)
  /-- A derive step failed on an input it does not expect. -/
  | abort (msg : String)

/-- Computations of the request layer. -/
abbrev Checked := Except Failure

/-- A reply: the answer's fields or a failure, fields that an error answer carries too, and the
log records emitted. -/
structure Reply where
  outcome : Checked (List (String × Json))
  also : List (String × Json) := []
  logs : List LogRecord := []

/-- Lifts a library result. -/
def library (e : Except Error α) : Checked α := e.mapError .library

/-- Fails with a malformed-request message. -/
def bad (msg : String) : Checked α := throw (.badInput msg)

/-- A required field of a request. -/
def need (req : Json) (key : String) : Checked Json :=
  match req.get? key with
  | some v => pure v
  | none => bad s!"missing '{key}'"

/-- A string field. -/
def needString (req : Json) (key : String) : Checked String := do
  match ← need req key with
  | .str s => pure s
  | _ => bad s!"'{key}' is not a string"

/-- A natural-number field. -/
def needNat (req : Json) (key : String) : Checked Nat := do
  match ← need req key with
  | .int i => if i ≥ 0 then pure i.toNat else bad s!"'{key}' is negative"
  | .str s => match readInteger false s with
    | some i => pure i.toNat
    | none => bad s!"'{key}' is not a count"
  | _ => bad s!"'{key}' is not a count"

/-- A boolean flag, false when absent. -/
def flag (req : Json) (key : String) : Bool :=
  match req.get? key with
  | some (.bool b) => b
  | _ => false

/-- The type a field names. -/
def typeAt (req : Json) (key : String) : Checked Ty := do
  let name ← needString req key
  match lookupType name with
  | some t => pure t
  | none => bad s!"unknown type '{name}'"

/-- The request's type. -/
def requestType (req : Json) : Checked Ty := typeAt req "type"

/-- Reads a JSON value at a type. -/
def valueAt (t : Ty) (j : Json) : Checked Value :=
  (valueOf Sample.catalog t j).mapError .badInput

/-- The bytes of a hex text. -/
def hexBytes (s : String) : Checked (List UInt8) :=
  match Hex.decode? s with
  | some bs => pure bs
  | none => bad s!"bad hex '{s}'"

/-- The bytes of a hex field. -/
def needHex (req : Json) (key : String) : Checked (List UInt8) := do
  hexBytes (← needString req key)

/-- The engine a request asks for, compiled by default. -/
def engineOf (req : Json) : Checked Engine :=
  match req.field? "engine" with
  | none => pure .compiled
  | some (.str "compiled") => pure .compiled
  | some (.str "dynamic") => pure .dynamic
  | some (.str e) => bad s!"unknown engine '{e}'"
  | some _ => bad "engine is not a string"

/-- A double given as a number or float text. -/
def doubleAt (j : Json) : Checked Binary64 := (doubleOf j).mapError .badInput

/-- A comparison given by name. -/
def comparisonOf (name : String) : Checked Comparison :=
  match Comparison.ofName? name with
  | some c => pure c
  | none => bad s!"unknown comparison '{name}'"

/-- A version: a number or float text (compared for equality), or an object with a value and
a comparison; `null` is no version. -/
def versionOf : Json → Checked (Option Version)
  | .null => pure none
  | .obj fields => do
    let j := Json.obj fields
    let value ← doubleAt (← need j "value")
    let c ← comparisonOf (← needString j "comparison")
    pure (some ⟨value, c⟩)
  | j => do pure (some (Version.exactly (← doubleAt j)))

/-- A version field, none when absent. -/
def versionAt (req : Json) (key : String) : Checked (Option Version) :=
  match req.get? key with
  | some j => versionOf j
  | none => pure none

/-- A text encoding by name. -/
def encodingOf : Option Json → Checked TextEncoding
  | none => pure .utf8
  | some (.str "utf8") => pure .utf8
  | some (.str "utf16le") => pure .utf16le
  | some _ => bad "unknown encoding"

/-- The encoding field of a request, UTF-8 by default. -/
def encodingAt (req : Json) : Checked TextEncoding := encodingOf (req.field? "encoding")

/-- A member kind by name. -/
def memberKindOf : Json → Checked MemberKind
  | .str "field" => pure .field
  | .str "property" => pure .property
  | _ => bad "unknown member kind"

/-- A custom converter by name. -/
def customOf : Json → Checked CustomConverter
  | .str "be16" => pure .bigEndianU16
  | .str "decimal_u32" => pure .decimalU32
  | .str "wide32" => pure .wide32
  | .str "celsius_exact" => pure (.celsius .exact)
  | .str "celsius_rounded" => pure (.celsius .rounded)
  | .str "probe" => pure .probe
  | _ => bad "unknown converter"

/-- Reads each item of a list. -/
def eachOf (f : Json → Checked α) : List Json → Checked (List α)
  | [] => pure []
  | j :: js => do pure ((← f j) :: (← eachOf f js))

/-- A list field, empty when absent. -/
def listAt (j : Json) (key : String) : Checked (List Json) :=
  match j.field? key with
  | none => pure []
  | some (.arr items) => pure items
  | some _ => bad s!"'{key}' is not a list"

/-- Serializer options from their JSON form; absent fields keep their defaults. -/
def optionsOf (j : Json) : Checked Options := do
  let encoding ← encodingOf (j.field? "encoding")
  let version ← versionAt j "version"
  let mut o : Options := { encoding, version }
  if let some k := j.field? "member_kind" then
    o := o.withMemberKind (← memberKindOf k)
  for k in ← listAt j "add_member_kind" do
    o := o.addMemberKind (← memberKindOf k)
  o := { o with cyclePolicy := ← match j.field? "cycle_policy" with
    | none | some (.str "skip") => pure .skip
    | some (.str "error") => pure .error
    | some _ => bad "unknown cycle policy" }
  o := { o with order := ← match j.field? "order" with
    | none | some (.str "default") => pure .annotated
    | some (.str "reverse") => pure .reverse
    | some (.str "constant") => pure .constant
    | some (.str "negated") => pure .negated
    | some _ => bad "unknown order" }
  o := { o with custom := ← eachOf customOf (← listAt j "converters") }
  pure o

/-- The options of a request, defaults when absent or null. -/
def requestOptions (req : Json) : Checked Options :=
  match req.field? "options" with
  | none => pure {}
  | some j => optionsOf j

end Service
end ObjectWire
