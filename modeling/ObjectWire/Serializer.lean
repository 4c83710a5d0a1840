import ObjectWire.Engine.Read
import ObjectWire.Schema
import ObjectWire.Wire.Writer
import ObjectWire.Wire.Reader
/-!
# Serializing and deserializing

The entry points of a serializer. A stream is the header with the serializer's version, then
the root: an object root is its mapping list with no null flag, any other root goes through
the converter its root request resolves, null flag included. Both engines serve both
directions: the compiled one for values of a known type, the dynamic one for values whose
type is given at run time (and checked first).

Decoding uses the stream's version when the header declares one, and the serializer's
otherwise.
-/

/-!
## The stream header

A stream starts with the marker `MCVH` and a presence flag; a present version follows as its
value (a double) and its comparison's name (a string). Reading is tolerant: a stream without
the marker, or whose header cannot be read (an unknown comparison name included), is read
from its start as data, with no version.
-/

namespace ObjectWire

/-- The four bytes that open a header. -/
def headerMarker : List UInt8 := [0x4D, 0x43, 0x56, 0x48]

/-- Writes a header. -/
def writeHeader (v : Option Version) : Emit Unit := do
  Emit.raw headerMarker
  Emit.bool v.isSome
  if let some v := v then
    Emit.f64 v.value
    Emit.string v.comparison.name

/-- What reading a header found. -/
inductive HeaderRead where
  /-- A header with a version. -/
  | declared (v : Version)
  /-- A header without a version. -/
  | undeclared
  /-- No marker: the stream is data from its start. -/
  | noMarker
  /-- A marker, then a header that cannot be read. -/
  | unreadable (e : Error)

/-- Reads the header after a marker check. -/
def readHeaderBody : Take (Option (Option Version)) := do
  if (← get).remaining < 4 then return none
  if (← Take.raw 4) != headerMarker then return none
  if !(← Take.bool) then return some none
  let value ← Take.f64
  let name ← Take.string
  match Comparison.ofName? name with
  | some c => return some (some ⟨value, c⟩)
  | none => throw (.data (.invalidString s!"unknown comparison '{name}'"))

/-- Reads a header, leaving the reader after it, or where it started when there is none. -/
def readHeader : Take HeaderRead := fun r =>
  match readHeaderBody r with
  | .ok (some (some v)) r' => .ok (.declared v) r'
  | .ok (some none) r' => .ok .undeclared r'
  | .ok none _ => .ok .noMarker r
  | .error e _ => .ok (.unreadable e) r

end ObjectWire

namespace ObjectWire
namespace Run

/-- The version a stream is decoded with, after reading its header; the header's outcome is
logged. -/
def streamVersion : Run (Option Version) := do
  let found ← take readHeader
  let own := (← options).version
  match found with
  | .declared v =>
    log .trace s!"stream declares version {v.display}"
    pure (some v)
  | .undeclared =>
    log .trace "stream declares no version"
    pure own
  | .noMarker =>
    log .trace "stream has no version marker"
    pure own
  | .unreadable e =>
    log .warn s!"unreadable version header, treating stream as unversioned: {e.message}"
    pure own

/-- Writes a value of type `t` through the compiled engine. -/
def serialize (t : Ty) (v : Value) : Run Unit := do
  let ver := (← options).version
  emit (writeHeader ver)
  let ctx : Ctx := { version := ver }
  let ow := objectWriterFor v
  match ← rootPlan t .compiled with
  | .object => writeLayout ow (← compiled t ver) v ctx
  | .converter c => writeValue ow c t ⟨t, v⟩ ctx

/-- Writes a value declared of type `t` through the dynamic engine; a value of another type
is refused before anything is written. -/
def serializeDyn (t : Ty) (v : Typed) : Run Unit := do
  unless v.ty == t do throw (Error.mismatch t.name "a value of another type")
  let ver := (← options).version
  emit (writeHeader ver)
  let ow := objectWriterFor v.val
  match ← rootPlan t .dynamic with
  | .object => writeDynamic ow t v ver
  | .converter c => writeValue ow c t v { version := ver }

/-- Reads a value of type `t` through the compiled engine into `target`: an object's
mappings overlay it, any other root replaces it. -/
def deserializeInto (t : Ty) (target : Value) : Run Value := do
  let ver ← streamVersion
  let orr ← objectReader
  match ← rootPlan t .compiled with
  | .object => readLayout orr (← compiled t ver) target { version := ver }
  | .converter c => readValue orr c t { version := ver }

/-- Reads a value of type `t` through the dynamic engine, into `initial` (checked to be of
type `t`) or the default; a root that is not an object is read afresh. -/
def deserializeDyn (t : Ty) (initial : Option Typed) : Run Value := do
  let target ← match initial with
    | some i => pure i
    | none => do pure ⟨t, ← defaultOf t⟩
  unless target.ty == t do throw (Error.mismatch t.name "a value of another type")
  let ver ← streamVersion
  let orr ← objectReader
  match ← rootPlan t .dynamic with
  | .object => readDynamicInto orr t target ver
  | .converter c => readValue orr c t { version := ver }

end Run

namespace Session

/-- Runs a computation with a writer of the session's encoding (with room for `room` bytes,
if limited) and a reader over `input`. -/
def run (s : Session) (body : Run α) (input : List UInt8 := []) (room : Option Nat := none) :
    Except Error α × Machine :=
  let enc := s.options.encoding
  let m : Machine := { session := s, writer := { encoding := enc, room }, reader := Reader.new input enc }
  match body m with
  | .ok a m' => (.ok a, m')
  | .error e m' => (.error e, m')

end Session
end ObjectWire
