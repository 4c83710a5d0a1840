import ObjectWire.Serializer
import ObjectWire.Service.Request
/-!
# Encoding and decoding requests

The operations that turn values into streams and back: plain encoding and decoding with
either engine, and the ways a stream reaches its destination: a sink that takes a limited
number of bytes, a source that breaks, a file, or a batch of values. A file holds exactly the
stream, and a file that cannot be opened fails before anything is encoded or decoded.

Every operation runs on a serializer: the request's own (built from its options), the shared
one of a session, or the default one for the static shortcuts. Only log records and caches
depend on which: results do not.
-/

/-!
## Answers

How a reply becomes the answer object. A failure is answered by its kind and message: a
library error's kind is its cause (`Serialization`, `Internal`, `Io`) or, for configuration
and data errors, the cause and the variant (`Data.TypeMismatch`). On request, a library
error also tells whether it is a configuration or a data error and the text of its source,
and any answer lists the log records emitted while it was made.
-/

namespace ObjectWire
namespace Service

/-- The variant name of a configuration error. -/
def configVariant : ConfigError → String
  | .missingElementStrategy .. => "MissingElementStrategy"
  | .conflictingMemberKinds .. => "ConflictingMemberKinds"
  | .ambiguousConverter .. => "AmbiguousConverter"
  | .unknownConverter .. => "UnknownConverter"
  | .unsupportedMember .. => "UnsupportedMember"
  | .cyclicMember .. => "CyclicMember"
  | .notAnObject .. => "NotAnObject"

/-- The variant name of a data error. -/
def dataVariant : DataError → String
  | .unknownEnumName .. => "UnknownEnumName"
  | .typeMismatch .. => "TypeMismatch"
  | .invalidLength .. => "InvalidLength"
  | .invalidString .. => "InvalidString"
  | .segmentOutOfRange .. => "SegmentOutOfRange"
  | .lengthOverflow .. => "LengthOverflow"

/-- The kind of a library error in answers. -/
def errorKind : Error → String
  | .io _ => "Io"
  | .codec _ => "Serialization"
  | .config e => "Configuration." ++ configVariant e
  | .data e => "Data." ++ dataVariant e
  | .internal _ => "Internal"

/-- The fields of an error answer. -/
def failureFields (detail : Bool) : Failure → List (String × Json)
  | .library e =>
    [("error", .str (errorKind e)), ("message", .str e.message)] ++
      (if detail then
        [("is_configuration", .bool e.isConfiguration), ("is_data", .bool e.isData),
         ("source", match e.source? with | some s => .str s | none => .null)]
      else [])
  | .badInput msg => [("error", .str "BadInput"), ("message", .str msg)]
  | .parse msg => [("error", .str "ParseError"), ("message", .str msg)]
  | .derive msg => [("error", .str "DeriveError"), ("message", .str msg)]
  | .abort msg => [("error", .str "panic"), ("message", .str msg)]

/-- A log record as answered: its level and message. -/
def logLine (r : LogRecord) : Json := .str (r.level.name ++ " " ++ r.message)

/-- The answer object of a reply. -/
def Reply.answer (r : Reply) (detail logs : Bool) : Json :=
  let body := match r.outcome with
    | .ok fields => fields
    | .error f => failureFields detail f ++ r.also
  .obj (body ++ if logs then [("logs", .arr (r.logs.map logLine))] else [])

/-- A reply from a result, with no log records. -/
def Reply.of (c : Checked (List (String × Json))) : Reply := { outcome := c }

end Service
end ObjectWire

namespace ObjectWire
namespace Service

/-- A serializer over the sample catalog. -/
def serializerWith (o : Options) : Session := Session.new Sample.catalog o

/-- The serializer of a request: the default one for a static shortcut, else one built from
the request's options. -/
def requestSerializer (req : Json) : Checked Session :=
  if flag req "static" then pure (serializerWith {})
  else do pure (serializerWith (← requestOptions req))

/-- Bytes as a hex field value. -/
def hexJson (bytes : List UInt8) : Json := .str (Hex.encode bytes)

/-- Runs a computation on a serializer, starting a fresh log: the reply made of its result,
the log records it emitted, and the serializer after it. -/
def runOn (s : Session) (body : Run α) (answer : α → Machine → List (String × Json))
    (input : List UInt8 := []) (room : Option Nat := none)
    (also : Machine → List (String × Json) := fun _ => []) : Reply × Session :=
  let (r, m) := { s with logs := #[] }.run body input room
  let outcome := match r with
    | .ok a => .ok (answer a m)
    | .error e => .error (.library e)
  ({ outcome, also := also m, logs := m.session.logs.toList }, m.session)

/-- A reply for a request that failed before reaching the serializer. -/
def refused (s : Session) (f : Failure) : Reply × Session := ({ outcome := .error f }, s)

/-- Runs a prepared computation, or refuses the request. -/
def runChecked (s : Session) (prepared : Checked (Run α))
    (answer : α → Machine → List (String × Json)) (input : List UInt8 := [])
    (room : Option Nat := none) (also : Machine → List (String × Json) := fun _ => []) :
    Reply × Session :=
  match prepared with
  | .ok body => runOn s body answer input room also
  | .error f => refused s f

/-- The answer holding the bytes written. -/
def written (_ : Unit) (m : Machine) : List (String × Json) := [("hex", hexJson m.writer.bytes)]

/-- The answer holding a value of type `t`. -/
def decoded (t : Ty) (v : Value) (_ : Machine) : List (String × Json) :=
  [("value", jsonOf Sample.catalog t v)]

/-- The computation that encodes a request's value: through the compiled engine at the
request's type, or through the dynamic engine at the type of `value_type` (the request's type
by default), which must be the request's type. -/
def encodeBody (req : Json) : Checked (Run Unit) := do
  let t ← requestType req
  let engine ← engineOf req
  let vj ← need req "value"
  match engine with
  | .compiled => pure (Run.serialize t (← valueAt t vj))
  | .dynamic =>
    let vt ← if (req.field? "value_type").isSome then typeAt req "value_type" else pure t
    pure (Run.serializeDyn t ⟨vt, ← valueAt vt vj⟩)

/-- The computation that decodes a request's stream at its type: into the request's initial
value or the default through the compiled engine, or through the dynamic engine with the
initial value at the type of `initial_type`. -/
def decodeBody (req : Json) (t : Ty) : Checked (Run Value) := do
  match ← engineOf req with
  | .compiled =>
    let initial ← match req.field? "initial" with
      | some j => valueAt t j
      | none => pure (Sample.catalog.default t)
    pure (Run.deserializeInto t initial)
  | .dynamic =>
    let initial ← match req.field? "initial" with
      | some j => do
        let it ← if (req.field? "initial_type").isSome then typeAt req "initial_type" else pure t
        pure (some ⟨it, ← valueAt it j⟩)
      | none => pure none
    pure (Run.deserializeDyn t initial)

/-- `encode`: the stream of a value. -/
def encode (s : Session) (req : Json) : Reply × Session :=
  runChecked s (encodeBody req) written

/-- `decode`: the value of a stream. -/
def decode (s : Session) (req : Json) : Reply × Session :=
  match requestType req, needHex req "hex" with
  | .ok t, .ok bytes => runChecked s (decodeBody req t) (decoded t) bytes
  | .error f, _ => refused s f
  | _, .error f => refused s f

/-- Runs a request on its own serializer. -/
def withSerializer (req : Json) (op : Session → Json → Reply × Session) : Reply :=
  match requestSerializer req with
  | .ok s => (op s req).1
  | .error f => { outcome := .error f }

/-- The compiled encoding of a request's value. -/
def plainEncode (req : Json) (_ : Session) : Checked (Run Unit) := do
  let t ← requestType req
  pure (Run.serialize t (← valueAt t (← need req "value")))

/-- The compiled decoding of given bytes from the default value. -/
def plainDecode (t : Ty) : Run Value := Run.deserializeInto t (Sample.catalog.default t)

/-- `static_encode` and `static_write`: encoding on the default serializer. -/
def staticEncode (req : Json) : Reply :=
  let s := serializerWith {}
  (runChecked s (plainEncode req s) written).1

/-- `static_decode` and `static_read`: decoding on the default serializer. -/
def staticDecode (req : Json) : Reply :=
  match requestType req, needHex req "hex" with
  | .ok t, .ok bytes => (runOn (serializerWith {}) (plainDecode t) (decoded t) bytes).1
  | .error f, _ => { outcome := .error f }
  | _, .error f => { outcome := .error f }

/-- `stream_encode`: encoding into a sink that takes at most `fail_after` bytes; a failure
also answers what the sink took. -/
def streamEncode (req : Json) : Reply :=
  withSerializer req fun s req =>
    let room := match req.field? "fail_after" with
      | some (.int n) => some n.toNat
      | _ => none
    runChecked s (plainEncode req s) written [] room fun m => [("hex", hexJson m.writer.bytes)]

/-- `stream_decode`: decoding what a source hands out; a source set to break fails the whole
read before anything is decoded. -/
def streamDecode (req : Json) : Reply :=
  withSerializer req fun s req =>
    match requestType req, needHex req "hex" with
    | .ok t, .ok bytes =>
      if (req.field? "fail_at").isSome then refused s (.library (.io .sourceBroken))
      else runOn s (plainDecode t) (decoded t) bytes
    | .error f, _ => refused s f
    | _, .error f => refused s f

/-- Points the machine's reader at new input. -/
def Run.readFrom (bytes : List UInt8) : Run Unit :=
  modify fun m => { m with reader := Reader.new bytes m.reader.encoding }

/-- Encodes a value and decodes what was written, as a file is saved and loaded. -/
def Run.reload (body : Run Unit) (t : Ty) : Run (List UInt8 × Value) := do
  body
  let bytes := (← get).writer.bytes
  Run.readFrom bytes
  pure (bytes, ← plainDecode t)

/-- `file_roundtrip`: saving a value to a file and loading it back. -/
def fileRoundtrip (req : Json) : Reply :=
  withSerializer req fun s req =>
    match requestType req with
    | .ok t =>
      runChecked s (do pure (Run.reload (← plainEncode req s) t))
        fun (bytes, v) _ => [("hex", hexJson bytes), ("value", jsonOf Sample.catalog t v)]
    | .error f => refused s f

/-- `file_load`: loading a file that is missing, a directory, or holds given bytes. -/
def fileLoad (req : Json) : Reply :=
  withSerializer req fun s req =>
    match requestType req, req.field? "file" with
    | .error f, _ => refused s f
    | _, some (.str "missing") => refused s (.library (.io .notFound))
    | _, some (.str "directory") => refused s (.library (.io .noDevice))
    | .ok t, some (.str "bytes") =>
      match needHex req "hex" with
      | .ok bytes => runOn s (plainDecode t) (decoded t) bytes
      | .error f => refused s f
    | _, _ => refused s (.badInput "unknown file")

/-- `file_save_directory`: saving onto a directory fails before anything is encoded. -/
def fileSaveDirectory (req : Json) : Reply :=
  withSerializer req fun s req =>
    match plainEncode req s with
    | .ok _ => refused s (.library (.io .isDirectory))
    | .error f => refused s f

/-- Encodes each value into its own stream. -/
def Run.encodeAll (t : Ty) : List Value → Run (List (List UInt8))
  | [] => pure []
  | v :: vs => do
    let bytes ← Run.scratch (Run.serialize t v)
    pure (bytes :: (← Run.encodeAll t vs))

/-- Decodes each stream. -/
def Run.decodeAll (t : Ty) : List (List UInt8) → Run (List Value)
  | [] => pure []
  | bs :: rest => do
    Run.readFrom bs
    let v ← plainDecode t
    pure (v :: (← Run.decodeAll t rest))

/-- `batch_encode`: the streams of several values. -/
def batchEncode (req : Json) : Reply :=
  withSerializer req fun s req =>
    let prepared : Checked (Ty × List Value) := do
      let t ← requestType req
      let items ← listAt req "values"
      pure (t, ← eachOf (valueAt t) items)
    match prepared with
    | .ok (t, vs) =>
      runOn s (Run.encodeAll t vs) fun hexes _ => [("hexes", .arr (hexes.map hexJson))]
    | .error f => refused s f

/-- `batch_decode`: the values of several streams. -/
def batchDecode (req : Json) : Reply :=
  withSerializer req fun s req =>
    let prepared : Checked (Ty × List (List UInt8)) := do
      let t ← requestType req
      let items ← listAt req "hexes"
      pure (t, ← eachOf (fun j => match j with
        | .str h => hexBytes h
        | _ => bad "a stream is a hex string") items)
    match prepared with
    | .ok (t, streams) =>
      runOn s (Run.decodeAll t streams) fun vs _ =>
        [("values", .arr (vs.map (jsonOf Sample.catalog t)))]
    | .error f => refused s f

end Service
end ObjectWire
