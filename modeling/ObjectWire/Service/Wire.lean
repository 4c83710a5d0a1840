import ObjectWire.Service.Codec
import ObjectWire.Serializer
/-!
# Wire requests

The operations on the wire primitives themselves: a writer or a reader driven step by step,
and the stream header written and read on its own. A writer's or reader's steps stop at the
first failure; each step before it answers the count written, or the value read with the
position and what remains after it.
-/

namespace ObjectWire
namespace Service

/-- A version as answered: its value and comparison. -/
def versionJson (v : Version) : Json :=
  .obj [("value", Json.double v.value.toNat), ("comparison", .str v.comparison.name)]

/-- An optional version as answered. -/
def optionalVersionJson : Option Version → Json
  | some v => versionJson v
  | none => .null

/-- An integer of a scalar type given in a step. -/
def scalarAt (s : Scalar) (j : Json) : Checked Value := (scalarOf s j).mapError .badInput

/-- The scalar type a step names. -/
def scalarType (step : Json) : Checked Scalar := do
  let name ← needString step "type"
  match Scalar.ofName? name with
  | some s => pure s
  | none => bad s!"unknown scalar '{name}'"

/-- The writing computation of a step, and what it answers besides the count. -/
def writeStep (step : Json) : Checked (Emit (List (String × Json))) := do
  let plain (e : Emit Unit) : Checked (Emit (List (String × Json))) := pure (do e; pure [])
  match ← needString step "w" with
  | "bool" => match ← need step "v" with
    | .bool b => plain (Emit.bool b)
    | _ => bad "a bool step takes a bool"
  | "i32" => do
    let v ← scalarAt .i32 (← need step "v")
    plain (Emit.i32 v.toInt)
  | "f64" => do plain (Emit.f64 (← doubleAt (← need step "v")))
  | "len" => do
    let v ← scalarAt .u128 (← need step "v")
    plain (Emit.count v.toNat)
  | "raw" => do plain (Emit.raw (← needHex step "hex"))
  | "bytes" => do plain (Emit.bytes (← needHex step "hex"))
  | "string" => do plain (Emit.string (← needString step "v"))
  | "value" => do
    let s ← scalarType step
    plain (s.write (← scalarAt s (← need step "v")))
  | "debug" => pure do
    let w ← get
    pure [("debug", .str w.debug), ("encoding", .str w.encoding.debugName)]
  | other => bad s!"unknown write step '{other}'"

/-- Runs writing steps until the first failure: each step's answer. -/
def writeSteps (detail : Bool) : List Json → Writer → Checked (List Json × Writer)
  | [], w => pure ([], w)
  | step :: rest, w => do
    let e ← writeStep step
    match e w with
    | .ok extra w' =>
      let (more, wEnd) ← writeSteps detail rest w'
      pure (.obj (extra ++ [("written", .nat w'.written)]) :: more, wEnd)
    | .error err w' => pure ([.obj (failureFields detail (.library err))], w')

/-- `io_write`: a writer driven step by step. -/
def ioWrite (req : Json) : Reply :=
  Reply.of do
    let enc ← encodingAt req
    let (results, w) ← writeSteps (flag req "detail") (← listAt req "steps") (Writer.new enc)
    pure [("results", .arr results), ("hex", .str (Hex.encode w.bytes))]

/-- The reading computation of a step: the value it answers. -/
def readStep (step : Json) : Checked (Take Json) := do
  match ← needString step "r" with
  | "bool" => pure do pure (.bool (← Take.bool))
  | "i32" => pure do pure (.int (← Take.i32))
  | "f64" => pure do pure (Json.double (← Take.f64).toNat)
  | "len" => do
    let min ← scalarAt .u128 (← need step "min")
    pure do pure (.nat (← Take.count min.toNat))
  | "raw" => do
    let n ← needNat step "n"
    pure do pure (.str (Hex.encode (← Take.raw n)))
  | "bytes" => pure do pure (.str (Hex.encode (← Take.bytes)))
  | "string" => pure do pure (.str (← Take.string))
  | "value" => do
    let s ← scalarType step
    pure do pure (scalarJson s (← s.read))
  | "rewind" => do
    let pos ← needNat step "pos"
    pure do
      modify fun r => { r with pos }
      pure .null
  | "position" => pure (pure .null)
  | "remaining" => pure (pure .null)
  | "debug" => pure do pure (.str (← get).debug)
  | "encoding" => pure do pure (.str (← get).encoding.debugName)
  | other => bad s!"unknown read step '{other}'"

/-- Runs reading steps until the first failure: each step's answer. -/
def readSteps (detail : Bool) : List Json → Reader → Checked (List Json)
  | [], _ => pure []
  | step :: rest, r => do
    let t ← readStep step
    match t r with
    | .ok v r' =>
      let more ← readSteps detail rest r'
      pure (.obj [("value", v), ("position", .nat r'.pos), ("remaining", .nat r'.remaining)] :: more)
    | .error err _ => pure [.obj (failureFields detail (.library err))]

/-- `io_read`: a reader driven step by step. -/
def ioRead (req : Json) : Reply :=
  Reply.of do
    let enc ← encodingAt req
    let bytes ← needHex req "hex"
    let results ← readSteps (flag req "detail") (← listAt req "steps") (Reader.new bytes enc)
    pure [("results", .arr results)]

/-- `write_version`: the header of a version, or of no version. -/
def writeVersionOp (req : Json) : Reply :=
  Reply.of do
    let enc ← encodingAt req
    let v ← versionAt req "version"
    match writeHeader v (Writer.new enc) with
    | .ok _ w => pure [("hex", .str (Hex.encode w.bytes))]
    | .error e _ => throw (.library e)

/-- `read_version`: the version a header declares, and where the reader stands after it. -/
def readVersionOp (req : Json) : Reply :=
  Reply.of do
    let enc ← encodingAt req
    let bytes ← needHex req "hex"
    match readHeader (Reader.new bytes enc) with
    | .ok found r =>
      let v := match found with
        | .declared v => versionJson v
        | _ => .null
      pure [("version", v), ("position", .nat r.pos)]
    | .error e _ => throw (.library e)

end Service
end ObjectWire
