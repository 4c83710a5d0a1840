import ObjectWire.Service.Inspect
import ObjectWire.Json.Read
import ObjectWire.Json.Write
import ObjectWire.Service.Codec
import ObjectWire.Derive.Emit
import ObjectWire.Service.Wire
/-!
# Answering requests

One request line in, one answer line out. A request is a JSON object whose `op` field names
the operation; the flags `detail` and `logs` ask for more in the answer. A line that is not a
JSON object, or names no known operation, is a malformed request.
-/

/-!
## Version requests

The operations on versions and comparisons alone: whether a gate admits a version, whether a
member with several gates is present, comparisons by symbol, name and evaluation, and the
versions each constructor makes with their renderings.
-/

namespace ObjectWire
namespace Service

/-- A version that must be present. -/
def needVersion (req : Json) (key : String) : Checked Version := do
  match ← versionOf (← need req key) with
  | some v => pure v
  | none => bad s!"missing '{key}'"

/-- `version_supported`: whether a gate admits another version, with a default when there is
none to compare. -/
def versionSupported (req : Json) : Reply :=
  Reply.of do
    let gate ← needVersion req "gate"
    let other ← match req.field? "other" with
      | some j => do pure (some (← doubleAt j))
      | none => pure none
    let dflt := flag req "default"
    pure [("result", .bool (gate.isSupported other dflt))]

/-- `member_present`: whether every gate admits the active version. -/
def memberPresent (req : Json) : Reply :=
  Reply.of do
    let gates ← eachOf (fun j => do
      match ← versionOf j with
      | some v => pure v
      | none => bad "a gate is a version") (← listAt req "gates")
    let active ← versionAt req "active"
    pure [("result", .bool (isMemberPresent gates active))]

/-- An optional comparison as answered: its name or null. -/
def comparisonJson : Option Comparison → Json
  | some c => .str c.name
  | none => .null

/-- `comparison`: a comparison from its symbol or its name, or one evaluated on two values. -/
def comparisonOp (req : Json) : Reply :=
  Reply.of do
    if let some (.str s) := req.field? "from_symbol" then
      return [("result", comparisonJson (Comparison.ofSymbol? s))]
    if let some (.str s) := req.field? "from_name" then
      return [("result", comparisonJson (Comparison.ofName? s))]
    let c ← comparisonOf (← needString req "comparison")
    let lhs ← doubleAt (← need req "lhs")
    let rhs ← doubleAt (← need req "rhs")
    pure [("result", match c.evaluate lhs rhs with
      | some b => .bool b
      | none => .null)]

/-- The version a constructor makes from a value. -/
def makeVersion (req : Json) (value : Binary64) : Checked Version := do
  match ← needString req "kind" with
  | "at_least" => pure ⟨value, .greaterThanOrEqual⟩
  | "at_most" => pure ⟨value, .lessThanOrEqual⟩
  | "exactly" => pure (Version.exactly value)
  | "from" => pure (Version.exactly value)
  | "new" => pure ⟨value, ← comparisonOf (← needString req "comparison")⟩
  | other => bad s!"unknown version kind '{other}'"

/-- `version_make`: a version from a constructor, with its renderings. -/
def versionMake (req : Json) : Reply :=
  Reply.of do
    let v ← makeVersion req (← doubleAt (← need req "value"))
    pure [("version", versionJson v), ("display", .str v.display), ("debug", .str v.debug),
          ("comparison_display", .str v.comparison.name),
          ("default_comparison", .str Comparison.equal.name)]

end Service
end ObjectWire

/-!
## The derive request

`derive` reads a source text as one item declaration and runs the object or the enum derive
on it. A text that does not scan or parse is a parse failure with the reader's message; an
item the derive refuses is a derive failure with the derive's message; otherwise the answer
is the printed derived code.
-/

namespace ObjectWire
namespace Service

open Derive

/-- Which derive a request runs. -/
inductive DeriveKind where
  | object
  | enumeration

/-- The derive a request's `kind` names. -/
def deriveKindOf : String → Checked DeriveKind
  | "object" => pure .object
  | "enum" => pure .enumeration
  | other => bad s!"unknown derive kind '{other}'"

/-- The code a derive produces for a source text, or why there is none. -/
def derivedCode (kind : DeriveKind) (source : String) : Checked (List Token) := do
  let some toks := scan source | throw (.parse "cannot parse string into token stream")
  let item ← (Item.parse toks).mapError Failure.parse
  match kind with
  | .object => (MemberTable.ofItem item).map MemberTable.code |>.mapError Failure.derive
  | .enumeration => (WireTable.ofItem item).map WireTable.code |>.mapError Failure.derive

/-- Answers a `derive` request. -/
def deriveOp (req : Json) : Reply :=
  Reply.of do
    let kind ← deriveKindOf (← needString req "kind")
    let source ← needString req "source"
    let code ← derivedCode kind source
    pure [("tokens", .str (renderTokens code))]

end Service
end ObjectWire

namespace ObjectWire
namespace Service

/-- The reply to a request. -/
def respond (req : Json) : Reply :=
  match req.get? "op" with
  | some (.str "encode") => withSerializer req encode
  | some (.str "decode") => withSerializer req decode
  | some (.str "static_encode") => staticEncode req
  | some (.str "static_write") => staticEncode req
  | some (.str "static_decode") => staticDecode req
  | some (.str "static_read") => staticDecode req
  | some (.str "stream_encode") => streamEncode req
  | some (.str "stream_decode") => streamDecode req
  | some (.str "file_roundtrip") => fileRoundtrip req
  | some (.str "file_load") => fileLoad req
  | some (.str "file_save_directory") => fileSaveDirectory req
  | some (.str "batch_encode") => batchEncode req
  | some (.str "batch_decode") => batchDecode req
  | some (.str "mapping_list") => withSerializer req mappingListOp
  | some (.str "members") => withSerializer req membersOp
  | some (.str "type_info") => typeInfo req
  | some (.str "session") => sessionOp req
  | some (.str "io_write") => ioWrite req
  | some (.str "io_read") => ioRead req
  | some (.str "write_version") => writeVersionOp req
  | some (.str "read_version") => readVersionOp req
  | some (.str "version_supported") => versionSupported req
  | some (.str "member_present") => memberPresent req
  | some (.str "comparison") => comparisonOp req
  | some (.str "version_make") => versionMake req
  | some (.str "debug") => debugOp req
  | some (.str "derive") => deriveOp req
  | some (.str "compiled_info") => compiledInfo req
  | some (.str "compile_with") => compileWith req
  | some (.str "typed_members") => typedMembers req
  | some (.str "member_refs") => memberRefs req
  | some (.str "mapping_info") => mappingInfo req
  | some (.str "serializer_info") => serializerInfo req
  | some (.str "type_detail") => typeDetail req
  | some (.str op) => Reply.of (bad s!"unknown op '{op}'")
  | _ => Reply.of (bad "missing 'op'")

/-- The answer line to a request line. -/
def answerLine (line : String) : String :=
  match Json.parse line with
  | .ok (.obj fields) =>
    let req := Json.obj fields
    Json.render ((respond req).answer (flag req "detail") (flag req "logs"))
  | .ok _ => Json.render (.obj (failureFields false (.badInput "a request is a JSON object")))
  | .error e => Json.render (.obj (failureFields false (.badInput e)))

end Service
end ObjectWire
