import ObjectWire.Service.Wire
import ObjectWire.Service.Codec
/-!
# Inspection requests

The operations that render what a serializer holds: the renderings of types, shapes, mapping
lists, members and serializers; compiled layouts; typed accessors; what each member
descriptor does with an owner of the right and of the wrong type; and a type's facts
(its names, its default value, and for an object its members).
-/

/-!
## Layout requests

The operations that show how a serializer sees a type: the type's names and shape, its
resolved members, and its mapping list (the members on the wire, in wire order, with their
converters). A session runs several such requests, and encodings and decodings, on one
serializer, so later steps see the caches earlier ones filled.
-/

namespace ObjectWire
namespace Service

/-- A mapping as answered: its dotted path, cascade depth, order, member type and converter
tree. -/
def mappingJson (m : Mapping) : Json :=
  .obj [("path", .str m.pathName), ("cascade_id", .nat m.cascadeId),
        ("order", .str (toString m.member.order)), ("type", .str m.member.info.ty.name),
        ("converter", .arr (m.converter.tokens.map Json.str))]

/-- A resolved member as answered. -/
def memberJson (d : Descriptor) : Json :=
  .obj [("name", .str d.info.name), ("kind", .str d.info.kind.name),
        ("order", .str (toString d.order)), ("index", .nat d.index),
        ("type", .str d.info.ty.name), ("can_write", .bool d.canWrite),
        ("can_cascade", .bool d.canCascade), ("qualified_name", .str d.qualifiedName)]

/-- `mapping_list`: the mapping list of a type under the serializer's version. -/
def mappingListOp (s : Session) (req : Json) : Reply × Session :=
  match requestType req with
  | .ok t =>
    runOn s (do Run.mappingList t (← Run.options).version) fun l _ =>
      [("mappings", .arr (l.mappings.map mappingJson))]
  | .error f => refused s f

/-- `members`: the resolved members of a type, in order. -/
def membersOp (s : Session) (req : Json) : Reply × Session :=
  match requestType req with
  | .ok t => runOn s (Run.members t) fun ds _ => [("members", .arr (ds.map memberJson))]
  | .error f => refused s f

/-- `type_info`: the full name, short name and shape of a type. -/
def typeInfo (req : Json) : Reply :=
  Reply.of do
    let t ← requestType req
    pure [("name", .str t.name), ("short_name", .str t.shortName), ("shape", .str t.shape.label)]

/-- The text that names a step's operation in a refusal: `Some("op")` or `None`. -/
def stepName (step : Json) : String :=
  match step.get? "op" with
  | some (.str op) => "Some(" ++ Escape.quote op ++ ")"
  | _ => "None"

/-- Runs one step of a session. -/
def sessionStep (s : Session) (step : Json) : Reply × Session :=
  match step.get? "op" with
  | some (.str "encode") => encode s step
  | some (.str "decode") => decode s step
  | some (.str "mapping_list") => mappingListOp s step
  | some (.str "members") => membersOp s step
  | some (.str "clear_caches") => (Reply.of (pure [("ok", .bool true)]), s.clearCaches)
  | _ => refused s (.badInput s!"unknown session step {stepName step}")

/-- Runs the steps of a session in order, each on the serializer the last one left. -/
def sessionSteps (s : Session) : List Json → List Json
  | [] => []
  | step :: rest =>
    let (r, s') := sessionStep s step
    r.answer false false :: sessionSteps s' rest

/-- `session`: several steps on one serializer. -/
def sessionOp (req : Json) : Reply :=
  Reply.of do
    let s ← requestSerializer req
    let steps ← listAt req "steps"
    pure [("results", .arr (sessionSteps s steps))]

end Service
end ObjectWire

namespace ObjectWire
namespace Service

/-- The rendering of a type's shape: an object's members, an enum's wire names, or the shape's
label. -/
def shapeDebug (cat : Catalog) (t : Ty) : String :=
  match t with
  | .object p =>
    let members := ((cat.object? p).map (·.members)).getD []
    "Object \x7b members: [" ++ ", ".intercalate (members.map MemberInfo.debug) ++ "], .. \x7d"
  | .enum p =>
    "Enum \x7b variants: [" ++ ", ".intercalate (wireNames cat p |>.map Escape.quote) ++ "], .. \x7d"
  | t => t.shape.label
where
  /-- The wire names of an enum's variants. -/
  wireNames (cat : Catalog) (p : String) : List String :=
    ((cat.enum? p).map (·.variants.map (·.2))).getD []

/-- The rendering of a serializer. -/
def serializerDebug (s : Session) : String := "Serializer \x7b mapper: " ++ s.mapperDebug ++ " \x7d"

/-- `debug`: one rendering, chosen by `what`. -/
def debugOp (req : Json) : Reply :=
  match requestSerializer req, needString req "what" with
  | .error f, _ => Reply.of (.error f)
  | _, .error f => Reply.of (.error f)
  | .ok s, .ok what =>
    let text (t : String) : List (String × Json) := [("text", .str t)]
    match what with
    | "serializer" => Reply.of (pure (text (serializerDebug s)))
    | _ => match requestType req with
      | .error f => Reply.of (.error f)
      | .ok t => match what with
        | "type" => Reply.of (pure (text (Converter.typeText t)))
        | "shape" => Reply.of (pure (text (shapeDebug s.catalog t)))
        | "mapping_list" =>
          (runOn s (do Run.mappingList t (← Run.options).version) fun l _ => text l.debug).1
        | "members" =>
          (runOn s (Run.members t) fun ds _ =>
            text ("[" ++ ", ".intercalate (ds.map Descriptor.debug) ++ "]")).1
        | "serializer_after" =>
          let (_, m) := s.run (do Run.mappingList t (← Run.options).version)
          Reply.of (pure (text m.session.mapperDebug))
        | other => Reply.of (bad s!"unknown rendering '{other}'")

/-- `compiled_info`: the compiled layout of a type, asked for twice. -/
def compiledInfo (req : Json) : Reply :=
  withSerializer req fun s req =>
    match requestType req with
    | .ok t =>
      let twice : Run (List Accessor × Bool) := do
        let v := (← Run.options).version
        let first ← Run.compiled t v
        let cached := (← Run.session).compiled.contains (t, versionKey v)
        let _ ← Run.compiled t v
        pure (first, cached)
      runOn s twice fun (accessors, cached) _ =>
        [("debug", .str (layoutDebug t accessors)), ("len", .nat accessors.length),
         ("cached", .bool cached)]
    | .error f => refused s f

/-- `compile_with`: the compiled layout of a type over another type's mapping list. -/
def compileWith (req : Json) : Reply :=
  withSerializer req fun s req =>
    match requestType req, typeAt req "list_type" with
    | .ok t, .ok u =>
      let build : Run (List Accessor) := do
        let l ← Run.mappingList u (← Run.options).version
        Run.lift (compileLayout (← Run.catalog) t l)
      runOn s build fun accessors _ => [("debug", .str (layoutDebug t accessors))]
    | .error f, _ => refused s f
    | _, .error f => refused s f

/-- `typed_members`: the renderings of a type's typed accessors. -/
def typedMembers (req : Json) : Reply :=
  Reply.of do
    let t ← requestType req
    let typed : List TypedMember := match t with
      | .object p => ((Sample.catalog.object? p).map ObjectSchema.typed).getD []
      | _ => []
    pure [("typed", .arr (typed.map fun a => .str a.debug))]

/-- The text of an access's outcome: `ok` or the error. -/
def outcomeText (r : Except Error α) : String :=
  match r with
  | .ok _ => "ok"
  | .error e => e.message

/-- What a member descriptor does with an owner and with a byte in its place. -/
def memberRefJson (owner : Typed) (d : Descriptor) : Json :=
  let stranger : Typed := ⟨.scalar .u8, .nat 7⟩
  .obj [("name", .str d.info.name), ("declaring_type", .str d.owner.name),
        ("ref", .str (match d.get owner with
          | .ok r => r.debug
          | .error e => e.message)),
        ("borrow", .str (outcomeText (d.borrow owner))),
        ("get_mut_wrong_owner", .str (outcomeText (d.reach stranger))),
        ("get_wrong_owner", .str (outcomeText (d.get stranger))),
        ("debug", .str d.debug)]

/-- `member_refs`: each resolved member's accesses on a value. -/
def memberRefs (req : Json) : Reply :=
  withSerializer req fun s req =>
    match requestType req with
    | .ok t =>
      match valueAt t (req.field? "value" |>.getD .null) with
      | .ok v =>
        runOn s (Run.members t) fun ds _ => [("members", .arr (ds.map (memberRefJson ⟨t, v⟩)))]
      | .error f => refused s f
    | .error f => refused s f

/-- `mapping_info`: facts of a type's mapping list. -/
def mappingInfo (req : Json) : Reply :=
  withSerializer req fun s req =>
    match requestType req with
    | .ok t =>
      runOn s (do Run.mappingList t (← Run.options).version) fun l _ =>
        [("type", .str l.ty.name), ("version", optionalVersionJson l.version),
         ("len", .nat l.mappings.length), ("is_empty", .bool l.mappings.isEmpty),
         ("count", .nat l.mappings.length), ("paths", .arr (l.mappings.map (.str ·.pathName))),
         ("mapper_version", optionalVersionJson s.options.version)]
    | .error f => refused s f

/-- `serializer_info`: the renderings and settings of options and serializers. -/
def serializerInfo (req : Json) : Reply :=
  Reply.of do
    let o ← requestOptions req
    let s := serializerWith o
    let reg := o.registry
    let plain := serializerWith {}
    pure [("encoding", .str o.encoding.debugName), ("version", optionalVersionJson o.version),
          ("cycle_policy", .str o.cyclePolicy.name),
          ("member_kinds", .arr (o.memberKinds.map (.str ·.name))),
          ("registry", .arr (reg.map (.str ·.debug))),
          ("registry_u8_candidates", .nat (reg.filter (·.target == .scalar .u8)).length),
          ("options_debug", .str o.debug), ("serializer_debug", .str (serializerDebug s)),
          ("default_debug", .str (serializerDebug plain)),
          ("builder_options_debug", .str ({} : Options).debug),
          ("new_registry_debug", .str ({} : Options).registryDebug),
          ("same_as_builder", .bool true)]

/-- A member's facts as answered. -/
def memberInfoJson (m : MemberInfo) : Json :=
  .obj [("name", .str m.name), ("kind", .str m.kind.name), ("type", .str m.ty.name),
        ("can_read", .bool m.canRead), ("can_write", .bool m.canWrite),
        ("access", .str m.access.debug), ("attributes", .str m.attributes.debug)]

/-- `type_detail`: a type's renderings and facts, and how a value relates to it. -/
def typeDetail (req : Json) : Reply :=
  Reply.of do
    let t ← requestType req
    let cat := Sample.catalog
    let vt ← if (req.field? "value_type").isSome then typeAt req "value_type" else pure t
    let v ← valueAt vt (req.field? "value" |>.getD .null)
    let dflt := cat.default t
    let common : List (String × Json) :=
      [("debug", .str (Converter.typeText t)), ("display", .str t.name),
       ("is_u8", .bool (t == .scalar .u8)), ("is_string", .bool (t == .string)),
       ("equals_string", .bool (t == .string)), ("matches", .bool (vt == t)),
       ("is_null", .bool (t.isNull ⟨vt, v⟩)), ("default", jsonOf cat t dflt)]
    match t with
    | .object p =>
      let members := ((cat.object? p).map (·.members)).getD []
      pure (common ++
        [("members", .arr (members.map memberInfoJson)), ("construct", jsonOf cat t dflt),
         ("hooks", .str "CompiledHooks"),
         ("object_shape", .str ("ObjectShape \x7b members: [" ++
            ", ".intercalate (members.map MemberInfo.debug) ++ "], .. \x7d"))])
    | .enum p =>
      let names := shapeDebug.wireNames cat p
      pure (common ++
        [("variants", .arr (names.map Json.str)),
         ("enum_shape", .str ("EnumShape \x7b variants: [" ++
            ", ".intercalate (names.map Escape.quote) ++ "], .. \x7d"))])
    | t => pure (common ++ [("shape_debug", .str (shapeDebug cat t))])

end Service
end ObjectWire
