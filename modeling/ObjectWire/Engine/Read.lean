import ObjectWire.Engine.Write
/-!
# Reading values

Reading undoes writing: a converter checks the declared type, reads the null flag if it has
one (a set flag gives the type's default value), then the value. Maps are rebuilt by inserting
their entries in order, so a repeated key keeps its last value. An object read by the dynamic
engine starts from the type's default and stores each mapping through the path of cascaded
fields; a member without a setter is read and then dropped. The compiled engine stores
through the typed accessors of the root type.

Every object level of the input costs at least its null flag, so the input's length bounds
how deep objects nest.
-/

namespace ObjectWire

/-- How an object value is read by an engine, for a version. -/
abbrev ObjectReader := Ty → Engine → Option Version → Run Value

namespace Run

/-- The default value of a type. -/
def defaultOf (t : Ty) : Run Value := do pure ((← catalog).default t)

/-- Checks the declared type and reads the null flag; whether a value follows. -/
def readHead (c : Converter) (ty : Ty) : Run Bool := do
  if c.target != ty then throw (Error.mismatch c.target.name ty.name)
  if c.handlesNull then return !(← take Take.bool)
  return true

/-- Reads a value without its null flag; objects come from `orr`. -/
def readBody (orr : ObjectReader) : Converter → Ty → Ctx → Run Value
  | .primitive s, _, _ => take s.read
  | .string, _, _ => do pure (.str (← take Take.string))
  | .array, _, ctx => do
    match ctx.segment with
    | some seg =>
      let run ← take (Take.raw seg.len)
      pure (.list ((List.replicate seg.offset (0 : UInt8) ++ run).map fun b => .nat b.toNat))
    | none => do pure (.list ((← take Take.bytes).map fun b => .nat b.toNat))
  | .custom c, _, _ => readCustom c
  | .list _ e conv, _, ctx => do
    let n ← take (Take.count 1)
    let mut items : Array Value := #[]
    for _ in List.range n do
      let item ← if ← readHead conv e then readBody orr conv e ctx.detached else defaultOf e
      items := items.push item
    pure (.list items.toList)
  | .dictionary _ k vt _ kc vc, _, ctx => do
    let n ← take (Take.count 2)
    let mut entries : Array (Value × Value) := #[]
    for _ in List.range n do
      let a ← if ← readHead kc k then readBody orr kc k ctx.detached else defaultOf k
      let b ← if ← readHead vc vt then readBody orr vc vt ctx.detached else defaultOf vt
      entries := entries.push (a, b)
    pure ((← catalog).mapOf k entries.toList)
  | .pair _ k vt kc vc, _, ctx => do
    let a ← if ← readHead kc k then readBody orr kc k ctx.detached else defaultOf k
    let b ← if ← readHead vc vt then readBody orr vc vt ctx.detached else defaultOf vt
    pure (.pair a b)
  | .enum t variants, _, _ => do
    let wire ← take Take.string
    match variants.find? (·.2 == wire) with
    | some (n, _) => pure (.variant n)
    | none => throw (.data (.unknownEnumName t.name wire))
  | .nullable _ i conv innerNullable, _, ctx => do
    let x ← if innerNullable then
        (if ← readHead conv i then readBody orr conv i ctx else defaultOf i)
      else readBody orr conv i ctx
    pure (.present x)
  | .pointer _ i conv, _, ctx => readBody orr conv i ctx
  | .object t e, _, ctx => orr t e ctx.version

/-- Reads a value with its null flag. -/
def readValue (orr : ObjectReader) (c : Converter) (ty : Ty) (ctx : Ctx) : Run Value := do
  if ← readHead c ty then readBody orr c ty ctx else defaultOf ty

/-- Replaces the part of `root` that `path` reaches by mutable borrows with what `k` makes of
it. -/
def updateAt : List Descriptor → Typed → (Typed → Run Value) → Run Value
  | [], root, k => k root
  | hop :: rest, root, k => do
    let field ← lift (hop.reach root)
    let inner := (root.val.field? field).getD .unit
    let updated ← updateAt rest ⟨hop.info.ty, inner⟩ k
    pure (root.val.setField field updated)

/-- Stores a decoded member value into its owner, or drops it when the member has no
setter. -/
def storeMember (d : Descriptor) (v : Value) (owner : Typed) : Run Value := do
  match ← lift (d.store owner.val ⟨d.info.ty, v⟩) with
  | some o => pure o
  | none =>
    log .trace s!"discarded read-only '{d.qualifiedName}'"
    pure owner.val

/-- Reads an object's mappings into `target` through the type-erased accessors. -/
def readDynamicInto (orr : ObjectReader) (t : Ty) (target : Typed) (ver : Option Version) :
    Run Value := do
  unless target.ty == t do throw (Error.mismatch t.name "a value of another type")
  let l ← mappingList t ver
  let ctx : Ctx := { version := ver }
  let mut cur := target.val
  for m in l.mappings do
    let v ← readValue orr m.converter m.member.info.ty (ctx.forMember m.member)
    cur ← updateAt m.path ⟨t, cur⟩ (storeMember m.member v)
  pure cur

/-- Reads an object's mappings into `target` through a compiled layout. -/
def readLayout (orr : ObjectReader) (accessors : List Accessor) (target : Value) (ctx : Ctx) :
    Run Value := do
  let mut cur := target
  for a in accessors do
    let m := a.mapping
    let v ← readValue orr m.converter m.member.info.ty (ctx.forMember m.member)
    match m.path with
    | [] =>
      match a.typed.set with
      | some s => cur ← lift (s cur ⟨m.member.info.ty, v⟩)
      | none => log .trace s!"discarded read-only '{m.member.qualifiedName}'"
    | head :: rest =>
      let some field := a.typed.getMut
        | throw (.internal (.typedAccess .borrowMut head.qualifiedName))
      let inner := (cur.field? field).getD .unit
      let updated ← updateAt rest ⟨head.info.ty, inner⟩ (storeMember m.member v)
      cur := cur.setField field updated
  pure cur

/-- Reads objects nested at most `fuel` deep. -/
def readObject : Nat → ObjectReader
  | 0 => fun _ _ _ => throw (.internal .tooDeep)
  | fuel + 1 => fun t e ver =>
    match e with
    | .dynamic => do readDynamicInto (readObject fuel) t ⟨t, ← defaultOf t⟩ ver
    | .compiled => do
      readLayout (readObject fuel) (← compiled t ver) (← defaultOf t) { version := ver }

/-- Reads objects nested no deeper than the input allows. -/
def objectReader : Run ObjectReader := do
  pure (readObject ((← get).reader.input.size + 2))

end Run
end ObjectWire
