import ObjectWire.Order
import ObjectWire.Mapping.Build
/-!
# The context of a conversion, and the custom converters

Each conversion knows the active version and, when it converts a member directly, that
member; converting the parts of a value (elements, entries, an object's own members) drops the
member. The member's segment annotation reaches the byte array converter this way.

The custom converters are written here against the same context: a big-endian `u16`, a `u32`
as decimal text, a `u32` widened to eight bytes, a `Celsius` double (exact or rounded half
away from zero), and a probe that writes a description of its context before its byte.
-/

/-!
## Compiled layouts

The compiled engine walks a mapping list through the typed accessors of the root type. Each
mapping is served by the typed accessor of its head: the first field on its path, or the
member itself. That accessor must stand at the head's index and carry its name; it must read,
and for a cascaded mapping also borrow mutably. A layout is built once per type and version
and fails at the first mapping that has no usable accessor.
-/

namespace ObjectWire

/-- A mapping with the typed accessor of its head. -/
structure Accessor where
  mapping : Mapping
  typed : TypedMember
  deriving Inhabited

/-- The typed accessor serving one mapping. -/
def compileAccessor (typed : List TypedMember) (m : Mapping) : Except Error Accessor := do
  let head := m.path.head?.getD m.member
  let some a := (typed[head.index]?).filter (·.name == head.info.name)
    | throw (.internal (.noTypedAccessor head.qualifiedName head.index))
  if a.get.isNone then throw (.internal (.typedAccess .read head.qualifiedName))
  if !m.path.isEmpty && a.getMut.isNone then
    throw (.internal (.typedAccess .borrowMut head.qualifiedName))
  pure ⟨m, a⟩

/-- The compiled layout of type `t` over a mapping list, which must be `t`'s own. -/
def compileLayout (cat : Catalog) (t : Ty) (l : MappingList) : Except Error (List Accessor) := do
  if l.ty != t then throw (Error.mismatch t.name l.ty.name)
  let typed := match t with
    | .object p => ((cat.object? p).map (·.typed)).getD []
    | _ => []
  l.mappings.mapM (compileAccessor typed)

/-- The rendering `CompiledMapping { ty: "oracle::types::Record", mappings: 3 }`. -/
def layoutDebug (t : Ty) (accessors : List Accessor) : String :=
  "CompiledMapping \x7b ty: " ++ Escape.quote t.name ++ ", mappings: " ++ toString accessors.length ++ " \x7d"

namespace Run

/-- The compiled layout of an object type for a version; a built layout is remembered. -/
def compiled (t : Ty) (v : Option Version) : Run (List Accessor) := do
  let l ← mappingList t v
  let accessors ← lift (compileLayout (← catalog) t l)
  let key := (t, versionKey v)
  unless (← session).compiled.contains key do
    modifySession fun s => { s with compiled := s.compiled ++ [key] }
  pure accessors

end Run
end ObjectWire

namespace ObjectWire

/-- The context of a conversion. -/
structure Ctx where
  version : Option Version
  member : Option Descriptor := none
  deriving Inhabited

namespace Ctx

/-- The context without its member. -/
def detached (c : Ctx) : Ctx := { c with member := none }

/-- The context for converting a member. -/
def forMember (c : Ctx) (d : Descriptor) : Ctx := { c with member := some d }

/-- The segment of the member being converted, if it has one. -/
def segment (c : Ctx) : Option Segment := c.member.bind (·.info.attributes.segment)

/-- The rendering `MemberContext { version: None, member: Some("Settings.volume"), .. }`. -/
def debug (c : Ctx) : String :=
  "MemberContext \x7b version: " ++ Options.versionDebug c.version ++ ", member: " ++
    optionText (c.member.map fun d => Escape.quote d.qualifiedName) ++ ", .. \x7d"

end Ctx

/-- The value of a `u32` written in decimal: optional `+`, then at least one digit. -/
def parseU32? (s : String) : Option Nat :=
  let cs := match s.toList with
    | '+' :: r => r
    | r => r
  if !cs.isEmpty && cs.all Char.isDigit then
    let n := Notation.digitsValue cs
    if n < Nat.pow 2 32 then some n else none
  else none

/-- The text the probe writes: its context, the member's qualified name, the version and the
encoding, separated by bars. -/
def probeText (ctx : Ctx) (enc : TextEncoding) : String :=
  ctx.debug ++ "|" ++ ((ctx.member.map Descriptor.qualifiedName).getD "") ++ "|" ++
    ((ctx.version.map Version.display).getD "") ++ "|" ++ enc.debugName

namespace Run

/-- Writes a value with a custom converter. -/
def writeCustom (c : CustomConverter) (ty : Ty) (v : Typed) (ctx : Ctx) : Run Unit := do
  unless v.ty == c.target do throw (Error.mismatch c.target.name ty.name)
  match c, v.val with
  | .bigEndianU16, .nat n => emit (Emit.raw [(n / 256).toUInt8, (n % 256).toUInt8])
  | .decimalU32, .nat n => emit (Emit.string (toString n))
  | .wide32, .nat n => emit (Emit.value (leBytes 8 n))
  | .celsius .exact, .f64 x => emit (Emit.f64 x)
  | .celsius .rounded, .f64 x => emit (Emit.f64 x.round)
  | .probe, .nat n => do
    let enc := (← get).writer.encoding
    emit (Emit.string (probeText ctx enc))
    emit (Emit.value [n.toUInt8])
  | _, _ => throw (Error.mismatch c.target.name ty.name)

/-- Reads a value with a custom converter. -/
def readCustom (c : CustomConverter) : Run Value :=
  match c with
  | .bigEndianU16 => do
    let bs ← take (Take.raw 2)
    pure (.nat (bs.foldl (fun acc b => acc * 256 + b.toNat) 0))
  | .decimalU32 => do
    let s ← take Take.string
    match parseU32? s with
    | some n => pure (.nat n)
    | none => throw (.internal (.converter s!"bad decimal '{s}'"))
  | .wide32 => do
    let n := leValue (← take (Take.exact 8))
    if n < Nat.pow 2 32 then pure (.nat n) else throw (.internal (.converter s!"{n} does not fit a u32"))
  | .celsius _ => do pure (.f64 (← take Take.f64))
  | .probe => do
    let _ ← take Take.string
    pure (.nat (leValue (← take (Take.exact 1))))

end Run
end ObjectWire
