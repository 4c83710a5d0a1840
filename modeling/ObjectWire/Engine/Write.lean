import ObjectWire.Engine.Context
/-!
# Writing values

A converter first checks that it converts the declared type, then writes the null flag if it
has one (and stops at an empty value), then the value itself:

* scalars through the value codec, strings and byte arrays with a count prefix (a member's
  segment writes only its run, with no count);
* lists as a count and their elements, maps as a count and their entries (a sorted map in
  key order; a hash map entry by entry in ascending order of the entries' bytes), pairs as key
  then value, enums as the wire name of the variant;
* an option writes its inner value without the inner flag, unless the inner type can itself
  be empty; a box writes what it holds;
* an object goes to its engine: the dynamic engine walks the type's mapping list through the
  type-erased accessors, the compiled engine through the typed accessors.

A value of another type than the converter expects is a type mismatch. Objects nest at most
as deep as the value itself, which bounds the walk.
-/

namespace ObjectWire

/-- How an object value is written by an engine, for a version. -/
abbrev ObjectWriter := Ty → Engine → Typed → Option Version → Run Unit

/-- Lexicographic order of byte strings. -/
def bytesLe : List UInt8 → List UInt8 → Bool
  | [], _ => true
  | _ :: _, [] => false
  | a :: as, b :: bs => a < b || (a == b && bytesLe as bs)

namespace Run

/-- Checks the declared type and writes the null flag; whether the value itself follows. -/
def writeHead (c : Converter) (ty : Ty) (v : Typed) : Run Bool := do
  if c.target != ty then throw (Error.mismatch c.target.name ty.name)
  if c.handlesNull then
    let empty := ty.isNull v
    emit (Emit.bool empty)
    return !empty
  return true

/-- The bytes of a byte array value. -/
def byteList (v : Value) : List UInt8 :=
  match v with
  | .list items => items.map fun x => x.toNat.toUInt8
  | _ => []

/-- Writes a value without its null flag; objects go to `ow`. -/
def writeBody (ow : ObjectWriter) : Converter → Ty → Typed → Ctx → Run Unit
  | .primitive s, ty, v, _ => do
    unless v.ty == .scalar s do throw (Error.mismatch s.name ty.name)
    emit (Emit.value (s.encode v.val))
  | .string, ty, v, _ => do
    let .str s := v.val | throw (Error.mismatch Ty.string.name ty.name)
    unless v.ty == .string do throw (Error.mismatch Ty.string.name ty.name)
    emit (Emit.string s)
  | .array, ty, v, ctx => do
    unless v.ty == Ty.bytes do throw (Error.mismatch Ty.bytes.name ty.name)
    let bytes := byteList v.val
    match ctx.segment with
    | some seg =>
      if seg.offset + seg.len ≤ bytes.length then
        emit (Emit.raw ((bytes.drop seg.offset).take seg.len))
      else throw (.data (.segmentOutOfRange seg.offset seg.len bytes.length))
    | none => emit (Emit.bytes bytes)
  | .custom c, ty, v, ctx => writeCustom c ty v ctx
  | .list t e conv, ty, v, ctx => do
    let .list items := v.val | throw (Error.mismatch t.name ty.name)
    unless v.ty == t do throw (Error.mismatch t.name ty.name)
    emit (Emit.count items.length)
    for item in items do
      if ← writeHead conv e ⟨e, item⟩ then writeBody ow conv e ⟨e, item⟩ ctx.detached
  | .dictionary t k vt sorted kc vc, ty, v, ctx => do
    let .map entries := v.val | throw (Error.mismatch t.name ty.name)
    unless v.ty == t do throw (Error.mismatch t.name ty.name)
    emit (Emit.count entries.length)
    if sorted then
      for (a, b) in entries do
        if ← writeHead kc k ⟨k, a⟩ then writeBody ow kc k ⟨k, a⟩ ctx.detached
        if ← writeHead vc vt ⟨vt, b⟩ then writeBody ow vc vt ⟨vt, b⟩ ctx.detached
    else
      let mut encoded : List (List UInt8) := []
      for (a, b) in entries do
        let bs ← scratch do
          if ← writeHead kc k ⟨k, a⟩ then writeBody ow kc k ⟨k, a⟩ ctx.detached
          if ← writeHead vc vt ⟨vt, b⟩ then writeBody ow vc vt ⟨vt, b⟩ ctx.detached
        encoded := encoded ++ [bs]
      for bs in sortStable bytesLe encoded do
        emit (Emit.raw bs)
  | .pair t k vt kc vc, ty, v, ctx => do
    let .pair a b := v.val | throw (Error.mismatch t.name ty.name)
    unless v.ty == t do throw (Error.mismatch t.name ty.name)
    if ← writeHead kc k ⟨k, a⟩ then writeBody ow kc k ⟨k, a⟩ ctx.detached
    if ← writeHead vc vt ⟨vt, b⟩ then writeBody ow vc vt ⟨vt, b⟩ ctx.detached
  | .enum t variants, ty, v, _ => do
    let .variant n := v.val | throw (Error.mismatch t.name ty.name)
    unless v.ty == t do throw (Error.mismatch t.name ty.name)
    let some (_, wire) := variants.find? (·.1 == n) | throw (Error.mismatch t.name ty.name)
    emit (Emit.string wire)
  | .nullable t i conv innerNullable, ty, v, ctx => do
    let .present x := v.val | throw (Error.mismatch t.name ty.name)
    unless v.ty == t do throw (Error.mismatch t.name ty.name)
    if innerNullable then
      if ← writeHead conv i ⟨i, x⟩ then writeBody ow conv i ⟨i, x⟩ ctx
    else writeBody ow conv i ⟨i, x⟩ ctx
  | .pointer t i conv, ty, v, ctx => do
    unless v.ty == t do throw (Error.mismatch t.name ty.name)
    writeBody ow conv i ⟨i, v.val⟩ ctx
  | .object t e, _, v, ctx => ow t e v ctx.version

/-- Writes a value with its null flag. -/
def writeValue (ow : ObjectWriter) (c : Converter) (ty : Ty) (v : Typed) (ctx : Ctx) : Run Unit := do
  if ← writeHead c ty v then writeBody ow c ty v ctx

/-- Writes an object through its mapping list and type-erased accessors. -/
def writeDynamic (ow : ObjectWriter) (t : Ty) (v : Typed) (ver : Option Version) : Run Unit := do
  unless v.ty == t do throw (Error.mismatch t.name "a value of another type")
  let l ← mappingList t ver
  let ctx : Ctx := { version := ver }
  for m in l.mappings do
    let owner ← lift (navigate v m.path)
    let r ← lift (m.member.get owner)
    writeValue ow m.converter m.member.info.ty r.value (ctx.forMember m.member)

/-- Writes an object through a compiled layout. -/
def writeLayout (ow : ObjectWriter) (accessors : List Accessor) (v : Value) (ctx : Ctx) : Run Unit := do
  for a in accessors do
    let m := a.mapping
    let some get := a.typed.get | throw (.internal (.typedAccess .read m.member.qualifiedName))
    let value ← match m.path with
      | [] => pure (get v).value
      | _ :: rest => do
        let owner ← lift (navigate (get v).value rest)
        pure (← lift (m.member.get owner)).value
    writeValue ow m.converter m.member.info.ty value (ctx.forMember m.member)

/-- Writes an object through the compiled engine. -/
def writeCompiled (ow : ObjectWriter) (t : Ty) (v : Typed) (ver : Option Version) : Run Unit := do
  unless v.ty == t do throw (Error.mismatch t.name "a value of another type")
  writeLayout ow (← compiled t ver) v.val { version := ver }

/-- Writes objects nested at most `fuel` deep. -/
def writeObject : Nat → ObjectWriter
  | 0 => fun _ _ _ _ => throw (.internal .tooDeep)
  | fuel + 1 => fun t e v ver =>
    match e with
    | .dynamic => writeDynamic (writeObject fuel) t v ver
    | .compiled => writeCompiled (writeObject fuel) t v ver

/-- How many levels of objects the writer follows beyond the nesting stored in the value it
writes. A property getter hands out an owned object that it computes, and that object may nest
deeper than the value it was computed from; nothing but the call stack bounds that recursion,
and this allowance stands for it. -/
def computedNesting : Nat := 65536

/-- The nesting the writer allows for a value: its own depth, then `computedNesting` levels of
objects that property getters compute. -/
def writerFuel (v : Value) : Nat := v.depth + 1 + computedNesting

/-- Writes the objects of a value, and those its property getters compute. -/
def objectWriterFor (v : Value) : ObjectWriter := writeObject (writerFuel v)

end Run
end ObjectWire
