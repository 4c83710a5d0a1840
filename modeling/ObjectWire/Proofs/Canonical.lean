import ObjectWire.Proofs.ElementBytes
import ObjectWire.Proofs.DecodingOverlay
import ObjectWire.Proofs.CascadePaths
/-!
# What a stream reads back as

Decoding what a serializer wrote does not give the written value back in every case: a
member without setter is read and dropped, a custom converter reads its own encoding (a
rounding one rounds, a decimal one refuses what does not fit), a segment keeps only its run
behind zeros, a map is rebuilt by inserting its entries in the order they were written. This
module describes, without any bytes, the value that reading back gives: the *image* of a
value under a converter, and of an object under its mapping list.

* Values of a type (`Catalog.Fits`) are values all the way down: scalars in range, the parts
  of collections of their types, objects with every stored field of their schema. The getters
  of a catalog hand such values out (`Catalog.GettersFit`): what the member types promise.
* The image of a value follows the writer converter by converter (`Image.body`): the value
  itself for scalars and strings; the kept run of a byte array; the custom converter's read of
  its own write; parts mapped one by one, a hash map's entries taken in the order of their
  encodings; an object's image under its own mapping list.
* The image of an object starts from its type's default and stores, mapping by mapping of the
  list for the version, the image of the value the writer fetched for it (`Image.dynamic`,
  `Image.layout`): through the member's setter along its path, so that a member without
  setter keeps the default. A store that fails, or a custom converter that refuses its own
  encoding, makes the image that failure.
-/

namespace ObjectWire

/-! ## Values of a type -/

/-- `v` is a value of type `t`, all the way down: a scalar in its type's range, a string, the
unit of the placeholder, options, boxes, sequences, maps and pairs of values of their parts,
an enum variant, and an object that holds a value of each stored field its schema declares. -/
inductive Catalog.Fits (cat : Catalog) : Ty → Value → Prop
  | scalar {s v} : s.holds v = true → Catalog.Fits cat (.scalar s) v
  | string {s} : Catalog.Fits cat .string (.str s)
  | placeholder : Catalog.Fits cat .placeholder .unit
  | newtype {p s v} : s.holds v = true → Catalog.Fits cat (.newtype p s) v
  | absent {t} : Catalog.Fits cat (.option t) .absent
  | present {t x} : Catalog.Fits cat t x → Catalog.Fits cat (.option t) (.present x)
  | box {t v} : Catalog.Fits cat t v → Catalog.Fits cat (.box t) v
  | vec {t xs} : (∀ x ∈ xs, Catalog.Fits cat t x) → Catalog.Fits cat (.vec t) (.list xs)
  | deque {t xs} : (∀ x ∈ xs, Catalog.Fits cat t x) → Catalog.Fits cat (.deque t) (.list xs)
  | hashMap {k t es} : (∀ e ∈ es, Catalog.Fits cat k e.1) → (∀ e ∈ es, Catalog.Fits cat t e.2) →
      Catalog.Fits cat (.hashMap k t) (.map es)
  | btreeMap {k t es} : (∀ e ∈ es, Catalog.Fits cat k e.1) → (∀ e ∈ es, Catalog.Fits cat t e.2) →
      Catalog.Fits cat (.btreeMap k t) (.map es)
  | pair {a b x y} : Catalog.Fits cat a x → Catalog.Fits cat b y → Catalog.Fits cat (.pair a b) (.pair x y)
  | enum {p n} : Catalog.Fits cat (.enum p) (.variant n)
  | object {p sch fs} : cat.object? p = some sch →
      (∀ f ∈ sch.fields, ((Value.object fs).field? f.1).isSome) →
      (∀ f ∈ sch.fields, ∀ x, (Value.object fs).field? f.1 = some x → Catalog.Fits cat f.2 x) →
      Catalog.Fits cat (.object p) (.object fs)

theorem Catalog.Fits.admits
    {cat : Catalog} {t : Ty} {v : Value} (h : cat.Fits t v) :
    t.admits v = true := by
  induction h with
  | scalar hs => exact hs
  | newtype hs => exact hs
  | present _ ih => exact ih
  | box _ ih => simpa [Ty.admits] using ih
  | vec _ ih => simpa [Ty.admits] using ih
  | deque _ ih => simpa [Ty.admits] using ih
  | hashMap _ _ ihk ihv | btreeMap _ _ ihk ihv =>
      simp only [Ty.admits, List.all_eq_true, Bool.and_eq_true]
      exact fun e he => ⟨ihk e he, ihv e he⟩
  | pair _ _ iha ihb => simp [Ty.admits, iha, ihb]
  | _ => rfl

/-- The getters of the catalog's object types, type-erased and typed, hand out for an owner of
their type a value of the type they name. -/
structure Catalog.GettersFit (cat : Catalog) : Prop where
  members : ∀ {p sch}, cat.object? p = some sch → ∀ info ∈ sch.members, ∀ g ∈ info.access.get,
    ∀ o, cat.Fits (.object p) o → cat.Fits (g o).value.ty (g o).value.val
  typed : ∀ {p sch}, cat.object? p = some sch → ∀ tm ∈ sch.typed, ∀ g ∈ tm.get,
    ∀ o, cat.Fits (.object p) o → cat.Fits (g o).value.ty (g o).value.val

/-! ## What the engines fetch -/

/-- The value the dynamic engine writes for a mapping of a root: the member's value in the
owner that the mapping's path borrows. -/
def Mapping.fetch (root : Typed) (m : Mapping) : Except Error Typed := do
  let owner ← navigate root m.path
  pure (← m.member.get owner).value

/-- The value the compiled engine writes for an accessor of a root: the typed getter's value
for a member of the root, else the member's value in the owner the rest of the path borrows
from it. -/
def Accessor.fetch (root : Value) (a : Accessor) : Except Error Typed :=
  match a.typed.get with
  | none => .error (.internal (.typedAccess .read a.mapping.member.qualifiedName))
  | some get =>
    match a.mapping.path with
    | [] => .ok (get root).value
    | _ :: rest => do
      let owner ← navigate (get root).value rest
      pure (← a.mapping.member.get owner).value

namespace Run

/-- Writes a map entry: its key, then its value, each with its null flag. -/
def writeEntry (ow : ObjectWriter) (k vt : Ty) (kc vc : Converter) (ctx : Ctx) (e : Value × Value) :
    Run Unit := do
  writeValue ow kc k ⟨k, e.1⟩ ctx
  writeValue ow vc vt ⟨vt, e.2⟩ ctx

/-- Reads a map entry: its key, then its value, each with its null flag. -/
def readEntry (orr : ObjectReader) (k vt : Ty) (kc vc : Converter) (ctx : Ctx) :
    Run (Value × Value) := do
  let a ← readValue orr kc k ctx
  let b ← readValue orr vc vt ctx
  pure (a, b)

/-- The bytes a writing step puts out on a fresh serializer over `cat` with options `o`;
nothing when it fails. -/
def bytesOf (cat : Catalog) (o : Options) (w : Run Unit) : List UInt8 :=
  match w.run ((Session.new cat o).machine [] none) with
  | .ok _ m => m.writer.bytes
  | .error _ _ => []

end Run

/-! ## Images -/

/-- What reading back an object gives, by type, engine, value and version. -/
abbrev ObjectImage := Ty → Engine → Typed → Option Version → Except Error Value

namespace Image

/-- The bytes of a byte array that travel and come back: for a segment, zeros up to its offset
and then its run; else all of them. -/
def kept (seg : Option Segment) (bytes : List UInt8) : List UInt8 :=
  match seg with
  | some s => List.replicate s.offset 0 ++ (bytes.drop s.offset).take s.len
  | none => bytes

/-- What a custom converter reads back from its own encoding of a value: a big-endian `u16`
its two low bytes, a decimal `u32` the number if it fits (else its refusal), a widened `u32`
the number modulo `2^64` if it fits, a `Celsius` its double (rounded by the rounding one), and
the probe its byte. -/
def custom (c : CustomConverter) (ty : Ty) (v : Value) : Except Error Value :=
  match c, v with
  | .bigEndianU16, .nat n => .ok (.nat (n / 256 % 256 * 256 + n % 256))
  | .decimalU32, .nat n =>
    if n < Nat.pow 2 32 then .ok (.nat n)
    else .error (.internal (.converter s!"bad decimal '{toString n}'"))
  | .wide32, .nat n =>
    let k := n % Nat.pow 2 64
    if k < Nat.pow 2 32 then .ok (.nat k) else .error (.internal (.converter s!"{k} does not fit a u32"))
  | .celsius .exact, .f64 x => .ok (.f64 x)
  | .celsius .rounded, .f64 x => .ok (.f64 x.round)
  | .probe, .nat n => .ok (.nat (n % 256))
  | _, _ => .error (Error.mismatch c.target.name ty.name)

section Images

variable (cat : Catalog) (o : Options)

/-- What reading back a value with its null flag gives: the type's default where the flag
marks the value empty, else what reading its body gives. -/
def flagged (c : Converter) (ty : Ty) (v : Typed) (body : Except Error Value) : Except Error Value :=
  if c.handlesNull && ty.isNull v then .ok (cat.default ty) else body

/-- The encoding of a map entry on a fresh serializer, by which a hash map orders its entries. -/
def entryBytes (ow : ObjectWriter) (k vt : Ty) (kc vc : Converter) (ctx : Ctx)
    (e : Value × Value) : List UInt8 :=
  Run.bytesOf cat o (Run.writeEntry ow k vt kc vc ctx e)

/-- The entries of a map in the order they are written: a sorted map's as they stand, a hash
map's in ascending order of their encodings. -/
def written (ow : ObjectWriter) (k vt : Ty) (sorted : Bool) (kc vc : Converter) (ctx : Ctx)
    (entries : List (Value × Value)) : List (Value × Value) :=
  if sorted then entries
  else sortStable (fun a b => bytesLe (entryBytes cat o ow k vt kc vc ctx a)
    (entryBytes cat o ow k vt kc vc ctx b)) entries

/-- What reading back the body a converter writes for a value gives; `oi` gives the images of
objects, and `ow` writes them where the order of map entries depends on their bytes. The
writer's refusals are their own images. -/
def body (oi : ObjectImage) (ow : ObjectWriter) : Converter → Ty → Typed → Ctx → Except Error Value
  | .primitive _, _, v, _ => .ok v.val
  | .string, _, v, _ => .ok v.val
  | .array, _, v, ctx => .ok (.list ((kept ctx.segment (Run.byteList v.val)).map fun b => .nat b.toNat))
  | .custom c, ty, v, _ => custom c ty v.val
  | .list t e conv, ty, v, ctx =>
    match v.val with
    | .list items => do
      let xs ← items.mapM fun x => flagged cat conv e ⟨e, x⟩ (body oi ow conv e ⟨e, x⟩ ctx.detached)
      pure (.list xs)
    | _ => .error (Error.mismatch t.name ty.name)
  | .dictionary t k vt sorted kc vc, ty, v, ctx =>
    match v.val with
    | .map entries => do
      let xs ← (written cat o ow k vt sorted kc vc ctx.detached entries).mapM fun e => do
        let a ← flagged cat kc k ⟨k, e.1⟩ (body oi ow kc k ⟨k, e.1⟩ ctx.detached)
        let b ← flagged cat vc vt ⟨vt, e.2⟩ (body oi ow vc vt ⟨vt, e.2⟩ ctx.detached)
        pure (a, b)
      pure (cat.mapOf k xs)
    | _ => .error (Error.mismatch t.name ty.name)
  | .pair t k vt kc vc, ty, v, ctx =>
    match v.val with
    | .pair a b => do
      let x ← flagged cat kc k ⟨k, a⟩ (body oi ow kc k ⟨k, a⟩ ctx.detached)
      let y ← flagged cat vc vt ⟨vt, b⟩ (body oi ow vc vt ⟨vt, b⟩ ctx.detached)
      pure (.pair x y)
    | _ => .error (Error.mismatch t.name ty.name)
  | .enum t variants, ty, v, _ =>
    match v.val with
    | .variant n =>
      match variants.find? (·.1 == n) with
      | some (_, wire) =>
        match variants.find? (·.2 == wire) with
        | some (n', _) => .ok (.variant n')
        | none => .error (.data (.unknownEnumName t.name wire))
      | none => .error (Error.mismatch t.name ty.name)
    | _ => .error (Error.mismatch t.name ty.name)
  | .nullable t i conv innerNullable, ty, v, ctx =>
    match v.val with
    | .present x => do
      let y ← if innerNullable then flagged cat conv i ⟨i, x⟩ (body oi ow conv i ⟨i, x⟩ ctx)
        else body oi ow conv i ⟨i, x⟩ ctx
      pure (.present y)
    | _ => .error (Error.mismatch t.name ty.name)
  | .pointer _ i conv, _, v, ctx => body oi ow conv i ⟨i, v.val⟩ ctx
  | .object t e, _, v, ctx => oi t e v ctx.version

/-- What reading back a value a converter writes with its null flag gives. -/
def value (oi : ObjectImage) (ow : ObjectWriter) (c : Converter) (ty : Ty) (v : Typed) (ctx : Ctx) :
    Except Error Value :=
  flagged cat c ty v (body cat o oi ow c ty v ctx)

/-- What reading back a map entry gives: the image of its key, then of its value. -/
def entry (oi : ObjectImage) (ow : ObjectWriter) (k vt : Ty) (kc vc : Converter) (ctx : Ctx)
    (e : Value × Value) : Except Error (Value × Value) := do
  let a ← value cat o oi ow kc k ⟨k, e.1⟩ ctx
  let b ← value cat o oi ow vc vt ⟨vt, e.2⟩ ctx
  pure (a, b)

/-- What the dynamic engine reads back for an object of type `t` holding `v`: into `target`,
for each mapping in turn, the image of the value fetched for it, stored along its path. -/
def dynamic (oi : ObjectImage) (ow : ObjectWriter) (t : Ty) (v : Typed) (ver : Option Version)
    (ms : List Mapping) (target : Value) : Except Error Value :=
  ms.foldlM (fun cur m => do
    let x ← m.fetch v
    let y ← value cat o oi ow m.converter m.member.info.ty x (({ version := ver } : Ctx).forMember m.member)
    m.put t y cur) target

/-- What the compiled engine reads back through a layout for an object holding `v`: into
`target`, for each accessor in turn, the image of the value fetched for it, stored through
the accessor. -/
def layout (oi : ObjectImage) (ow : ObjectWriter) (acc : List Accessor) (v : Value) (ctx : Ctx)
    (target : Value) : Except Error Value :=
  acc.foldlM (fun cur a => do
    let x ← a.fetch v
    let y ← value cat o oi ow a.mapping.converter a.mapping.member.info.ty x (ctx.forMember a.mapping.member)
    a.put y cur) target

/-- What reading back an object gives, for objects nested at most `fuel` deep: the image of
the value under the mapping list of its type and version, from the type's default. -/
def object : Nat → ObjectImage
  | 0 => fun _ _ _ _ => .error (.internal .tooDeep)
  | fuel + 1 => fun t e v ver =>
    if v.ty == t then
      match e with
      | .dynamic => do
        let l ← Run.freshList cat o t ver
        dynamic cat o (object fuel) (Run.writeObject fuel) t v ver l.mappings (cat.default t)
      | .compiled => do
        let acc ← compileLayout cat t (← Run.freshList cat o t ver)
        layout cat o (object fuel) (Run.writeObject fuel) acc v.val { version := ver } (cat.default t)
    else .error (Error.mismatch t.name "a value of another type")

/-- What decoding a stream that a serializer over `cat` with options `o` wrote for a root of
type `t` holding `v` gives: an object root's image under its compiled layout from the default,
any other root's image under its converter. -/
def root (t : Ty) (v : Value) : Except Error Value := do
  let oi := object cat o (Run.writerFuel v)
  let ow := Run.writeObject (Run.writerFuel v)
  match ← Run.freshPlan cat o t .compiled with
  | .object => do
    let acc ← compileLayout cat t (← Run.freshList cat o t o.version)
    layout cat o oi ow acc v { version := o.version } (cat.default t)
  | .converter c => value cat o oi ow c t ⟨t, v⟩ { version := o.version }

end Images

end Image

end ObjectWire
