import ObjectWire.Sample.Basic
/-!
# The sample catalog

All sample types in one catalog: every object type and the `Biome` enum.
-/

/-!
## hand-written accessors

Object types whose accessors are not those a declaration derives:

* `Point` hands out one member only by value (read-only) and another by value with a setter;
* the `Liar` types hand out a value of another type than the member declares, so each
  converter meets a value it cannot take;
* the `Broken` types have type-erased accessors that work and typed accessors that are
  missing or misnamed, so only the compiled engine fails;
* the `Sneaky` types promise a mutable borrow but hand out a copy, or refuse the borrow.
-/

namespace ObjectWire
namespace Sample

/-- An owned copy of a stored field. -/
def copyOf (name : String) (t : Ty) : Getter := fun o => .owned ⟨t, (o.field? name).getD .unit⟩

/-- `Point`: x is a full field, y a read-only copy, anchor a copy with a setter. -/
def point : ObjectSchema :=
  let addr := obj "Address"
  let anchorSet := Declare.checked addr fun o v => o.setField "anchor" v
  { path := path "Point"
    fields := [("x", sc .i32), ("y", sc .i32), ("anchor", addr)]
    members :=
      [{ name := "x", kind := .field, ty := sc .i32, access := Declare.fieldAccess "x" (sc .i32) },
       { name := "y", kind := .field, ty := sc .i32, access := { get := some (copyOf "y" (sc .i32)) } },
       { name := "anchor", kind := .field, ty := addr
         access := { get := some (copyOf "anchor" addr), set := some anchorSet } }]
    typed :=
      [Declare.fieldTyped (fld "x" (sc .i32)),
       { name := "y", get := some (copyOf "y" (sc .i32)) },
       { name := "anchor", get := some (copyOf "anchor" addr), set := some anchorSet }] }

/-- A type whose member `v` declares type `declared` but hands out `handed`; its setter takes
the declared type and keeps nothing. The stored field is a byte. -/
def liar (n : String) (declared : Ty) (handed : Typed) (attrs : Attributes := {}) : ObjectSchema :=
  let get : Getter := fun _ => .owned handed
  let set := Declare.checked declared fun o _ => o
  { path := path n
    fields := [("v", sc .u8)]
    members := [{ name := "v", kind := .field, ty := declared, access := { get := some get, set := some set }
                  attributes := attrs }]
    typed := [{ name := "v", get := some get, set := some set }] }

/-- Seven, as a byte. -/
def sevenU8 : Typed := ⟨sc .u8, .nat 7⟩

/-- The `Liar` types. -/
def liars : List ObjectSchema :=
  [liar "LiarList" (.vec (sc .u16)) sevenU8,
   liar "LiarMap" (.hashMap .string (sc .u32)) sevenU8,
   liar "LiarPair" (.pair (sc .u8) (sc .u8)) sevenU8,
   liar "LiarEnum" biomeTy sevenU8,
   liar "LiarOption" (.option (sc .u8)) ⟨sc .u16, .nat 7⟩,
   liar "LiarBox" (.box (sc .u32)) sevenU8,
   liar "LiarStr" .string sevenU8,
   liar "LiarPrim" (sc .u32) sevenU8,
   liar "LiarBytes" Ty.bytes sevenU8,
   liar "LiarObj" (obj "Address") sevenU8,
   liar "LiarObjC" (obj "Address") sevenU8 { nested := some .compiled }]

/-- A type with one declared field and the given typed accessors. -/
def withTyped (n : String) (f : FieldDecl) (typed : List TypedMember) : ObjectSchema :=
  { ObjectSchema.declare (path n) [f] with typed }

/-- The `Broken` types. -/
def brokens : List ObjectSchema :=
  let a := fld "a" (sc .u8)
  let innerF := fld "inner" (obj "Address")
  let fullA := Declare.fieldTyped a
  let fullInner := Declare.fieldTyped innerF
  [withTyped "Broken1" a [],
   withTyped "Broken2" a [{ fullA with get := none }],
   withTyped "Broken3" innerF [{ fullInner with getMut := none }],
   withTyped "Broken4" innerF [{ fullInner with get := none }],
   withTyped "Broken5" a [{ fullA with name := "b" }]]

/-- `Sneaky`: `inner` is handed out as a copy although it can be borrowed mutably. -/
def sneaky : ObjectSchema :=
  let addr := obj "Address"
  let base := ObjectSchema.declare (path "Sneaky") [fld "inner" addr]
  { base with
    members := [{ name := "inner", kind := .field, ty := addr
                  access := { Declare.fieldAccess "inner" addr with get := some (copyOf "inner" addr) } }] }

/-- `Sneaky2`: the mutable borrow of `inner` is always refused. -/
def sneaky2 : ObjectSchema :=
  let addr := obj "Address"
  let base := ObjectSchema.declare (path "Sneaky2") [fld "inner" addr]
  { base with
    members := [{ name := "inner", kind := .field, ty := addr
                  access := { Declare.fieldAccess "inner" addr with getMut := some fun _ => none } }] }

end Sample
end ObjectWire

/-!
## properties and version gates

Object types with computed properties (a temperature in two scales, an account with derived
members) and object types whose members are gated by versions.
-/

namespace ObjectWire
namespace Sample

/-- `n` as a double. -/
def num (n : Int) : Binary64 := Binary64.ofInt n

/-- A gate admitting versions from `v` on. -/
def since (v : Binary64) : Version := ⟨v, .greaterThanOrEqual⟩

/-- A gate admitting versions up to `v`. -/
def upTo (v : Binary64) : Version := ⟨v, .lessThanOrEqual⟩

/-- Attributes holding only gates. -/
def gated (vs : List Version) : Attributes := { versions := vs }

/-- `i` wrapped into the range of `i32`. -/
def wrapI32 (i : Int) : Int := (i + Int.pow 2 31) % Int.pow 2 32 - Int.pow 2 31

/-- The stored field `name` of an owner as a signed integer. -/
def intField (o : Value) (name : String) : Int := ((o.field? name).getD .unit).toInt

/-- The stored field `name` of an owner as an unsigned integer. -/
def natField (o : Value) (name : String) : Nat := ((o.field? name).getD .unit).toNat

/-- Celsius of a Thermometer: kelvin − 273, wrapping. -/
def celsiusOf (o : Value) : Int := wrapI32 (intField o "kelvin" - 273)

/-- `Thermometer`: kelvin stored; celsius and a label computed. -/
def thermometer : ObjectSchema :=
  declare "Thermometer" [fld "kelvin" (sc .i32)]
    [{ name := "celsius", ty := sc .i32, get := fun o => .int (celsiusOf o)
       set := some fun o v => o.setField "kelvin" (.int (wrapI32 (v.toInt + 273)))
       attrs := ord 1 },
     { name := "label", ty := .string, get := fun o => .str (toString (celsiusOf o) ++ "C")
       attrs := ord 2 }]

/-- `Account`: an address, a raw tag and a level stored; home, tag, legacy and fresh
computed; one ignored property. -/
def account : ObjectSchema :=
  declare "Account" [fld "addr" (obj "Address"), fld "tag_raw" .string, fld "level" (sc .u8)]
    [{ name := "home", ty := obj "Address", get := fun o => (o.field? "addr").getD .unit
       set := some fun o v => o.setField "addr" v, attrs := ord 3 },
     { name := "tag", ty := .option .string
       get := fun o =>
         match o.field? "tag_raw" with
         | some (.str "") => .absent
         | some s => .present s
         | none => .absent
       set := some fun o v =>
         o.setField "tag_raw" (match v with | .present s => s | _ => .str "")
       attrs := ord (-1) },
     { name := "legacy", ty := sc .u8, get := fun o => .nat (natField o "level" * 2 % 256)
       attrs := gated [upTo (num 1)] },
     { name := "fresh", ty := sc .u8, get := fun o => .nat (natField o "level")
       set := some fun o v => o.setField "level" v, attrs := gated [since (num 2)] },
     { name := "hidden", ty := .placeholder, get := fun _ => .unit, attrs := { ignore := true } }]

/-- `Profile`: members gated from 2 on, up to 1.5, and above 3. -/
def profile : ObjectSchema :=
  declare "Profile"
    [fld "id" (sc .u32), fld "nickname" .string (gated [since (num 2)]),
     fld "legacy_flags" (sc .u8) (gated [upTo (Binary64.ofDecimal false ⟨15, -1⟩)]),
     fld "score" (sc .i64) (gated [⟨num 3, .greaterThan⟩])]

/-- `Gates`: one member per comparison, a window, and a gated object. -/
def gates : ObjectSchema :=
  declare "Gates"
    [fld "a" (sc .u8), fld "window" (sc .u8) (gated [since (num 1), upTo (num 3)]),
     fld "eq" (sc .u8) (gated [⟨num 2, .equal⟩]), fld "lt" (sc .u8) (gated [⟨num 2, .lessThan⟩]),
     fld "le" (sc .u8) (gated [⟨num 2, .lessThanOrEqual⟩]),
     fld "ge" (sc .u8) (gated [⟨num 2, .greaterThanOrEqual⟩]),
     fld "gt" (sc .u8) (gated [⟨num 2, .greaterThan⟩]),
     fld "place" (obj "Address") (gated [since (num 2)])]

/-- `Release`: notes from version 2 on. -/
def release : ObjectSchema :=
  declare "Release" [fld "id" (sc .u8), fld "notes" .string (gated [since (num 2)])]

/-- `Catalog`: releases in a list, an optional legacy release, releases by number. -/
def releaseCatalog : ObjectSchema :=
  declare "Catalog"
    [fld "releases" (.vec (obj "Release")) { elements := some .compiled },
     fld "legacy" (.option (obj "Release")) (gated [upTo (num 1)]),
     fld "latest" (.btreeMap (sc .u8) (obj "Release")) { values := some .dynamic }]

end Sample
end ObjectWire

/-!
## recursive types

Object types that reach themselves: through an option (a linked node), through each other (a
parent and a child), and through collections (trees and folders), where the recursion happens
at run time rather than while the mapping list is built.
-/

namespace ObjectWire
namespace Sample

/-- `Node`: a value and the next node. -/
def node : ObjectSchema :=
  declare "Node" [fld "value" (sc .i32), fld "next" (.option (.box (obj "Node")))]

/-- `Parent`: a name and a child that cascades. -/
def parent : ObjectSchema := declare "Parent" [fld "name" .string, fld "child" (obj "Child")]

/-- `Child`: an age and an optional parent. -/
def child : ObjectSchema :=
  declare "Child" [fld "age" (sc .u8), fld "parent" (.option (.box (obj "Parent")))]

/-- `Tree`: a label and child trees through the compiled engine. -/
def tree : ObjectSchema :=
  declare "Tree" [fld "label" .string, fld "children" (.vec (obj "Tree")) { elements := some .compiled }]

/-- `DynTree`: a value and child trees by name through the dynamic engine. -/
def dynTree : ObjectSchema :=
  declare "DynTree"
    [fld "value" (sc .i16), fld "kids" (.btreeMap .string (obj "DynTree")) { values := some .dynamic }]

/-- `Folder`: a name and file entries through the dynamic engine. -/
def folder : ObjectSchema :=
  declare "Folder" [fld "name" .string, fld "files" (.vec (obj "FileEntry")) { elements := some .dynamic }]

/-- `FileEntry`: a name, a size and an optional sub-folder. -/
def fileEntry : ObjectSchema :=
  declare "FileEntry" [fld "name" .string, fld "size" (sc .u64), fld "sub" (.option (obj "Folder"))]

/-- `PointHolder`: a label and a point that cascades. -/
def pointHolder : ObjectSchema := declare "PointHolder" [fld "label" .string, fld "point" (obj "Point")]

end Sample
end ObjectWire

namespace ObjectWire
namespace Sample

/-- Every sample object type. -/
def objects : List ObjectSchema :=
  [record, address, customer, line, order, settings, reading, levelState, ports, wide, packet,
   segments, badSegment, badWith, thermometer, account, profile, gates, release, releaseCatalog,
   node, parent, child, tree, dynTree, folder, fileEntry, item, inventory, shelf, celsiusReading,
   namedCelsius, empty, holder, inner, middle, deep, ordered, mixed, userDatabase, badList,
   badMapKey, badPair, gadget, pointHolder, point, sneaky, sneaky2] ++ liars ++ brokens

/-- The sample catalog. -/
def catalog : Catalog := { objects, enums := [biome] }

end Sample
end ObjectWire
