import ObjectWire.Declare
/-!
# The sample catalog: plain records

The sample catalog is the fixed set of types that the request service exposes. This module
holds its naming scheme, the `Biome` enum, and the object types that only hold scalars,
strings, collections and other objects, with attributes for order, converters and segments.
-/

namespace ObjectWire
namespace Sample

/-- The path of a sample type. -/
def path (n : String) : String := "oracle::types::" ++ n

/-- The object type of a sample name. -/
def obj (n : String) : Ty := .object (path n)

/-- A scalar type. -/
def sc (s : Scalar) : Ty := .scalar s

/-- A declared field. -/
def fld (n : String) (t : Ty) (a : Attributes := {}) : FieldDecl := ⟨n, t, a⟩

/-- The `Biome` enum: `Plains` (the default), `Forest` (wire name `DEEP_FOREST`), `Desert`. -/
def biome : EnumSchema :=
  { path := path "Biome", variants := [("Plains", "Plains"), ("Forest", "DEEP_FOREST"), ("Desert", "Desert")] }

/-- The `Biome` type. -/
def biomeTy : Ty := .enum (path "Biome")

/-- The `Celsius` newtype over a double. -/
def celsiusTy : Ty := .newtype celsiusPath .f64

/-- An ordered field's attributes. -/
def ord (n : Int) : Attributes := { order := some n }

/-- Declares a sample object type. -/
def declare (n : String) (fields : List FieldDecl) (props : List PropertyDecl := []) : ObjectSchema :=
  ObjectSchema.declare (path n) fields props

/-- `Record`: a name, tags and a count. -/
def record : ObjectSchema :=
  declare "Record" [fld "name" .string, fld "tags" (.vec .string), fld "count" (sc .i32)]

/-- `Address`: a city and a zip code. -/
def address : ObjectSchema := declare "Address" [fld "city" .string, fld "zip" (sc .u32)]

/-- `Customer`: an address that cascades, an id, and a flag ordered first. -/
def customer : ObjectSchema :=
  declare "Customer" [fld "address" (obj "Address"), fld "id" (sc .u16), fld "vip" (sc .bool) (ord 0)]

/-- `Line`: an item line. -/
def line : ObjectSchema := declare "Line" [fld "sku" .string, fld "qty" (sc .u16)]

/-- `Order`: optional addresses and lists of lines handled by either engine. -/
def order : ObjectSchema :=
  declare "Order"
    [fld "id" (sc .u32), fld "shipping" (.option (obj "Address")),
     fld "billing" (.option (.box (obj "Address"))) { nested := some .compiled },
     fld "lines" (.vec (obj "Line")) { elements := some .compiled },
     fld "history" (.vec (obj "Line")) { elements := some .dynamic }]

/-- `Settings`: a volume and an ignored session. -/
def settings : ObjectSchema :=
  declare "Settings" [fld "volume" (sc .u8), fld "session" (sc .u64) { ignore := true }]

/-- `Reading`: a doubly optional value. -/
def reading : ObjectSchema := declare "Reading" [fld "value" (.option (.option (sc .i32)))]

/-- `LevelState`: a name ordered last, an enum, an ignored cache, indices. -/
def levelState : ObjectSchema :=
  declare "LevelState"
    [fld "name" .string (ord 10), fld "id" (sc .u32), fld "biome" biomeTy,
     fld "cache" (sc .u32) { ignore := true }, fld "indices" (.vec (sc .u64))]

/-- `Ports`: one port through the built-in converter, one through an own instance of the
big-endian converter, one through the registered `be16`. -/
def ports : ObjectSchema :=
  declare "Ports"
    [fld "plain" (sc .u16), fld "inline" (sc .u16) { converter := some { inst := some .bigEndianU16 } },
     fld "registered" (sc .u16) { converter := some { name := some "be16" } }]

/-- `Wide`: one field through the registered `wide32`. -/
def wide : ObjectSchema :=
  declare "Wide" [fld "a" (sc .u32) { converter := some { name := some "wide32" } }, fld "b" (sc .u32)]

/-- `Packet`: a payload of which only a segment travels. -/
def packet : ObjectSchema :=
  declare "Packet" [fld "payload" Ty.bytes { segment := some ⟨2, 3⟩ }, fld "tail" (sc .u8)]

/-- `Segments`: an empty segment, a leading segment, and a whole array by name. -/
def segments : ObjectSchema :=
  declare "Segments"
    [fld "none" Ty.bytes { segment := some ⟨0, 0⟩ },
     fld "head" Ty.bytes { order := some 5, segment := some ⟨0, 4⟩ },
     fld "whole" Ty.bytes { converter := some { name := some "array" } }]

/-- `BadSegment`: a segment on a type the array converter does not take. -/
def badSegment : ObjectSchema :=
  declare "BadSegment" [fld "data" (.vec (sc .u16)) { segment := some ⟨0, 2⟩ }]

/-- `BadWith`: a converter instance for another type. -/
def badWith : ObjectSchema :=
  declare "BadWith" [fld "ok" (sc .u8), fld "x" (sc .u32) { converter := some { inst := some .bigEndianU16 } }]

/-- `Item`: an id. -/
def item : ObjectSchema := declare "Item" [fld "id" (sc .u32)]

/-- `Inventory`: items with no engine for the elements. -/
def inventory : ObjectSchema := declare "Inventory" [fld "items" (.vec (obj "Item"))]

/-- `Shelf`: inventories through the compiled engine. -/
def shelf : ObjectSchema :=
  declare "Shelf" [fld "label" .string, fld "inventories" (.vec (obj "Inventory")) { elements := some .compiled }]

/-- `CelsiusReading`: a temperature with no converter registered by default. -/
def celsiusReading : ObjectSchema := declare "CelsiusReading" [fld "temperature" celsiusTy]

/-- `NamedCelsius`: a temperature through the converter named `rounded`. -/
def namedCelsius : ObjectSchema :=
  declare "NamedCelsius" [fld "id" (sc .u8), fld "temperature" celsiusTy { converter := some { name := some "rounded" } }]

/-- `Empty`: no members. -/
def empty : ObjectSchema := declare "Empty" []

/-- `Holder`: an empty object cascaded and behind an option. -/
def holder : ObjectSchema :=
  declare "Holder"
    [fld "before" (sc .u8), fld "empty" (obj "Empty"), fld "maybe_empty" (.option (obj "Empty")),
     fld "after" (sc .u8)]

/-- `Inner`: two ordered bytes. -/
def inner : ObjectSchema := declare "Inner" [fld "x" (sc .i8) (ord 2), fld "y" (sc .i8) (ord 1)]

/-- `Middle`: two cascades of `Inner`. -/
def middle : ObjectSchema :=
  declare "Middle" [fld "inner" (obj "Inner"), fld "m" (sc .u16), fld "second" (obj "Inner") (ord (-1))]

/-- `Deep`: cascades two levels down, one object through the compiled engine. -/
def deep : ObjectSchema :=
  declare "Deep"
    [fld "middle" (obj "Middle") (ord 0), fld "top" (sc .bool),
     fld "framed" (obj "Inner") { nested := some .compiled }, fld "last" (obj "Inner") (ord 100)]

/-- The largest `i64`. -/
def i64Max : Int := Int.pow 2 63 - 1

/-- `Ordered`: orders with ties, extremes and an ignored member. -/
def ordered : ObjectSchema :=
  declare "Ordered"
    [fld "c" (sc .u8) (ord 2), fld "a" (sc .u8), fld "b" (sc .u8), fld "first" (sc .u8) (ord (-5)),
     fld "max" (sc .u8) (ord i64Max), fld "skipped" (sc .u8) { ignore := true, order := some (-100) },
     fld "tie" (sc .u8) (ord 2)]

/-- `Mixed`: objects behind every kind of wrapper and collection. -/
def mixed : ObjectSchema :=
  declare "Mixed"
    [fld "boxed" (.box (obj "Address")), fld "maybe" (.option (obj "Line")),
     fld "maybe_lines" (.option (.vec (obj "Line"))) { elements := some .compiled },
     fld "sparse" (.vec (.option (obj "Line"))) { elements := some .dynamic },
     fld "grid" (.vec (.vec (obj "Line"))) { elements := some .compiled },
     fld "pairs" (.vec (.pair (obj "Item") (obj "Line"))) { keys := some .compiled, values := some .dynamic },
     fld "by_name" (.btreeMap .string (obj "Line")) { values := some .compiled },
     fld "by_item" (.hashMap (obj "Item") .string) { keys := some .dynamic }]

/-- `UserDatabase`: a map and a list of pairs with objects. -/
def userDatabase : ObjectSchema :=
  declare "UserDatabase"
    [fld "id" (sc .u32), fld "users" (.hashMap .string (obj "Line")) { values := some .compiled },
     fld "by_profile" (.vec (.pair (obj "Line") (sc .bool))) { keys := some .dynamic }]

/-- `BadList`: optional lines with no engine for the elements. -/
def badList : ObjectSchema :=
  declare "BadList" [fld "ok" (sc .u8), fld "opt_lines" (.vec (.option (obj "Line")))]

/-- `BadMapKey`: object keys with no engine. -/
def badMapKey : ObjectSchema :=
  declare "BadMapKey" [fld "m" (.hashMap (obj "Item") (obj "Line")) { values := some .compiled }]

/-- `BadPair`: an object in a pair with no engine. -/
def badPair : ObjectSchema := declare "BadPair" [fld "p" (.pair (obj "Line") (sc .u8))]

/-- `Gadget`: one field of every scalar and of the common wrappers. -/
def gadget : ObjectSchema :=
  declare "Gadget"
    [fld "flag" (sc .bool), fld "b" (sc .u8), fld "w" (sc .u16), fld "d" (sc .u32), fld "q" (sc .u64),
     fld "o" (sc .u128), fld "us" (sc .usize), fld "sb" (sc .i8), fld "sw" (sc .i16), fld "sd" (sc .i32),
     fld "sq" (sc .i64), fld "so" (sc .i128), fld "is" (sc .isize), fld "f" (sc .f32), fld "g" (sc .f64),
     fld "c" (sc .char), fld "s" .string, fld "bytes" Ty.bytes, fld "biome" biomeTy,
     fld "opt_biome" (.option biomeTy), fld "pair" (.pair (sc .u8) .string), fld "deque" (.deque (sc .i16))]

end Sample
end ObjectWire
