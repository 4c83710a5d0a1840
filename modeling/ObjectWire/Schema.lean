import ObjectWire.Ty
import ObjectWire.Error
import ObjectWire.Derive.Token
import ObjectWire.Number.Notation
/-!
# Schemas of enums and objects

An object type is described by its stored fields and by its members. A member is a field or a
property with a declared type, accessors and attributes:

* the accessors read a member (handing out a borrowed field or an owned value), reach a stored
  field for update, and store a decoded value; each may be missing;
* the attributes ignore the member, give its order, pick its converter, cut a segment out of a
  byte array, say which engine handles nested objects, and gate it by versions.

Besides its members, an object type has typed accessors, one per member in the same order,
which the compiled engine uses. An enum type lists its variants with their wire names; the
first is the default. A catalog collects the enum and object types a serializer can reach.
-/

/-!
## Versions and version gates

A version is a double together with a comparison. As the active version of a serializer or
a stream it contributes only its value; as a gate on a member it admits an active value `a`
when `a OP value` holds. NaN compares with nothing, so a gate facing a NaN (on either side)
falls back to a default, and a member is present when every one of its gates admits the
active value (always, without an active version).
-/

namespace ObjectWire

/-- How a gate compares the active value with its own value. -/
inductive Comparison where
  | equal
  | greaterThan
  | greaterThanOrEqual
  | lessThan
  | lessThanOrEqual
  deriving DecidableEq, Repr, Inhabited

namespace Comparison

/-- The name of a comparison, as the wire and the texts spell it. -/
def name : Comparison → String
  | .equal => "Equal"
  | .greaterThan => "GreaterThan"
  | .greaterThanOrEqual => "GreaterThanOrEqual"
  | .lessThan => "LessThan"
  | .lessThanOrEqual => "LessThanOrEqual"

/-- Every comparison, in declaration order. -/
def all : List Comparison := [.equal, .greaterThan, .greaterThanOrEqual, .lessThan, .lessThanOrEqual]

/-- The comparison of a name. -/
def ofName? (s : String) : Option Comparison := all.find? (·.name == s)

/-- The comparison of an operator symbol: `==` or `=`, `>`, `>=`, `<`, `<=`. -/
def ofSymbol? : String → Option Comparison
  | "==" => some .equal
  | "=" => some .equal
  | ">" => some .greaterThan
  | ">=" => some .greaterThanOrEqual
  | "<" => some .lessThan
  | "<=" => some .lessThanOrEqual
  | _ => none

/-- Whether `lhs OP rhs` holds; `none` when either side is a NaN. -/
def evaluate (c : Comparison) (lhs rhs : Binary64) : Option Bool :=
  (lhs.compare? rhs).map fun o =>
    match c with
    | .equal => o == .eq
    | .greaterThan => o == .gt
    | .greaterThanOrEqual => o != .lt
    | .lessThan => o == .lt
    | .lessThanOrEqual => o != .gt

end Comparison

/-- A version: a value and the comparison a gate applies to it. -/
structure Version where
  value : Binary64
  comparison : Comparison
  deriving DecidableEq, Repr, Inhabited

namespace Version

/-- A version compared with `equal`. -/
def exactly (v : Binary64) : Version := ⟨v, .equal⟩

/-- Whether the gate admits `other`: `other OP value`, or `dflt` when there is no other
value or the two do not compare. -/
def isSupported (gate : Version) (other : Option Binary64) (dflt : Bool) : Bool :=
  match other with
  | none => dflt
  | some o => (gate.comparison.evaluate o gate.value).getD dflt

/-- `value (Comparison)`, the value in display notation. -/
def display (v : Version) : String :=
  Notation.Style.display.write .double v.value.toNat ++ " (" ++ v.comparison.name ++ ")"

/-- The structural rendering `Version { value: 2.0, comparison: Equal }`. -/
def debug (v : Version) : String :=
  "Version \x7b value: " ++ Notation.Style.debug.write .double v.value.toNat ++
    ", comparison: " ++ v.comparison.name ++ " \x7d"

/-- The identity of a version in caches: its value's bits and its comparison. -/
def key (v : Version) : UInt64 × Comparison := (v.value.bits, v.comparison)

end Version

/-- A member is present when every gate admits the active version's value. -/
def isMemberPresent (gates : List Version) (active : Option Version) : Bool :=
  gates.all fun g => g.isSupported (active.map (·.value)) true

end ObjectWire

namespace ObjectWire

/-- Whether a member is a stored field or a computed property. -/
inductive MemberKind where
  | field
  | property
  deriving DecidableEq, Repr, Inhabited

/-- The name of a member kind in renderings. -/
def MemberKind.name : MemberKind → String
  | .field => "Field"
  | .property => "Property"

/-- The engine that maps nested objects: through the type-erased member list, or through
typed accessors. -/
inductive Engine where
  | dynamic
  | compiled
  deriving DecidableEq, Repr, Inhabited

/-- The name of an engine in renderings. -/
def Engine.name : Engine → String
  | .dynamic => "Dynamic"
  | .compiled => "Compiled"

/-- A run `[offset, offset + len)` of a byte array. -/
structure Segment where
  offset : Nat
  len : Nat
  deriving DecidableEq, Repr

/-- The rendering `ArraySegment { offset: 0, len: 4 }`. -/
def Segment.debug (s : Segment) : String :=
  s!"ArraySegment \x7b offset: {s.offset}, len: {s.len} \x7d"

/-- How rounding `CelsiusAs` converters write their value. -/
inductive CelsiusMode where
  | exact
  | rounded
  deriving DecidableEq, Repr

/-- The converters a serializer may register besides the built-in ones. -/
inductive CustomConverter where
  /-- `u16` as two big-endian bytes, named `be16`. -/
  | bigEndianU16
  /-- `u32` as a string of decimal digits. -/
  | decimalU32
  /-- `u32` as eight bytes, named `wide32`. -/
  | wide32
  /-- The `Celsius` newtype as a double. -/
  | celsius (mode : CelsiusMode)
  /-- `u8` preceded by a string describing the member context. -/
  | probe
  deriving DecidableEq, Repr

/-- The path of the `Celsius` newtype. -/
def celsiusPath : String := "oracle::types::Celsius"

namespace CustomConverter

/-- The type a custom converter converts. -/
def target : CustomConverter → Ty
  | .bigEndianU16 => .scalar .u16
  | .decimalU32 => .scalar .u32
  | .wide32 => .scalar .u32
  | .celsius _ => .newtype celsiusPath .f64
  | .probe => .scalar .u8

/-- The name a custom converter is selected by, if it has one. -/
def name? : CustomConverter → Option String
  | .bigEndianU16 => some "be16"
  | .wide32 => some "wide32"
  | .celsius .exact => some "exact"
  | .celsius .rounded => some "rounded"
  | _ => none

/-- The structural rendering of a custom converter. -/
def debug : CustomConverter → String
  | .bigEndianU16 => "BigEndianU16"
  | .decimalU32 => "DecimalU32"
  | .wide32 => "Wide32"
  | .celsius .exact => "CelsiusAs(\"exact\")"
  | .celsius .rounded => "CelsiusAs(\"rounded\")"
  | .probe => "Probe"

/-- The token naming a custom converter in converter trees. -/
def token : CustomConverter → String
  | .bigEndianU16 => "BigEndianU16"
  | .decimalU32 => "DecimalU32"
  | .wide32 => "Wide32"
  | .celsius _ => "CelsiusAs"
  | .probe => "Probe"

end CustomConverter

/-- A member's choice of converter: by registered name, or an instance of its own. -/
structure Selector where
  name : Option String := none
  inst : Option CustomConverter := none
  deriving DecidableEq, Repr

/-- `Some(x)` or `None`. -/
def optionText (o : Option String) : String :=
  match o with
  | some s => "Some(" ++ s ++ ")"
  | none => "None"

/-- The rendering `ConverterSelector { name: Some("be16"), instance: false }`. -/
def Selector.debug (s : Selector) : String :=
  "ConverterSelector \x7b name: " ++ optionText (s.name.map Escape.quote) ++
    ", instance: " ++ (if s.inst.isSome then "true" else "false") ++ " \x7d"

/-- The annotations of a member. -/
structure Attributes where
  ignore : Bool := false
  order : Option Int := none
  converter : Option Selector := none
  segment : Option Segment := none
  nested : Option Engine := none
  elements : Option Engine := none
  keys : Option Engine := none
  values : Option Engine := none
  versions : List Version := []
  deriving Repr

/-- The rendering `MemberAttributes { ignore: false, order: None, .. versions: [] }`. -/
def Attributes.debug (a : Attributes) : String :=
  let engine := fun (e : Option Engine) => optionText (e.map Engine.name)
  "MemberAttributes \x7b ignore: " ++ (if a.ignore then "true" else "false") ++
    ", order: " ++ optionText (a.order.map toString) ++
    ", converter: " ++ optionText (a.converter.map Selector.debug) ++
    ", segment: " ++ optionText (a.segment.map Segment.debug) ++
    ", nested: " ++ engine a.nested ++ ", elements: " ++ engine a.elements ++
    ", keys: " ++ engine a.keys ++ ", values: " ++ engine a.values ++
    ", versions: [" ++ ", ".intercalate (a.versions.map Version.debug) ++ "] \x7d"

/-- What a getter hands out: a stored field by reference, or a value of its own. -/
inductive MemberRef where
  | borrowed (v : Typed)
  | owned (v : Typed)
  deriving Inhabited

namespace MemberRef

/-- The value handed out. -/
def value : MemberRef → Typed
  | .borrowed v => v
  | .owned v => v

/-- The rendering `MemberRef::Borrowed(..)` or `MemberRef::Owned(..)`. -/
def debug : MemberRef → String
  | .borrowed _ => "MemberRef::Borrowed(..)"
  | .owned _ => "MemberRef::Owned(..)"

end MemberRef

/-- A getter, applied to an owner of the declaring type. -/
abbrev Getter := Value → MemberRef

/-- A setter: the owner with a decoded value stored, or why the value does not fit. -/
abbrev Setter := Value → Typed → Except Error Value

/-- The accessors of a member. `getMut` names the stored field that a mutable borrow reaches
(`none` when the borrow is refused at run time). -/
structure Accessors where
  get : Option Getter := none
  getMut : Option (Value → Option String) := none
  set : Option Setter := none
  deriving Inhabited

/-- The rendering `MemberAccess { get: true, get_mut: true, set: true }`. -/
def Accessors.debug (a : Accessors) : String :=
  let b := fun (x : Bool) => if x then "true" else "false"
  "MemberAccess \x7b get: " ++ b a.get.isSome ++ ", get_mut: " ++ b a.getMut.isSome ++
    ", set: " ++ b a.set.isSome ++ " \x7d"

/-- A member of an object type. -/
structure MemberInfo where
  name : String
  kind : MemberKind
  ty : Ty
  access : Accessors := {}
  attributes : Attributes := {}
  deriving Inhabited

namespace MemberInfo

/-- Whether the member can be read. -/
def canRead (m : MemberInfo) : Bool := m.access.get.isSome

/-- Whether a decoded value can be stored into the member. -/
def canWrite (m : MemberInfo) : Bool := m.access.set.isSome

/-- The rendering of a member with its type, accessors and attributes. -/
def debug (m : MemberInfo) : String :=
  "MemberInfo \x7b name: " ++ Escape.quote m.name ++ ", kind: " ++ m.kind.name ++
    ", ty: Type(" ++ m.ty.name ++ "), access: " ++ m.access.debug ++
    ", attributes: " ++ m.attributes.debug ++ " \x7d"

end MemberInfo

/-- A typed accessor, as the compiled engine uses it. `getMut` names the stored field it
reaches. -/
structure TypedMember where
  name : String
  get : Option Getter := none
  getMut : Option String := none
  set : Option Setter := none
  deriving Inhabited

/-- The rendering `TypedMember { name: "x", get: true, get_mut: true, set: true }`. -/
def TypedMember.debug (t : TypedMember) : String :=
  let b := fun (x : Bool) => if x then "true" else "false"
  "TypedMember \x7b name: " ++ Escape.quote t.name ++ ", get: " ++ b t.get.isSome ++
    ", get_mut: " ++ b t.getMut.isSome ++ ", set: " ++ b t.set.isSome ++ " \x7d"

/-- An object type: its path, its stored fields, its members and its typed accessors. -/
structure ObjectSchema where
  path : String
  fields : List (String × Ty)
  members : List MemberInfo
  typed : List TypedMember
  deriving Inhabited

/-- An enum type: its path and its variants as (name, wire name); the first is the default. -/
structure EnumSchema where
  path : String
  variants : List (String × String)
  deriving Inhabited

/-- The enum and object types a serializer can reach. -/
structure Catalog where
  objects : List ObjectSchema
  enums : List EnumSchema
  deriving Inhabited

namespace Catalog

/-- The schema of an object type. -/
def object? (c : Catalog) (path : String) : Option ObjectSchema :=
  c.objects.find? (·.path == path)

/-- The schema of an enum type. -/
def enum? (c : Catalog) (path : String) : Option EnumSchema :=
  c.enums.find? (·.path == path)

/-- The default value of a type, given the defaults of the object types it holds directly
(behind boxes and inside pairs); every other part has a default of its own. -/
def defaultShape (c : Catalog) (objectDefault : String → Value) : Ty → Value
  | .scalar s => s.default
  | .string => .str ""
  | .placeholder => .unit
  | .newtype _ s => s.default
  | .option _ => .absent
  | .box t => c.defaultShape objectDefault t
  | .vec _ => .list []
  | .deque _ => .list []
  | .hashMap _ _ => .map []
  | .btreeMap _ _ => .map []
  | .pair a b => .pair (c.defaultShape objectDefault a) (c.defaultShape objectDefault b)
  | .enum p => .variant (((c.enum? p).bind (·.variants.head?)).map (·.1) |>.getD "")
  | .object p => objectDefault p

/-- The default value of a type. Objects nest at most as deep as the catalog has object
types (a type cannot contain itself except behind an option or a collection, whose defaults
are empty), so `fuel` equal to their number plus one reaches every default. -/
def defaultWith (c : Catalog) : Nat → Ty → Value
  | 0 => c.defaultShape fun _ => .object []
  | fuel + 1 => c.defaultShape fun p =>
    .object ((c.object? p).map (·.fields) |>.getD [] |>.map fun (n, t) => (n, c.defaultWith fuel t))

/-- The default value of a type. -/
def default (c : Catalog) (t : Ty) : Value := c.defaultWith (c.objects.length + 1) t

end Catalog
end ObjectWire
