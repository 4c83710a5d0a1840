import ObjectWire.Schema
/-!
# Converters

A converter writes and reads values of one target type. The built-in ones handle the scalars,
strings and byte arrays; the others are built for a type from its shape and converters for
its parts: lists, maps and pairs, enums, options, boxes and objects (through one of the two
engines). Custom converters come from the options.

Some converters write a null flag before the value (strings, byte arrays, lists, maps,
options and objects; a box when the converter inside it does), so that an empty value costs
one byte; scalars, enums, pairs and custom converters never do.
-/

/-!
## Serializer options

The options a serializer is built from: the custom converters it registers (scanned before
the eighteen built-in ones), the string encoding, the member kinds it maps, how members are
ordered, the version it writes and gates with, and what it does when a cascade refers back to
an object already being mapped.

Selecting one member kind maps only members of that kind; selecting both is refused when a
type's members are first resolved.
-/

namespace ObjectWire

/-- How a member's order is computed from its annotation, its discovery index among the
members of the selected kind (ignored ones counted) and their total. -/
inductive OrderRule where
  /-- The annotation, else the index plus one (saturating at the largest key). -/
  | annotated
  /-- The total minus the index. -/
  | reverse
  /-- Zero for every member; the stable sort keeps declaration order. -/
  | constant
  /-- Minus the annotation, else minus the index. -/
  | negated
  deriving DecidableEq, Repr

/-- The largest order key, `i64::MAX`, that is `2 ^ 63 - 1`. -/
def OrderRule.maxKey : Int := 9223372036854775807

/-- A discovery index plus one, saturating at the largest key. -/
def OrderRule.successor (index : Nat) : Int := (min (index + 1) maxKey.toNat : Nat)

/-- The order of a member under a rule. -/
def OrderRule.apply (r : OrderRule) (m : MemberInfo) (index total : Nat) : Int :=
  match r with
  | .annotated => m.attributes.order.getD (successor index)
  | .reverse => (total : Int) - index
  | .constant => 0
  | .negated => -(m.attributes.order.getD index)

/-- What happens to a member whose object type is already on the cascade chain. -/
inductive CyclePolicy where
  | skip
  | error
  deriving DecidableEq, Repr

/-- The name of a cycle policy in renderings. -/
def CyclePolicy.name : CyclePolicy → String
  | .skip => "Skip"
  | .error => "Error"

/-- The options of a serializer. -/
structure Options where
  custom : List CustomConverter := []
  encoding : TextEncoding := .utf8
  memberKinds : List MemberKind := [.field]
  order : OrderRule := .annotated
  version : Option Version := none
  cyclePolicy : CyclePolicy := .skip

namespace Options

/-- Selects one member kind only. -/
def withMemberKind (o : Options) (k : MemberKind) : Options := { o with memberKinds := [k] }

/-- Adds a member kind, unless it is selected already. -/
def addMemberKind (o : Options) (k : MemberKind) : Options :=
  if o.memberKinds.contains k then o else { o with memberKinds := o.memberKinds ++ [k] }

/-- The member kind mapped for type `t`: the one selected, fields when none is, and a
configuration error when both are. -/
def memberKind (o : Options) (t : Ty) : Except Error MemberKind :=
  match o.memberKinds with
  | [k] => .ok k
  | [] => .ok .field
  | _ => .error (.config (.conflictingMemberKinds t.name))

/-- `Some(Version { .. })` or `None`. -/
def versionDebug (v : Option Version) : String := optionText (v.map Version.debug)

/-- The rendering of the registry: the custom converters and the number of built-ins. -/
def registryDebug (o : Options) : String :=
  "ConverterRegistry \x7b custom: [" ++ ", ".intercalate (o.custom.map CustomConverter.debug) ++
    "], builtin: 18 \x7d"

/-- The rendering `SerializerOptions { registry: .., encoding: Utf8, .. }`. -/
def debug (o : Options) : String :=
  "SerializerOptions \x7b registry: " ++ o.registryDebug ++ ", encoding: " ++ o.encoding.debugName ++
    ", member_kinds: [" ++ ", ".intercalate (o.memberKinds.map MemberKind.name) ++
    "], version: " ++ versionDebug o.version ++ ", cycle_policy: " ++ o.cyclePolicy.name ++ ", .. \x7d"

end Options
end ObjectWire

namespace ObjectWire

/-- A converter tree. -/
inductive Converter where
  | primitive (s : Scalar)
  | string
  /-- Byte arrays, selected by the name `array` or by a segment. -/
  | array
  | custom (c : CustomConverter)
  | list (ty element : Ty) (conv : Converter)
  | dictionary (ty key value : Ty) (sorted : Bool) (keyConv valueConv : Converter)
  | pair (ty key value : Ty) (keyConv valueConv : Converter)
  /-- An enum, with its variants as (name, wire name). -/
  | enum (ty : Ty) (variants : List (String × String))
  | nullable (ty inner : Ty) (conv : Converter) (innerNullable : Bool)
  | pointer (ty inner : Ty) (conv : Converter)
  | object (ty : Ty) (engine : Engine)
  deriving Repr, Inhabited

namespace Converter

/-- The type a converter converts. -/
def target : Converter → Ty
  | .primitive s => .scalar s
  | .string => .string
  | .array => Ty.bytes
  | .custom c => c.target
  | .list t _ _ => t
  | .dictionary t _ _ _ _ _ => t
  | .pair t _ _ _ _ => t
  | .enum t _ => t
  | .nullable t _ _ _ => t
  | .pointer t _ _ => t
  | .object t _ => t

/-- The name a converter is selected by, if it has one. -/
def name? : Converter → Option String
  | .array => some "array"
  | .custom c => c.name?
  | _ => none

/-- Whether the converter writes a null flag before the value. -/
def handlesNull : Converter → Bool
  | .string | .array | .list .. | .dictionary .. | .nullable .. | .object .. => true
  | .pointer _ _ c => c.handlesNull
  | _ => false

/-- The object types a converter reaches, in order: an object converter its own type, the
others those of their parts (a map or pair: key, then value). -/
def nestedObjects : Converter → List Ty
  | .object t _ => [t]
  | .list _ _ c => c.nestedObjects
  | .dictionary _ _ _ _ k v => k.nestedObjects ++ v.nestedObjects
  | .pair _ _ _ k v => k.nestedObjects ++ v.nestedObjects
  | .nullable _ _ c _ => c.nestedObjects
  | .pointer _ _ c => c.nestedObjects
  | _ => []

/-- The eighteen built-in converters, in registration order. -/
def builtins : List Converter := Scalar.all.map .primitive ++ [.string, .array]

/-- `Type(name)`. -/
def typeText (t : Ty) : String := "Type(" ++ t.name ++ ")"

/-- The rendering of a pair codec. -/
def pairCodecText (k v : Ty) (kc vc : String) : String :=
  "PairCodec \x7b key_ty: " ++ typeText k ++ ", value_ty: " ++ typeText v ++ ", key: " ++ kc ++
    ", value: " ++ vc ++ " \x7d"

/-- The structural rendering of a converter tree. -/
def debug : Converter → String
  | .primitive s => "PrimitiveConverter<" ++ s.name ++ ">"
  | .string => "StringConverter"
  | .array => "ArrayConverter"
  | .custom c => c.debug
  | .list t e c =>
    "ListConverter \x7b ty: " ++ typeText t ++ ", shape: ListShape \x7b element: " ++ typeText e ++
      ", .. \x7d, element: " ++ c.debug ++ " \x7d"
  | .dictionary t k v sorted kc vc =>
    "DictionaryConverter \x7b ty: " ++ typeText t ++ ", shape: MapShape \x7b key: " ++ typeText k ++
      ", value: " ++ typeText v ++ ", sorted: " ++ (if sorted then "true" else "false") ++
      ", .. \x7d, entries: " ++ pairCodecText k v kc.debug vc.debug ++ " \x7d"
  | .pair t k v kc vc =>
    "KeyValuePairConverter \x7b ty: " ++ typeText t ++ ", shape: PairShape \x7b key: " ++ typeText k ++
      ", value: " ++ typeText v ++ ", .. \x7d, codec: " ++ pairCodecText k v kc.debug vc.debug ++ " \x7d"
  | .enum t vs =>
    "EnumConverter \x7b ty: " ++ typeText t ++ ", shape: EnumShape \x7b variants: [" ++
      ", ".intercalate (vs.map fun v => Escape.quote v.2) ++ "], .. \x7d \x7d"
  | .nullable t i c n =>
    "NullableConverter \x7b ty: " ++ typeText t ++ ", shape: NullableShape \x7b inner: " ++ typeText i ++
      ", .. \x7d, inner: " ++ c.debug ++ ", inner_nullable: " ++ (if n then "true" else "false") ++ " \x7d"
  | .pointer t i c =>
    "PointerConverter \x7b ty: " ++ typeText t ++ ", shape: PointerShape \x7b inner: " ++ typeText i ++
      ", .. \x7d, inner: " ++ c.debug ++ " \x7d"
  | .object t e =>
    "ObjectConverter \x7b ty: " ++ typeText t ++ ", kind: " ++ e.name ++ ", hooks: CompiledHooks \x7d"

/-- The tree in pre-order as tokens: one per node, an object converter followed by its
engine. -/
def tokens : Converter → List String
  | .primitive _ => ["PrimitiveConverter"]
  | .string => ["StringConverter"]
  | .array => ["ArrayConverter"]
  | .custom c => [c.token]
  | .list _ _ c => "ListConverter" :: c.tokens
  | .dictionary _ _ _ _ k v => "DictionaryConverter" :: (k.tokens ++ v.tokens)
  | .pair _ _ _ k v => "KeyValuePairConverter" :: (k.tokens ++ v.tokens)
  | .enum _ _ => ["EnumConverter"]
  | .nullable _ _ c _ => "NullableConverter" :: c.tokens
  | .pointer _ _ c => "PointerConverter" :: c.tokens
  | .object _ e => ["ObjectConverter", e.name]

end Converter
end ObjectWire
