import ObjectWire.Scalar
/-!
# Types

The types the serializer maps: scalars, strings, options, boxes, sequences, maps, pairs, and
the named types of a catalog (enums, objects, and newtypes over a scalar). A type knows its
full path name, its short name, and its shape, which decides how a converter is built for it.

A value of a type may be handed out where another type is declared; `Typed` pairs a value with
the type it really has, so the checks the converters make can be stated.
-/

namespace ObjectWire

/-- A type. -/
inductive Ty where
  | scalar (s : Scalar)
  | string
  /-- The placeholder type of ignored members. -/
  | placeholder
  /-- A named type that wraps a scalar and has no converter of its own. -/
  | newtype (path : String) (repr : Scalar)
  | option (t : Ty)
  | box (t : Ty)
  | vec (t : Ty)
  | deque (t : Ty)
  | hashMap (k v : Ty)
  | btreeMap (k v : Ty)
  | pair (a b : Ty)
  | enum (path : String)
  | object (path : String)
  deriving DecidableEq, Repr, Inhabited

/-- The shape of a type: how a converter is put together for it. -/
inductive Shape where
  | primitive
  | nullable (inner : Ty)
  | pointer (inner : Ty)
  | list (element : Ty)
  | map (key value : Ty) (sorted : Bool)
  | pair (key value : Ty)
  | enum
  | object
  deriving DecidableEq, Repr

namespace Shape

/-- The one-word label of a shape. -/
def label : Shape → String
  | .primitive => "primitive"
  | .nullable _ => "nullable"
  | .pointer _ => "pointer"
  | .list _ => "list"
  | .map _ _ _ => "map"
  | .pair _ _ => "pair"
  | .enum => "enum"
  | .object => "object"

end Shape

namespace Ty

/-- The byte vector type. -/
def bytes : Ty := .vec (.scalar .u8)

/-- The full path name of a type. -/
def name : Ty → String
  | .scalar s => s.name
  | .string => "alloc::string::String"
  | .placeholder => "mapcode::reflect::Opaque"
  | .newtype p _ => p
  | .option t => "core::option::Option<" ++ t.name ++ ">"
  | .box t => "alloc::boxed::Box<" ++ t.name ++ ">"
  | .vec t => "alloc::vec::Vec<" ++ t.name ++ ">"
  | .deque t => "alloc::collections::vec_deque::VecDeque<" ++ t.name ++ ">"
  | .hashMap k v => "std::collections::hash::map::HashMap<" ++ k.name ++ ", " ++ v.name ++ ">"
  | .btreeMap k v =>
    "alloc::collections::btree::map::BTreeMap<" ++ k.name ++ ", " ++ v.name ++ ">"
  | .pair a b => "(" ++ a.name ++ ", " ++ b.name ++ ")"
  | .enum p => p
  | .object p => p

/-- The position just after the last `::` in a list of characters. -/
def afterLastPath (cs : List Char) : Option Nat :=
  let rec go : List Char → Nat → Option Nat → Option Nat
    | ':' :: ':' :: rest, i, _ => go (':' :: rest) (i + 1) (some (i + 2))
    | _ :: rest, i, found => go rest (i + 1) found
    | [], _, found => found
  go cs 0 none

/-- The short name: the full name from just after the last `::` that stands before the first
`<`. A name without generic arguments thus loses its whole path, while inside a tuple the cut
falls after the last path of any component. -/
def shortName (t : Ty) : String :=
  let cs := t.name.toList
  let head := cs.takeWhile (· != '<')
  match afterLastPath head with
  | some p => String.ofList (cs.drop p)
  | none => t.name

/-- The shape of a type. -/
def shape : Ty → Shape
  | .option t => .nullable t
  | .box t => .pointer t
  | .vec t => .list t
  | .deque t => .list t
  | .hashMap k v => .map k v false
  | .btreeMap k v => .map k v true
  | .pair a b => .pair a b
  | .enum _ => .enum
  | .object _ => .object
  | _ => .primitive

/-- Whether a type is an object type. -/
def isObject : Ty → Bool
  | .object _ => true
  | _ => false

/-- Whether a value of the type may be empty: an option, possibly behind boxes. -/
def canHoldNone : Ty → Bool
  | .option _ => true
  | .box t => t.canHoldNone
  | _ => false

/-- The object type behind options and boxes, if there is one. -/
def innermostObject? : Ty → Option Ty
  | .object p => some (.object p)
  | .option t => t.innermostObject?
  | .box t => t.innermostObject?
  | _ => none

end Ty

/-- A value together with the type it really has. -/
structure Typed where
  ty : Ty
  val : Value
  deriving Inhabited, Repr

namespace Ty

/-- Whether `v` is the empty value of type `t`: an empty option, possibly behind boxes. A value
of another type is never empty. -/
def isNull (t : Ty) (v : Typed) : Bool :=
  v.ty == t && go t v.val
where
  go : Ty → Value → Bool
    | .option _, .absent => true
    | .box t, x => go t x
    | _, _ => false

end Ty
end ObjectWire
