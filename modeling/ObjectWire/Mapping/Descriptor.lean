import ObjectWire.Convert.Resolve
/-!
# Member descriptors and mapping lists

A descriptor is a member as a serializer sees it: the declaring type, the member's schema,
its computed order and its index among all members. Its accessors check what the schema
promises: reading needs a getter, borrowing needs the getter to lend a stored field,
borrowing mutably needs a mutable accessor that does not refuse, and each needs an owner of
the declaring type.

A mapping list is a type's wire layout: one mapping per member that travels, with the path
of cascaded fields that leads to it from the root and the converter that writes it.
-/

namespace ObjectWire

/-- A member of an object type, resolved for a serializer. -/
structure Descriptor where
  owner : Ty
  info : MemberInfo
  order : Int
  index : Nat
  deriving Inhabited

namespace Descriptor

/-- `Owner.member`, with the owner's short name. -/
def qualifiedName (d : Descriptor) : String := d.owner.shortName ++ "." ++ d.info.name

/-- Whether the member can store a decoded value. -/
def canWrite (d : Descriptor) : Bool := d.info.canWrite

/-- Whether the member can be flattened into its owner's list: a field with a mutable
accessor. -/
def canCascade (d : Descriptor) : Bool := d.info.kind == .field && d.info.access.getMut.isSome

/-- The rendering `MemberDescriptor { member: "Point.x", kind: Field, ty: Type(i32), order: 1, .. }`. -/
def debug (d : Descriptor) : String :=
  "MemberDescriptor \x7b member: " ++ Escape.quote d.qualifiedName ++ ", kind: " ++ d.info.kind.name ++
    ", ty: Type(" ++ d.info.ty.name ++ "), order: " ++ toString d.order ++ ", .. \x7d"

/-- The error for an owner of another type. -/
def wrongOwner (d : Descriptor) : Error := Error.mismatch d.owner.name "a different owner type"

/-- The error for an access the member cannot perform. -/
def noAccess (d : Descriptor) (what : Access) : Error := .internal (.memberAccess what d.qualifiedName)

/-- Reads the member of an owner. -/
def get (d : Descriptor) (owner : Typed) : Except Error MemberRef :=
  match d.info.access.get with
  | none => .error (d.noAccess .read)
  | some g => if owner.ty == d.owner then .ok (g owner.val) else .error d.wrongOwner

/-- Borrows the stored field of an owner; a computed value cannot be borrowed. -/
def borrow (d : Descriptor) (owner : Typed) : Except Error Typed := do
  match ← d.get owner with
  | .borrowed v => pure v
  | .owned _ => throw (d.noAccess .borrow)

/-- The stored field that a mutable borrow of the member reaches in an owner. -/
def reach (d : Descriptor) (owner : Typed) : Except Error String :=
  match d.info.access.getMut with
  | none => .error (d.noAccess .borrowMut)
  | some gm =>
    if owner.ty != d.owner then .error d.wrongOwner
    else match gm owner.val with
      | some f => .ok f
      | none => .error (d.noAccess .borrowMut)

/-- Stores a decoded value into an owner: the new owner, or `none` when the member has no
setter. -/
def store (d : Descriptor) (owner : Value) (v : Typed) : Except Error (Option Value) :=
  match d.info.access.set with
  | none => .ok none
  | some s => (s owner v).map some

end Descriptor

/-- Follows a path of cascaded fields from a root, borrowing each. -/
def navigate (root : Typed) (path : List Descriptor) : Except Error Typed :=
  path.foldlM (fun owner hop => hop.borrow owner) root

/-- One member on a type's wire layout. -/
structure Mapping where
  member : Descriptor
  /-- The cascaded fields from the root to the member's owner. -/
  path : List Descriptor
  cascadeId : Nat
  converter : Converter
  deriving Inhabited

namespace Mapping

/-- The dotted path from the root to the member. -/
def pathName (m : Mapping) : String :=
  ".".intercalate (m.path.map (·.info.name) ++ [m.member.info.name])

/-- The rendering `MemberMapping { path: "id", cascade_id: 0, order: 1, converter: .. }`. -/
def debug (m : Mapping) : String :=
  "MemberMapping \x7b path: " ++ Escape.quote m.pathName ++ ", cascade_id: " ++ toString m.cascadeId ++
    ", order: " ++ toString m.member.order ++ ", converter: " ++ m.converter.debug ++ " \x7d"

end Mapping

/-- A type's wire layout for one version. -/
structure MappingList where
  ty : Ty
  version : Option Version
  mappings : List Mapping
  deriving Inhabited

/-- The rendering `MappingList { ty: Type(..), version: None, mappings: [..] }`. -/
def MappingList.debug (l : MappingList) : String :=
  "MappingList \x7b ty: Type(" ++ l.ty.name ++ "), version: " ++ Options.versionDebug l.version ++
    ", mappings: [" ++ ", ".intercalate (l.mappings.map Mapping.debug) ++ "] \x7d"

/-- How a root value travels: as an object's mapping list, or through a converter. -/
inductive RootPlan where
  | object
  | converter (c : Converter)
  deriving Inhabited

/-- The identity of a version in caches. -/
abbrev VersionKey := Option (UInt64 × Comparison)

/-- The cache key of a version. -/
def versionKey (v : Option Version) : VersionKey := v.map Version.key

end ObjectWire
