import ObjectWire.Schema
/-!
# Declared object types

Most object types are declared field by field, each with its attributes, plus computed
properties. From such a declaration follow the members and the typed accessors:

* a field reads as a borrow of the stored field, reaches it mutably, and stores a decoded
  value of its declared type;
* a property reads as an owned value computed from the owner and stores through its setter,
  if it has one;
* an ignored field or property is a bare member of the placeholder type with no accessors.

Members list the fields first, then the properties, each in declaration order; typed
accessors follow the same order, so the accessor of a member stands at the member's index.
-/

namespace ObjectWire

/-- A declared stored field. -/
structure FieldDecl where
  name : String
  ty : Ty
  attrs : Attributes := {}

/-- A declared computed property: its value from the owner, and how a value is stored. -/
structure PropertyDecl where
  name : String
  ty : Ty
  get : Value → Value
  set : Option (Value → Value → Value) := none
  attrs : Attributes := {}

namespace Declare

/-- A setter that accepts values of type `t` only. -/
def checked (t : Ty) (store : Value → Value → Value) : Setter := fun owner v =>
  if v.ty == t then .ok (store owner v.val)
  else .error (Error.mismatch t.name "a value of another type")

/-- The accessors of a stored field. -/
def fieldAccess (name : String) (t : Ty) : Accessors :=
  { get := some fun o => .borrowed ⟨t, (o.field? name).getD .unit⟩
    getMut := some fun _ => some name
    set := some (checked t fun o v => o.setField name v) }

/-- The member of a declared field. -/
def fieldMember (f : FieldDecl) : MemberInfo :=
  if f.attrs.ignore then { name := f.name, kind := .field, ty := .placeholder, attributes := { ignore := true } }
  else { name := f.name, kind := .field, ty := f.ty, access := fieldAccess f.name f.ty, attributes := f.attrs }

/-- The typed accessor of a declared field. -/
def fieldTyped (f : FieldDecl) : TypedMember :=
  if f.attrs.ignore then { name := f.name }
  else
    let a := fieldAccess f.name f.ty
    { name := f.name, get := a.get, getMut := some f.name, set := a.set }

/-- The getter of a property. -/
def propertyGetter (p : PropertyDecl) : Getter := fun o => .owned ⟨p.ty, p.get o⟩

/-- The member of a declared property. -/
def propertyMember (p : PropertyDecl) : MemberInfo :=
  if p.attrs.ignore then
    { name := p.name, kind := .property, ty := .placeholder, attributes := { ignore := true } }
  else
    { name := p.name, kind := .property, ty := p.ty
      access := { get := some (propertyGetter p), set := p.set.map (checked p.ty) }
      attributes := p.attrs }

/-- The typed accessor of a declared property. -/
def propertyTyped (p : PropertyDecl) : TypedMember :=
  if p.attrs.ignore then { name := p.name }
  else { name := p.name, get := some (propertyGetter p), set := p.set.map (checked p.ty) }

end Declare

/-- The schema of a declared object type. -/
def ObjectSchema.declare (path : String) (fields : List FieldDecl)
    (properties : List PropertyDecl := []) : ObjectSchema :=
  { path
    fields := fields.map fun f => (f.name, f.ty)
    members := fields.map Declare.fieldMember ++ properties.map Declare.propertyMember
    typed := fields.map Declare.fieldTyped ++ properties.map Declare.propertyTyped }

end ObjectWire
