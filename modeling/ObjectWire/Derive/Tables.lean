import ObjectWire.Derive.Annotations
/-!
# What the derives declare

The object derive reads a struct into a `MemberTable`: its fields in declaration order, then
the properties its attributes declare, in attribute order. The derived implementation lists
every member twice, once in the member table of the type's shape and once among its typed
members; both lists are made from the same fields and properties, entry by entry, so they
name the same members in the same order.

The enum derive reads an enum into a `WireTable`: each variant with its wire name. Wire names
must be pairwise distinct, so that the match from a wire name back to a variant never has
two arms for one name.
-/

namespace ObjectWire
namespace Derive

/-- A stored field of a derived object. -/
structure FieldSpec where
  /-- The field's identifier as written (`r#` kept). -/
  ident : String
  /-- The member name: the identifier without `r#`. -/
  label : String
  ty : List Token
  annotations : Annotations
  deriving Inhabited, Repr

/-- Which accessors a member has. -/
structure Access where
  get : Bool
  getMut : Bool
  set : Bool
  deriving DecidableEq, Repr

/-- An entry of the member table of a derived shape. -/
inductive InfoEntry where
  /-- A member the engine never maps: its name, the name's literal and its kind. -/
  | ignored (name : String) (label : Token) (kind : MemberKind)
  | field (f : FieldSpec)
  | property (p : PropertySpec)
  deriving Inhabited

/-- An entry of the typed members of a derived object. -/
inductive TypedEntry where
  /-- A member without accessors: its name and the name's literal. -/
  | bare (name : String) (label : Token)
  | field (f : FieldSpec)
  | property (p : PropertySpec)
  deriving Inhabited

/-- The name an identifier gives a member: leading `r#` markers dropped. -/
def stripRaw : List Char → List Char
  | 'r' :: '#' :: rest => stripRaw rest
  | cs => cs

namespace FieldSpec

/-- The literal of the field's name. -/
def labelToken (f : FieldSpec) : Token := stringLiteral f.label

/-- The field's entry in the member table. -/
def info (f : FieldSpec) : InfoEntry :=
  if f.annotations.ignore then .ignored f.label f.labelToken .field else .field f

/-- The field's typed member. -/
def typed (f : FieldSpec) : TypedEntry :=
  if f.annotations.ignore then .bare f.label f.labelToken else .field f

end FieldSpec

namespace PropertySpec

/-- The literal of the property's name, as written. -/
def labelToken (p : PropertySpec) : Token := .literal p.label.text

/-- The property's entry in the member table. -/
def info (p : PropertySpec) : InfoEntry :=
  if p.annotations.ignore then .ignored p.label.value p.labelToken .property else .property p

/-- The property's typed member. -/
def typed (p : PropertySpec) : TypedEntry :=
  if p.annotations.ignore then .bare p.label.value p.labelToken else .property p

end PropertySpec

/-- The member name of an entry. -/
def InfoEntry.name : InfoEntry → String
  | .ignored name _ _ => name
  | .field f => f.label
  | .property p => p.label.value

/-- The accessors of an entry: a field has all three, a property reads and writes only with
a setter, an ignored member has none. -/
def InfoEntry.access : InfoEntry → Access
  | .ignored .. => ⟨false, false, false⟩
  | .field _ => ⟨true, true, true⟩
  | .property p => ⟨true, false, p.setter.isSome⟩

/-- The member name of a typed entry. -/
def TypedEntry.name : TypedEntry → String
  | .bare name _ => name
  | .field f => f.label
  | .property p => p.label.value

/-- The accessors of a typed entry. -/
def TypedEntry.access : TypedEntry → Access
  | .bare .. => ⟨false, false, false⟩
  | .field _ => ⟨true, true, true⟩
  | .property p => ⟨true, false, p.setter.isSome⟩

/-- What the object derive declares for a struct. -/
structure MemberTable where
  owner : String
  fields : List FieldSpec
  properties : List PropertySpec
  deriving Inhabited, Repr

namespace MemberTable

/-- The member table of the derived shape: fields, then properties. -/
def infos (t : MemberTable) : List InfoEntry :=
  t.fields.map FieldSpec.info ++ t.properties.map PropertySpec.info

/-- The derived typed members: fields, then properties. -/
def typed (t : MemberTable) : List TypedEntry :=
  t.fields.map FieldSpec.typed ++ t.properties.map PropertySpec.typed

/-- The fields of a struct's named fields, each with its annotations, in order. -/
def fieldSpecs : List Field → Except String (List FieldSpec)
  | [] => pure []
  | f :: fs => do
    match f.name with
    | none => fieldSpecs fs
    | some ident =>
      let annotations ← fieldAnnotations f.attrs
      let spec : FieldSpec :=
        { ident, label := String.ofList (stripRaw ident.toList), ty := f.ty, annotations }
      pure (spec :: (← fieldSpecs fs))

/-- Reads a declaration as the object derive does: a struct without generic parameters and
with named fields, whose attributes are all well formed. -/
def ofItem (item : Item) : Except String MemberTable := do
  if item.params != 0 then throw "MapcodeObject does not support generic types"
  match item.body with
  | .struct (.named fs) =>
    let fields ← fieldSpecs fs
    let properties ← structProperties item.attrs
    pure { owner := item.name, fields, properties }
  | .struct _ => throw "MapcodeObject only supports structs with named fields"
  | _ => throw "MapcodeObject only supports structs"

end MemberTable

/-- What the enum derive declares for an enum. -/
structure WireTable where
  owner : String
  /-- Each variant with its wire name, in declaration order. -/
  variants : List (String × String)
  deriving Inhabited, Repr

namespace WireTable

/-- The wire names, in declaration order. -/
def wireNames (t : WireTable) : List String := t.variants.map Prod.snd

/-- The wire name of a variant. -/
def nameOf (t : WireTable) (variant : String) : Option String :=
  (t.variants.find? (·.1 == variant)).map Prod.snd

/-- The variant a wire name reads back as: the first arm with that name. -/
def fromName (t : WireTable) (wire : String) : Option String :=
  (t.variants.find? (·.2 == wire)).map Prod.fst

/-- Adds the variants in order to those read so far, refusing a variant with fields and a
wire name already taken. -/
def collect : List Variant → List (String × String) → Except String (List (String × String))
  | [], acc => pure acc
  | v :: vs, acc => do
    match v.fields with
    | .unit => pure ()
    | _ => throw "MapcodeEnum only supports variants without fields"
    let w ← wireName v.attrs v.name
    if acc.any (·.2 == w) then throw ("duplicate wire name '" ++ w ++ "'")
    collect vs (acc ++ [(v.name, w)])

/-- Reads a declaration as the enum derive does: an enum without generic parameters, with at
least one variant, all without fields, with distinct wire names. -/
def ofItem (item : Item) : Except String WireTable := do
  if item.params != 0 then throw "MapcodeEnum does not support generic types"
  match item.body with
  | .enum vs =>
    if vs.isEmpty then throw "MapcodeEnum needs at least one variant"
    pure { owner := item.name, variants := ← collect vs [] }
  | _ => throw "MapcodeEnum only supports enums"

end WireTable

end Derive
end ObjectWire
