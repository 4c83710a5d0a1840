import ObjectWire.Derive.Nested
import ObjectWire.Schema
/-!
# Member annotations

The keys a `#[mapcode(...)]` attribute of a field, or a property declared on a struct, may
carry: `ignore`, `order = expr`, `converter = "name"`, `with = Type`,
`segment(offset = expr, len = expr)`, the engines `nested`, `elements`, `keys`, `values`
(`"dynamic"` or `"compiled"`, any case), and the version gates `since = expr`,
`until = expr` and `version(value = expr, compare = "op")`.

A later key overrides an earlier one of the same kind, but gates add up in the order they
are written. Expressions and types are kept as tokens, to be written into the derived code.
-/

namespace ObjectWire
namespace Derive

open Parse

/-- A version gate: the version expression and how a stream's version is compared with it. -/
structure Gate where
  value : List Token
  comparison : Comparison
  deriving Inhabited, Repr

/-- The annotations of a member. -/
structure Annotations where
  ignore : Bool := false
  order : Option (List Token) := none
  /-- The converter name, as its literal is written. -/
  converter : Option String := none
  /-- The converter type named by `with`. -/
  converterType : Option (List Token) := none
  /-- The offset and length expressions of a segment. -/
  segment : Option (List Token × List Token) := none
  nested : Option Engine := none
  elements : Option Engine := none
  keys : Option Engine := none
  values : Option Engine := none
  gates : List Gate := []
  deriving Inhabited, Repr

/-- The engine a key names: `"dynamic"` or `"compiled"` in any case. -/
def engineValue : Parse Engine := do
  valueSign
  let s ← stringValue
  match s.value.toLower with
  | "dynamic" => pure .dynamic
  | "compiled" => pure .compiled
  | _ => throw "Unknown recursion kind. Supported: \"dynamic\", \"compiled\""

/-- An expression value after `=`. -/
def exprValue (fuel : Nat) : Parse (List Token) := do
  valueSign
  parseExpr fuel

/-- `segment(offset = .., len = ..)`, after the key. -/
def segmentEntry (fuel : Nat) : Parse (List Token × List Token) := do
  let step := fun (acc : Option (List Token) × Option (List Token)) (k : KeyPath) => do
    if k.is "offset" then pure (some (← exprValue fuel), acc.2)
    else if k.is "len" then pure (acc.1, some (← exprValue fuel))
    else throw "Unknown segment key. Supported: offset, len"
  let (offset, len) ← nestedEntries fuel step (none, none)
  match offset, len with
  | some o, some l => pure (o, l)
  | _, _ => throw "segment requires both offset and len"

/-- `version(value = .., compare = "..")`, after the key; the comparison defaults to equality. -/
def versionEntry (fuel : Nat) : Parse Gate := do
  let step := fun (acc : Option (List Token) × Comparison) (k : KeyPath) => do
    if k.is "value" then pure (some (← exprValue fuel), acc.2)
    else if k.is "compare" then
      valueSign
      let s ← stringValue
      match Comparison.ofSymbol? s.value with
      | some c => pure (acc.1, c)
      | none => throw "Unknown comparison. Supported: ==, >, >=, <, <="
    else throw "Unknown version key. Supported: value, compare"
  let (value, comparison) ← nestedEntries fuel step (none, .equal)
  match value with
  | some v => pure { value := v, comparison }
  | none => throw "version requires a value"

/-- Reads one member key into the annotations; `none` for a key members do not have. -/
def memberKey (fuel : Nat) (a : Annotations) (k : KeyPath) : Parse (Option Annotations) := do
  if k.is "ignore" then return some { a with ignore := true }
  if k.is "order" then return some { a with order := some (← exprValue fuel) }
  if k.is "converter" then
    valueSign
    return some { a with converter := some (← stringValue).text }
  if k.is "with" then
    valueSign
    return some { a with converterType := some (← parseType fuel) }
  if k.is "segment" then return some { a with segment := some (← segmentEntry fuel) }
  if k.is "nested" then return some { a with nested := some (← engineValue) }
  if k.is "elements" then return some { a with elements := some (← engineValue) }
  if k.is "keys" then return some { a with keys := some (← engineValue) }
  if k.is "values" then return some { a with values := some (← engineValue) }
  if k.is "since" then
    return some { a with gates := a.gates ++ [{ value := ← exprValue fuel, comparison := .greaterThanOrEqual }] }
  if k.is "until" then
    return some { a with gates := a.gates ++ [{ value := ← exprValue fuel, comparison := .lessThanOrEqual }] }
  if k.is "version" then return some { a with gates := a.gates ++ [← versionEntry fuel] }
  return none

/-- The message for a field key that members do not have. -/
def unknownFieldKey : String :=
  "Unknown mapcode attribute key. Supported: ignore, order, converter, with, segment, nested, " ++
    "elements, keys, values, since, until, version"

/-- The annotations a field's `#[mapcode(...)]` attributes give, in order. -/
def fieldAnnotations (attrs : List Attribute) : Except String Annotations :=
  attrs.foldlM (fun acc a =>
    if a.isNamed "mapcode" then
      a.entries (fun fuel acc k => do
        match ← memberKey fuel acc k with
        | some acc' => pure acc'
        | none => throw unknownFieldKey) acc
    else pure acc) {}

/-- A computed member declared on a struct: its name literal, type, getter and setter. -/
structure PropertySpec where
  label : StrLit
  ty : List Token
  getter : String
  setter : Option String
  annotations : Annotations
  deriving Inhabited, Repr

/-- A property being read: what its keys gave so far. -/
structure PropertyDraft where
  label : Option StrLit := none
  ty : Option (List Token) := none
  getter : Option String := none
  setter : Option String := none
  annotations : Annotations := {}

/-- Reads one key of a property. -/
def propertyKey (fuel : Nat) (d : PropertyDraft) (k : KeyPath) : Parse PropertyDraft := do
  if k.is "name" then
    valueSign
    return { d with label := some (← stringValue) }
  if k.is "ty" then
    valueSign
    let s ← stringValue
    return { d with ty := some (← Parse.ofExcept (s.parseWith parseType)) }
  if k.is "get" then
    valueSign
    let s ← stringValue
    return { d with getter := some (← Parse.ofExcept (s.parseWith fun _ => ident)) }
  if k.is "set" then
    valueSign
    let s ← stringValue
    return { d with setter := some (← Parse.ofExcept (s.parseWith fun _ => ident)) }
  match ← memberKey fuel d.annotations k with
  | some a => pure { d with annotations := a }
  | none => throw "Unknown property key"

/-- Reads one entry of a struct's `#[mapcode(...)]`: a `property(...)`. -/
def structEntry (fuel : Nat) (ps : List PropertySpec) (k : KeyPath) : Parse (List PropertySpec) := do
  if !k.is "property" then throw "Unknown mapcode struct attribute. Supported: property"
  let d ← nestedEntries fuel (propertyKey fuel) {}
  let some label := d.label | throw "property requires a name"
  let some ty := d.ty | throw "property requires a ty"
  let some getter := d.getter | throw "property requires a get method"
  pure (ps ++ [{ label, ty, getter, setter := d.setter, annotations := d.annotations }])

/-- The properties a struct's `#[mapcode(...)]` attributes declare, in order. -/
def structProperties (attrs : List Attribute) : Except String (List PropertySpec) :=
  attrs.foldlM (fun ps a => if a.isNamed "mapcode" then a.entries structEntry ps else pure ps) []

/-- The wire name of a variant: the last `rename` of its `#[mapcode(...)]` attributes, else
its own name. -/
def wireName (attrs : List Attribute) (default : String) : Except String String :=
  attrs.foldlM (fun w a =>
    if a.isNamed "mapcode" then
      a.entries (fun _ _ k => do
        if k.is "rename" then
          valueSign
          pure (← stringValue).value
        else throw "Unknown mapcode variant attribute. Supported: rename") w
    else pure w) default

end Derive
end ObjectWire
