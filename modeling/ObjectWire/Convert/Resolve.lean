import ObjectWire.Convert.Converter
/-!
# Resolving a converter for a type

A request asks for a converter for a type, on behalf of a member (or of a root). It is served
in this order:

1. a member's own converter instance, else its converter name (the first registered
   converter of that name that converts the type; none is a configuration error);
2. a segment, which asks for the converter named `array`;
3. the registered converters that convert the type: none goes on, one is taken, several give
   the first unnamed one, and all named is ambiguous;
4. the type's shape: options and boxes wrap the converter of their inner type (none if it has
   none); lists, maps and pairs need converters for their parts (a missing one is a
   configuration error naming the member); enums get an enum converter; objects get an object
   converter only when the request names an engine.

Parts are resolved with the member's plan: the engine for nested objects behind options and
boxes stays the request's own, elements use the plan's `elements`, map and pair parts its
`keys` and `values`.
-/

namespace ObjectWire

/-- The engines a member's annotations choose for objects inside its type. -/
structure Plan where
  nested : Option Engine := none
  elements : Option Engine := none
  keys : Option Engine := none
  values : Option Engine := none
  deriving DecidableEq, Repr

/-- The same engine everywhere. -/
def Plan.uniform (e : Engine) : Plan := ⟨some e, some e, some e, some e⟩

/-- A request for a converter. -/
structure Request where
  selection : Option Selector := none
  segment : Option Segment := none
  /-- The engine for an object type met by shape, if objects are to get a converter. -/
  object : Option Engine := none
  plan : Plan := {}
  /-- The member (or root) the request is for, as errors name it. -/
  label : String

namespace Request

/-- The request of a member with its annotations. -/
def ofMember (a : Attributes) (label : String) (object : Option Engine) : Request :=
  { selection := a.converter, segment := a.segment, object
    plan := ⟨a.nested, a.elements, a.keys, a.values⟩, label }

/-- The request of a root: no annotations, and one engine for everything. -/
def root (e : Engine) (label : String) : Request :=
  { object := some e, plan := Plan.uniform e, label }

/-- The request for a part: no selection or segment, the given engine for objects. -/
def nested (r : Request) (object : Option Engine) : Request :=
  { r with selection := none, segment := none, object }

end Request

/-- The converters a serializer scans: its custom ones, then the built-ins. -/
def Options.registry (o : Options) : List Converter :=
  o.custom.map Converter.custom ++ Converter.builtins

namespace Resolve

/-- The first registered converter of a name that converts the type. -/
def byName (reg : List Converter) (t : Ty) (name : String) : Except Error Converter :=
  match reg.find? fun c => c.name? == some name && c.target == t with
  | some c => .ok c
  | none => .error (.config (.unknownConverter name t.name))

/-- The registered converter for a type: none, the only one, or the first unnamed of
several; several named ones are ambiguous. -/
def byTarget (reg : List Converter) (t : Ty) : Except Error (Option Converter) :=
  match reg.filter (·.target == t) with
  | [] => .ok none
  | [c] => .ok (some c)
  | several =>
    match several.find? (·.name?.isNone) with
    | some c => .ok (some c)
    | none => .error (.config (.ambiguousConverter t.name (several.filterMap (·.name?))))

/-- The converter a request names or the registry offers, before the type's shape is looked
at (steps 1 to 3); none goes on to the shape. -/
def chosen (reg : List Converter) (t : Ty) (r : Request) : Except Error (Option Converter) := do
  if let some sel := r.selection then
    if let some c := sel.inst then return some (.custom c)
    if let some n := sel.name then return some (← byName reg t n)
  if r.segment.isSome then return some (← byName reg t "array")
  byTarget reg t

/-- The converter for a type, or none when the type has no converter for this request. -/
def resolve (reg : List Converter) (cat : Catalog) : Ty → Request → Except Error (Option Converter)
  | t, r => do
    if let some c ← chosen reg t r then return some c
    match t with
    | .option i => do
      let some c ← resolve reg cat i (r.nested r.object) | return none
      pure (some (.nullable t i c i.canHoldNone))
    | .box i => do
      let some c ← resolve reg cat i (r.nested r.object) | return none
      pure (some (.pointer t i c))
    | .vec e => list t e (← resolve reg cat e (r.nested r.plan.elements)) r.label
    | .deque e => list t e (← resolve reg cat e (r.nested r.plan.elements)) r.label
    | .hashMap k v => do
      let kc ← resolve reg cat k (r.nested r.plan.keys)
      let vc ← resolve reg cat v (r.nested r.plan.values)
      let (kc, vc) ← parts k v kc vc r.label
      pure (some (.dictionary t k v false kc vc))
    | .btreeMap k v => do
      let kc ← resolve reg cat k (r.nested r.plan.keys)
      let vc ← resolve reg cat v (r.nested r.plan.values)
      let (kc, vc) ← parts k v kc vc r.label
      pure (some (.dictionary t k v true kc vc))
    | .pair k v => do
      let kc ← resolve reg cat k (r.nested r.plan.keys)
      let vc ← resolve reg cat v (r.nested r.plan.values)
      let (kc, vc) ← parts k v kc vc r.label
      pure (some (.pair t k v kc vc))
    | .enum p => pure (some (.enum t ((cat.enum? p).map (·.variants) |>.getD [])))
    | .object _ => pure (r.object.map (.object t ·))
    | _ => pure none
where
  /-- A list converter, or the error for a missing element converter. -/
  list (t e : Ty) (c : Option Converter) (label : String) : Except Error (Option Converter) :=
    match c with
    | some c => .ok (some (.list t e c))
    | none => .error (.config (.missingElementStrategy label e.name))
  /-- Both parts of a map or pair, or the error for the first missing one. -/
  parts (k v : Ty) (kc vc : Option Converter) (label : String) :
      Except Error (Converter × Converter) :=
    match kc, vc with
    | some kc, some vc => .ok (kc, vc)
    | none, _ => .error (.config (.missingElementStrategy label k.name))
    | _, none => .error (.config (.missingElementStrategy label v.name))

end Resolve
end ObjectWire
