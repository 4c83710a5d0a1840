import ObjectWire.Mapping.Session
/-!
# Building mapping lists

The mapping list of an object type for a version walks its members in order:

* a member gated out by the version is skipped;
* a member whose type has a converter (without engine for objects) is mapped with it;
* otherwise its type must lead to an object type through options and boxes. If that object
  type is on the chain of cascades being walked, the member refers back: it is skipped with a
  warning, or rejected, as the cycle policy says. A field of exactly that object type that can
  be borrowed mutably, with no engine annotation, cascades: its own members are walked in
  turn, one level deeper, behind it on the path. Any other reach of an object gets an object
  converter, of the annotated engine or else the dynamic one.

The mappings are then sorted stably by cascade depth, then order. Every object type a chosen
converter reaches is checked to have a mapping list too, unless it is being built already or
cached, so that a type that cannot be mapped fails where it is first reached.
-/

/-!
## Resolving a type's members

The members a serializer maps for an object type are those of the selected kind that can be
read and are not ignored. Each gets its order from the options' rule, fed with its discovery
index among all members of that kind (ignored and unreadable ones counted) and their number;
the members are then sorted by order, stably, so ties keep declaration order.
-/

/-!
## Stable sorting

Members, mappings and encoded map entries are sorted stably: elements that neither goes before
the other keep their order of arrival. The sort inserts each element into the sorted rest of
the list, before the first element it may go before, so that among equivalent elements the
earlier one stays first. It is structurally recursive, so sorting a given list evaluates.
-/

namespace ObjectWire

variable {α : Type}

/-- Inserts `a` before the first element `b` with `le a b`. -/
def insertBefore (le : α → α → Bool) (a : α) : List α → List α
  | [] => [a]
  | b :: l => if le a b then a :: b :: l else b :: insertBefore le a l

/-- The stable sort of a list by `le`. -/
def sortStable (le : α → α → Bool) : List α → List α
  | [] => []
  | a :: l => insertBefore le a (sortStable le l)

end ObjectWire

namespace ObjectWire

/-- The members of object type `t`, resolved and sorted by order. -/
def discoverMembers (cat : Catalog) (opts : Options) (t : Ty) : Except Error (List Descriptor) := do
  let kind ← opts.memberKind t
  let schema ← match t with
    | .object p =>
      match cat.object? p with
      | some s => pure s
      | none => throw (.config (.notAnObject t.name))
    | _ => throw (.config (.notAnObject t.name))
  let ofKind := schema.members.zipIdx.filter fun (info, _) => info.kind == kind
  let total := ofKind.length
  let kept := ofKind.zipIdx.filterMap fun ((info, index), discovery) =>
    if info.canRead && !info.attributes.ignore then
      some { owner := t, info, order := opts.order.apply info discovery total, index : Descriptor }
    else none
  pure (sortStable (fun a b => a.order ≤ b.order) kept)

namespace Run

/-- The members of an object type, from the cache or resolved now; a first resolution is
logged. -/
def members (t : Ty) : Run (List Descriptor) := do
  let s ← session
  match s.members.lookup t with
  | some ds => pure ds
  | none =>
    let ds ← lift (discoverMembers s.catalog s.options t)
    log .debug s!"resolved {ds.length} members of '{t.name}'"
    modifySession fun s => { s with members := s.members ++ [(t, ds)] }
    pure ds

end Run
end ObjectWire

namespace ObjectWire

/-- Whether a mapping goes before another: by cascade depth, then by order. -/
def Mapping.before (a b : Mapping) : Bool :=
  a.cascadeId < b.cascadeId || (a.cascadeId == b.cascadeId && a.member.order ≤ b.member.order)

/-- `Some(2.0)` or `None`: a version's value as the build log shows it. -/
def versionValueText (v : Option Version) : String :=
  optionText (v.map fun v => Notation.Style.debug.write .double v.value.toNat)

namespace Run

/-- The converter for a member, with objects given an engine or not. -/
def resolveMember (d : Descriptor) (object : Option Engine) : Run (Option Converter) := do
  let s ← session
  lift (Resolve.resolve s.options.registry s.catalog d.info.ty
    (Request.ofMember d.info.attributes d.qualifiedName object))

mutual

/-- Builds the mapping list of `t`; `visiting` holds the types whose lists are being built. -/
def buildList : Nat → Ty → Option Version → List Ty → Run MappingList
  | 0, _, _, _ => throw (.internal .tooDeep)
  | fuel + 1, t, v, visiting => do
    unless t.isObject do throw (.config (.notAnObject t.name))
    let found ← collect fuel t v [t] visiting [] 0
    let sorted := sortStable Mapping.before found
    log .debug s!"built mapping list for '{t.name}' ({sorted.length} mappings, version {versionValueText v})"
    pure ⟨t, v, sorted⟩

/-- The mappings of the members of `t`, reached by `path` at cascade depth `depth`; `chain`
holds the object types of the cascade walked so far. -/
def collect : Nat → Ty → Option Version → List Ty → List Ty → List Descriptor → Nat →
    Run (List Mapping)
  | 0, _, _, _, _, _, _ => throw (.internal .tooDeep)
  | fuel + 1, t, v, chain, visiting, path, depth => do
    let policy := (← options).cyclePolicy
    let mut out : List Mapping := []
    for d in ← members t do
      if !isMemberPresent d.info.attributes.versions v then
        log .trace s!"'{d.qualifiedName}' is gated out"
        continue
      if let some c ← resolveMember d none then
        checkNested fuel c v visiting
        out := out ++ [⟨d, path, depth, c⟩]
        continue
      let some target := d.info.ty.innermostObject?
        | throw (.config (.unsupportedMember d.qualifiedName d.info.ty.name))
      if chain.contains target then
        match policy with
        | .skip =>
          log .warn s!"skipping '{d.qualifiedName}': it refers back to '{target.name}'"
          continue
        | .error => throw (.config (.cyclicMember d.qualifiedName target.name))
      if d.info.ty == target && d.canCascade && d.info.attributes.nested.isNone then
        out := out ++ (← collect fuel target v (target :: chain) visiting (path ++ [d]) (depth + 1))
      else
        let kind := d.info.attributes.nested.getD .dynamic
        let some c ← resolveMember d (some kind)
          | throw (.config (.unsupportedMember d.qualifiedName d.info.ty.name))
        checkNested fuel c v visiting
        out := out ++ [⟨d, path, depth, c⟩]
    pure out

/-- Checks that every object type a converter reaches can be mapped, building (without
caching) the list of each one that is neither being built nor cached. -/
def checkNested : Nat → Converter → Option Version → List Ty → Run Unit
  | 0, _, _, _ => throw (.internal .tooDeep)
  | fuel + 1, c, v, visiting => do
    for nested in c.nestedObjects do
      let cached := ((← session).lists.lookup (nested, versionKey v)).isSome
      if visiting.contains nested || cached then continue
      let _ ← buildList fuel nested v (nested :: visiting)
      log .trace s!"checked nested mapping of '{nested.name}'"

end

/-- Enough steps for any build over the catalog: each level of nested builds adds a type to
those being visited, and each cascade a type to the chain. -/
def buildFuel : Run Nat := do
  let n := (← catalog).objects.length + 2
  pure (4 * n * n)

/-- The mapping list of `t` for a version, from the cache or built and cached now. -/
def mappingList (t : Ty) (v : Option Version) : Run MappingList := do
  let key := (t, versionKey v)
  match (← session).lists.lookup key with
  | some l => pure l
  | none =>
    let l ← buildList (← buildFuel) t v [t]
    modifySession fun s => { s with lists := s.lists ++ [(key, l)] }
    pure l

/-- How a root of type `t` travels with an engine, from the cache or decided now: an object
by its mapping list, anything else through the converter a root request resolves. -/
def rootPlan (t : Ty) (e : Engine) : Run RootPlan := do
  match (← session).roots.lookup (t, e) with
  | some p => pure p
  | none =>
    let plan ← if t.isObject then pure RootPlan.object else do
      let s ← session
      let label := t.shortName
      let some c ← lift (Resolve.resolve s.options.registry s.catalog t (Request.root e label))
        | throw (.config (.unsupportedMember label t.name))
      checkNested (← buildFuel) c s.options.version []
      pure (RootPlan.converter c)
    modifySession fun s => { s with roots := s.roots ++ [((t, e), plan)] }
    pure plan

end Run
end ObjectWire
