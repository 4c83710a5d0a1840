import ObjectWire.Proofs.DecodingFaults
import ObjectWire.Proofs.MappingOrder
/-!
# Decoding into a value overlays it

Decoding an object into a target value reads each mapping's value from the stream, whatever
the target holds, and stores it: through the member's setter into the owner that the mapping's
cascade path reaches by mutable borrows, so into the target's own nested objects; a member
without setter has its value read and dropped. The stores are pure updates of the target
(`putAt`, `Accessor.put`, `Mapping.put`), and the steps around them do not look at it. So a
decoding into any target runs one course (`forIn_overlay`): it reads the same values, leaves
the same machine and applies the same stores (`overlay`), and stops where reading stops.

Where the accessors of the catalog fail or succeed whatever the owner holds (`Catalog.Blind`),
as declared fields and properties do, the stores fail alike on every target too. Decoding
into a given value and decoding afresh, which starts from the type's default, then both fail
with one error, or both succeed with the same stores applied: one per mapping of the decoding
list, in wire order. A member without setter keeps the target's value, where decoding afresh
leaves the default.

**Results.**
* `storeMember_updatesBy`, `updateAt_updatesBy`: storing along a path runs as its pure update.
* `forIn_overlay`: a loop that reads, then stores, runs one course into every target.
* `overlay_blindly`: stores whose failures ignore the target fail alike on every target.
* `ObjectSchema.declare_blind`, `Sample.catalog_blind`: declared schemas, and every sample
  type, are blind.
* `decoding_into_a_value_overlays_it`: both engines' decodings of an object into a value
  fail alike or overlay alike.
* `read_only_member_keeps_the_target`: a member without setter keeps the target's value, so
  the decoded value of a mapped member may depend on the target.
-/

namespace ObjectWire

/-! ## Stores as pure updates -/

/-- Stores a decoded value through member `d` into its owner: the owner its setter makes, or
the owner as it is when `d` has no setter. -/
def Descriptor.storeOrKeep (d : Descriptor) (v : Value) (owner : Typed) : Except Error Value :=
  (d.store owner.val ⟨d.info.ty, v⟩).map fun o => o.getD owner.val

/-- Replaces the part of `root` that `path` reaches by mutable borrows with what `k` makes of
it. -/
def putAt : List Descriptor → Typed → (Typed → Except Error Value) → Except Error Value
  | [], root, k => k root
  | hop :: rest, root, k => do
    let field ← hop.reach root
    let updated ← putAt rest ⟨hop.info.ty, (root.val.field? field).getD .unit⟩ k
    pure (root.val.setField field updated)

/-- Stores the decoded value of a mapping into an object of type `t`, along the mapping's
path, through the type-erased accessors. -/
def Mapping.put (t : Ty) (m : Mapping) (v : Value) (cur : Value) : Except Error Value :=
  putAt m.path ⟨t, cur⟩ (m.member.storeOrKeep v)

/-- Stores a decoded value into the root through a compiled accessor: its setter for a member
of the root, else its mutable borrow of the path's first field and then the rest of the
path. -/
def Accessor.put (a : Accessor) (v : Value) (cur : Value) : Except Error Value :=
  match a.mapping.path with
  | [] =>
    match a.typed.set with
    | some s => s cur ⟨a.mapping.member.info.ty, v⟩
    | none => .ok cur
  | head :: rest =>
    match a.typed.getMut with
    | some field => do
      let updated ← putAt rest ⟨head.info.ty, (cur.field? field).getD .unit⟩
        (a.mapping.member.storeOrKeep v)
      pure (cur.setField field updated)
    | none => .error (.internal (.typedAccess .borrowMut head.qualifiedName))

/-- Applies stores to a target, in order. -/
def overlay {α : Type} (put : α → Value → Value → Except Error Value) (stores : List (α × Value))
    (target : Value) : Except Error Value :=
  stores.foldlM (fun cur s => put s.1 s.2 cur) target

@[simp] theorem overlay_nil
    {α : Type} (put : α → Value → Value → Except Error Value) (target : Value) :
    overlay put [] target = .ok target :=
  rfl

theorem overlay_cons
    {α : Type} (put : α → Value → Value → Except Error Value) (a : α) (v : Value)
    (stores : List (α × Value)) (target : Value) :
    overlay put ((a, v) :: stores) target = put a v target >>= overlay put stores :=
  rfl

/-- Decoding into a target, `decode`, either fails with one error whatever the target, or
applies to every target the same stores, one for each mapping of the decoding list `l` in its
order, and answers what they make of the target. -/
def Overlays {α : Type} (put : α → Value → Value → Except Error Value) (mapping : α → Mapping)
    (l : Except Error MappingList) (decode : Value → Except Error Value) : Prop :=
  (∃ e, ∀ i, decode i = .error e) ∨
    ∃ L stores, l = .ok L ∧ stores.map (fun s => mapping s.1) = L.mappings ∧
      ∀ i, ∃ r, overlay put stores i = .ok r ∧ decode i = .ok r

/-! ## Accessors that fail whatever the owner holds -/

/-- An update that fails or not, and with which error, whatever it is applied to. -/
def Blindly {β α : Type} (u : β → Except Error α) : Prop :=
  ∀ x x' e, u x = .error e → u x' = .error e

/-- Accessors that fail or not, and with which error, whatever the owner holds: a mutable
borrow refused for one owner is refused for every owner, and the setter is blind. -/
structure Accessors.Blind (a : Accessors) : Prop where
  getMut : ∀ gm ∈ a.getMut, ∀ o o', (gm o).isSome = (gm o').isSome
  set : ∀ s ∈ a.set, ∀ v, Blindly fun o => s o v

/-- A catalog whose members' accessors and typed accessors fail whatever the owners hold, as
those of declared fields and properties do. -/
structure Catalog.Blind (cat : Catalog) : Prop where
  members : ∀ info, cat.Declares info → info.access.Blind
  typed : ∀ tm, cat.HasTyped tm → ∀ s ∈ tm.set, ∀ v, Blindly fun o => s o v

theorem Blindly.ok
    {β α : Type} {u : β → Except Error α} (h : Blindly u) {x : β} {a : α} (hx : u x = .ok a)
    (x' : β) :
    ∃ a', u x' = .ok a' := by
  cases hx' : u x' with
  | ok a' => exact ⟨a', rfl⟩
  | error e =>
      rw [h x' x e hx'] at hx
      cases hx

theorem Blindly.dichotomy
    {β α : Type} {u : β → Except Error α} (h : Blindly u) (x₀ : β) :
    (∃ e, ∀ x, u x = .error e) ∨ ∀ x, ∃ a, u x = .ok a := by
  cases h₀ : u x₀ with
  | error e => exact Or.inl ⟨e, fun x => h x₀ x e h₀⟩
  | ok a => exact Or.inr fun x => h.ok h₀ x

/-- A blind step followed by a step that fails alike, whatever it is given, is blind. -/
theorem Blindly.bind
    {β α γ : Type} {g : β → Except Error α} {k : β → α → Except Error γ} (hg : Blindly g)
    (hk : ∀ x a x' a' e, k x a = .error e → k x' a' = .error e) :
    Blindly fun x => g x >>= k x := by
  intro x x' e h
  beta_reduce at h ⊢
  cases hx : g x with
  | error e' =>
      rw [hx] at h
      rw [hg x x' e' hx]
      exact h
  | ok a =>
      rw [hx] at h
      obtain ⟨a', hx'⟩ := hg.ok hx x'
      rw [hx']
      exact hk x a x' a' e h

theorem Blindly.bind_pure_error
    {β α γ : Type} {u : β → Except Error α} (hu : Blindly u) {y y' : β} {c c' : α → γ}
    {e : Error} (he : (u y >>= fun a => pure (c a)) = .error e) :
    (u y' >>= fun a => pure (c' a)) = .error e := by
  cases hy : u y with
  | ok a =>
      rw [hy] at he
      cases he
  | error e' =>
      rw [hy] at he
      rw [hu y y' e' hy]
      exact he

/-- A member's mutable borrow of an owner of a given type fails whatever the owner holds. -/
theorem Descriptor.reach_blindly
    {d : Descriptor} (hd : d.info.access.Blind) (ty : Ty) :
    Blindly fun val => d.reach ⟨ty, val⟩ := by
  intro x x' e h
  beta_reduce at h ⊢
  unfold Descriptor.reach at h ⊢
  cases hgm : d.info.access.getMut with
  | none => simpa only [hgm] using h
  | some gm =>
      simp only [hgm] at h ⊢
      split at h
      · rw [if_pos ‹_›]
        exact h
      · rw [if_neg ‹_›]
        have hsome := hd.getMut gm hgm x x'
        cases hx : gm x with
        | some f => simp [hx] at h
        | none =>
            cases hx' : gm x' with
            | some f' => simp [hx, hx'] at hsome
            | none => simpa [hx] using h

theorem Descriptor.storeOrKeep_blindly
    {d : Descriptor} (hd : d.info.access.Blind) (v : Value) (ty : Ty) :
    Blindly fun val => d.storeOrKeep v ⟨ty, val⟩ := by
  intro x x' e h
  beta_reduce at h ⊢
  unfold Descriptor.storeOrKeep Descriptor.store at h ⊢
  cases hset : d.info.access.set with
  | none => simp [hset, Except.map] at h
  | some s =>
      have hs : Blindly fun o => s o ⟨d.info.ty, v⟩ := hd.set s hset _
      cases hx : s x ⟨d.info.ty, v⟩ with
      | ok o => simp [hset, hx, Except.map] at h
      | error e' =>
          have hx' : s x' ⟨d.info.ty, v⟩ = .error e' := hs x x' e' hx
          simpa [hset, hx, hx', Except.map] using h

theorem putAt_blindly
    {k : Typed → Except Error Value} (hk : ∀ ty, Blindly fun val => k ⟨ty, val⟩) :
    ∀ path : List Descriptor, (∀ hop ∈ path, hop.info.access.Blind) →
      ∀ ty, Blindly fun val => putAt path ⟨ty, val⟩ k
  | [], _, ty => hk ty
  | hop :: rest, hpath, ty =>
      have hrest := putAt_blindly hk rest (fun p hp => hpath p (List.mem_cons_of_mem _ hp))
        hop.info.ty
      Blindly.bind (Descriptor.reach_blindly (hpath hop List.mem_cons_self) ty)
        fun _ _ _ _ _ he => hrest.bind_pure_error he

theorem overlay_blindly
    {α : Type} {put : α → Value → Value → Except Error Value} :
    ∀ stores : List (α × Value), (∀ s ∈ stores, Blindly (put s.1 s.2)) →
      Blindly (overlay put stores)
  | [], _ => by
      intro x x' e h
      cases h
  | (a, v) :: rest, hput =>
      Blindly.bind (hput (a, v) List.mem_cons_self) fun _ y _ y' e he =>
        overlay_blindly rest (fun s hs => hput s (List.mem_cons_of_mem _ hs)) y y' e he

theorem Mapping.put_blindly
    {mp : Mapping} (hmember : mp.member.info.access.Blind)
    (hpath : ∀ p ∈ mp.path, p.info.access.Blind) (t : Ty) (v : Value) :
    Blindly (mp.put t v) :=
  putAt_blindly (Descriptor.storeOrKeep_blindly hmember v) mp.path hpath t

/-- An accessor's store fails whatever the root holds, when its typed setter, its member and
the hops of its path are blind. -/
theorem Accessor.put_blindly
    {a : Accessor} (hset : ∀ s ∈ a.typed.set, ∀ v, Blindly fun o => s o v)
    (hmember : a.mapping.member.info.access.Blind)
    (hpath : ∀ p ∈ a.mapping.path, p.info.access.Blind) (v : Value) :
    Blindly (a.put v) := by
  intro x x' e h
  unfold Accessor.put at h ⊢
  cases hp : a.mapping.path with
  | nil =>
      cases hs : a.typed.set with
      | none => simp [hp, hs] at h
      | some s =>
          have hs' : Blindly fun o => s o ⟨a.mapping.member.info.ty, v⟩ := hset s hs _
          simp only [hp, hs] at h ⊢
          exact hs' x x' e h
  | cons head rest =>
      cases hg : a.typed.getMut with
      | none => simpa [hp, hg] using h
      | some field =>
          have hrest := putAt_blindly (Descriptor.storeOrKeep_blindly hmember v) rest
            (fun q hq => hpath q (by rw [hp]; exact List.mem_cons_of_mem _ hq)) head.info.ty
          simp only [hp, hg] at h ⊢
          exact hrest.bind_pure_error h

/-! ## Declared accessors are blind -/

theorem Declare.checked_blindly
    (t : Ty) (store : Value → Value → Value) (v : Typed) :
    Blindly fun o => Declare.checked t store o v := by
  intro x x' e h
  beta_reduce at h ⊢
  unfold Declare.checked at h ⊢
  by_cases hv : (v.ty == t) = true
  · rw [if_pos hv] at h
    cases h
  · rw [if_neg hv] at h ⊢
    exact h

theorem Accessors.blind_of_checked
    {a : Accessors} (hgm : ∀ gm ∈ a.getMut, ∀ o o', gm o = gm o')
    (hset : ∀ s ∈ a.set, ∃ t store, s = Declare.checked t store) :
    a.Blind where
  getMut := fun gm h o o' => by rw [hgm gm h o o']
  set := fun s h v => by
    obtain ⟨t, store, rfl⟩ := hset s h
    exact Declare.checked_blindly t store v

theorem Accessors.blind_of_none
    {a : Accessors} (hgm : a.getMut = none) (hset : a.set = none) :
    a.Blind :=
  Accessors.blind_of_checked (fun _ h => by rw [hgm] at h; cases h)
    (fun _ h => by rw [hset] at h; cases h)

theorem Declare.fieldAccess_blind
    (name : String) (t : Ty) :
    (Declare.fieldAccess name t).Blind :=
  Accessors.blind_of_checked (fun _ h _ _ => by cases h; rfl) (fun _ h => by cases h; exact ⟨t, _, rfl⟩)

theorem Declare.propertySetter_checked
    (p : PropertyDecl) :
    ∀ s ∈ p.set.map (Declare.checked p.ty), ∃ t store, s = Declare.checked t store := by
  intro s h
  cases hps : p.set with
  | none =>
      rw [hps] at h
      cases h
  | some store =>
      rw [hps, Option.map_some, Option.mem_def, Option.some.injEq] at h
      exact ⟨p.ty, store, h.symm⟩

theorem Declare.fieldMember_blind
    (f : FieldDecl) :
    (Declare.fieldMember f).access.Blind := by
  unfold Declare.fieldMember
  split
  · exact Accessors.blind_of_none rfl rfl
  · exact Declare.fieldAccess_blind f.name f.ty

theorem Declare.propertyMember_blind
    (p : PropertyDecl) :
    (Declare.propertyMember p).access.Blind := by
  unfold Declare.propertyMember
  split
  · exact Accessors.blind_of_none rfl rfl
  · exact Accessors.blind_of_checked (fun _ h => by cases h) (Declare.propertySetter_checked p)

theorem Declare.fieldTyped_blind
    (f : FieldDecl) :
    ∀ s ∈ (Declare.fieldTyped f).set, ∀ v, Blindly fun o => s o v := by
  intro s hs v
  unfold Declare.fieldTyped at hs
  split at hs
  · cases hs
  · cases hs
    exact Declare.checked_blindly f.ty _ v

theorem Declare.propertyTyped_blind
    (p : PropertyDecl) :
    ∀ s ∈ (Declare.propertyTyped p).set, ∀ v, Blindly fun o => s o v := by
  intro s hs v
  unfold Declare.propertyTyped at hs
  split at hs
  · cases hs
  · obtain ⟨t, store, rfl⟩ := Declare.propertySetter_checked p s hs
    exact Declare.checked_blindly t store v

/-- A schema whose members have blind accessors and whose typed accessors blind setters. -/
structure ObjectSchema.Blind (sch : ObjectSchema) : Prop where
  members : ∀ info ∈ sch.members, info.access.Blind
  typed : ∀ tm ∈ sch.typed, ∀ s ∈ tm.set, ∀ v, Blindly fun o => s o v

theorem Catalog.blind_of_objects
    {cat : Catalog} (h : ∀ sch ∈ cat.objects, sch.Blind) :
    cat.Blind where
  members := by
    intro info hinfo
    obtain ⟨sch, hsch, hmem⟩ := hinfo
    exact (h sch hsch).members info hmem
  typed := by
    intro tm htm
    obtain ⟨sch, hsch, hmem⟩ := htm
    exact (h sch hsch).typed tm hmem

/-- A declared schema is blind: its fields borrow their own stored field and store through
checked setters, its properties store through checked setters, and ignored members have no
accessors. -/
theorem ObjectSchema.declare_blind
    (path : String) (fields : List FieldDecl) (properties : List PropertyDecl) :
    (ObjectSchema.declare path fields properties).Blind where
  members := by
    intro info hinfo
    rcases List.mem_append.1 hinfo with hf | hp
    · obtain ⟨f, -, rfl⟩ := List.mem_map.1 hf
      exact Declare.fieldMember_blind f
    · obtain ⟨p, -, rfl⟩ := List.mem_map.1 hp
      exact Declare.propertyMember_blind p
  typed := by
    intro tm htm
    rcases List.mem_append.1 htm with hf | hp
    · obtain ⟨f, -, rfl⟩ := List.mem_map.1 hf
      exact Declare.fieldTyped_blind f
    · obtain ⟨p, -, rfl⟩ := List.mem_map.1 hp
      exact Declare.propertyTyped_blind p

namespace Sample

/-- `Point` is blind: its read-only member has no accessor to fail, and the others store
through checked setters. -/
theorem point_blind : point.Blind where
  members := by
    intro info h
    simp only [point, List.mem_cons, List.not_mem_nil, or_false] at h
    rcases h with rfl | rfl | rfl
    · exact Declare.fieldAccess_blind _ _
    · exact Accessors.blind_of_none rfl rfl
    · exact Accessors.blind_of_checked (fun _ h => by cases h) (fun _ h => by cases h; exact ⟨_, _, rfl⟩)
  typed := by
    intro tm h
    simp only [point, List.mem_cons, List.not_mem_nil, or_false] at h
    rcases h with rfl | rfl | rfl
    · exact Declare.fieldTyped_blind _
    · intro s hs
      cases hs
    · intro s hs v
      cases hs
      exact Declare.checked_blindly _ _ v

theorem liar_blind
    (n : String) (declared : Ty) (handed : Typed) (attrs : Attributes) :
    (liar n declared handed attrs).Blind where
  members := by
    intro info h
    rw [liar, List.mem_singleton] at h
    subst h
    exact Accessors.blind_of_checked (fun _ h => by cases h) (fun _ h => by cases h; exact ⟨_, _, rfl⟩)
  typed := by
    intro tm h s hs v
    rw [liar, List.mem_singleton] at h
    subst h
    cases hs
    exact Declare.checked_blindly _ _ v

theorem withTyped_blind
    (n : String) (f : FieldDecl) (typed : List TypedMember)
    (h : ∀ tm ∈ typed, ∀ s ∈ tm.set, ∀ v, Blindly fun o => s o v) :
    (withTyped n f typed).Blind :=
  ⟨(ObjectSchema.declare_blind (path n) [f] []).members, h⟩

theorem sneaky_blind : sneaky.Blind where
  members := by
    intro info h
    rw [sneaky, List.mem_singleton] at h
    subst h
    exact Accessors.blind_of_checked (fun _ h _ _ => by cases h; rfl)
      (fun _ h => by cases h; exact ⟨_, _, rfl⟩)
  typed := (ObjectSchema.declare_blind (path "Sneaky") [fld "inner" (obj "Address")] []).typed

theorem sneaky2_blind : sneaky2.Blind where
  members := by
    intro info h
    rw [sneaky2, List.mem_singleton] at h
    subst h
    exact Accessors.blind_of_checked (fun _ h _ _ => by cases h; rfl)
      (fun _ h => by cases h; exact ⟨_, _, rfl⟩)
  typed := (ObjectSchema.declare_blind (path "Sneaky2") [fld "inner" (obj "Address")] []).typed

/-- Every sample type is blind: the declared ones as declarations are, the hand-written ones
through checked setters and borrows that answer alike for every owner. -/
theorem catalog_blind : catalog.Blind := by
  refine Catalog.blind_of_objects ?_
  simp only [catalog, objects, liars, brokens, List.cons_append, List.nil_append,
    List.forall_mem_cons]
  repeat' apply And.intro
  all_goals first
    | exact List.forall_mem_nil _
    | exact ObjectSchema.declare_blind _ _ _
    | exact liar_blind _ _ _ _
    | exact point_blind
    | exact sneaky_blind
    | exact sneaky2_blind
    | exact withTyped_blind _ _ _ (List.forall_mem_nil _)
    | refine withTyped_blind _ _ _ fun tm h => ?_
      rw [List.mem_singleton] at h
      subst h
      exact Declare.fieldTyped_blind _

end Sample

/-! ## What a walk maps -/

/-- The mappings of a walk over members the catalog declares, behind a path of declared
members, carry declared members behind paths of declared members: by induction on the walk,
a cascade walking declared members one level deeper. -/
theorem MemberWalk.declares
    {cat : Catalog} {o : Options} {v : Option Version} {chain : List Ty} {path : List Descriptor}
    {depth : Nat} {ds : List Descriptor} {out : List Mapping}
    (h : MemberWalk cat o v chain path depth ds out) :
    (∀ d ∈ ds, cat.Declares d.info) → (∀ p ∈ path, cat.Declares p.info) →
      ∀ mp ∈ out, cat.Declares mp.member.info ∧ ∀ p ∈ mp.path, cat.Declares p.info := by
  induction h with
  | nil => exact fun _ _ mp hmp => by cases hmp
  | gatedOut _ _ ih => exact fun hds hpath => ih (fun d hd => hds d (List.mem_cons_of_mem _ hd)) hpath
  | backReference _ _ _ _ _ ih =>
      exact fun hds hpath => ih (fun d hd => hds d (List.mem_cons_of_mem _ hd)) hpath
  | direct _ _ _ ih =>
      intro hds hpath mp hmp
      rcases List.mem_cons.1 hmp with rfl | hmp
      · exact ⟨hds _ List.mem_cons_self, hpath⟩
      · exact ih (fun d hd => hds d (List.mem_cons_of_mem _ hd)) hpath mp hmp
  | object _ _ _ _ _ _ _ ih =>
      intro hds hpath mp hmp
      rcases List.mem_cons.1 hmp with rfl | hmp
      · exact ⟨hds _ List.mem_cons_self, hpath⟩
      · exact ih (fun d hd => hds d (List.mem_cons_of_mem _ hd)) hpath mp hmp
  | cascade _ _ _ _ _ hmembers _ _ ihinner ihrest =>
      intro hds hpath mp hmp
      rcases List.mem_append.1 hmp with hmp | hmp
      · refine ihinner (fun e he => discoverMembers_declares hmembers he) (fun p hp => ?_) mp hmp
        rcases List.mem_append.1 hp with hp | hp
        · exact hpath p hp
        · rw [List.mem_singleton.1 hp]
          exact hds _ List.mem_cons_self
      · exact ihrest (fun d hd => hds d (List.mem_cons_of_mem _ hd)) hpath mp hmp

/-- A compiled list serves the mappings of its list, one accessor each, in order. -/
theorem mapM_compileAccessor_mappings
    (typed : List TypedMember) :
    ∀ (xs : List Mapping) (acc : List Accessor), xs.mapM (compileAccessor typed) = .ok acc →
      acc.map (·.mapping) = xs
  | [], acc, h => by
      cases h
      rfl
  | x :: xs, acc, h => by
      simp only [List.mapM_cons, bind, Except.bind] at h
      cases hx : compileAccessor typed x with
      | error e =>
          rw [hx] at h
          cases h
      | ok a =>
          rw [hx] at h
          cases hxs : xs.mapM (compileAccessor typed) with
          | error e =>
              rw [hxs] at h
              cases h
          | ok rest =>
              rw [hxs] at h
              cases h
              rw [List.map_cons, compileAccessor_mapping hx,
                mapM_compileAccessor_mappings typed xs rest hxs]

theorem compileLayout_mappings
    {cat : Catalog} {t : Ty} {l : MappingList} {acc : List Accessor}
    (h : compileLayout cat t l = .ok acc) :
    acc.map (·.mapping) = l.mappings := by
  unfold compileLayout at h
  dsimp only at h
  split at h
  · cases h
  · exact mapM_compileAccessor_mappings _ _ acc h

theorem freshList_paths_declared
    {cat : Catalog} {o : Options} {t : Ty} {v : Option Version} {l : MappingList}
    (h : Run.freshList cat o t v = .ok l) :
    ∀ mp ∈ l.mappings, cat.Declares mp.member.info ∧ ∀ p ∈ mp.path, cat.Declares p.info := by
  obtain ⟨-, -, ds, walk, hds, hwalk, hsorted⟩ := Run.freshList_walks h
  intro mp hmp
  rw [hsorted] at hmp
  exact hwalk.declares (fun d hd => discoverMembers_declares hds hd) (fun p hp => by cases hp) mp
    ((sortStable_perm _ _).subset hmp)

namespace Run

variable {α β γ : Type}

/-! ## Steps that run as pure updates -/

/-- The result of a step that computes `r`: its error where the step started, or its value in
`m'`. -/
def finish (r : Except Error α) (m m' : Machine) : EStateM.Result Error Machine α :=
  match r with
  | .ok a => .ok a m'
  | .error e => .error e m

@[simp] theorem finish_ok
    (a : α) (m m' : Machine) :
    finish (.ok a) m m' = .ok a m' :=
  rfl

@[simp] theorem finish_error
    (e : Error) (m m' : Machine) :
    finish (.error e : Except Error α) m m' = .error e m :=
  rfl

/-- From each machine, `f` runs as the pure update `u` of its argument: it fails where it
started, or succeeds in one machine, whatever the argument. -/
def UpdatesBy (f : β → Run α) (u : β → Except Error α) : Prop :=
  ∀ m, ∃ m', ∀ x, (f x).run m = finish (u x) m m'

theorem storeMember_updatesBy
    (d : Descriptor) (v : Value) :
    UpdatesBy (storeMember d v) (d.storeOrKeep v) := by
  intro m
  cases hset : d.info.access.set with
  | none =>
      let dropped : LogRecord := ⟨.trace, s!"discarded read-only '{d.qualifiedName}'"⟩
      refine ⟨{ m with session := { m.session with logs := m.session.logs.push dropped } },
        fun owner => ?_⟩
      simp only [storeMember, Descriptor.storeOrKeep, Descriptor.store, hset, EStateM.run_bind]
      rfl
  | some s =>
      refine ⟨m, fun owner => ?_⟩
      simp only [storeMember, Descriptor.storeOrKeep, Descriptor.store, hset, EStateM.run_bind]
      cases s owner.val ⟨d.info.ty, v⟩ <;> rfl

/-- Storing along a cascade path runs as its pure update when the final store does: by
induction on the path, each hop a pure borrow. -/
theorem updateAt_updatesBy
    {k : Typed → Run Value} {u : Typed → Except Error Value} (hk : UpdatesBy k u) :
    ∀ path : List Descriptor, UpdatesBy (fun root => updateAt path root k) fun root => putAt path root u
  | [] => hk
  | hop :: rest => by
      intro m
      obtain ⟨m', hrest⟩ := updateAt_updatesBy hk rest m
      refine ⟨m', fun root => ?_⟩
      simp only [updateAt, putAt, EStateM.run_bind]
      cases hop.reach root with
      | error e => rfl
      | ok field =>
          simp only [lift_ok_run]
          rw [hrest]
          show _ = finish (putAt rest ⟨hop.info.ty, (root.val.field? field).getD .unit⟩ u >>=
            fun updated => pure (root.val.setField field updated)) m m'
          beta_reduce
          cases putAt rest ⟨hop.info.ty, (root.val.field? field).getD .unit⟩ u <;> rfl

/-! ## A loop that reads, then stores -/

/-- A course's answer once its stores are applied: their result, or the failure that stopped
reading. -/
def stopWith (stop : Option Error) (y : Value) : Except Error Value :=
  match stop with
  | none => .ok y
  | some e => .error e

/-- Into every target, a loop that reads each element's value whatever the target holds and
then stores it as a pure update runs one course: from each machine it reads the same values
and applies the same stores, then fails with `stop` if reading stopped early, and all its
successful runs end in one machine. By induction on the elements, each read deciding how the
course goes on. -/
theorem forIn_overlay
    {read : γ → Run Value} {step : γ → Value → Value → Run (ForInStep Value)}
    {put : γ → Value → Value → Except Error Value}
    (hstep : ∀ a v, UpdatesBy (step a v) fun cur => (put a v cur).map .yield) :
    ∀ (xs : List γ) (m : Machine), ∃ (stores : List (γ × Value)) (stop : Option Error) (m' : Machine),
      stores.map Prod.fst <+: xs ∧ (stop = none → stores.map Prod.fst = xs) ∧ ∀ x,
        answer ((ForIn.forIn xs x fun a cur => read a >>= fun v => step a v cur).run m) =
          (overlay put stores x >>= stopWith stop) ∧
        ∀ y m'', (ForIn.forIn xs x fun a cur => read a >>= fun v => step a v cur).run m = .ok y m'' →
          m'' = m'
  | [], m => ⟨[], none, m, List.nil_prefix, fun _ => rfl, fun _ => ⟨rfl, fun _ _ h => by cases h; rfl⟩⟩
  | a :: as, m => by
      cases hread : (read a).run m with
      | error e m₁ =>
          refine ⟨[], some e, m, List.nil_prefix, (fun h => by cases h), fun x => ⟨?_, fun y m'' h => ?_⟩⟩
          · simp only [List.forIn_cons, EStateM.run_bind, hread]
            rfl
          · simp only [List.forIn_cons, EStateM.run_bind, hread] at h
            cases h
      | ok v m₁ =>
          obtain ⟨m₂, hput⟩ := hstep a v m₁
          obtain ⟨stores, stop, m', hfront, hfull, hrest⟩ := forIn_overlay hstep as m₂
          refine ⟨(a, v) :: stores, stop, m', (List.prefix_cons_inj a).2 hfront,
            (fun h => by rw [List.map_cons, hfull h]), fun x => ?_⟩
          have hfirst : (read a >>= fun v => step a v x).run m =
              finish ((put a v x).map .yield) m₁ m₂ := by
            rw [EStateM.run_bind, hread]
            exact hput x
          simp only [List.forIn_cons]
          rw [EStateM.run_bind, hfirst, overlay_cons]
          cases put a v x with
          | error e' =>
              refine ⟨rfl, fun y m'' h => ?_⟩
              cases h
          | ok y => exact hrest y

theorem UpdatesBy.map
    {f : β → Run α} {u : β → Except Error α} (h : UpdatesBy f u) (g : α → γ) :
    UpdatesBy (fun x => f x >>= fun a => pure (g a)) fun x => (u x).map g := by
  intro m
  obtain ⟨m', hm⟩ := h m
  refine ⟨m', fun x => ?_⟩
  rw [EStateM.run_bind, hm]
  beta_reduce
  cases u x <;> rfl

/-! ## The two engines' stores -/

/-- What the compiled engine does with a decoded value: it stores it into the root through
the accessor. -/
def layoutStore (a : Accessor) (v : Value) (cur : Value) : Run (ForInStep Value) :=
  match a.mapping.path with
  | [] =>
    match a.typed.set with
    | some s => do
      let cur ← lift (s cur ⟨a.mapping.member.info.ty, v⟩)
      pure (.yield cur)
    | none => do
      log .trace s!"discarded read-only '{a.mapping.member.qualifiedName}'"
      pure (.yield cur)
  | head :: rest =>
    match a.typed.getMut with
    | some field => do
      let updated ← updateAt rest ⟨head.info.ty, (cur.field? field).getD .unit⟩
        (storeMember a.mapping.member v)
      pure (.yield (cur.setField field updated))
    | _ => do
      throw (.internal (.typedAccess .borrowMut head.qualifiedName))
      pure (.yield cur)

theorem readLayout_eq
    (orr : ObjectReader) (accessors : List Accessor) (target : Value) (ctx : Ctx) :
    readLayout orr accessors target ctx = ForIn.forIn accessors target (fun a cur =>
      readValue orr a.mapping.converter a.mapping.member.info.ty (ctx.forMember a.mapping.member) >>=
        fun v => layoutStore a v cur) >>= fun cur => pure cur :=
  rfl

theorem readDynamicInto_eq
    (orr : ObjectReader) (t : Ty) (target : Value) (ver : Option Version) :
    readDynamicInto orr t ⟨t, target⟩ ver = mappingList t ver >>= fun l =>
      ForIn.forIn l.mappings target (fun m cur =>
        readValue orr m.converter m.member.info.ty (({ version := ver } : Ctx).forMember m.member) >>=
          fun v => updateAt m.path ⟨t, cur⟩ (storeMember m.member v) >>= fun cur =>
            pure (.yield cur)) >>= fun cur => pure cur := by
  simp only [readDynamicInto, beq_self_eq_true, if_true]

theorem layoutStore_updatesBy
    (a : Accessor) (v : Value) :
    UpdatesBy (layoutStore a v) fun cur => (a.put v cur).map .yield := by
  unfold layoutStore Accessor.put
  cases a.mapping.path with
  | nil =>
      cases a.typed.set with
      | some s => exact UpdatesBy.map (fun m => ⟨m, fun cur => by cases hs : s cur _ <;> simp [hs, finish]⟩) _
      | none =>
          intro m
          exact ⟨_, fun cur => rfl⟩
  | cons head rest =>
      cases a.typed.getMut with
      | some field =>
          have h := updateAt_updatesBy (storeMember_updatesBy a.mapping.member v) rest
          intro m
          obtain ⟨m', hm⟩ := h m
          refine ⟨m', fun cur => ?_⟩
          rw [EStateM.run_bind, hm]
          show _ = finish ((putAt rest ⟨head.info.ty, (cur.field? field).getD .unit⟩
            (a.mapping.member.storeOrKeep v) >>= fun updated =>
              pure (cur.setField field updated)).map ForInStep.yield) m m'
          beta_reduce
          cases putAt rest ⟨head.info.ty, (cur.field? field).getD .unit⟩
            (a.mapping.member.storeOrKeep v) <;> rfl
      | none =>
          intro m
          exact ⟨m, fun cur => rfl⟩

theorem mappingStore_updatesBy
    (t : Ty) (mp : Mapping) (v : Value) :
    UpdatesBy (fun cur => updateAt mp.path ⟨t, cur⟩ (storeMember mp.member v) >>= fun cur =>
      pure (ForInStep.yield cur)) fun cur => (mp.put t v cur).map .yield := by
  have h := updateAt_updatesBy (storeMember_updatesBy mp.member v) mp.path
  exact UpdatesBy.map (fun m => by
    obtain ⟨m', hm⟩ := h m
    exact ⟨m', fun cur => hm ⟨t, cur⟩⟩) _

/-! ## Decoding an object into a value -/

theorem freshPlan_object
    (cat : Catalog) (o : Options) {t : Ty} (ht : t.isObject = true) (e : Engine) :
    freshPlan cat o t e = .ok .object := by
  unfold freshPlan
  rw [rootPlan_run_object ht rfl]
  rfl

/-- On a fresh serializer, the header and the plan of an object root come first, whatever
follows them: decoding goes on from one machine, faithful over the catalog and the options,
with the stream's version and one object reader. -/
theorem run_new_object_root
    (cat : Catalog) (o : Options) {t : Ty} (ht : t.isObject = true) (e : Engine)
    (input : List UInt8) :
    ∃ (m : Machine) (orr : ObjectReader), m.session.FaithfulOver cat o ∧
      ∀ k : Option Version → ObjectReader → RootPlan → Run Value,
        ((Session.new cat o).run (streamVersion >>= fun ver => objectReader >>= fun orr =>
          rootPlan t e >>= k ver orr) input).1 =
          answer ((k (o.decodingVersion input) orr .object).run m) := by
  obtain ⟨m₁, hsv, hm₁⟩ := streamVersion_run_new cat o input
  obtain ⟨s, hs, hplan⟩ := (rootPlan_answers_freshly t e).run hm₁
  refine ⟨{ m₁ with session := s }, readObject (m₁.reader.input.size + 2), hs, fun k => ?_⟩
  rw [Session.run_fst, EStateM.run_bind, hsv]
  dsimp only
  rw [EStateM.run_bind, objectReader_run]
  dsimp only
  rw [EStateM.run_bind, hplan, freshPlan_object cat o ht e]
  rfl

/-- Decodings that apply the same blind stores to every target and then stop alike fail
alike or overlay alike; when nothing stopped them, the stores are one per mapping of `l`. -/
theorem overlays_of_course
    {put : γ → Value → Value → Except Error Value} {mapping : γ → Mapping}
    {l : Except Error MappingList} {decode : Value → Except Error Value}
    {stores : List (γ × Value)} {stop : Option Error}
    (hdecode : ∀ x, decode x = overlay put stores x >>= stopWith stop)
    (hstores : ∀ s ∈ stores, Blindly (put s.1 s.2))
    (hfull : stop = none → ∃ L, l = .ok L ∧ stores.map (fun s => mapping s.1) = L.mappings) :
    Overlays put mapping l decode := by
  rcases (overlay_blindly stores hstores).dichotomy .unit with ⟨e, hfail⟩ | hok
  · exact Or.inl ⟨e, fun x => by rw [hdecode, hfail]; rfl⟩
  · cases stop with
    | some e =>
        refine Or.inl ⟨e, fun x => ?_⟩
        obtain ⟨r, hr⟩ := hok x
        rw [hdecode, hr]
        rfl
    | none =>
        obtain ⟨L, hl, hmap⟩ := hfull rfl
        refine Or.inr ⟨L, stores, hl, hmap, fun x => ?_⟩
        obtain ⟨r, hr⟩ := hok x
        exact ⟨r, hr, by rw [hdecode, hr]; rfl⟩

/-- A decoding that takes a first step, whatever the target, then reads the values of the
keys that step returns and stores them into the target: when a successful first step returns
keys for the mappings of `l`, with blind stores, decoding fails alike into every target or
overlays every target alike. -/
theorem overlays_of_forIn
    {pre : Run β} {m : Machine} {keys : β → List γ} {read : γ → Run Value}
    {step : γ → Value → Value → Run (ForInStep Value)}
    {put : γ → Value → Value → Except Error Value} {mapping : γ → Mapping}
    {l : Except Error MappingList} {loop : β → Value → Run Value}
    (hloop : ∀ a x, loop a x = ForIn.forIn (keys a) x
      (fun k cur => read k >>= fun v => step k v cur) >>= fun cur => pure cur)
    (hstep : ∀ k v, UpdatesBy (step k v) fun cur => (put k v cur).map .yield)
    (hpre : ∀ a m', pre.run m = .ok a m' → ∃ L, l = .ok L ∧
      (keys a).map mapping = L.mappings ∧ ∀ k ∈ keys a, ∀ v, Blindly (put k v)) :
    Overlays put mapping l fun x => answer ((pre >>= fun a => loop a x).run m) := by
  cases hrun : pre.run m with
  | error e m' =>
      refine Or.inl ⟨e, fun x => ?_⟩
      beta_reduce
      rw [EStateM.run_bind, hrun]
      rfl
  | ok a m' =>
      obtain ⟨L, hl, hkeys, hblind⟩ := hpre a m' hrun
      obtain ⟨stores, stop, m'', hfront, hfull, hcourse⟩ := forIn_overlay hstep (keys a) m'
      refine @overlays_of_course _ put mapping l _ stores stop (fun x => ?_)
        (fun s hs => hblind s.1 (hfront.subset (List.mem_map_of_mem hs)) s.2)
        fun hstop => ⟨L, hl, ?_⟩
      · rw [EStateM.run_bind, hrun]
        dsimp only
        rw [hloop, bind_pure]
        exact (hcourse x).1
      · rw [← hkeys, ← hfull hstop, List.map_map]
        rfl

variable {cat : Catalog} {o : Options}

/-- The compiled layout a faithful session returns serves the fresh list's mappings in order,
and on a blind catalog stores through blind accessors. -/
theorem compiled_stores_blind
    (hcat : cat.Blind) {t : Ty} {ver : Option Version} {m m' : Machine}
    (hm : m.session.FaithfulOver cat o) {acc : List Accessor}
    (h : (compiled t ver).run m = .ok acc m') :
    ∃ L, freshList cat o t ver = .ok L ∧ acc.map (·.mapping) = L.mappings ∧
      ∀ a ∈ acc, ∀ v, Blindly (a.put v) := by
  cases hl : freshList cat o t ver with
  | error e =>
      have hfail := compiled_fails hl m hm
      rw [h] at hfail
      exact hfail.1.elim
  | ok L =>
      have hfresh := compiled_fresh ⟨L, hl⟩
        (fun _ _ _ => trivial : ∀ l err, compileLayout cat t l = .error err → True) m hm
      rw [h] at hfresh
      obtain ⟨l', hl', hacc⟩ := hfresh.1
      rw [hl] at hl'
      cases hl'
      refine ⟨_, rfl, compileLayout_mappings hacc, fun a ha v => ?_⟩
      obtain ⟨hmember, hpath⟩ := freshList_paths_declared hl a.mapping (compileLayout_mem hacc a ha)
      exact Accessor.put_blindly (hcat.typed _ (compileLayout_typed hacc a ha))
        (hcat.members _ hmember) (fun p hp => hcat.members _ (hpath p hp)) v

/-- The mapping list a faithful session returns is the fresh one, and on a blind catalog its
mappings store through blind accessors. -/
theorem mappingList_stores_blind
    (hcat : cat.Blind) {t : Ty} {ver : Option Version} {m m' : Machine}
    (hm : m.session.FaithfulOver cat o) {l : MappingList}
    (h : (mappingList t ver).run m = .ok l m') :
    ∃ L, freshList cat o t ver = .ok L ∧ l.mappings.map id = L.mappings ∧
      ∀ mp ∈ l.mappings, ∀ v, Blindly (mp.put t v) := by
  obtain ⟨s, -, hrun⟩ := (mappingList_answers_freshly t ver).run hm
  rw [hrun] at h
  cases hl : freshList cat o t ver with
  | error e =>
      rw [hl] at h
      cases h
  | ok L =>
      rw [hl] at h
      simp only [outcome, EStateM.Result.ok.injEq] at h
      obtain ⟨rfl, -⟩ := h
      refine ⟨L, rfl, List.map_id _, fun mp hmp v => ?_⟩
      obtain ⟨hmember, hpath⟩ := freshList_paths_declared hl mp hmp
      exact Mapping.put_blindly (hcat.members _ hmember) (fun p hp => hcat.members _ (hpath p hp)) t v

/-- Decoding an object into a given value overlays it, through either engine, on a catalog
whose accessors fail or not whatever the owner holds. Into every value, decoding a stream
fails with one error, or applies the same stores, one for each mapping of the decoding list
in wire order, and answers what they make of the value: so it succeeds exactly when decoding
afresh does, which starts from the type's default. Each store goes through the member's
setter into the owner its cascade path reaches in the value itself; a member without setter
keeps the value's own. -/
theorem decoding_into_a_value_overlays_it
    (cat : Catalog) (o : Options) (hcat : cat.Blind) (t : Ty) (ht : t.isObject = true)
    (input : List UInt8) :
    Overlays Accessor.put (·.mapping) (freshList cat o t (o.decodingVersion input))
        (fun i => ((Session.new cat o).run (deserializeInto t i) input).1) ∧
      Overlays (Mapping.put t) id (freshList cat o t (o.decodingVersion input))
        (fun i => ((Session.new cat o).run (deserializeDyn t (some ⟨t, i⟩)) input).1) := by
  constructor
  · obtain ⟨m, orr, hm, hrun⟩ := run_new_object_root cat o ht .compiled input
    have hdecode : (fun i => ((Session.new cat o).run (deserializeInto t i) input).1) =
        fun i => answer ((compiled t (o.decodingVersion input) >>= fun acc =>
          readLayout orr acc i { version := o.decodingVersion input }).run m) := by
      funext i
      rw [deserializeInto_eq]
      exact hrun fun ver orr => decodeRoot t i orr ver
    rw [hdecode]
    exact overlays_of_forIn (fun acc x => readLayout_eq orr acc x _) layoutStore_updatesBy
      fun _ _ h => compiled_stores_blind hcat hm h
  · obtain ⟨m, orr, hm, hrun⟩ := run_new_object_root cat o ht .dynamic input
    have hdecode : (fun i => ((Session.new cat o).run (deserializeDyn t (some ⟨t, i⟩)) input).1) =
        fun i => answer ((readDynamicInto orr t ⟨t, i⟩ (o.decodingVersion input)).run m) := by
      funext i
      rw [deserializeDyn_eq]
      exact hrun fun ver orr => decodeRootDyn t i orr ver
    rw [hdecode]
    simp only [readDynamicInto_eq]
    exact overlays_of_forIn (fun _ _ => rfl) (mappingStore_updatesBy t)
      fun _ _ h => mappingList_stores_blind hcat hm h

/-- The sample catalog meets the hypotheses: decoding a `Point` overlays every value. -/
theorem point_decoding_overlays_every_value :
    Sample.catalog.Blind ∧ (Sample.obj "Point").isObject = true ∧
      Overlays Accessor.put (·.mapping)
          (freshList Sample.catalog {} (Sample.obj "Point") (Options.decodingVersion {} []))
          (fun i => ((Session.new Sample.catalog {}).run (deserializeInto (Sample.obj "Point") i) []).1) ∧
        Overlays (Mapping.put (Sample.obj "Point")) id
          (freshList Sample.catalog {} (Sample.obj "Point") (Options.decodingVersion {} []))
          (fun i => ((Session.new Sample.catalog {}).run
            (deserializeDyn (Sample.obj "Point") (some ⟨Sample.obj "Point", i⟩)) []).1) :=
  ⟨Sample.catalog_blind, rfl,
    decoding_into_a_value_overlays_it Sample.catalog {} Sample.catalog_blind (Sample.obj "Point") rfl []⟩

/-- Decoding into a value does not replace each mapped member by what decoding afresh has
there, which is one value whatever the target: `Point.y` has a getter and no setter, so
decoding one stream into two points that differ only in `y` keeps each point's own `y`. -/
theorem read_only_member_keeps_the_target :
    ((Session.new Sample.catalog {}).run (deserializeInto (Sample.obj "Point")
        (.object [("x", .int 1), ("y", .int 7),
          ("anchor", .object [("city", .str "Rome"), ("zip", .nat 1)])]))
        [0x4d, 0x43, 0x56, 0x48, 0, 3, 0, 0, 0, 0xfc, 0xff, 0xff, 0xff, 0, 0, 4, 0, 0, 0,
          0x4f, 0x73, 0x6c, 0x6f, 0x96, 0, 0, 0]).1.map
        (fun v => (v.field? "y").map Value.toInt) = .ok (some 7) ∧
      ((Session.new Sample.catalog {}).run (deserializeInto (Sample.obj "Point")
        (.object [("x", .int 1), ("y", .int 5),
          ("anchor", .object [("city", .str "Rome"), ("zip", .nat 1)])]))
        [0x4d, 0x43, 0x56, 0x48, 0, 3, 0, 0, 0, 0xfc, 0xff, 0xff, 0xff, 0, 0, 4, 0, 0, 0,
          0x4f, 0x73, 0x6c, 0x6f, 0x96, 0, 0, 0]).1.map
        (fun v => (v.field? "y").map Value.toInt) = .ok (some 5) := by
  decide +kernel

end Run
end ObjectWire
