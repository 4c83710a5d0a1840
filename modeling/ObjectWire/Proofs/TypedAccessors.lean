import Mathlib.Data.List.Forall2
import ObjectWire.Declare
import ObjectWire.Proofs.MappingShape
/-!
# Typed accessors that mirror the members

The compiled engine serves each mapping through the typed accessor of its head member, the
accessor at the member's index; the dynamic engine through the member's type-erased
accessors. A typed accessor *serves* a member when the two agree: the same name, the same
getter and setter, and a mutable borrow of the same stored field exactly when the member
has one, whose getter then hands the field out by reference. A declared type's accessors
serve its members index by index; hand-written types may not (a missing or misnamed typed
accessor, a copy handed out where a borrow is promised).

Over a catalog whose types are so mirrored, the compiled layout of every sound mapping list
is built: one accessor per mapping, serving the mapping's head.

**Results.**
* `ObjectSchema.declare_mirrored`: declared types are mirrored.
* `compileLayout_ok`: a mapping list of a type, reached through its members, compiles.
-/

namespace ObjectWire

/-- The typed accessor `a` serves the member `info` as its type-erased accessors do. -/
structure TypedMember.Serves (a : TypedMember) (info : MemberInfo) : Prop where
  name : a.name = info.name
  get : a.get = info.access.get
  set : a.set = info.access.set
  getMut : info.access.getMut = a.getMut.map fun f _ => some f
  borrowed : a.getMut.isSome → ∀ g, info.access.get = some g → ∀ v, ∃ x, g v = .borrowed x

/-- An object type whose typed accessors serve its members, index by index. -/
def ObjectSchema.Mirrored (s : ObjectSchema) : Prop :=
  List.Forall₂ TypedMember.Serves s.typed s.members

/-- A catalog whose object types are all mirrored. -/
def Catalog.Mirrored (cat : Catalog) : Prop :=
  ∀ s ∈ cat.objects, s.Mirrored

namespace Declare

theorem fieldTyped_serves
    (f : FieldDecl) :
    (fieldTyped f).Serves (fieldMember f) := by
  unfold fieldTyped fieldMember
  split
  · exact ⟨rfl, rfl, rfl, rfl, fun h => nomatch h⟩
  · exact ⟨rfl, rfl, rfl, rfl, fun _ _ hg v => by cases hg; exact ⟨_, rfl⟩⟩

theorem propertyTyped_serves
    (p : PropertyDecl) :
    (propertyTyped p).Serves (propertyMember p) := by
  unfold propertyTyped propertyMember
  split
  · exact ⟨rfl, rfl, rfl, rfl, fun h => nomatch h⟩
  · exact ⟨rfl, rfl, rfl, rfl, fun h => nomatch h⟩

end Declare

theorem ObjectSchema.declare_mirrored
    (path : String) (fields : List FieldDecl) (properties : List PropertyDecl) :
    (ObjectSchema.declare path fields properties).Mirrored := by
  unfold ObjectSchema.Mirrored ObjectSchema.declare
  refine List.rel_append ?_ ?_
  · rw [List.forall₂_map_left_iff, List.forall₂_map_right_iff, List.forall₂_same]
    exact fun f _ => Declare.fieldTyped_serves f
  · rw [List.forall₂_map_left_iff, List.forall₂_map_right_iff, List.forall₂_same]
    exact fun p _ => Declare.propertyTyped_serves p

/-- The typed accessor standing at the index of a member that a mirrored type lists. -/
theorem ObjectSchema.Mirrored.typed_at
    {s : ObjectSchema} (hs : s.Mirrored) {i : Nat} {info : MemberInfo}
    (hi : s.members[i]? = some info) :
    ∃ a, s.typed[i]? = some a ∧ a.Serves info := by
  unfold ObjectSchema.Mirrored at hs
  generalize s.typed = typed at hs ⊢
  generalize s.members = members at hs hi
  induction hs generalizing i with
  | nil => simp at hi
  | cons hab _ ih =>
      cases i with
      | zero =>
          simp only [List.getElem?_cons_zero, Option.some.injEq] at hi ⊢
          exact ⟨_, rfl, hi ▸ hab⟩
      | succ i =>
          simp only [List.getElem?_cons_succ] at hi ⊢
          exact ih hi

theorem TypedMember.Serves.getMut_isSome
    {a : TypedMember} {info : MemberInfo} (h : a.Serves info) :
    info.access.getMut.isSome = a.getMut.isSome := by
  rw [h.getMut, Option.isSome_map]

/-! ## Members as discovery resolves them -/

/-- A member of object type `t` as the catalog declares it: of `t`, readable, and the member
its index names in `t`'s schema. -/
structure Descriptor.Declared (cat : Catalog) (t : Ty) (d : Descriptor) : Prop where
  owner : d.owner = t
  canRead : d.info.canRead = true
  schema : ∃ p s, t = .object p ∧ cat.object? p = some s ∧ s.members[d.index]? = some d.info

/-- Every member discovery resolves is declared. -/
theorem discoverMembers_declared
    {cat : Catalog} {o : Options} {t : Ty} {ds : List Descriptor}
    (h : discoverMembers cat o t = .ok ds) {d : Descriptor} (hd : d ∈ ds) :
    d.Declared cat t := by
  unfold discoverMembers at h
  cases hk : o.memberKind t with
  | error e =>
      rw [hk] at h
      cases h
  | ok kind =>
      rw [hk] at h
      cases t with
      | object p =>
          cases hs : cat.object? p with
          | none =>
              simp only [hs] at h
              cases h
          | some s =>
              simp only [hs] at h
              cases h
              have hkept := (sortStable_perm _ _).subset hd
              obtain ⟨⟨⟨info, index⟩, discovery⟩, hmem, hsome⟩ := List.mem_filterMap.1 hkept
              split at hsome
              · cases hsome
                rename_i hread
                have hzip := (List.mem_filter.1 (List.fst_mem_of_mem_zipIdx hmem)).1
                rw [List.mem_zipIdx_iff_getElem?] at hzip
                simp only [Bool.and_eq_true, Bool.not_eq_true'] at hread
                exact ⟨rfl, hread.1, p, s, rfl, hs, hzip⟩
              · cases hsome
      | _ => cases h

/-- A mapping of `t` reached through a declared member of `t`, which it borrows mutably when
the mapping is cascaded. -/
structure Mapping.Rooted (cat : Catalog) (t : Ty) (x : Mapping) : Prop where
  head : x.head.Declared cat t
  cascade : x.path ≠ [] → x.head.canCascade = true

/-- A mapping list of `t` whose mappings are all rooted in declared members of `t`. -/
def MappingList.Rooted (cat : Catalog) (t : Ty) (l : MappingList) : Prop :=
  l.ty = t ∧ ∀ x ∈ l.mappings, x.Rooted cat t

theorem Mapping.Anchored.rooted
    {cat : Catalog} {o : Options} {t : Ty} {ds : List Descriptor}
    (hds : discoverMembers cat o t = .ok ds) {x : Mapping} (h : x.Anchored ds) :
    x.Rooted cat t :=
  ⟨discoverMembers_declared hds h.1, h.2⟩

namespace Run

/-- The mapping list a sound session answers is rooted in the declared members of its type,
whether it was cached or built now. -/
theorem mappingList_run_rooted
    {m m' : Machine} (hs : m.session.Sound) {t : Ty} {v : Option Version} {l : MappingList}
    (h : (mappingList t v).run m = .ok l m') :
    l.Rooted m.session.catalog t := by
  have hanchored : l.ty = t ∧ ∀ x ∈ l.mappings, ∃ ds, m.session.memberList t = .ok ds ∧ x.Anchored ds := by
    unfold mappingList at h
    rw [EStateM.run_bind, session_run] at h
    dsimp only at h
    cases hl : m.session.lists.lookup (t, versionKey v) with
    | some cached =>
        rw [hl] at h
        cases h
        exact hs.lists _ _ hl
    | none =>
        rw [hl] at h
        obtain ⟨fuel, m₁, hfuel, h⟩ := run_bind_ok h
        cases hfuel
        obtain ⟨built, m₂, hb, h⟩ := run_bind_ok h
        obtain ⟨u, m₃, -, h⟩ := run_bind_ok h
        cases h
        exact (buildList_ensures m.session _ t v [t] m _ m₂ (Session.Agree.refl _) hb).1
  refine ⟨hanchored.1, fun x hx => ?_⟩
  obtain ⟨ds, hds, hx⟩ := hanchored.2 x hx
  rw [hs.memberList_eq] at hds
  exact hx.rooted hds

end Run

/-! ## Compiled layouts over mirrored types -/

/-- A compiled accessor of `t` whose mapping is rooted in a declared member of `t` and whose
typed accessor serves that member. -/
structure Accessor.Faithful (cat : Catalog) (t : Ty) (a : Accessor) : Prop where
  rooted : a.mapping.Rooted cat t
  serves : a.typed.Serves a.mapping.head.info

namespace Accessor.Faithful

variable {cat : Catalog} {t : Ty} {a : Accessor}

theorem head_of_nil
    (hpath : a.mapping.path = []) :
    a.mapping.head = a.mapping.member := by
  simp [Mapping.head, hpath]

theorem head_of_cons
    {hop : Descriptor} {rest : List Descriptor} (hpath : a.mapping.path = hop :: rest) :
    a.mapping.head = hop := by
  simp [Mapping.head, hpath]

theorem typed_get
    (hf : a.Faithful cat t) :
    ∃ g, a.typed.get = some g ∧ a.mapping.head.info.access.get = some g := by
  have hread := hf.rooted.head.canRead
  unfold MemberInfo.canRead at hread
  obtain ⟨g, hg⟩ := Option.isSome_iff_exists.1 hread
  exact ⟨g, hf.serves.get.trans hg, hg⟩

theorem head_get
    (hf : a.Faithful cat t) {g : Getter} (hget : a.typed.get = some g) (v : Value) :
    a.mapping.head.get ⟨t, v⟩ = .ok (g v) := by
  have hhead : a.mapping.head.info.access.get = some g := hf.serves.get ▸ hget
  simp [Descriptor.get, hhead, hf.rooted.head.owner]

theorem getMut_of_cons
    (hf : a.Faithful cat t) {hop : Descriptor} {rest : List Descriptor}
    (hpath : a.mapping.path = hop :: rest) :
    ∃ f, a.typed.getMut = some f := by
  have hcascade := hf.rooted.cascade (by simp [hpath])
  unfold Descriptor.canCascade at hcascade
  simp only [Bool.and_eq_true] at hcascade
  rw [hf.serves.getMut_isSome] at hcascade
  exact Option.isSome_iff_exists.1 hcascade.2

theorem navigate_cons
    (hf : a.Faithful cat t) {g : Getter} (hget : a.typed.get = some g) {hop : Descriptor}
    {rest : List Descriptor} (hpath : a.mapping.path = hop :: rest) (v : Value) :
    navigate ⟨t, v⟩ (hop :: rest) = navigate (g v).value rest := by
  obtain ⟨f, hf'⟩ := hf.getMut_of_cons hpath
  have hhop := head_of_cons hpath
  obtain ⟨x, hx⟩ := hf.serves.borrowed (by simp [hf']) g (hf.serves.get ▸ hget) v
  have hborrow : hop.borrow ⟨t, v⟩ = .ok x := by
    have hread := hf.head_get hget v
    rw [hhop] at hread
    simp only [Descriptor.borrow, hread, hx]
    rfl
  rw [hx]
  simp only [navigate, List.foldlM_cons, hborrow, MemberRef.value]
  rfl

theorem reach_eq
    (hf : a.Faithful cat t) {hop : Descriptor} {rest : List Descriptor}
    (hpath : a.mapping.path = hop :: rest) :
    ∃ f, a.typed.getMut = some f ∧ ∀ cur, hop.reach ⟨t, cur⟩ = .ok f := by
  obtain ⟨f, hf'⟩ := hf.getMut_of_cons hpath
  have hhop := head_of_cons hpath
  have hmut : hop.info.access.getMut = some fun _ => some f := by
    rw [← hhop, hf.serves.getMut, hf']
    rfl
  have howner : hop.owner = t := hhop ▸ hf.rooted.head.owner
  exact ⟨f, hf', fun cur => by simp [Descriptor.reach, hmut, howner]⟩

theorem set_of_nil
    (hf : a.Faithful cat t) (hpath : a.mapping.path = []) :
    a.typed.set = a.mapping.member.info.access.set := by
  rw [hf.serves.set, head_of_nil hpath]

end Accessor.Faithful

/-- A rooted mapping of a mirrored type compiles to the typed accessor at its head's index,
which serves the head. -/
theorem compileAccessor_ok
    {cat : Catalog} {p : String} {s : ObjectSchema} (hs : cat.object? p = some s)
    (hmir : s.Mirrored) {x : Mapping} (hx : x.Rooted cat (.object p)) :
    ∃ a, compileAccessor s.typed x = .ok ⟨x, a⟩ ∧ a.Serves x.head.info := by
  obtain ⟨p', s', hp, hs', hidx⟩ := hx.head.schema
  cases hp
  rw [hs] at hs'
  cases hs'
  obtain ⟨a, ha, hserves⟩ := hmir.typed_at hidx
  have hname : (a.name == x.head.info.name) = true := by simp [hserves.name]
  have hget : a.get.isNone = false := by
    have hread := hx.head.canRead
    unfold MemberInfo.canRead at hread
    rw [hserves.get]
    simpa using hread
  have hmut : (!x.path.isEmpty && a.getMut.isNone) = false := by
    cases hpath : x.path with
    | nil => rfl
    | cons hop rest =>
        have hcascade := hx.cascade (by simp [hpath])
        unfold Descriptor.canCascade at hcascade
        simp only [Bool.and_eq_true] at hcascade
        rw [hserves.getMut_isSome] at hcascade
        simpa using hcascade.2
  refine ⟨a, ?_, hserves⟩
  unfold compileAccessor
  rw [show x.path.head?.getD x.member = x.head from rfl]
  dsimp only
  rw [ha]
  simp only [Option.filter_some, hname, if_true, hget, hmut, Bool.false_eq_true, if_false]
  rfl

/-- Accessors compiled one per mapping, each serving its mapping's head. -/
theorem mapM_compileAccessor_ok
    {typed : List TypedMember} {xs : List Mapping}
    (h : ∀ x ∈ xs, ∃ a, compileAccessor typed x = .ok ⟨x, a⟩ ∧ a.Serves x.head.info) :
    ∃ acc, xs.mapM (compileAccessor typed) = .ok acc ∧ acc.map (·.mapping) = xs ∧
      ∀ a ∈ acc, a.typed.Serves a.mapping.head.info := by
  induction xs with
  | nil => exact ⟨[], rfl, rfl, by simp⟩
  | cons x xs ih =>
      obtain ⟨a, ha, hserves⟩ := h x (List.mem_cons_self ..)
      obtain ⟨acc, hacc, hmap, hall⟩ := ih fun y hy => h y (List.mem_cons_of_mem x hy)
      refine ⟨⟨x, a⟩ :: acc, ?_, by simp [hmap], ?_⟩
      · simp only [List.mapM_cons, ha, hacc]
        rfl
      · rintro b (_ | ⟨_, hb⟩)
        · exact hserves
        · exact hall b hb

/-- Over a mirrored catalog, a rooted mapping list of `t` compiles: one faithful accessor
per mapping, in the list's order. -/
theorem compileLayout_ok
    {cat : Catalog} (hcat : cat.Mirrored) {t : Ty} {l : MappingList} (hl : l.Rooted cat t) :
    ∃ acc, compileLayout cat t l = .ok acc ∧ acc.map (·.mapping) = l.mappings ∧
      ∀ a ∈ acc, a.Faithful cat t := by
  obtain ⟨typed, hlayout, htyped⟩ : ∃ typed,
      compileLayout cat t l = l.mappings.mapM (compileAccessor typed) ∧
        ∀ p s, t = .object p → cat.object? p = some s → typed = s.typed := by
    refine ⟨?typed, ?layout, ?_⟩
    case layout =>
      simp only [compileLayout, hl.1, bne_self_eq_false, Bool.false_eq_true, if_false]
      rfl
    rintro p s rfl hs
    simp [hs]
  have hcompile : ∀ x ∈ l.mappings, ∃ a, compileAccessor typed x = .ok ⟨x, a⟩ ∧
      a.Serves x.head.info := by
    intro x hx
    obtain ⟨p, s, rfl, hs, -⟩ := (hl.2 x hx).head.schema
    rw [htyped p s rfl hs]
    exact compileAccessor_ok hs (hcat s (List.mem_of_find?_eq_some hs)) (hl.2 x hx)
  obtain ⟨acc, hacc, hmap, hserves⟩ := mapM_compileAccessor_ok hcompile
  refine ⟨acc, hlayout.trans hacc, hmap, fun a ha => ⟨hl.2 _ ?_, hserves a ha⟩⟩
  rw [← hmap]
  exact List.mem_map_of_mem ha

end ObjectWire
