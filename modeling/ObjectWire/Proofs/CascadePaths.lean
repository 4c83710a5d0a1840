import ObjectWire.Proofs.ReadingFaults
import ObjectWire.Proofs.MappingOrder
/-!
# Cascade paths

A mapping of a type's list reaches its member through the path of cascaded fields that leads
from the root to the member's owner. The builder cascades only through a member of the type
it walks that is a field with a mutable borrow, whose declared type is exactly the object type
it walks into, and which is not on the chain of types walked so far; it then walks that type's
members one level deeper, behind the field. So every path of a mapping list is well formed
(`Cascade`):

* the cascade depth is the path's length;
* the first field is a member of the root type, each further field a member of the type the
  field before it declares, and the mapped member a member of the type the last field declares;
* every field of the path is a field with a mutable borrow that declares an object type;
* the root type and the types the fields declare are pairwise distinct.

Following such a path is as safe as the fields it crosses. Where every field that offers a
mutable borrow keeps the accessor contract (it lends its stored field, of its declared type,
and grants the borrow on every owner), as declared fields do, borrowing along the path and
borrowing mutably along it reach an owner of the member's type from every value of the root
type (`Navigable`). A hand-written field that promises the mutable borrow but hands out a copy
breaks this: `Sneaky` cascades through such a field, and borrowing along its paths fails.

**Results.**
* `MemberWalk.cascades`: the mappings of a member walk follow cascades from the walked type.
* `Cascade.navigable`: over fields that keep the contract, a cascade can be followed.
* `cascade_paths_are_well_formed`: the paths of every mapping list are well formed, and can be
  followed, from the root or from the first field's value, over fields that keep the contract.
* `sneaky_cascade_cannot_be_borrowed`: the paths of `Sneaky` cannot be followed.
-/

namespace ObjectWire

theorem Ty.isObject_of_innermostObject?
    {t u : Ty} (h : t.innermostObject? = some u) :
    u.isObject = true := by
  induction t with
  | object p =>
      cases h
      rfl
  | option t ih => exact ih h
  | box t ih => exact ih h
  | _ => cases h

theorem Descriptor.cascadesInto_eq_true
    {d : Descriptor} {target : Ty} (h : d.cascadesInto target = true) :
    d.info.ty = target ∧ d.canCascade = true := by
  simp only [Descriptor.cascadesInto, Bool.and_eq_true, beq_iff_eq] at h
  exact ⟨h.1.1, h.1.2⟩

theorem Descriptor.canCascade_eq_true
    {d : Descriptor} (h : d.canCascade = true) :
    d.info.kind = .field ∧ d.info.access.getMut.isSome = true := by
  simpa [Descriptor.canCascade] using h

/-! ## Cascades -/

variable {cat : Catalog} {o : Options}

/-- The cascaded fields `path` lead from an object of type `t` to the owner of `member`, never
entering a type of `avoid`: each field a member of the type reached so far that can be
flattened into it and declares an object type not entered before, and `member` a member of the
type reached last. -/
inductive Cascade (cat : Catalog) (o : Options) : Ty → List Ty → List Descriptor → Descriptor → Prop
  | here {t avoid ds member} (hds : discoverMembers cat o t = .ok ds) (hmember : member ∈ ds) :
      Cascade cat o t avoid [] member
  | hop {t avoid ds hop rest member} (hds : discoverMembers cat o t = .ok ds) (hhop : hop ∈ ds)
      (hcascade : hop.canCascade = true) (hobject : hop.info.ty.isObject = true)
      (hfresh : hop.info.ty ∉ avoid)
      (hrest : Cascade cat o hop.info.ty (hop.info.ty :: avoid) rest member) :
      Cascade cat o t avoid (hop :: rest) member

namespace Cascade

variable {t : Ty} {avoid : List Ty} {path : List Descriptor} {member : Descriptor}

theorem owners
    (h : Cascade cat o t avoid path member) :
    (path ++ [member]).map (·.owner) = t :: path.map (·.info.ty) := by
  induction h with
  | here hds hmember => simp [(discoverMembers_declared hds hmember).owner]
  | hop hds hhop _ _ _ _ ih =>
      rw [List.cons_append, List.map_cons, ih, (discoverMembers_declared hds hhop).owner,
        List.map_cons]

theorem members
    (h : Cascade cat o t avoid path member) :
    ∀ d ∈ path ++ [member], ∃ ds, discoverMembers cat o d.owner = .ok ds ∧ d ∈ ds := by
  induction h with
  | here hds hmember =>
      intro d hd
      rw [List.nil_append, List.mem_singleton] at hd
      subst hd
      exact ⟨_, (discoverMembers_declared hds hmember).owner ▸ hds, hmember⟩
  | hop hds hhop _ _ _ _ ih =>
      rintro d (_ | ⟨_, hd⟩)
      · exact ⟨_, (discoverMembers_declared hds hhop).owner ▸ hds, hhop⟩
      · exact ih d hd

theorem fields
    (h : Cascade cat o t avoid path member) :
    ∀ hop ∈ path, hop.info.kind = .field ∧ hop.info.access.getMut.isSome = true ∧
      hop.info.ty.isObject = true := by
  induction h with
  | here => exact fun _ hop => nomatch hop
  | hop _ _ hcascade hobject _ _ ih =>
      rintro d (_ | ⟨_, hd⟩)
      · exact ⟨(Descriptor.canCascade_eq_true hcascade).1,
          (Descriptor.canCascade_eq_true hcascade).2, hobject⟩
      · exact ih d hd

theorem types_nodup
    (h : Cascade cat o t avoid path member) :
    (path.map (·.info.ty)).Nodup ∧ ∀ u ∈ path.map (·.info.ty), u ∉ avoid := by
  induction h with
  | here => exact ⟨List.nodup_nil, fun _ hu => nomatch hu⟩
  | hop _ _ _ _ hfresh _ ih =>
      obtain ⟨hnodup, havoid⟩ := ih
      refine ⟨List.nodup_cons.2 ⟨fun hmem => havoid _ hmem List.mem_cons_self, hnodup⟩, ?_⟩
      rintro u (_ | ⟨_, hu⟩)
      · exact hfresh
      · exact fun hmem => havoid u hu (List.mem_cons_of_mem _ hmem)

theorem root_types_nodup
    (h : Cascade cat o t [t] path member) :
    (t :: path.map (·.info.ty)).Nodup := by
  obtain ⟨hnodup, havoid⟩ := h.types_nodup
  exact List.nodup_cons.2 ⟨fun hmem => havoid t hmem List.mem_cons_self, hnodup⟩

theorem tail
    {head : Descriptor} {rest : List Descriptor} (h : Cascade cat o t avoid (head :: rest) member) :
    Cascade cat o head.info.ty (head.info.ty :: avoid) rest member := by
  cases h with
  | hop _ _ _ _ _ hrest => exact hrest

theorem head_mem
    {head : Descriptor} {rest : List Descriptor} (h : Cascade cat o t avoid (head :: rest) member) :
    ∃ ds, discoverMembers cat o t = .ok ds ∧ head ∈ ds := by
  cases h with
  | hop hds hhop _ _ _ _ => exact ⟨_, hds, hhop⟩

end Cascade

/-! ## The walk follows cascades -/

/-- Every mapping of a member walk over members of `t` lies behind the walk's path, at its
depth plus the length of a cascade from `t` that avoids the walk's chain: by induction on the
walk, a cascade of the walk putting its field in front of the cascades it walks into. -/
theorem MemberWalk.cascades
    {v : Option Version} {chain : List Ty} {path : List Descriptor} {depth : Nat}
    {ds : List Descriptor} {out : List Mapping} (h : MemberWalk cat o v chain path depth ds out) :
    ∀ t ds₀, discoverMembers cat o t = .ok ds₀ → ds ⊆ ds₀ →
      ∀ m ∈ out, ∃ suffix, m.path = path ++ suffix ∧ m.cascadeId = depth + suffix.length ∧
        Cascade cat o t chain suffix m.member := by
  induction h with
  | nil => exact fun _ _ _ _ m hm => nomatch hm
  | gatedOut _ _ ih =>
      exact fun t ds₀ hds₀ hsub => ih t ds₀ hds₀ (List.subset_of_cons_subset hsub)
  | backReference _ _ _ _ _ ih =>
      exact fun t ds₀ hds₀ hsub => ih t ds₀ hds₀ (List.subset_of_cons_subset hsub)
  | direct _ _ _ ih =>
      intro t ds₀ hds₀ hsub m hm
      rcases List.mem_cons.1 hm with rfl | hm
      · exact ⟨[], by simp, by simp, .here hds₀ (hsub List.mem_cons_self)⟩
      · exact ih t ds₀ hds₀ (List.subset_of_cons_subset hsub) m hm
  | object _ _ _ _ _ _ _ ih =>
      intro t ds₀ hds₀ hsub m hm
      rcases List.mem_cons.1 hm with rfl | hm
      · exact ⟨[], by simp, by simp, .here hds₀ (hsub List.mem_cons_self)⟩
      · exact ih t ds₀ hds₀ (List.subset_of_cons_subset hsub) m hm
  | @cascade chain path depth d ds out target es inner _ _ htarget hchain hcascade hmembers _ _
      ihinner ihrest =>
      intro t ds₀ hds₀ hsub m hm
      rcases List.mem_append.1 hm with hm | hm
      · obtain ⟨hty, hcan⟩ := Descriptor.cascadesInto_eq_true hcascade
        obtain ⟨suffix, hpath, hdepth, hinner⟩ :=
          ihinner target es hmembers (List.Subset.refl es) m hm
        subst hty
        refine ⟨d :: suffix, by simp [hpath], by simp [hdepth]; omega, ?_⟩
        exact .hop hds₀ (hsub List.mem_cons_self) hcan (Ty.isObject_of_innermostObject? htarget)
          hchain hinner
      · exact ihrest t ds₀ hds₀ (List.subset_of_cons_subset hsub) m hm

theorem freshList_cascades
    {t : Ty} {v : Option Version} {l : MappingList} (h : Run.freshList cat o t v = .ok l) :
    ∀ m ∈ l.mappings, m.cascadeId = m.path.length ∧ Cascade cat o t [t] m.path m.member := by
  obtain ⟨-, -, ds, walk, hds, hwalk, hsorted⟩ := Run.freshList_walks h
  intro m hm
  rw [hsorted] at hm
  obtain ⟨suffix, hpath, hdepth, hcascade⟩ :=
    hwalk.cascades t ds hds (List.Subset.refl ds) m ((sortStable_perm _ _).subset hm)
  rw [List.nil_append] at hpath
  subst hpath
  exact ⟨by simpa using hdepth, hcascade⟩

/-! ## Following a cascade -/

/-- The accessor contract of a field: its getter lends the stored field, as a value of the
member's declared type, and its mutable borrow is granted on every owner. -/
structure MemberInfo.Lends (info : MemberInfo) : Prop where
  get : ∃ g, info.access.get = some g ∧ ∀ x, ∃ y, g x = .borrowed ⟨info.ty, y⟩
  getMut : ∃ gm, info.access.getMut = some gm ∧ ∀ x, ∃ f, gm x = some f

/-- A catalog whose fields that offer a mutable borrow all keep the accessor contract. -/
def Catalog.LendsFields (cat : Catalog) : Prop :=
  ∀ info, cat.Declares info → info.kind = .field → info.access.getMut.isSome = true → info.Lends

/-- From every value of type `t`, borrowing along `path` reaches an owner of type `u`, and
borrowing mutably along it hands the continuation an owner of type `u`: the update fails only
where the continuation does. -/
structure Navigable (t : Ty) (path : List Descriptor) (u : Ty) : Prop where
  borrows : ∀ x, ∃ y, navigate ⟨t, x⟩ path = .ok ⟨u, y⟩
  borrowsMut : ∀ x (k : Typed → Run Value), ∃ y, ∃ plug : Value → Value,
    Run.updateAt path ⟨t, x⟩ k = (k ⟨u, y⟩ >>= fun r => pure (plug r))

namespace Descriptor

variable {d : Descriptor} {t : Ty}

theorem borrow_of_lends
    (howner : d.owner = t) (h : d.info.Lends) (x : Value) :
    ∃ y, d.borrow ⟨t, x⟩ = .ok ⟨d.info.ty, y⟩ := by
  obtain ⟨g, hg, hlend⟩ := h.get
  obtain ⟨y, hy⟩ := hlend x
  refine ⟨y, ?_⟩
  simp [Descriptor.borrow, Descriptor.get, hg, howner, hy]
  rfl

theorem reach_of_lends
    (howner : d.owner = t) (h : d.info.Lends) (x : Value) :
    ∃ f, d.reach ⟨t, x⟩ = .ok f := by
  obtain ⟨gm, hgm, hgrant⟩ := h.getMut
  obtain ⟨f, hf⟩ := hgrant x
  exact ⟨f, by simp [Descriptor.reach, hgm, howner, hf]⟩

end Descriptor

theorem Catalog.LendsFields.lends
    {cat : Catalog} (hcat : cat.LendsFields) {o : Options} {t : Ty} {ds : List Descriptor}
    (hds : discoverMembers cat o t = .ok ds) {d : Descriptor} (hd : d ∈ ds)
    (hcascade : d.canCascade = true) :
    d.info.Lends :=
  hcat d.info (discoverMembers_declares hds hd) (Descriptor.canCascade_eq_true hcascade).1
    (Descriptor.canCascade_eq_true hcascade).2

theorem Navigable.nil
    (t : Ty) :
    Navigable t [] t :=
  ⟨fun x => ⟨x, rfl⟩, fun x k => ⟨x, id, by simp [Run.updateAt]⟩⟩

/-- A path can be followed past a field that lends a value of type `s` out of every owner of
type `t` and is borrowed mutably in every such owner, when its rest can be followed from `s`. -/
theorem Navigable.cons
    {t u : Ty} {hop : Descriptor} {rest : List Descriptor}
    (hborrow : ∀ x, ∃ y, hop.borrow ⟨t, x⟩ = .ok ⟨hop.info.ty, y⟩)
    (hreach : ∀ x, ∃ f, hop.reach ⟨t, x⟩ = .ok f) (hrest : Navigable hop.info.ty rest u) :
    Navigable t (hop :: rest) u := by
  constructor
  case borrows =>
    intro x
    obtain ⟨y, hy⟩ := hborrow x
    obtain ⟨z, hz⟩ := hrest.borrows y
    refine ⟨z, ?_⟩
    simp only [navigate, List.foldlM_cons, hy]
    exact hz
  case borrowsMut =>
    intro x k
    obtain ⟨f, hf⟩ := hreach x
    obtain ⟨y, plug, hy⟩ := hrest.borrowsMut ((x.field? f).getD .unit) k
    refine ⟨y, fun r => x.setField f (plug r), ?_⟩
    simp only [Run.updateAt, hf, Run.lift, pure_bind, hy, bind_assoc]

theorem Cascade.navigable
    (hcat : cat.LendsFields) {t : Ty} {avoid : List Ty} {path : List Descriptor}
    {member : Descriptor} (h : Cascade cat o t avoid path member) :
    Navigable t path member.owner := by
  induction h with
  | here hds hmember =>
      rw [(discoverMembers_declared hds hmember).owner]
      exact Navigable.nil _
  | hop hds hhop hcascade _ _ _ ih =>
      have howner := (discoverMembers_declared hds hhop).owner
      have hlends := hcat.lends hds hhop hcascade
      exact .cons (Descriptor.borrow_of_lends howner hlends)
        (Descriptor.reach_of_lends howner hlends) ih

/-! ## Compiled layouts follow cascades -/

theorem Cascade.reaches
    {t : Ty} {avoid : List Ty} {path : List Descriptor} {member : Descriptor}
    (h : Cascade cat o t avoid path member) :
    ∃ ds, discoverMembers cat o t = .ok ds ∧ Reaches ds member path := by
  cases h with
  | here hds hmember => exact ⟨_, hds, hmember, fun hne => absurd rfl hne⟩
  | hop hds hhop hcascade _ _ _ => exact ⟨_, hds, hhop, fun _ => hcascade⟩

/-- The compiled accessor `a`, serving a mapping behind the fields `head :: rest`, reads its
head field lent with that field's declared type, borrows it mutably, and the rest of the path
can be followed from the field's value. -/
structure Accessor.Follows (a : Accessor) (head : Descriptor) (rest : List Descriptor) : Prop where
  get : ∃ g, a.typed.get = some g ∧ ∀ x, ∃ y, g x = .borrowed ⟨head.info.ty, y⟩
  getMut : a.typed.getMut.isSome = true
  rest : Navigable head.info.ty rest a.mapping.member.owner

theorem Accessor.Faithful.follows
    (hcat : cat.LendsFields) {t : Ty} {a : Accessor} (hf : a.Faithful cat t)
    {head : Descriptor} {rest : List Descriptor} (hpath : a.mapping.path = head :: rest)
    (hcascade : Cascade cat o t [t] a.mapping.path a.mapping.member) :
    a.Follows head rest := by
  rw [hpath] at hcascade
  obtain ⟨ds, hds, hhead⟩ := hcascade.head_mem
  have hlends : head.info.Lends := by
    cases hcascade with
    | hop _ _ hcan _ _ _ => exact hcat.lends hds hhead hcan
  obtain ⟨g, hg, hlend⟩ := hlends.get
  have htyped : a.typed.get = some g := by
    rw [hf.serves.get, Accessor.Faithful.head_of_cons hpath, hg]
  obtain ⟨f, hmut⟩ := hf.getMut_of_cons hpath
  exact ⟨⟨g, htyped, hlend⟩, by simp [hmut], hcascade.tail.navigable hcat⟩

theorem ObjectSchema.declare_lends
    (path : String) (fields : List FieldDecl) (properties : List PropertyDecl) :
    ∀ info ∈ (ObjectSchema.declare path fields properties).members, info.kind = .field →
      info.access.getMut.isSome = true → info.Lends := by
  intro info hinfo hkind hmut
  simp only [ObjectSchema.declare, List.mem_append, List.mem_map] at hinfo
  rcases hinfo with ⟨f, -, rfl⟩ | ⟨p, -, rfl⟩
  · unfold Declare.fieldMember at hmut ⊢
    split
    · simp_all
    · exact ⟨⟨_, rfl, fun x => ⟨_, rfl⟩⟩, ⟨_, rfl, fun x => ⟨_, rfl⟩⟩⟩
  · unfold Declare.propertyMember at hkind
    split at hkind <;> cases hkind

/-! ## Mapping lists -/

/-- The paths of a mapping list of `t` are well formed: each mapping sits at the depth of its
path; every field of the path, and the member, is a member of the type that declares it; the
owners along the path are `t` and then the types the fields declare; every field is a field
with a mutable borrow that declares an object type; and `t` and those types are pairwise
distinct. Where the catalog's fields keep the accessor contract, every path can be followed
from every value of `t`, borrowing and borrowing mutably; and where its types are also
mirrored by their typed accessors, the compiled layout of the list is built, and each
compiled accessor follows its mapping's path from the head field. -/
theorem cascade_paths_are_well_formed
    {t : Ty} {v : Option Version} {l : MappingList} (h : Run.freshList cat o t v = .ok l) :
    (∀ m ∈ l.mappings,
      m.cascadeId = m.path.length ∧
      (∀ d ∈ m.path ++ [m.member], ∃ ds, discoverMembers cat o d.owner = .ok ds ∧ d ∈ ds) ∧
      (m.path ++ [m.member]).map (·.owner) = t :: m.path.map (·.info.ty) ∧
      (∀ hop ∈ m.path, hop.info.kind = .field ∧ hop.info.access.getMut.isSome = true ∧
        hop.info.ty.isObject = true) ∧
      (t :: m.path.map (·.info.ty)).Nodup) ∧
    (cat.LendsFields → ∀ m ∈ l.mappings, Navigable t m.path m.member.owner) ∧
    (cat.LendsFields → cat.Mirrored → ∃ acc, compileLayout cat t l = .ok acc ∧
      acc.map (·.mapping) = l.mappings ∧
      ∀ a ∈ acc, ∀ head rest, a.mapping.path = head :: rest → a.Follows head rest) := by
  have hcascades := freshList_cascades h
  refine ⟨fun m hm => ?_, fun hcat m hm => (hcascades m hm).2.navigable hcat, fun hcat hmir => ?_⟩
  · obtain ⟨hdepth, hcascade⟩ := hcascades m hm
    exact ⟨hdepth, hcascade.members, hcascade.owners, hcascade.fields, hcascade.root_types_nodup⟩
  · have hrooted : l.Rooted cat t := by
      refine ⟨(Run.freshList_walks h).1, fun m hm => ?_⟩
      obtain ⟨ds, hds, hreach⟩ := (hcascades m hm).2.reaches
      exact Mapping.Anchored.rooted hds hreach
    obtain ⟨acc, hacc, hmap, hfaithful⟩ := compileLayout_ok hmir hrooted
    refine ⟨acc, hacc, hmap, fun a ha head rest hpath => ?_⟩
    have hm : a.mapping ∈ l.mappings := hmap ▸ List.mem_map_of_mem ha
    exact (hfaithful a ha).follows hcat hpath (hcascades _ hm).2

/-- The declared types `Deep`, `Middle` and `Inner`: `Deep` cascades through `Middle` into
`Inner`. -/
def deepCatalog : Catalog :=
  { objects := [Sample.deep, Sample.middle, Sample.inner], enums := [] }

theorem deepCatalog_lendsFields :
    deepCatalog.LendsFields := by
  rintro info ⟨s, hs, hinfo⟩
  simp only [deepCatalog, List.mem_cons, List.not_mem_nil, or_false] at hs
  rcases hs with rfl | rfl | rfl <;> exact ObjectSchema.declare_lends _ _ _ info hinfo

theorem deepCatalog_mirrored :
    deepCatalog.Mirrored := by
  intro s hs
  simp only [deepCatalog, List.mem_cons, List.not_mem_nil, or_false] at hs
  rcases hs with rfl | rfl | rfl <;> exact ObjectSchema.declare_mirrored _ _ _

/-- `Deep` maps members two fields down, and each of its paths can be followed, through the
dynamic accessors and through its compiled layout. -/
theorem deep_cascades_can_be_followed :
    ∃ l, Run.freshList deepCatalog {} (Sample.obj "Deep") none = .ok l ∧
      (∃ m ∈ l.mappings, m.path.length = 2) ∧
      (∀ m ∈ l.mappings, Navigable (Sample.obj "Deep") m.path m.member.owner) ∧
      ∃ acc, compileLayout deepCatalog (Sample.obj "Deep") l = .ok acc ∧
        ∀ a ∈ acc, ∀ head rest, a.mapping.path = head :: rest → a.Follows head rest := by
  have hok : ((Run.freshList deepCatalog {} (Sample.obj "Deep") none).toOption.map
      fun l => l.mappings.any (·.path.length == 2)) = some true := by
    decide +kernel
  cases hl : Run.freshList deepCatalog {} (Sample.obj "Deep") none with
  | error e =>
      rw [hl] at hok
      cases hok
  | ok l =>
      rw [hl] at hok
      obtain ⟨-, hnav, hcompiled⟩ := cascade_paths_are_well_formed hl
      obtain ⟨acc, hacc, -, hfollows⟩ := hcompiled deepCatalog_lendsFields deepCatalog_mirrored
      obtain ⟨m, hm, hlen⟩ := List.any_eq_true.1 (Option.some.inj hok)
      exact ⟨l, rfl, ⟨m, hm, by simpa using hlen⟩, hnav deepCatalog_lendsFields, acc, hacc,
        hfollows⟩

/-! ## A field that hands out a copy -/

theorem navigate_cons_of_owned
    {t : Ty} {hop : Descriptor} {g : Getter} (howner : hop.owner = t)
    (hget : hop.info.access.get = some g) (howned : ∀ x, ∃ y, g x = .owned y)
    (rest : List Descriptor) (x : Value) :
    navigate ⟨t, x⟩ (hop :: rest) = .error (hop.noAccess .borrow) := by
  obtain ⟨y, hy⟩ := howned x
  simp [navigate, Descriptor.borrow, Descriptor.get, hget, howner, hy]
  rfl

/-- `Sneaky` offers a mutable borrow of its field `inner` but its getter hands out a copy: its
mapping list cascades through `inner`, and borrowing along any of its paths fails. -/
theorem sneaky_cascade_cannot_be_borrowed :
    ∃ l, Run.freshList Sample.catalog {} (Sample.obj "Sneaky") none = .ok l ∧ l.mappings ≠ [] ∧
      ∀ m ∈ l.mappings, ∀ x, navigate ⟨Sample.obj "Sneaky", x⟩ m.path =
        .error (.internal (.memberAccess .borrow "Sneaky.inner")) := by
  have hok : ((Run.freshList Sample.catalog {} (Sample.obj "Sneaky") none).toOption.map
      fun l => !l.mappings.isEmpty && l.mappings.all (!·.path.isEmpty)) = some true := by
    decide +kernel
  cases hl : Run.freshList Sample.catalog {} (Sample.obj "Sneaky") none with
  | error e =>
      rw [hl] at hok
      cases hok
  | ok l =>
      rw [hl] at hok
      replace hok := Option.some.inj hok
      simp only [Bool.and_eq_true, List.isEmpty_eq_false_iff, List.all_eq_true,
        Bool.not_eq_eq_eq_not, Bool.not_true] at hok
      refine ⟨l, rfl, hok.1, fun m hm x => ?_⟩
      obtain ⟨head, rest, hpath⟩ := List.ne_nil_iff_exists_cons.1 (hok.2 m hm)
      obtain ⟨ds, hds, hhead⟩ := (hpath ▸ (freshList_cascades hl m hm).2).head_mem
      obtain ⟨howner, -, p, s, hp, hs, hidx⟩ := discoverMembers_declared hds hhead
      cases hp
      have hsneaky : Sample.catalog.object? (Sample.path "Sneaky") = some Sample.sneaky := rfl
      rw [hsneaky] at hs
      cases hs
      have hinfo := List.mem_of_getElem? hidx
      simp only [Sample.sneaky, List.mem_singleton] at hinfo
      have hname : head.qualifiedName = "Sneaky.inner" := by
        rw [Descriptor.qualifiedName, howner, hinfo]
        decide
      rw [hpath, navigate_cons_of_owned (g := Sample.copyOf "inner" (Sample.obj "Address")) howner
        (by rw [hinfo]) (fun _ => ⟨_, rfl⟩), Descriptor.noAccess, hname]

end ObjectWire
