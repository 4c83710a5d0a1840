import ObjectWire.Proofs.ConverterRoundTrip
/-!
# Objects read back through their engines

An object written by either engine reads back, mapping by mapping, into its type's default:
each value the writer fetched reads back through the mapping's converter as its image, and is
stored as the image stores it (`Image.dynamic`, `Image.layout`). Objects nested in the values
are written and read by the same engines one level deeper, so the law is proved by induction
on the writer's nesting fuel, for every reader fuel at least the budget (`writeObject_roundTrips`).

Two facts about the catalog carry the induction:

* the getters hand out values of their types (`Catalog.GettersFit`), so every value the writer
  fetches, through a cascade path or a typed accessor, is a value of its member's type
  (`Catalog.GettersFit.fetch_fits`, `Catalog.GettersFit.accessor_fetch_fits`);
* every converter of a mapping was chosen for its member's type (`freshList_chosen`), so it
  reads back the values of that type (`Resolve.Chosen.roundTrips`).

**Results.**
* `Run.writeDynamic_roundTrips`, `Run.writeCompiled_roundTrips`: one level of either engine.
* `Run.writeObject_roundTrips`: objects nested at any depth, within any budget the reader's
  fuel covers.
-/

namespace ObjectWire

/-! ## What the writers fetch -/

section Fetch

variable {cat : Catalog} {o : Options}

theorem Descriptor.borrow_ok_inv
    {d : Descriptor} {owner x : Typed} (h : d.borrow owner = .ok x) :
    d.get owner = .ok (.borrowed x) := by
  unfold Descriptor.borrow at h
  cases hg : d.get owner with
  | error e =>
      rw [hg] at h
      cases h
  | ok r =>
      rw [hg] at h
      cases r with
      | borrowed y =>
          cases h
          rfl
      | owned y => cases h

variable (hg : cat.GettersFit)
include hg

/-- A member's getter hands out, for an owner of the member's type, a value of its type. -/
theorem Catalog.GettersFit.get_fits
    {t : Ty} {ds : List Descriptor} {d : Descriptor} (hds : discoverMembers cat o t = .ok ds)
    (hd : d ∈ ds) {owner : Typed} (hown : cat.Fits owner.ty owner.val) {r : MemberRef}
    (h : d.get owner = .ok r) :
    cat.Fits r.value.ty r.value.val := by
  obtain ⟨howner, -, p, s, rfl, hsch, hidx⟩ := discoverMembers_declared hds hd
  unfold Descriptor.get at h
  cases hget : d.info.access.get with
  | none =>
      rw [hget] at h
      cases h
  | some g =>
      simp only [hget] at h
      by_cases hty : (owner.ty == d.owner) = true
      · rw [if_pos hty] at h
        cases h
        rw [beq_iff_eq, howner] at hty
        rw [hty] at hown
        exact hg.members hsch d.info (List.mem_of_getElem? hidx) g hget owner.val hown
      · rw [if_neg hty] at h
        cases h

/-- Following fields from a value of its type, each a member of its owner's type, reaches a
value of its type: by induction on the path. -/
theorem Catalog.GettersFit.navigate_fits :
    ∀ (path : List Descriptor) (root owner : Typed),
      (∀ d ∈ path, ∃ ds, discoverMembers cat o d.owner = .ok ds ∧ d ∈ ds) →
      cat.Fits root.ty root.val → navigate root path = .ok owner → cat.Fits owner.ty owner.val
  | [], root, owner, _, hroot, h => by
      cases h
      exact hroot
  | d :: rest, root, owner, hpath, hroot, h => by
      obtain ⟨ds, hds, hd⟩ := hpath d List.mem_cons_self
      simp only [navigate, List.foldlM_cons] at h
      cases hb : d.borrow root with
      | error e =>
          rw [hb] at h
          cases h
      | ok x =>
          rw [hb] at h
          have hx := hg.get_fits hds hd hroot (Descriptor.borrow_ok_inv hb)
          exact Catalog.GettersFit.navigate_fits rest x owner
            (fun d' hd' => hpath d' (List.mem_cons_of_mem _ hd')) hx h

/-- The value the dynamic engine fetches for a mapping whose path cascades from the root's type
is a value of its member's type. -/
theorem Catalog.GettersFit.fetch_fits
    {t : Ty} {avoid : List Ty} {m : Mapping} (hc : Cascade cat o t avoid m.path m.member)
    {v : Typed} (hv : cat.Fits v.ty v.val) {x : Typed} (h : m.fetch v = .ok x) :
    cat.Fits x.ty x.val := by
  have hmem := hc.members
  unfold Mapping.fetch at h
  cases hn : navigate v m.path with
  | error e =>
      rw [hn] at h
      cases h
  | ok owner =>
      have hown := hg.navigate_fits m.path v owner
        (fun d hd => hmem d (List.mem_append_left _ hd)) hv hn
      obtain ⟨ds, hds, hd⟩ := hmem m.member (List.mem_append_right _ List.mem_cons_self)
      cases hr : m.member.get owner with
      | error e =>
          simp only [hn, hr, bind, Except.bind] at h
          cases h
      | ok r =>
          simp only [hn, hr, bind, Except.bind, pure, Except.pure, Except.ok.injEq] at h
          rw [← h]
          exact hg.get_fits hds hd hown hr

/-- The value the compiled engine fetches for an accessor of the root's schema, whose mapping's
path cascades from the root's type, is a value of its member's type: the typed getter's for a
member of the root, else the member's in the owner the rest of the path reaches. -/
theorem Catalog.GettersFit.accessor_fetch_fits
    {p : String} {sch : ObjectSchema} (hsch : cat.object? p = some sch) {a : Accessor}
    (ha : a.typed ∈ sch.typed) {avoid : List Ty}
    (hc : Cascade cat o (.object p) avoid a.mapping.path a.mapping.member)
    {v : Value} (hv : cat.Fits (.object p) v) {x : Typed} (h : a.fetch v = .ok x) :
    cat.Fits x.ty x.val := by
  have hmem := hc.members
  unfold Accessor.fetch at h
  cases hget : a.typed.get with
  | none =>
      rw [hget] at h
      cases h
  | some get =>
      have hfirst := hg.typed hsch a.typed ha get hget v hv
      rw [hget] at h
      cases hpath : a.mapping.path with
      | nil =>
          rw [hpath] at h
          cases h
          exact hfirst
      | cons head rest =>
          rw [hpath] at hmem h
          cases hn : navigate (get v).value rest with
          | error e =>
              simp only [hn, bind, Except.bind] at h
              cases h
          | ok owner =>
              have hown := hg.navigate_fits rest (get v).value owner
                (fun d hd => hmem d (List.mem_append_left _ (List.mem_cons_of_mem _ hd))) hfirst hn
              obtain ⟨ds, hds, hd⟩ := hmem a.mapping.member (List.mem_append_right _ List.mem_cons_self)
              cases hr : a.mapping.member.get owner with
              | error e =>
                  simp only [hn, hr, bind, Except.bind] at h
                  cases h
              | ok r =>
                  simp only [hn, hr, bind, Except.bind, pure, Except.pure, Except.ok.injEq] at h
                  rw [← h]
                  exact hg.get_fits hds hd hown hr

end Fetch

/-! ## The converters of a mapping list -/

section Converters

variable {cat : Catalog} {o : Options}

/-- Every mapping a member walk emits carries a converter chosen for its member's type: by
induction on the walk, a mapped member's converter resolved for it, with or without an engine
for the object it reaches. -/
theorem MemberWalk.chosen
    {ver : Option Version} {chain : List Ty} {path : List Descriptor} {depth : Nat}
    {ds : List Descriptor} {out : List Mapping} (h : MemberWalk cat o ver chain path depth ds out) :
    ∀ mp ∈ out, ∃ r, Resolve.Chosen o.registry mp.member.info.ty r mp.converter := by
  induction h with
  | nil => exact fun mp hmp => by cases hmp
  | gatedOut _ _ ih => exact ih
  | direct _ hconv _ ih =>
      intro mp hmp
      rcases List.mem_cons.1 hmp with rfl | hmp
      · exact ⟨_, Resolve.chosen_of_resolve hconv⟩
      · exact ih mp hmp
  | backReference _ _ _ _ _ ih => exact ih
  | cascade _ _ _ _ _ _ _ _ ihinner ih =>
      intro mp hmp
      rcases List.mem_append.1 hmp with hmp | hmp
      · exact ihinner mp hmp
      · exact ih mp hmp
  | object _ _ _ _ _ hobject _ ih =>
      intro mp hmp
      rcases List.mem_cons.1 hmp with rfl | hmp
      · exact ⟨_, Resolve.chosen_of_resolve hobject⟩
      · exact ih mp hmp

theorem freshList_chosen
    {t : Ty} {ver : Option Version} {l : MappingList} (h : Run.freshList cat o t ver = .ok l) :
    ∀ mp ∈ l.mappings, ∃ r, Resolve.Chosen o.registry mp.member.info.ty r mp.converter := by
  obtain ⟨-, -, ds, walk, -, hwalk, hsorted⟩ := Run.freshList_walks h
  intro mp hmp
  rw [hsorted] at hmp
  exact hwalk.chosen mp ((sortStable_perm _ _).subset hmp)

end Converters

theorem Except.bind_eq_ok_inv
    {ε α β : Type} {x : Except ε α} {f : α → Except ε β} {b : β} (h : x >>= f = .ok b) :
    ∃ a, x = .ok a ∧ f a = .ok b := by
  cases x with
  | error e => cases h
  | ok a => exact ⟨a, rfl, h⟩

/-! ## The images of the engines as loops -/

section Images

variable {cat : Catalog} {o : Options} {oi : ObjectImage} {ow : ObjectWriter}

theorem Image.dynamic_eq
    (t : Ty) (v : Typed) (ver : Option Version) (ms : List Mapping) (target : Value) :
    Image.dynamic cat o oi ow t v ver ms target = ms.foldlM (fun cur m =>
      (m.fetch v >>= fun x => Image.value cat o oi ow m.converter m.member.info.ty x
        (({ version := ver } : Ctx).forMember m.member)) >>= fun y => m.put t y cur) target := by
  simp only [Image.dynamic, bind_assoc]

theorem Image.layout_eq
    (acc : List Accessor) (v : Value) (ctx : Ctx) (target : Value) :
    Image.layout cat o oi ow acc v ctx target = acc.foldlM (fun cur a =>
      (a.fetch v >>= fun x => Image.value cat o oi ow a.mapping.converter a.mapping.member.info.ty x
        (ctx.forMember a.mapping.member)) >>= fun y => a.put y cur) target := by
  simp only [Image.layout, bind_assoc]

end Images

namespace Run

/-! ## The writers as loops of fetches -/

section Writers

variable {α β : Type} {ow : ObjectWriter}

theorem lift_bind_eq
    (x : Except Error α) (f : α → Except Error β) :
    Run.lift (x >>= f) = Run.lift x >>= fun a => Run.lift (f a) := by
  cases x <;> rfl

theorem lift_pure_eq
    (a : α) :
    Run.lift (Pure.pure a : Except Error α) = Pure.pure a :=
  rfl

theorem writeDynamic_eq
    {t : Ty} {v : Typed} (ver : Option Version) (hty : v.ty = t) :
    writeDynamic ow t v ver = mappingList t ver >>= fun l => ForIn.forIn l.mappings PUnit.unit
      fun m _ => (Run.lift (m.fetch v) >>= fun x => writeValue ow m.converter m.member.info.ty x
        (({ version := ver } : Ctx).forMember m.member)) >>= fun _ => Pure.pure (ForInStep.yield PUnit.unit) := by
  simp only [writeDynamic, hty, beq_self_eq_true, if_true, Mapping.fetch, lift_bind_eq, bind_assoc,
    bind_pure_unit]
  rfl

theorem writeLayout_eq
    (acc : List Accessor) (v : Value) (ctx : Ctx) :
    writeLayout ow acc v ctx = ForIn.forIn acc PUnit.unit fun a _ =>
      (Run.lift (a.fetch v) >>= fun x => writeValue ow a.mapping.converter a.mapping.member.info.ty x
        (ctx.forMember a.mapping.member)) >>= fun _ => Pure.pure (ForInStep.yield PUnit.unit) := by
  simp only [writeLayout, bind_pure_unit, bind_assoc]
  congr 1
  funext a u
  simp only [Accessor.fetch]
  cases a.typed.get with
  | none => rfl
  | some get =>
      cases a.mapping.path with
      | nil => simp only [lift_ok_bind, pure_bind]
      | cons head rest => simp only [lift_bind_eq, bind_assoc, lift_pure_eq, pure_bind]

theorem writeCompiled_eq
    {t : Ty} {v : Typed} (ver : Option Version) (hty : v.ty = t) :
    writeCompiled ow t v ver = compiled t ver >>= fun acc => writeLayout ow acc v.val { version := ver } := by
  simp only [writeCompiled, hty, beq_self_eq_true, if_true]

theorem writeObject_ty
    {fw : Nat} {t : Ty} {e : Engine} {v : Typed} {ver : Option Version} {m m' : Machine}
    (h : (writeObject fw t e v ver).run m = .ok () m') :
    v.ty = t := by
  cases fw with
  | zero => cases h
  | succ fw =>
      cases e with
      | dynamic =>
          unfold writeObject writeDynamic at h
          exact beq_iff_eq.1 (guard_run_ok h).1
      | compiled =>
          unfold writeObject writeCompiled at h
          exact beq_iff_eq.1 (guard_run_ok h).1

end Writers

/-! ## One level of the engines -/

section Engines

variable {α : Type} {cat : Catalog} {o : Options} {k : Nat}

theorem RoundTrips.zero
    {w : Run Unit} {r : Run α} {x : Except Error α} (hw : Writes cat o w) :
    RoundTrips cat o 0 w r x := by
  intro m m' hm hrun
  obtain ⟨hm', b, hb⟩ := hw m m' hm hrun
  exact ⟨hm', b, hb, fun _ _ _ _ _ hrem => absurd hrem (Nat.not_lt_zero _)⟩

variable {ow : ObjectWriter} {orr : ObjectReader} {oi : ObjectImage}
  (hg : cat.GettersFit)
  (happ : ∀ t e v ver, Appends (ow t e v ver))
  (hsim : ∀ t e v ver, Sim (Machine.Twins cat o) (ow t e v ver) (ow t e v ver))
  (hobj : ∀ t e (v : Typed) ver, cat.Fits v.ty v.val →
    RoundTrips cat o k (ow t e v ver) (orr t e ver) (oi t e v ver))
include hg happ hsim hobj

theorem mapping_roundTrips
    {t : Ty} {ver : Option Version} {l : MappingList} (hl : freshList cat o t ver = .ok l)
    {v : Typed} (hv : cat.Fits v.ty v.val) (mp : Mapping) (hmp : mp ∈ l.mappings) :
    RoundTrips cat o (k + 1)
      (Run.lift (mp.fetch v) >>= fun x => writeValue ow mp.converter mp.member.info.ty x
        (({ version := ver } : Ctx).forMember mp.member))
      (readValue orr mp.converter mp.member.info.ty (({ version := ver } : Ctx).forMember mp.member))
      (mp.fetch v >>= fun x => Image.value cat o oi ow mp.converter mp.member.info.ty x
        (({ version := ver } : Ctx).forMember mp.member)) := by
  obtain ⟨r, hchosen⟩ := freshList_chosen hl mp hmp
  have hcascade := (freshList_cascades hl mp hmp).2
  refine RoundTrips.lift_bind fun x hx => ?_
  exact (hchosen.roundTrips happ hsim hobj).value _ x _ (hg.fetch_fits hcascade hv hx)

theorem writeDynamic_roundTrips
    (t : Ty) (v : Typed) (ver : Option Version) (hty : v.ty = t) (hv : cat.Fits v.ty v.val) :
    RoundTrips cat o (k + 1) (writeDynamic ow t v ver)
      (defaultOf t >>= fun d => readDynamicInto orr t ⟨t, d⟩ ver)
      (freshList cat o t ver >>= fun l => Image.dynamic cat o oi ow t v ver l.mappings (cat.default t)) := by
  refine RoundTrips.read_fresh_bind (defaultOf_answers_freshly t) rfl ?_
  rw [readDynamicInto_eq, writeDynamic_eq ver hty]
  refine RoundTrips.fresh_bind (mappingList_answers_freshly t ver) fun l hl => ?_
  rw [bind_pure, Image.dynamic_eq]
  exact RoundTrips.forIn_store (fun mp a => mappingStore_updatesBy t mp a)
    (fun mp a cur => mappingStore_still t mp a cur) l.mappings (cat.default t)
    fun mp hmp => mapping_roundTrips hg happ hsim hobj hl hv mp hmp

/-- A layout compiled from the fresh list of a type writes a value of that type so that reading
through the same layout stores into any target, accessor by accessor, the images of what was
written. -/
theorem writeLayout_roundTrips
    {t : Ty} {ver : Option Version} {l : MappingList} (hl : freshList cat o t ver = .ok l)
    {acc : List Accessor} (hacc : compileLayout cat t l = .ok acc) {v : Value} (hv : cat.Fits t v)
    (target : Value) :
    RoundTrips cat o (k + 1) (writeLayout ow acc v { version := ver })
      (readLayout orr acc target { version := ver })
      (Image.layout cat o oi ow acc v { version := ver } target) := by
  rw [readLayout_eq, bind_pure, writeLayout_eq, Image.layout_eq]
  refine RoundTrips.forIn_store (fun a x => layoutStore_updatesBy a x)
    (fun a x cur => layoutStore_still a x cur) acc target fun a ha => ?_
  obtain ⟨p, sch, rfl, hsch, htyped⟩ := compileLayout_schema hacc a ha
  have hmp := compileLayout_mem hacc a ha
  obtain ⟨r, hchosen⟩ := freshList_chosen hl a.mapping hmp
  have hcascade := (freshList_cascades hl a.mapping hmp).2
  refine RoundTrips.lift_bind fun x hx => ?_
  exact (hchosen.roundTrips happ hsim hobj).value _ x _
    (hg.accessor_fetch_fits hsch htyped hcascade hv hx)

theorem writeCompiled_roundTrips
    (t : Ty) (v : Typed) (ver : Option Version) (hty : v.ty = t) (hv : cat.Fits v.ty v.val) :
    RoundTrips cat o (k + 1) (writeCompiled ow t v ver)
      (compiled t ver >>= fun acc => defaultOf t >>= fun d => readLayout orr acc d { version := ver })
      (freshList cat o t ver >>= fun l => compileLayout cat t l >>= fun acc =>
        Image.layout cat o oi ow acc v.val { version := ver } (cat.default t)) := by
  rw [writeCompiled_eq ver hty, ← bind_assoc]
  refine RoundTrips.fresh_bind (compiled_answers_freshly t ver) fun acc hacc => ?_
  refine RoundTrips.read_fresh_bind (defaultOf_answers_freshly t) rfl ?_
  obtain ⟨l, hl, hacc'⟩ := Except.bind_eq_ok_inv hacc
  rw [hty] at hv
  exact writeLayout_roundTrips hg happ hsim hobj hl hacc' hv (cat.default t)

end Engines

/-! ## Objects at every depth -/

section Objects

variable {cat : Catalog} {o : Options}

/-- One level of the object engines, objects one level down reading back within `k`. -/
theorem writeObject_succ_roundTrips
    (hg : cat.GettersFit) {fw k : Nat}
    (hobj : ∀ t e (v : Typed) ver, cat.Fits v.ty v.val → RoundTrips cat o k (writeObject fw t e v ver)
      (readObject k t e ver) (Image.object cat o fw t e v ver))
    (t : Ty) (e : Engine) (v : Typed) (ver : Option Version) (hv : cat.Fits v.ty v.val) :
    RoundTrips cat o (k + 1) (writeObject (fw + 1) t e v ver) (readObject (k + 1) t e ver)
      (Image.object cat o (fw + 1) t e v ver) := by
  refine RoundTrips.of_succeeds (fun _ _ hw => writeObject_ty hw) fun hty => ?_
  have happ := writeObject_appends fw
  have hsim := writeObject_sim (Machine.twins_engineRel cat o) fw
  cases e with
  | dynamic =>
      simp only [writeObject, readObject, Image.object, hty, beq_self_eq_true, if_true]
      exact writeDynamic_roundTrips hg happ hsim hobj t v ver hty hv
  | compiled =>
      simp only [writeObject, readObject, Image.object, hty, beq_self_eq_true, if_true]
      exact writeCompiled_roundTrips hg happ hsim hobj t v ver hty hv

theorem writeObject_roundTrips
    (hg : cat.GettersFit) :
    ∀ fw fr t e (v : Typed) ver, cat.Fits v.ty v.val →
      RoundTrips cat o fr (writeObject fw t e v ver) (readObject fr t e ver)
        (Image.object cat o fw t e v ver)
  | 0, _, _, _, _, _, _ => by
      rw [writeObject]
      exact RoundTrips.throw _ _ _
  | fw + 1, fr, t, e, v, ver, hv => by
      have hlevel := fun k =>
        writeObject_succ_roundTrips hg (writeObject_roundTrips hg fw k) t e v ver hv
      cases fr with
      | zero => exact RoundTrips.zero (hlevel 0).writes
      | succ k => exact hlevel k

end Objects

end Run

end ObjectWire
