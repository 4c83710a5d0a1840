import ObjectWire.Proofs.ErrorKinds
import ObjectWire.Proofs.EngineEquivalence
/-!
# Configuration errors do not depend on the data

A configuration error comes from building a mapping list or deciding a root plan, never from
writing a value. Encoding first decides the root plan, and for an object root fetches its
mapping list; neither reads the value, so what they fail with is the same for every value.
Past them, the writers fetch nested mapping lists lazily, as the values they meet ask for
them. Every such list is of a type that builds: the root plan's converter, and every converter
of a fresh mapping list, passed their nested checks (`checkNested_reaches_buildable`,
`freshList_reaches_buildable`), and a faithful session answers a mapping list as a fresh one
does. So writing raises no configuration error at any depth (`writeObject_keeps`), whatever
the value.

**Results.**
* `writeValue_keeps`, `writeObject_keeps`: writing whose converters reach only types that
  build raises no configuration error and keeps the session faithful.
* `configuration_errors_ignore_the_data`: both engines fail with one configuration error for
  every value of a type, or with none for any value.
-/

namespace ObjectWire

/-- An error that is not a configuration error. -/
def Error.Incidental (e : Error) : Prop := e.isConfiguration = false

theorem sink_incidental :
    Emit.FailsWith.Sink Error.Incidental :=
  ⟨rfl, rfl, fun _ => rfl⟩

/-! ## The errors of member access and of compiled layouts -/

namespace Descriptor

theorem get_incidental
    (d : Descriptor) (owner : Typed) :
    ∀ err, d.get owner = .error err → err.Incidental := by
  intro err h
  unfold Descriptor.get at h
  split at h
  · cases h
    rfl
  · split at h
    · cases h
    · cases h
      rfl

theorem borrow_incidental
    (d : Descriptor) (owner : Typed) :
    ∀ err, d.borrow owner = .error err → err.Incidental := by
  intro err h
  unfold Descriptor.borrow at h
  cases hg : d.get owner with
  | error e =>
      rw [hg] at h
      exact Except.error.inj h ▸ d.get_incidental owner e hg
  | ok r =>
      rw [hg] at h
      cases r with
      | borrowed v => cases h
      | owned v =>
          cases h
          rfl

end Descriptor

/-- Following a path of cascaded fields fails with no configuration error. -/
theorem navigate_incidental :
    ∀ (path : List Descriptor) (root : Typed) err, navigate root path = .error err →
      err.Incidental := by
  intro path
  induction path with
  | nil =>
      intro root err h
      cases h
  | cons hop rest ih =>
      intro root err h
      unfold navigate at h
      rw [List.foldlM_cons] at h
      cases hb : hop.borrow root with
      | error e =>
          rw [hb] at h
          exact Except.error.inj h ▸ hop.borrow_incidental root e hb
      | ok owner =>
          rw [hb] at h
          exact ih owner err h

theorem compileAccessor_incidental
    (typed : List TypedMember) (x : Mapping) :
    ∀ err, compileAccessor typed x = .error err → err.Incidental := by
  intro err h
  unfold compileAccessor at h
  simp only [bind, Except.bind, pure, Except.pure, throw, throwThe, MonadExceptOf.throw] at h
  repeat' split at h
  all_goals (cases h <;> rfl)

theorem compileAccessor_mapping
    {typed : List TypedMember} {x : Mapping} {a : Accessor}
    (h : compileAccessor typed x = .ok a) :
    a.mapping = x := by
  unfold compileAccessor at h
  simp only [bind, Except.bind, pure, Except.pure, throw, throwThe, MonadExceptOf.throw] at h
  repeat' split at h
  all_goals (cases h <;> rfl)

/-- A compiled list fails only as compiling one accessor can. -/
theorem mapM_compileAccessor_error
    {typed : List TypedMember} {P : Error → Prop}
    (hP : ∀ x err, compileAccessor typed x = .error err → P err) :
    ∀ (xs : List Mapping) err, xs.mapM (compileAccessor typed) = .error err → P err := by
  intro xs
  induction xs with
  | nil =>
      intro err h
      cases h
  | cons x xs ih =>
      intro err h
      simp only [List.mapM_cons, bind, Except.bind] at h
      cases hx : compileAccessor typed x with
      | error e =>
          rw [hx] at h
          exact Except.error.inj h ▸ hP x e hx
      | ok a =>
          rw [hx] at h
          cases hxs : xs.mapM (compileAccessor typed) with
          | error e =>
              rw [hxs] at h
              exact Except.error.inj h ▸ ih e hxs
          | ok acc =>
              rw [hxs] at h
              cases h

/-- Every accessor of a compiled list satisfies what every accessor compiled from one of its
mappings does. -/
theorem mapM_compileAccessor_forall
    {typed : List TypedMember} {P : Accessor → Prop} :
    ∀ (xs : List Mapping), (∀ x ∈ xs, ∀ a, compileAccessor typed x = .ok a → P a) →
      ∀ acc, xs.mapM (compileAccessor typed) = .ok acc → ∀ a ∈ acc, P a := by
  intro xs
  induction xs with
  | nil =>
      intro _ acc h a ha
      cases h
      cases ha
  | cons x xs ih =>
      intro hP acc h a ha
      simp only [List.mapM_cons, bind, Except.bind] at h
      cases hx : compileAccessor typed x with
      | error e =>
          rw [hx] at h
          cases h
      | ok b =>
          rw [hx] at h
          cases hxs : xs.mapM (compileAccessor typed) with
          | error e =>
              rw [hxs] at h
              cases h
          | ok rest =>
              rw [hxs] at h
              cases h
              rcases List.mem_cons.1 ha with rfl | ha
              · exact hP x (List.mem_cons_self ..) _ hx
              · exact ih (fun y hy => hP y (List.mem_cons_of_mem x hy)) rest hxs a ha

theorem mapM_compileAccessor_incidental
    (typed : List TypedMember) :
    ∀ (xs : List Mapping) err, xs.mapM (compileAccessor typed) = .error err → err.Incidental :=
  mapM_compileAccessor_error (compileAccessor_incidental typed)

theorem mapM_compileAccessor_mem
    (typed : List TypedMember) (xs : List Mapping) :
    ∀ acc, xs.mapM (compileAccessor typed) = .ok acc → ∀ a ∈ acc, a.mapping ∈ xs :=
  mapM_compileAccessor_forall xs fun _ hx _ h => (compileAccessor_mapping h) ▸ hx

theorem compileLayout_incidental
    (cat : Catalog) (t : Ty) (l : MappingList) :
    ∀ err, compileLayout cat t l = .error err → err.Incidental := by
  intro err h
  unfold compileLayout at h
  dsimp only at h
  split at h
  · cases h
    rfl
  · exact mapM_compileAccessor_incidental _ _ err h

theorem compileLayout_mem
    {cat : Catalog} {t : Ty} {l : MappingList} {acc : List Accessor}
    (h : compileLayout cat t l = .ok acc) :
    ∀ a ∈ acc, a.mapping ∈ l.mappings := by
  unfold compileLayout at h
  dsimp only at h
  split at h
  · cases h
  · exact mapM_compileAccessor_mem _ _ acc h

namespace Run

variable {α : Type} {cat : Catalog} {o : Options}

/-! ## The cached steps on a faithful session -/

theorem AnswersFreshly.keeps
    {f : Run α} {fresh : Catalog → Options → Except Error α} (h : AnswersFreshly f fresh)
    {E : Error → Prop} (hE : ∀ err, fresh cat o = .error err → E err) :
    Keeps (Session.FaithfulOver cat o) E f fun a => fresh cat o = .ok a := by
  intro m hm
  obtain ⟨s, hs, hrun⟩ := h.run hm
  rw [hrun]
  cases hfresh : fresh cat o with
  | ok a => exact ⟨rfl, hs⟩
  | error err => exact hE err hfresh

theorem mappingList_keeps
    {E : Error → Prop} {v : Option Version} {t : Ty} (ht : Buildable cat o v t) :
    Keeps (Session.FaithfulOver cat o) E (mappingList t v)
      fun l => freshList cat o t v = .ok l :=
  (mappingList_answers_freshly t v).keeps fun err herr => by
    obtain ⟨l, hl⟩ := ht
    rw [hl] at herr
    cases herr

/-- The compiled layout of a type that builds is compiled from its fresh mapping list, and it
fails only as compiling that layout can. -/
theorem compiled_fresh
    {E : Error → Prop} {v : Option Version} {t : Ty} (ht : Buildable cat o v t)
    (hE : ∀ l err, compileLayout cat t l = .error err → E err) :
    Keeps (Session.FaithfulOver cat o) E (compiled t v)
      fun acc => ∃ l, freshList cat o t v = .ok l ∧ compileLayout cat t l = .ok acc := by
  unfold compiled
  refine Keeps.bind (mappingList_keeps ht) fun l hl => ?_
  refine Keeps.get_bind fun m hm => ?_
  rw [hm.catalog]
  refine Keeps.bind (Keeps.lift (hE l)) fun acc hacc => ?_
  refine Keeps.session_bind fun s _ => ?_
  dsimp only
  refine Keeps.ite (fun _ => Keeps.pure _ ⟨l, hl, hacc⟩) fun _ =>
    Keeps.bind (P := fun _ => True) ?_ fun _ _ => Keeps.pure _ ⟨l, hl, hacc⟩
  intro m' hm'
  rw [modifySession_run]
  exact ⟨trivial, hm'.refresh (Session.refresh_compiled _ _)⟩

theorem compiled_keeps
    {v : Option Version} {t : Ty} (ht : Buildable cat o v t) :
    Keeps (Session.FaithfulOver cat o) Error.Incidental (compiled t v)
      fun acc => ∀ a ∈ acc, ReachesBuildable cat o v a.mapping.converter :=
  (compiled_fresh ht fun l => compileLayout_incidental cat t l).imp fun _ ⟨_, hl, hacc⟩ a ha =>
    freshList_reaches_buildable hl _ (compileLayout_mem hacc a ha)

/-! ## Writing raises no configuration error -/

section Writers

variable {ver : Option Version}

theorem writeHead_keeps
    (c : Converter) (ty : Ty) (v : Typed) :
    Keeps (Session.FaithfulOver cat o) Error.Incidental (writeHead c ty v) fun _ => True := by
  unfold writeHead
  refine Keeps.ite (fun _ => Keeps.throw_bind rfl) fun _ => ?_
  exact Keeps.ite (fun _ => Keeps.bind (Keeps.emit (Emit.FailsWith.value sink_incidental _))
    fun _ _ => Keeps.pure _ trivial) fun _ => Keeps.pure _ trivial

theorem writeCustom_keeps
    (c : CustomConverter) (ty : Ty) (v : Typed) (ctx : Ctx) :
    Keeps (Session.FaithfulOver cat o) Error.Incidental (writeCustom c ty v ctx) fun _ => True := by
  unfold writeCustom
  refine Keeps.ite (fun _ => ?_) fun _ => Keeps.throw_bind rfl
  split
  · exact Keeps.emit (Emit.FailsWith.raw sink_incidental _)
  · exact Keeps.emit (Emit.FailsWith.string sink_incidental _)
  · exact Keeps.emit (Emit.FailsWith.value sink_incidental _)
  · exact Keeps.emit (Emit.FailsWith.value sink_incidental _)
  · exact Keeps.emit (Emit.FailsWith.value sink_incidental _)
  · exact Keeps.get_bind fun _ _ => Keeps.bind (Keeps.emit (Emit.FailsWith.string sink_incidental _))
      fun _ _ => Keeps.emit (Emit.FailsWith.value sink_incidental _)
  · exact Keeps.throw rfl

theorem writeValue_keeps_of_body
    {ow : ObjectWriter} {c : Converter} {ty : Ty} {v : Typed} {ctx : Ctx}
    (h : Keeps (Session.FaithfulOver cat o) Error.Incidental (writeBody ow c ty v ctx) fun _ => True) :
    Keeps (Session.FaithfulOver cat o) Error.Incidental (writeValue ow c ty v ctx) fun _ => True :=
  Keeps.bind (writeHead_keeps c ty v) fun _ _ => Keeps.ite (fun _ => h) fun _ => Keeps.pure _ trivial

theorem writeOptional_keeps
    {β : Type} {ow : ObjectWriter} {c : Converter} {ty : Ty} {v : Typed} {ctx : Ctx}
    (h : Keeps (Session.FaithfulOver cat o) Error.Incidental (writeBody ow c ty v ctx) fun _ => True)
    {k : Unit → Run β} (hk : ∀ u, Keeps (Session.FaithfulOver cat o) Error.Incidental (k u) fun _ => True) :
    Keeps (Session.FaithfulOver cat o) Error.Incidental
      (writeHead c ty v >>= fun b => if b = true then writeBody ow c ty v ctx >>= k else k ())
      fun _ => True :=
  Keeps.bind (writeHead_keeps c ty v) fun _ _ =>
    Keeps.ite (fun _ => Keeps.bind h fun u _ => hk u) fun _ => hk ()

variable {ow : ObjectWriter}
  (how : ∀ t e v, Buildable cat o ver t →
    Keeps (Session.FaithfulOver cat o) Error.Incidental (ow t e v ver) fun _ => True)
include how

/-- The body of a value whose converter reaches only types that build raises no
configuration error: by induction on the converter, a part's converter reaching some of the
whole's types. -/
theorem writeBody_keeps
    (c : Converter) :
    ReachesBuildable cat o ver c → ∀ ty v (ctx : Ctx), ctx.version = ver →
      Keeps (Session.FaithfulOver cat o) Error.Incidental (writeBody ow c ty v ctx) fun _ => True := by
  induction c with
  | primitive s =>
      intro _ ty v ctx _
      refine Keeps.ite (fun _ => ?_) fun _ => Keeps.throw_bind rfl
      exact Keeps.emit (Emit.FailsWith.value sink_incidental _)
  | string =>
      intro _ ty v ctx _
      unfold writeBody
      split
      · refine Keeps.ite (fun _ => ?_) fun _ => Keeps.throw_bind rfl
        exact Keeps.emit (Emit.FailsWith.string sink_incidental _)
      · exact Keeps.throw rfl
  | array =>
      intro _ ty v ctx _
      unfold writeBody
      refine Keeps.ite (fun _ => ?_) fun _ => Keeps.throw_bind rfl
      split
      · exact Keeps.ite (fun _ => Keeps.emit (Emit.FailsWith.raw sink_incidental _))
          fun _ => Keeps.throw rfl
      · exact Keeps.emit (Emit.FailsWith.bytes sink_incidental _)
  | custom c => exact fun _ ty v ctx _ => writeCustom_keeps c ty v ctx
  | list t e conv ih =>
      intro hc ty v ctx hctx
      unfold writeBody
      split
      · refine Keeps.ite (fun _ => ?_) fun _ => Keeps.throw_bind rfl
        refine Keeps.bind (Keeps.emit (Emit.FailsWith.count sink_incidental _)) fun _ _ => ?_
        refine Keeps.bind (Keeps.forIn (fun item _ _ => ?_) _) fun _ _ => Keeps.pure _ trivial
        exact writeOptional_keeps (ih hc _ _ ctx.detached hctx) fun _ => Keeps.pure _ trivial
      · exact Keeps.throw rfl
  | dictionary t k vt sorted kc vc ihk ihv =>
      intro hc ty v ctx hctx
      have hk : ReachesBuildable cat o ver kc := fun x hx => hc x (List.mem_append_left _ hx)
      have hv : ReachesBuildable cat o ver vc := fun x hx => hc x (List.mem_append_right _ hx)
      unfold writeBody
      split
      · refine Keeps.ite (fun _ => ?_) fun _ => Keeps.throw_bind rfl
        refine Keeps.bind (Keeps.emit (Emit.FailsWith.count sink_incidental _)) fun _ _ => ?_
        refine Keeps.ite (fun _ => ?_) fun _ => ?_
        · refine Keeps.bind (Keeps.forIn (fun entry _ _ => ?_) _) fun _ _ => Keeps.pure _ trivial
          obtain ⟨a, b⟩ := entry
          refine writeOptional_keeps (ihk hk _ _ ctx.detached hctx) fun _ => ?_
          exact writeOptional_keeps (ihv hv _ _ ctx.detached hctx) fun _ => Keeps.pure _ trivial
        · refine Keeps.bind (Keeps.forIn (fun entry _ _ => ?_) _) fun _ _ => ?_
          · obtain ⟨a, b⟩ := entry
            refine Keeps.bind (Keeps.scratch ?_) fun _ _ => Keeps.pure _ trivial
            refine writeOptional_keeps (ihk hk _ _ ctx.detached hctx) fun _ => ?_
            exact writeValue_keeps_of_body (ihv hv _ _ ctx.detached hctx)
          · refine Keeps.bind (Keeps.forIn (fun bs _ _ => ?_) _) fun _ _ => Keeps.pure _ trivial
            exact Keeps.bind (Keeps.emit (Emit.FailsWith.raw sink_incidental bs)) fun _ _ =>
              Keeps.pure _ trivial
      · exact Keeps.throw rfl
  | pair t k vt kc vc ihk ihv =>
      intro hc ty v ctx hctx
      have hk : ReachesBuildable cat o ver kc := fun x hx => hc x (List.mem_append_left _ hx)
      have hv : ReachesBuildable cat o ver vc := fun x hx => hc x (List.mem_append_right _ hx)
      unfold writeBody
      split
      · refine Keeps.ite (fun _ => ?_) fun _ => Keeps.throw_bind rfl
        refine writeOptional_keeps (ihk hk _ _ ctx.detached hctx) fun _ => ?_
        exact writeValue_keeps_of_body (ihv hv _ _ ctx.detached hctx)
      · exact Keeps.throw rfl
  | enum t variants =>
      intro _ ty v ctx _
      unfold writeBody
      split
      · refine Keeps.ite (fun _ => ?_) fun _ => Keeps.throw_bind rfl
        split
        · exact Keeps.emit (Emit.FailsWith.string sink_incidental _)
        · exact Keeps.throw rfl
      · exact Keeps.throw rfl
  | nullable t i conv innerNullable ih =>
      intro hc ty v ctx hctx
      unfold writeBody
      split
      · refine Keeps.ite (fun _ => ?_) fun _ => Keeps.throw_bind rfl
        exact Keeps.ite (fun _ => writeValue_keeps_of_body (ih hc _ _ _ hctx))
          fun _ => ih hc _ _ _ hctx
      · exact Keeps.throw rfl
  | pointer t i conv ih =>
      intro hc ty v ctx hctx
      unfold writeBody
      exact Keeps.ite (fun _ => ih hc _ _ _ hctx) fun _ =>
        Keeps.throw_bind rfl
  | object t e =>
      intro hc _ v ctx hctx
      show Keeps _ _ (ow t e v ctx.version) _
      rw [hctx]
      exact how t e v (hc t (List.mem_singleton_self t))

theorem writeValue_keeps
    {c : Converter} (hc : ReachesBuildable cat o ver c) (ty : Ty) (v : Typed) {ctx : Ctx}
    (hctx : ctx.version = ver) :
    Keeps (Session.FaithfulOver cat o) Error.Incidental (writeValue ow c ty v ctx) fun _ => True :=
  writeValue_keeps_of_body (writeBody_keeps how c hc ty v ctx hctx)

theorem writeDynamic_keeps
    {t : Ty} (ht : Buildable cat o ver t) (v : Typed) :
    Keeps (Session.FaithfulOver cat o) Error.Incidental (writeDynamic ow t v ver) fun _ => True := by
  unfold writeDynamic
  refine Keeps.ite (fun _ => ?_) fun _ => Keeps.throw_bind rfl
  refine Keeps.bind (mappingList_keeps ht) fun l hl => ?_
  refine Keeps.bind (Keeps.forIn (fun mp hmp _ => ?_) _) fun _ _ => Keeps.pure _ trivial
  exact Keeps.bind (Keeps.lift (navigate_incidental _ _)) fun _ _ =>
    Keeps.bind (Keeps.lift (Descriptor.get_incidental _ _)) fun _ _ =>
      Keeps.bind (writeValue_keeps how (freshList_reaches_buildable hl mp hmp) _ _ rfl)
        fun _ _ => Keeps.pure _ trivial

/-- The compiled engine writes each accessor's member, each reaching only types that
build. -/
theorem writeLayout_keeps
    {accessors : List Accessor} (hacc : ∀ a ∈ accessors, ReachesBuildable cat o ver a.mapping.converter)
    (v : Value) {ctx : Ctx} (hctx : ctx.version = ver) :
    Keeps (Session.FaithfulOver cat o) Error.Incidental (writeLayout ow accessors v ctx) fun _ => True := by
  unfold writeLayout
  refine Keeps.bind (Keeps.forIn (fun a ha _ => ?_) _) fun _ _ => Keeps.pure _ trivial
  split
  · have hwrite : ∀ value, Keeps (Session.FaithfulOver cat o) Error.Incidental
        (writeValue ow a.mapping.converter a.mapping.member.info.ty value
          (ctx.forMember a.mapping.member) >>= fun _ => pure (ForInStep.yield PUnit.unit))
        fun _ => True :=
      fun _ => Keeps.bind (writeValue_keeps how (hacc a ha) _ _ hctx) fun _ _ => Keeps.pure _ trivial
    dsimp only
    split
    · exact Keeps.bind (P := fun _ => True) (Keeps.pure _ trivial) fun _ _ => hwrite _
    · exact Keeps.bind (Keeps.lift (navigate_incidental _ _)) fun _ _ =>
        Keeps.bind (Keeps.lift (Descriptor.get_incidental _ _)) fun _ _ =>
          Keeps.bind (P := fun _ => True) (Keeps.pure _ trivial) fun _ _ => hwrite _
  · exact Keeps.throw_bind rfl

theorem writeCompiled_keeps
    {t : Ty} (ht : Buildable cat o ver t) (v : Typed) :
    Keeps (Session.FaithfulOver cat o) Error.Incidental (writeCompiled ow t v ver) fun _ => True := by
  unfold writeCompiled
  refine Keeps.ite (fun _ => ?_) fun _ => Keeps.throw_bind rfl
  exact Keeps.bind (compiled_keeps ht) fun _ hacc => writeLayout_keeps how hacc _ rfl

end Writers

theorem writeObject_keeps
    {ver : Option Version} :
    ∀ fuel t e v, Buildable cat o ver t →
      Keeps (Session.FaithfulOver cat o) Error.Incidental (writeObject fuel t e v ver) fun _ => True
  | 0, t, e, v, _ => by
      rw [writeObject]
      exact Keeps.throw rfl
  | fuel + 1, t, e, v, ht => by
      rw [writeObject]
      cases e with
      | dynamic => exact writeDynamic_keeps (writeObject_keeps fuel) ht v
      | compiled => exact writeCompiled_keeps (writeObject_keeps fuel) ht v

/-! ## Encoding a root -/

section Roots

variable {t : Ty} {ver : Option Version}

theorem mappingList_fails
    {e : Error} (hl : freshList cat o t ver = .error e) :
    Keeps (Session.FaithfulOver cat o) (· = e) (mappingList t ver) fun _ => False :=
  ((mappingList_answers_freshly t ver).keeps fun err herr => by
    rw [hl] at herr
    exact (Except.error.inj herr).symm).imp fun l hl' => by
      rw [hl] at hl'
      cases hl'

theorem compiled_fails
    {e : Error} (hl : freshList cat o t ver = .error e) :
    Keeps (Session.FaithfulOver cat o) (· = e) (compiled t ver) fun _ => False := by
  unfold compiled
  exact Keeps.bind (mappingList_fails hl) fun _ (h : False) => h.elim

theorem encodeRoot_object_fails
    {e : Error} (hl : freshList cat o t ver = .error e) (v : Value) :
    Keeps (Session.FaithfulOver cat o) (· = e) (encodeRoot t v ver .object) fun _ => False :=
  Keeps.bind (compiled_fails hl) fun _ (h : False) => h.elim

theorem encodeRootDyn_object_fails
    {e : Error} (hl : freshList cat o t ver = .error e) (v : Value) :
    Keeps (Session.FaithfulOver cat o) (· = e) (encodeRootDyn t v ver .object) fun _ => False := by
  unfold encodeRootDyn writeDynamic
  refine Keeps.ite (fun _ => ?_) fun hne => absurd (beq_self_eq_true t) hne
  exact Keeps.bind (mappingList_fails hl) fun _ (h : False) => h.elim

theorem encodeRoot_object_keeps
    (ht : Buildable cat o ver t) (v : Value) :
    Keeps (Session.FaithfulOver cat o) Error.Incidental (encodeRoot t v ver .object)
      fun _ => True :=
  Keeps.bind (compiled_keeps ht) fun _ hacc =>
    writeLayout_keeps (writeObject_keeps (writerFuel v)) hacc v rfl

theorem encodeRootDyn_object_keeps
    (ht : Buildable cat o ver t) (v : Value) :
    Keeps (Session.FaithfulOver cat o) Error.Incidental (encodeRootDyn t v ver .object)
      fun _ => True :=
  writeDynamic_keeps (writeObject_keeps (writerFuel v)) ht ⟨t, v⟩

theorem encodeRoot_converter_keeps
    {c : Converter} (hc : ReachesBuildable cat o ver c) (v : Value) :
    Keeps (Session.FaithfulOver cat o) Error.Incidental (encodeRoot t v ver (.converter c))
      fun _ => True :=
  writeValue_keeps (writeObject_keeps (writerFuel v)) hc t ⟨t, v⟩ rfl

theorem encodeRootDyn_converter_keeps
    {c : Converter} (hc : ReachesBuildable cat o ver c) (v : Value) :
    Keeps (Session.FaithfulOver cat o) Error.Incidental (encodeRootDyn t v ver (.converter c))
      fun _ => True :=
  writeValue_keeps (writeObject_keeps (writerFuel v)) hc t ⟨t, v⟩ rfl

end Roots

/-! ## Fresh root plans -/

/-- The converter of a fresh root plan passed its nested checks, so it reaches only types
that build. -/
theorem freshPlan_reaches_buildable
    {t : Ty} {e : Engine} {c : Converter} (h : freshPlan cat o t e = .ok (.converter c)) :
    ReachesBuildable cat o o.version c := by
  unfold freshPlan at h
  rw [answer_rootPlan_none rfl] at h
  unfold decidePlan at h
  split at h
  · cases h
  · split at h
    · cases h
    · cases h
    · next c' _ =>
        cases hrun : (checkNested ((Session.new cat o).machine [] none).session.catalog.fuel c'
            ((Session.new cat o).machine [] none).session.options.version []).run
            ((Session.new cat o).machine [] none) with
        | error err m' =>
            rw [hrun] at h
            cases h
        | ok u m' =>
            rw [hrun] at h
            cases h
            exact checkNested_reaches_buildable (Session.Agree.refl _) hrun

theorem freshPlan_engines
    (cat : Catalog) (o : Options) (t : Ty) :
    ExceptRel RootPlan.Like (freshPlan cat o t .compiled) (freshPlan cat o t .dynamic) := by
  have hfresh : Machine.Agree ((Session.new cat o).machine [] none)
      ((Session.new cat o).machine [] none) :=
    ⟨Session.Agree.refl _, rfl, rfl⟩
  have h := rootPlan_engines Machine.agree_cacheRel.toSessionRel hfresh (t := t) rfl rfl rfl
  unfold freshPlan
  revert h
  cases (rootPlan t .compiled).run ((Session.new cat o).machine [] none) <;>
    cases (rootPlan t .dynamic).run ((Session.new cat o).machine [] none) <;>
    intro h
  all_goals first | exact h.1 | exact h.elim

/-! ## Encoding a value -/

/-- A fresh serializer writes the header, then decides the root plan and encodes along it on
a machine whose session is still fresh, through either engine. -/
theorem encode_after_header
    (cat : Catalog) (o : Options) (t : Ty) :
    ∃ m : Machine, m.session = Session.new cat o ∧ ∀ v,
      ((Session.new cat o).run (serialize t v)).1 =
          answer ((rootPlan t .compiled >>= encodeRoot t v o.version).run m) ∧
        ((Session.new cat o).run (serializeDyn t ⟨t, v⟩)).1 =
          answer ((rootPlan t .dynamic >>= encodeRootDyn t v o.version).run m) := by
  have hopt : ((Session.new cat o).machine [] none).session.options = o := rfl
  have hhead : (emit (writeHeader o.version)).run ((Session.new cat o).machine [] none) =
      .ok () { (Session.new cat o).machine [] none with
        writer := ((Session.new cat o).machine [] none).writer.append
          (headerBytes o.encoding o.version) } :=
    emit_run_ok (writeHeader_run rfl o.version)
  refine ⟨{ (Session.new cat o).machine [] none with
    writer := ((Session.new cat o).machine [] none).writer.append
      (headerBytes o.encoding o.version) }, rfl, fun v => ⟨?_, ?_⟩⟩
  · rw [Session.run_fst, serialize_eq, EStateM.run_bind, options_run, hopt]
    dsimp only
    rw [EStateM.run_bind, hhead]
  · rw [Session.run_fst, serializeDyn_eq, EStateM.run_bind, options_run, hopt]
    dsimp only
    rw [EStateM.run_bind, hhead]

/-- Before it reads the value, encoding a type fails through both engines with one error for
every value, or from then on it fails with no configuration error: the root plan and an object
root's mapping list read no value, and what follows fetches only lists of types that build. -/
theorem encodings_fail_alike_or_incidentally
    (cat : Catalog) (o : Options) (t : Ty) :
    (∃ e, ∀ v, ((Session.new cat o).run (serialize t v)).1 = .error e ∧
        ((Session.new cat o).run (serializeDyn t ⟨t, v⟩)).1 = .error e) ∨
      ∀ v e, (((Session.new cat o).run (serialize t v)).1 = .error e ∨
          ((Session.new cat o).run (serializeDyn t ⟨t, v⟩)).1 = .error e) → e.Incidental := by
  obtain ⟨m, hms, hrun⟩ := encode_after_header cat o t
  have hm : m.session.FaithfulOver cat o := by
    rw [hms]
    exact ⟨Session.faithful_new cat o, rfl, rfl⟩
  have hplans : ∀ {E : Error → Prop} {p₁ p₂ : RootPlan} {Q : Unit → Prop},
      freshPlan cat o t .compiled = .ok p₁ → freshPlan cat o t .dynamic = .ok p₂ →
      (∀ v, Keeps (Session.FaithfulOver cat o) E (encodeRoot t v o.version p₁) Q) →
      (∀ v, Keeps (Session.FaithfulOver cat o) E (encodeRootDyn t v o.version p₂) Q) →
      ∀ v, Keeps (Session.FaithfulOver cat o) E (rootPlan t .compiled >>= encodeRoot t v o.version) Q ∧
        Keeps (Session.FaithfulOver cat o) E (rootPlan t .dynamic >>= encodeRootDyn t v o.version) Q := by
    intro E p₁ p₂ Q h₁ h₂ hk₁ hk₂ v
    refine ⟨Keeps.bind ((rootPlan_answers_freshly t .compiled).keeps fun err h => ?_) fun p hp => ?_,
      Keeps.bind ((rootPlan_answers_freshly t .dynamic).keeps fun err h => ?_) fun p hp => ?_⟩
    · rw [h₁] at h
      cases h
    · rw [h₁] at hp
      cases hp
      exact hk₁ v
    · rw [h₂] at h
      cases h
    · rw [h₂] at hp
      cases hp
      exact hk₂ v
  have hfail : ∀ e, (∀ v, Keeps (Session.FaithfulOver cat o) (· = e)
        (rootPlan t .compiled >>= encodeRoot t v o.version) (fun _ => False) ∧
      Keeps (Session.FaithfulOver cat o) (· = e)
        (rootPlan t .dynamic >>= encodeRootDyn t v o.version) (fun _ => False)) →
      ∃ e, ∀ v, ((Session.new cat o).run (serialize t v)).1 = .error e ∧
        ((Session.new cat o).run (serializeDyn t ⟨t, v⟩)).1 = .error e := by
    intro e h
    refine ⟨e, fun v => ⟨?_, ?_⟩⟩
    · rw [(hrun v).1]
      exact (h v).1.answer_eq_error hm
    · rw [(hrun v).2]
      exact (h v).2.answer_eq_error hm
  have hkeep : (∀ v, Keeps (Session.FaithfulOver cat o) Error.Incidental
        (rootPlan t .compiled >>= encodeRoot t v o.version) (fun _ => True) ∧
      Keeps (Session.FaithfulOver cat o) Error.Incidental
        (rootPlan t .dynamic >>= encodeRootDyn t v o.version) (fun _ => True)) →
      ∀ v e, (((Session.new cat o).run (serialize t v)).1 = .error e ∨
          ((Session.new cat o).run (serializeDyn t ⟨t, v⟩)).1 = .error e) → e.Incidental := by
    intro h v e he
    rcases he with he | he
    · rw [(hrun v).1] at he
      exact (h v).1.answer_error hm he
    · rw [(hrun v).2] at he
      exact (h v).2.answer_error hm he
  have hengines := freshPlan_engines cat o t
  cases h₁ : freshPlan cat o t .compiled with
  | error e =>
      cases h₂ : freshPlan cat o t .dynamic with
      | ok p => rw [h₁, h₂] at hengines; exact hengines.elim
      | error e' =>
          rw [h₁, h₂] at hengines
          cases hengines
          refine .inl (hfail e fun v => ⟨?_, ?_⟩)
          · refine Keeps.bind ((rootPlan_answers_freshly t .compiled).keeps fun err h => ?_)
              fun p hp => ?_
            · rw [h₁] at h
              exact (Except.error.inj h).symm
            · rw [h₁] at hp
              cases hp
          · refine Keeps.bind ((rootPlan_answers_freshly t .dynamic).keeps fun err h => ?_)
              fun p hp => ?_
            · rw [h₂] at h
              exact (Except.error.inj h).symm
            · rw [h₂] at hp
              cases hp
  | ok p₁ =>
      cases h₂ : freshPlan cat o t .dynamic with
      | error e => rw [h₁, h₂] at hengines; exact hengines.elim
      | ok p₂ =>
          rw [h₁, h₂] at hengines
          cases hengines with
          | object =>
              cases hl : freshList cat o t o.version with
              | error e =>
                  exact .inl (hfail e (hplans h₁ h₂ (encodeRoot_object_fails hl)
                    (encodeRootDyn_object_fails hl)))
              | ok l =>
                  exact .inr (hkeep (hplans h₁ h₂ (encodeRoot_object_keeps ⟨l, hl⟩)
                    (encodeRootDyn_object_keeps ⟨l, hl⟩)))
          | @converter c₁ c₂ hlike =>
              have hc₁ := freshPlan_reaches_buildable h₁
              have hc₂ : ReachesBuildable cat o o.version c₂ := by
                unfold ReachesBuildable
                rw [← hlike.nestedObjects_eq]
                exact hc₁
              exact .inr (hkeep (hplans h₁ h₂ (encodeRoot_converter_keeps hc₁)
                (encodeRootDyn_converter_keeps hc₂)))

end Run

open Run in
/-- Configuration errors do not depend on the data. Encoding values of a type on a fresh
serializer, through the compiled and through the dynamic engine, either fails with one and
the same configuration error for every value, or raises no configuration error for any
value: empty or full collections, absent or present members, and objects reached only
through elements, entries, options or boxes alike. -/
theorem configuration_errors_ignore_the_data
    (cat : Catalog) (o : Options) (t : Ty) :
    (∃ e, e.isConfiguration = true ∧ ∀ v,
        ((Session.new cat o).run (serialize t v)).1 = .error e ∧
          ((Session.new cat o).run (serializeDyn t ⟨t, v⟩)).1 = .error e) ∨
      ∀ v e, (((Session.new cat o).run (serialize t v)).1 = .error e ∨
          ((Session.new cat o).run (serializeDyn t ⟨t, v⟩)).1 = .error e) →
        e.isConfiguration = false := by
  rcases encodings_fail_alike_or_incidentally cat o t with ⟨e, he⟩ | h
  · cases hc : e.isConfiguration with
    | true => exact .inl ⟨e, hc, he⟩
    | false =>
        refine .inr fun v e' h' => ?_
        rcases h' with h' | h'
        · rw [(he v).1] at h'
          cases h'
          exact hc
        · rw [(he v).2] at h'
          cases h'
          exact hc
  · exact .inr h

end ObjectWire
