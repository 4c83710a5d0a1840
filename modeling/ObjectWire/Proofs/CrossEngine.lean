import ObjectWire.Proofs.ReadAgreement
import ObjectWire.Proofs.WriteAgreement
import ObjectWire.Proofs.TypedAccessors
/-!
# The two engines on one object

An object is written and read by the compiled engine through the typed accessors of its
type, and by the dynamic engine through the type-erased accessors of its members. Over a
catalog whose types are mirrored, the two agree mapping by mapping: the typed accessor of
a mapping's head reads what the head's getter reads and lends the same field, the first
step of the path that the dynamic engine navigates; for a direct member it stores through
the same setter, and for a cascaded one it reaches the same stored field.

The comparison runs on sound machines that agree over the catalog (`Machine.Over`). Mapping
lists answered there are rooted in declared members, so every compiled layout is built; the
machines stay related whatever the engines do, and the engine of a nested object is then
free: by induction on the depth bound, objects at every depth are written and read alike
whichever engine each side uses.

**Results.**
* `writeLayout_writeDynamic_sim`, `readLayout_readDynamic_sim`: one object, the compiled
  layout against the type-erased accessors.
* `writeObject_engines_sim`, `readObject_engines_sim`: the object writers and readers agree
  for any two engines, at every depth bound.
-/

namespace ObjectWire
namespace Run

variable {α β : Type} {R : Machine → Machine → Prop}

/-! ## Sound agreement over a catalog -/

theorem agree_catalog_cacheRel
    (cat : Catalog) :
    CacheRel fun m₁ m₂ => Machine.Agree m₁ m₂ ∧ m₁.session.catalog = cat where
  agree h := h.1.1
  update h h₁ h₂ := ⟨Machine.agree_cacheRel.update h.1 h₁ h₂, h₁.catalog ▸ h.2⟩
  cache e h := ⟨Machine.agree_cacheRel.cache e h.1, h.2⟩

/-- Sound machines that agree, over the catalog `cat`. -/
def Machine.Over (cat : Catalog) (m₁ m₂ : Machine) : Prop :=
  Machine.SoundAgree m₁ m₂ ∧ m₁.session.catalog = cat

namespace Machine.Over

variable {cat : Catalog} {m₁ m₂ : Machine}

theorem catalog_right
    (h : Machine.Over cat m₁ m₂) :
    m₂.session.catalog = cat :=
  h.1.1.1.catalog.symm.trans h.2

theorem symm
    (h : Machine.Over cat m₁ m₂) :
    Machine.Over cat m₂ m₁ :=
  ⟨h.1.symm, h.catalog_right⟩

theorem defaultOf_left
    (h : Machine.Over cat m₁ m₂) (t : Ty) :
    (defaultOf t).run m₁ = .ok (cat.default t) m₁ := by
  rw [← h.2]
  rfl

theorem defaultOf_right
    (h : Machine.Over cat m₁ m₂) (t : Ty) :
    (defaultOf t).run m₂ = .ok (cat.default t) m₂ := by
  rw [← h.catalog_right]
  rfl

end Machine.Over

theorem Machine.over_engineRel
    (cat : Catalog) :
    EngineRel (Machine.Over cat) where
  like h := h.1.1.1.like
  update h h₁ h₂ := ⟨Machine.soundAgree_engineRel.update h.1 h₁ h₂, h₁.agree.catalog ▸ h.2⟩
  writer_eq h := h.1.1.2.1
  reader_eq h := h.1.1.2.2
  setWriter w h := ⟨Machine.soundAgree_engineRel.setWriter w h.1, h.2⟩
  setReader r h := ⟨Machine.soundAgree_engineRel.setReader r h.1, h.2⟩
  mappingList t v m₁ m₂ h :=
    ((mappingList_sim (agree_catalog_cacheRel cat) t v m₁ m₂ ⟨h.1.1, h.2⟩).with_left
      (mappingList_run_sound h.1.2 t v)).mono fun hm => ⟨⟨hm.1.1, hm.2⟩, hm.1.2⟩

theorem Machine.over_sessionRel
    (cat : Catalog) :
    SessionRel (Machine.Over cat) where
  agree h := h.1.1.1
  update h h₁ h₂ :=
    ⟨⟨Machine.agree_cacheRel.update h.1.1 h₁ h₂, h.1.2.of_agree h₁⟩, h₁.catalog ▸ h.2⟩

theorem Sim.quiet_left
    (hR : ViewRel R) {f : Run α} {a : α} (hq : Quiet f a) {k : α → Run β} {g : Run β}
    (h : Sim R (k a) g) :
    Sim R (f >>= k) g := by
  intro m₁ m₂ hm
  obtain ⟨s, hrun, hs⟩ := hq m₁
  rw [EStateM.run_bind, hrun]
  exact h _ _ (hR.update hm hs (Session.Refresh.refl _))

section Mirrored

variable {cat : Catalog} (hcat : cat.Mirrored)
include hcat

/-- Asking for the compiled layout of `t` is asking for its mapping list: the layout is then
built, one faithful accessor per mapping, and remembered with no change that matters. -/
theorem compiled_bind_sim
    {t : Ty} {ver : Option Version} {k : List Accessor → Run β} {g : MappingList → Run β}
    (h : ∀ l acc, l.Rooted cat t → acc.map (·.mapping) = l.mappings →
      (∀ a ∈ acc, a.Faithful cat t) → Sim (Machine.Over cat) (k acc) (g l)) :
    Sim (Machine.Over cat) (compiled t ver >>= k) (mappingList t ver >>= g) := by
  have hR := Machine.over_engineRel cat
  unfold compiled
  rw [bind_assoc]
  refine Sim.bind_of (hR.mappingList t ver)
    (fun m₁ m₂ l m₁' hm hrun => hm.2 ▸ mappingList_run_rooted hm.1.2 hrun) fun l hl => ?_
  obtain ⟨acc, hacc, hmap, hfaith⟩ := compileLayout_ok hcat hl
  intro m₁ m₂ hm
  rw [bind_assoc, EStateM.run_bind, catalog_run, hm.2]
  dsimp only
  rw [hacc]
  refine Sim.quiet_left hR.toViewRel (fun m => ?_) (h l acc hl hmap hfaith) m₁ m₂ hm
  simp only [EStateM.run_bind, lift_ok_run, session_run]
  split
  · exact quiet_pure acc m
  · exact quiet_modifySession (fun s => Session.refresh_compiled _ _) acc m

/-! ## One object, both engines -/

/-- The compiled layout writes an object of type `t` as the dynamic engine does: each
faithful accessor reaches the value the type-erased accessors reach, and writes it with the
mapping's own converter. -/
theorem writeLayout_writeDynamic_sim
    {ow : ObjectWriter} (how : ∀ t e₁ e₂ v ver, Sim (Machine.Over cat) (ow t e₁ v ver) (ow t e₂ v ver))
    (t : Ty) (v : Value) (ver : Option Version) :
    Sim (Machine.Over cat) (compiled t ver >>= fun acc => writeLayout ow acc v { version := ver })
      (writeDynamic ow t ⟨t, v⟩ ver) := by
  have hR := Machine.over_engineRel cat
  have hwrite : ∀ (x : Mapping) value, Sim (Machine.Over cat)
      (writeValue ow x.converter x.member.info.ty value (({ version := ver } : Ctx).forMember x.member) >>=
        fun _ => pure (ForInStep.yield PUnit.unit))
      (writeValue ow x.converter x.member.info.ty value (({ version := ver } : Ctx).forMember x.member) >>=
        fun _ => pure (ForInStep.yield PUnit.unit)) := fun x value =>
    Sim.bind (writeValue_sim hR (fun t e₁ e₂ v ver (_ : e₁ = e₂) => how t e₁ e₂ v ver) (.refl _) _ _ _)
      fun _ => Sim.pure _
  unfold writeDynamic
  simp only [beq_self_eq_true, if_true]
  refine compiled_bind_sim hcat fun l acc hl hmap hfaith => ?_
  unfold writeLayout
  rw [← hmap, List.forIn_map]
  refine Sim.bind (Sim.forIn_of_mem (fun a ha _ => ?_) _) fun _ => Sim.pure _
  have hf := hfaith a ha
  obtain ⟨g, hget, -⟩ := hf.typed_get
  dsimp only
  rw [hget]
  dsimp only
  cases hpath : a.mapping.path with
  | nil =>
      have hmember : a.mapping.member.get ⟨t, v⟩ = .ok (g v) :=
        Accessor.Faithful.head_of_nil hpath ▸ hf.head_get hget v
      simp only [pure_bind, show navigate ⟨t, v⟩ [] = .ok ⟨t, v⟩ from rfl, lift_ok_bind, hmember]
      exact hwrite a.mapping _
  | cons hop rest =>
      dsimp only
      rw [hf.navigate_cons hget hpath v]
      simp only [pure_bind]
      exact Sim.bind (Sim.lift _) fun _ => Sim.bind (Sim.lift _) fun r => hwrite a.mapping r.value

/-- The compiled layout reads an object of type `t` as the dynamic engine does, into the
target a first step gives back on the compiled side: each member is decoded by the
mapping's own converter and stored through the same setter, or into the same stored field. -/
theorem readLayout_readDynamic_sim
    {orr : ObjectReader} (horr : ∀ t e₁ e₂ ver, Sim (Machine.Over cat) (orr t e₁ ver) (orr t e₂ ver))
    (t : Ty) (pre : Run Value) {target : Value}
    (hpre : ∀ m₁ m₂, Machine.Over cat m₁ m₂ → pre.run m₁ = .ok target m₁) (ver : Option Version) :
    Sim (Machine.Over cat) (compiled t ver >>= fun acc => pre >>= fun d => readLayout orr acc d { version := ver })
      (readDynamicInto orr t ⟨t, target⟩ ver) := by
  have hR := Machine.over_engineRel cat
  unfold readDynamicInto
  simp only [beq_self_eq_true, if_true]
  refine compiled_bind_sim hcat fun l acc hl hmap hfaith => Sim.const_bind_left hpre ?_
  unfold readLayout
  rw [← hmap, List.forIn_map]
  refine Sim.bind (Sim.forIn_of_mem (fun a ha cur => ?_) _) fun _ => Sim.pure _
  have hf := hfaith a ha
  dsimp only
  refine Sim.bind (readValue_sim hR (fun t e₁ e₂ ver (_ : e₁ = e₂) => horr t e₁ e₂ ver) (.refl _) _ _)
    fun v => ?_
  cases hpath : a.mapping.path with
  | nil =>
      dsimp only
      rw [hf.set_of_nil hpath]
      simp only [updateAt, storeMember, Descriptor.store, Except.map, bind_assoc]
      cases hset : a.mapping.member.info.access.set with
      | none =>
          simp only [lift_ok_bind]
          exact Sim.bind (log_sim hR.toViewRel _ _) fun _ => Sim.pure _
      | some s =>
          cases hs : s cur ⟨a.mapping.member.info.ty, v⟩ with
          | ok o =>
              simp only [hs, lift_ok_bind, pure_bind]
              exact Sim.pure _
          | error e =>
              simp only [hs, lift_error_eq]
              exact Sim.throw_bind e
  | cons hop rest =>
      obtain ⟨f, hmut, hreach⟩ := hf.reach_eq hpath
      dsimp only
      rw [hmut]
      simp only [updateAt, hreach, lift_ok_bind, bind_assoc, pure_bind]
      exact Sim.bind (updateAt_sim (fun x => storeMember_sim hR.toViewRel _ _ x) _ _) fun _ =>
        Sim.pure _

theorem writeCompiled_writeDynamic_sim
    {ow : ObjectWriter} (how : ∀ t e₁ e₂ v ver, Sim (Machine.Over cat) (ow t e₁ v ver) (ow t e₂ v ver))
    (t : Ty) (v : Typed) (ver : Option Version) :
    Sim (Machine.Over cat) (writeCompiled ow t v ver) (writeDynamic ow t v ver) := by
  obtain ⟨ty, val⟩ := v
  by_cases hty : ty = t
  · subst hty
    unfold writeCompiled
    simp only [beq_self_eq_true, if_true]
    exact writeLayout_writeDynamic_sim hcat how ty val ver
  · have hne : (ty == t) = false := by simpa using hty
    unfold writeCompiled writeDynamic
    simp only [hne, Bool.false_eq_true, if_false]
    exact Sim.throw_bind _

/-- Objects are written alike whatever engine each side uses, at every depth bound: by
induction on the bound, a nested object through the writers one level shallower. -/
theorem writeObject_engines_sim :
    ∀ fuel t e₁ e₂ v ver,
      Sim (Machine.Over cat) (writeObject fuel t e₁ v ver) (writeObject fuel t e₂ v ver)
  | 0, t, e₁, e₂, v, ver => by
      rw [writeObject]
      exact Sim.throw _
  | fuel + 1, t, e₁, e₂, v, ver => by
      have hR := Machine.over_engineRel cat
      have hcross : Sim (Machine.Over cat) (writeObject (fuel + 1) t .compiled v ver)
          (writeObject (fuel + 1) t .dynamic v ver) := by
        rw [writeObject]
        exact writeCompiled_writeDynamic_sim hcat (writeObject_engines_sim fuel) t v ver
      cases e₁ with
      | dynamic =>
          cases e₂ with
          | dynamic => exact writeObject_sim hR _ t _ v ver
          | compiled => exact Sim.symm Machine.Over.symm hcross
      | compiled =>
          cases e₂ with
          | dynamic => exact hcross
          | compiled => exact writeObject_sim hR _ t _ v ver

/-- Objects are read alike whatever engine each side uses, at every depth bound: by
induction on the bound, each starting from the type's default. -/
theorem readObject_engines_sim :
    ∀ fuel t e₁ e₂ ver,
      Sim (Machine.Over cat) (readObject fuel t e₁ ver) (readObject fuel t e₂ ver)
  | 0, t, e₁, e₂, ver => by
      rw [readObject]
      exact Sim.throw _
  | fuel + 1, t, e₁, e₂, ver => by
      have hR := Machine.over_engineRel cat
      have hcross : Sim (Machine.Over cat) (readObject (fuel + 1) t .compiled ver)
          (readObject (fuel + 1) t .dynamic ver) := by
        rw [readObject]
        exact Sim.const_bind_right (fun m₁ m₂ hm => hm.defaultOf_right t)
          (readLayout_readDynamic_sim hcat (readObject_engines_sim fuel) t (defaultOf t)
            (fun m₁ m₂ hm => hm.defaultOf_left t) ver)
      cases e₁ with
      | dynamic =>
          cases e₂ with
          | dynamic => exact readObject_sim hR _ t _ ver
          | compiled => exact Sim.symm Machine.Over.symm hcross
      | compiled =>
          cases e₂ with
          | dynamic => exact hcross
          | compiled => exact readObject_sim hR _ t _ ver

end Mirrored

end Run
end ObjectWire
