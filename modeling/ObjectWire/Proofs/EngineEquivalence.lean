import ObjectWire.Proofs.CrossEngine
import ObjectWire.Proofs.RootResolution
import ObjectWire.Proofs.StreamVersion
/-!
# The compiled and the dynamic entry points

A serializer writes a value of a known type through the compiled engine (`serialize`) and a
value whose type is given at run time through the dynamic one (`serializeDyn`); it reads
likewise (`deserializeInto`, `deserializeDyn`). Each entry point makes its root plan with
its own engine, used for every object inside the root, and then walks the root's mapping
list or its converter.

When every object type's typed accessors serve its members as the type-erased accessors do
(`Catalog.Mirrored`, which declared types satisfy), the two entry points agree on every
type, value and input: the same bytes or the same error when writing, the same value or the
same error when reading. The fresh session makes the same header and reads the same stream
version on both sides; the root plans are alike (`rootPlan_engines`); and from there the
two engines simulate each other at every depth (`writeObject_engines_sim`,
`readObject_engines_sim`).

A type whose typed accessors do not serve its members breaks this: with no typed accessor
for its member, the compiled engine cannot build its layout while the dynamic one writes
the value (`broken_typed_accessor_splits_engines`).

**Results.**
* `compiled_and_dynamic_engines_agree`: over a mirrored catalog, the compiled and the
  dynamic entry points agree.
-/

namespace ObjectWire

namespace Run

variable {α β : Type} {R : Machine → Machine → Prop}

/-! ## The dynamic entry points, along their plans -/

/-- Writing a root of type `t` along its plan, through the dynamic engine. -/
def encodeRootDyn (t : Ty) (v : Value) (ver : Option Version) : RootPlan → Run Unit
  | .object => writeDynamic (objectWriterFor v) t ⟨t, v⟩ ver
  | .converter c => writeValue (objectWriterFor v) c t ⟨t, v⟩ { version := ver }

/-- Reading a root of type `t` into `target` along its plan, through the dynamic engine. -/
def decodeRootDyn (t : Ty) (target : Value) (orr : ObjectReader) (ver : Option Version) :
    RootPlan → Run Value
  | .object => readDynamicInto orr t ⟨t, target⟩ ver
  | .converter c => readValue orr c t { version := ver }

theorem serializeDyn_eq
    (t : Ty) (v : Value) :
    serializeDyn t ⟨t, v⟩ = options >>= fun o =>
      emit (writeHeader o.version) >>= fun _ => rootPlan t .dynamic >>= encodeRootDyn t v o.version := by
  simp only [serializeDyn, beq_self_eq_true, if_true]
  rfl

theorem deserializeDyn_eq
    (t : Ty) (target : Value) :
    deserializeDyn t (some ⟨t, target⟩) = streamVersion >>= fun ver =>
      objectReader >>= fun orr => rootPlan t .dynamic >>= decodeRootDyn t target orr ver := by
  simp only [deserializeDyn, pure_bind, beq_self_eq_true, if_true]
  rfl

/-! ## The steps the two entry points share -/

theorem Corresponds.of_shared
    {f : Run α} {k l : α → Run β} {m : Machine}
    (hend : R (ObjectWire.endState (f.run m)) (ObjectWire.endState (f.run m)))
    (hk : ∀ a m', f.run m = .ok a m' → Corresponds R ((k a).run m') ((l a).run m')) :
    Corresponds R ((f >>= k).run m) ((f >>= l).run m) := by
  rw [EStateM.run_bind, EStateM.run_bind]
  cases h : f.run m with
  | ok a m' => exact hk a m' h
  | error e m' =>
      rw [h] at hend
      exact ⟨rfl, hend⟩

theorem emit_session
    (e : Emit α) (m : Machine) :
    (endState ((emit e).run m)).session = m.session := by
  show (endState (emit e m)).session = m.session
  unfold emit
  split <;> rfl

theorem take_session
    (r : Take α) (m : Machine) :
    (endState ((take r).run m)).session = m.session := by
  show (endState (take r m)).session = m.session
  unfold take
  split <;> rfl

/-- Reading the stream's version touches the reader and the log only. -/
theorem streamVersion_session
    (m : Machine) :
    ∃ logs, (endState (streamVersion.run m)).session = { m.session with logs } := by
  unfold streamVersion
  rw [EStateM.run_bind]
  have hs := take_session readHeader m
  cases ht : (take readHeader).run m with
  | error e m₁ =>
      rw [ht] at hs
      exact ⟨m.session.logs, hs⟩
  | ok found m₁ =>
      rw [ht] at hs
      dsimp only
      rw [EStateM.run_bind, options_run]
      dsimp only
      cases found <;> simp only [EStateM.run_bind, log_run, endState] <;> rw [← hs] <;> exact ⟨_, rfl⟩

theorem over_fresh
    {cat : Catalog} {o : Options} {m : Machine} (h : ∃ logs, m.session = { Session.new cat o with logs }) :
    Machine.Over cat m m := by
  obtain ⟨logs, hs⟩ := h
  have hsound : m.session.Sound := hs ▸ (Session.sound_new cat o).of_agree (Session.agree_logs _ logs)
  exact ⟨⟨⟨Session.Agree.refl _, rfl, rfl⟩, hsound⟩, by rw [hs]; rfl⟩

section Mirrored

variable {cat : Catalog} (hcat : cat.Mirrored)
include hcat

theorem encodeRoot_engines_sim
    {t : Ty} {v : Value} {ver : Option Version} {p₁ p₂ : RootPlan} (hp : RootPlan.Like p₁ p₂) :
    Sim (Machine.Over cat) (encodeRoot t v ver p₁) (encodeRootDyn t v ver p₂) := by
  have hR := Machine.over_engineRel cat
  have how := writeObject_engines_sim hcat (writerFuel v)
  cases hp with
  | object => exact writeLayout_writeDynamic_sim hcat how t v ver
  | converter hc => exact writeValue_sim hR (fun t e₁ e₂ v ver _ => how t e₁ e₂ v ver) hc t _ _

theorem decodeRoot_engines_sim
    {t : Ty} {target : Value} {n : Nat} {ver : Option Version} {p₁ p₂ : RootPlan}
    (hp : RootPlan.Like p₁ p₂) :
    Sim (Machine.Over cat) (decodeRoot t target (readObject n) ver p₁)
      (decodeRootDyn t target (readObject n) ver p₂) := by
  have hR := Machine.over_engineRel cat
  have horr := readObject_engines_sim hcat n
  cases hp with
  | object =>
      have h := readLayout_readDynamic_sim hcat horr t (pure target) (fun _ _ _ => rfl) ver
      simp only [pure_bind] at h
      exact h
  | converter hc => exact readValue_sim hR (fun t e₁ e₂ ver _ => horr t e₁ e₂ ver) hc t _

/-- From a fresh session, writing through the compiled entry point and through the dynamic
one correspond: the same header, alike root plans, then the two engines. -/
theorem serialize_engines_corresponds
    (o : Options) (t : Ty) (v : Value) :
    Corresponds (Machine.Over cat) ((serialize t v).run ((Session.new cat o).machine [] none))
      ((serializeDyn t ⟨t, v⟩).run ((Session.new cat o).machine [] none)) := by
  have hR := Machine.over_engineRel cat
  have hfresh : Machine.Over cat ((Session.new cat o).machine [] none) ((Session.new cat o).machine [] none) :=
    over_fresh ⟨#[], rfl⟩
  rw [serialize_eq, serializeDyn_eq]
  refine Corresponds.of_shared (by rw [options_run]; exact hfresh) fun o' m₁ h₁ => ?_
  rw [options_run] at h₁
  cases h₁
  have hhead := emit_session (writeHeader ((Session.new cat o).machine [] none).session.options.version)
    ((Session.new cat o).machine [] none)
  refine Corresponds.of_shared (over_fresh ⟨#[], hhead⟩) fun _ m₂ h₂ => ?_
  rw [h₂] at hhead
  change m₂.session = _ at hhead
  have hover : Machine.Over cat m₂ m₂ := over_fresh ⟨#[], hhead⟩
  exact (rootPlan_engines (Machine.over_sessionRel cat) hover (by rw [hhead]; rfl) (by rw [hhead]; rfl) rfl).bind_sim
    fun p₁ p₂ hp => encodeRoot_engines_sim hcat hp

theorem deserialize_engines_corresponds
    (o : Options) (t : Ty) (target : Value) (input : List UInt8) :
    Corresponds (Machine.Over cat) ((deserializeInto t target).run ((Session.new cat o).machine input none))
      ((deserializeDyn t (some ⟨t, target⟩)).run ((Session.new cat o).machine input none)) := by
  have hR := Machine.over_engineRel cat
  rw [deserializeInto_eq, deserializeDyn_eq]
  obtain ⟨logs, hlogs⟩ := streamVersion_session ((Session.new cat o).machine input none)
  refine Corresponds.of_shared (over_fresh ⟨logs, hlogs⟩) fun ver m₁ h₁ => ?_
  rw [h₁] at hlogs
  change m₁.session = _ at hlogs
  have hover : Machine.Over cat m₁ m₁ := over_fresh ⟨logs, hlogs⟩
  rw [EStateM.run_bind, EStateM.run_bind, objectReader_run]
  exact (rootPlan_engines (Machine.over_sessionRel cat) hover (by rw [hlogs]; rfl) (by rw [hlogs]; rfl) rfl).bind_sim
    fun p₁ p₂ hp => decodeRoot_engines_sim hcat hp

end Mirrored

end Run

open Run

/-- Over a catalog whose typed accessors serve their members, the compiled and the dynamic
entry points of a fresh serializer agree on every type, value, target and input: writing
gives the same outcome and the same bytes, reading the same value or the same error. -/
theorem compiled_and_dynamic_engines_agree
    {cat : Catalog} (hcat : cat.Mirrored) (o : Options) (t : Ty) (v target : Value)
    (input : List UInt8) :
    ((Session.new cat o).run (serialize t v)).1 = ((Session.new cat o).run (serializeDyn t ⟨t, v⟩)).1 ∧
      ((Session.new cat o).run (serialize t v)).2.writer.bytes =
        ((Session.new cat o).run (serializeDyn t ⟨t, v⟩)).2.writer.bytes ∧
      ((Session.new cat o).run (deserializeInto t target) input).1 =
        ((Session.new cat o).run (deserializeDyn t (some ⟨t, target⟩)) input).1 := by
  have hw := serialize_engines_corresponds hcat o t v
  have hr := deserialize_engines_corresponds hcat o t target input
  refine ⟨?_, ?_, ?_⟩
  · rw [Session.run_fst, Session.run_fst]
    exact hw.answer_eq
  · rw [Session.run_snd, Session.run_snd, hw.endState.1.1.2.1]
  · rw [Session.run_fst, Session.run_fst]
    exact hr.answer_eq

/-- The order types of the samples, all declared: an order with an optional address, an
address behind a box read by the compiled engine, and lines read by either engine. -/
def orderCatalog : Catalog :=
  { objects := [Sample.address, Sample.line, Sample.order], enums := [] }

theorem orderCatalog_mirrored :
    orderCatalog.Mirrored := by
  intro s hs
  simp only [orderCatalog, List.mem_cons, List.not_mem_nil, or_false] at hs
  rcases hs with rfl | rfl | rfl <;> exact ObjectSchema.declare_mirrored _ _ _

/-- The two engines agree on the default order of the declared order types. -/
theorem order_engines_agree :
    orderCatalog.Mirrored ∧
      ((Session.new orderCatalog {}).run
          (serialize (Sample.obj "Order") (orderCatalog.default (Sample.obj "Order")))).1 =
        ((Session.new orderCatalog {}).run (serializeDyn (Sample.obj "Order")
          ⟨Sample.obj "Order", orderCatalog.default (Sample.obj "Order")⟩)).1 ∧
      ((Session.new orderCatalog {}).run
          (serialize (Sample.obj "Order") (orderCatalog.default (Sample.obj "Order")))).2.writer.bytes =
        ((Session.new orderCatalog {}).run (serializeDyn (Sample.obj "Order")
          ⟨Sample.obj "Order", orderCatalog.default (Sample.obj "Order")⟩)).2.writer.bytes ∧
      ((Session.new orderCatalog {}).run
          (deserializeInto (Sample.obj "Order") (orderCatalog.default (Sample.obj "Order"))) []).1 =
        ((Session.new orderCatalog {}).run (deserializeDyn (Sample.obj "Order")
          (some ⟨Sample.obj "Order", orderCatalog.default (Sample.obj "Order")⟩)) []).1 :=
  ⟨orderCatalog_mirrored, compiled_and_dynamic_engines_agree orderCatalog_mirrored {} (Sample.obj "Order")
    (orderCatalog.default (Sample.obj "Order")) (orderCatalog.default (Sample.obj "Order")) []⟩

/-- A type with no typed accessor for its member: the compiled engine cannot build its layout,
while the dynamic engine writes the value. -/
theorem broken_typed_accessor_splits_engines :
    ((Session.new Sample.catalog {}).run (serialize (Sample.obj "Broken1") (.object [("a", .nat 3)]))).1 ≠
      ((Session.new Sample.catalog {}).run
        (serializeDyn (Sample.obj "Broken1") ⟨Sample.obj "Broken1", .object [("a", .nat 3)]⟩)).1 := by
  decide +kernel

end ObjectWire
