import ObjectWire.Proofs.BuildAgreement
import ObjectWire.Proofs.WireCodec
/-!
# Writing only appends

Every write of a serializer offers bytes to the sink, which keeps what fits; nothing is ever
taken back. Encoding a map entry into scratch space writes into a fresh buffer and leaves the
sink as it was. Everything else a write does (resolving members, building mapping lists and
layouts, deciding root plans, logging) touches the session only.

So what the sink holds before a write is a prefix of what it holds after, whether the write
succeeds or fails. Stated per step and assembled along the writer's structure: an induction
on the converter for a value's body, and one on the depth bound for nested objects.

**Results.**
* `writeValue_appends`: writing a value with any converter only appends.
* `writeObject_appends`: writing an object through either engine only appends.
-/

namespace ObjectWire

/-- A writing step whose sink, at its end, extends the sink it started with. -/
def Emit.Appends {α : Type} (e : Emit α) : Prop :=
  ∀ w, w.bytes <+: (endState (e.run w)).bytes

/-- A computation whose writer, at its end, extends the writer it started with. -/
def Run.Appends {α : Type} (f : Run α) : Prop :=
  ∀ m, m.writer.bytes <+: (endState (f.run m)).writer.bytes

/-! ## Writing steps -/

theorem Writer.offer_prefix
    (w : Writer) (bs : List UInt8) :
    w.bytes <+: (w.offer bs).1.bytes := by
  unfold Writer.offer
  split
  · simp [Writer.bytes]
  · split <;> simp [Writer.bytes]

namespace Emit

variable {α β : Type}

theorem Appends.pure
    (a : α) :
    Appends (Pure.pure a : Emit α) :=
  fun w => List.prefix_refl w.bytes

theorem Appends.throw
    (e : Error) :
    Appends (MonadExcept.throw e : Emit α) :=
  fun w => List.prefix_refl w.bytes

theorem Appends.bind
    {e : Emit α} {k : α → Emit β} (he : Appends e) (hk : ∀ a, Appends (k a)) :
    Appends (e >>= k) := by
  intro w
  have h₁ := he w
  rw [EStateM.run_bind]
  cases hr : e.run w with
  | ok a w' =>
      rw [hr] at h₁
      exact h₁.trans (hk a w')
  | error err w' =>
      rw [hr] at h₁
      exact h₁

theorem Appends.offer
    (bs : List UInt8) (fault : Error) :
    Appends (offer bs fault) := by
  intro w
  rw [offer_run]
  split <;> exact w.offer_prefix bs

theorem Appends.get_bind
    {k : Writer → Emit α} (hk : ∀ w, Appends (k w)) :
    Appends (get >>= k) :=
  fun w => hk w w

theorem Appends.raw
    (bs : List UInt8) :
    Appends (raw bs) :=
  Appends.offer bs _

theorem Appends.value
    (bs : List UInt8) :
    Appends (value bs) :=
  Appends.offer bs _

theorem Appends.count
    (n : Nat) :
    Appends (count n) := by
  unfold Emit.count
  split
  · exact Appends.value _
  · exact Appends.throw _

theorem Appends.bytes
    (bs : List UInt8) :
    Appends (bytes bs) :=
  Appends.bind (Appends.count _) fun _ => Appends.raw _

theorem Appends.string
    (s : String) :
    Appends (string s) :=
  Appends.get_bind fun _ => Appends.bytes _

end Emit

namespace Run

variable {α β γ : Type}

theorem Appends.pure
    (a : α) :
    Appends (Pure.pure a : Run α) :=
  fun m => List.prefix_refl m.writer.bytes

theorem Appends.throw
    (e : Error) :
    Appends (MonadExcept.throw e : Run α) :=
  fun m => List.prefix_refl m.writer.bytes

theorem Appends.bind
    {f : Run α} {k : α → Run β} (hf : Appends f) (hk : ∀ a, Appends (k a)) :
    Appends (f >>= k) := by
  intro m
  have h₁ := hf m
  rw [EStateM.run_bind]
  cases hr : f.run m with
  | ok a m' =>
      rw [hr] at h₁
      exact h₁.trans (hk a m')
  | error err m' =>
      rw [hr] at h₁
      exact h₁

theorem Appends.ite
    {c : Prop} [Decidable c] {f g : Run α} (hf : Appends f) (hg : Appends g) :
    Appends (if c then f else g) := by
  by_cases hc : c
  · simpa only [if_pos hc] using hf
  · simpa only [if_neg hc] using hg

theorem Appends.lift
    (e : Except Error α) :
    Appends (lift e) := by
  cases e with
  | ok a => exact Appends.pure a
  | error err => exact Appends.throw err

theorem Appends.get_bind
    {k : Machine → Run α} (hk : ∀ m, Appends (k m)) :
    Appends (get >>= k) :=
  fun m => hk m m

theorem Appends.forIn
    {xs : List γ} {f : γ → β → Run (ForInStep β)} (h : ∀ x b, Appends (f x b)) (init : β) :
    Appends (ForIn.forIn xs init f) := by
  induction xs generalizing init with
  | nil => exact Appends.pure init
  | cons x xs ih =>
      simp only [List.forIn_cons]
      refine Appends.bind (h x init) fun step => ?_
      cases step with
      | done b => exact Appends.pure b
      | yield b => exact ih b

/-- A writing step run on the machine's writer appends as it does alone. -/
theorem Appends.emit
    {e : Emit α} (he : e.Appends) :
    Appends (Run.emit e) := by
  intro m
  have h := he m.writer
  show m.writer.bytes <+: (endState (Run.emit e m)).writer.bytes
  unfold Run.emit
  cases hr : e m.writer with
  | ok a w' =>
      have hr' : e.run m.writer = .ok a w' := hr
      rw [hr'] at h
      exact h
  | error err w' =>
      have hr' : e.run m.writer = .error err w' := hr
      rw [hr'] at h
      exact h

theorem Appends.scratch
    (body : Run Unit) :
    Appends (Run.scratch body) := by
  intro m
  show m.writer.bytes <+: (endState (Run.scratch body m)).writer.bytes
  unfold Run.scratch
  dsimp only
  split <;> exact List.prefix_refl m.writer.bytes

theorem Appends.of_framed
    {f : Run α} (h : ∀ m, Corresponds (Framed m.writer m.writer) (f.run m) (f.run m)) :
    Appends f := by
  intro m
  have hc := h m
  cases hr : f.run m with
  | ok a m' =>
      rw [hr] at hc
      simp only [endState, hc.2.2.1]
      exact List.prefix_refl _
  | error err m' =>
      rw [hr] at hc
      simp only [endState, hc.2.2.1]
      exact List.prefix_refl _

theorem mappingList_appends
    (t : Ty) (v : Option Version) :
    Appends (mappingList t v) :=
  Appends.of_framed fun m =>
    mappingList_sim (framed_cacheRel _ _) t v m m ⟨Session.Agree.refl _, rfl, rfl⟩

theorem compiled_appends
    (t : Ty) (v : Option Version) :
    Appends (compiled t v) :=
  Appends.of_framed fun m =>
    compiled_sim (framed_cacheRel _ _).toSessionRel.toViewRel (mappingList_sim (framed_cacheRel _ _)) t v m m
      ⟨Session.Agree.refl _, rfl, rfl⟩

/-! ## The writers of values and objects -/

theorem writeHead_appends
    (c : Converter) (ty : Ty) (v : Typed) :
    Appends (writeHead c ty v) := by
  unfold writeHead
  refine Appends.ite (Appends.bind (Appends.throw _) fun _ => ?_) ?_ <;>
    exact Appends.ite (Appends.bind (Appends.emit (Emit.Appends.offer _ _)) fun _ => Appends.pure _)
      (Appends.pure _)

theorem writeCustom_appends
    (c : CustomConverter) (ty : Ty) (v : Typed) (ctx : Ctx) :
    Appends (writeCustom c ty v ctx) := by
  unfold writeCustom
  refine Appends.ite ?_ (Appends.bind (Appends.throw _) fun _ => ?_)
  all_goals
    split
    · exact Appends.emit (Emit.Appends.raw _)
    · exact Appends.emit (Emit.Appends.string _)
    · exact Appends.emit (Emit.Appends.value _)
    · exact Appends.emit (Emit.Appends.value _)
    · exact Appends.emit (Emit.Appends.value _)
    · exact Appends.get_bind fun _ => Appends.bind (Appends.emit (Emit.Appends.string _)) fun _ =>
        Appends.emit (Emit.Appends.value _)
    · exact Appends.throw _

theorem writeValue_appends_of_body
    {ow : ObjectWriter} {c : Converter} {ty : Ty} {v : Typed} {ctx : Ctx}
    (h : Appends (writeBody ow c ty v ctx)) :
    Appends (writeValue ow c ty v ctx) :=
  Appends.bind (writeHead_appends c ty v) fun _ => Appends.ite h (Appends.pure ())

theorem writeOptional_appends
    {ow : ObjectWriter} {c : Converter} {ty : Ty} {v : Typed} {ctx : Ctx}
    (h : Appends (writeBody ow c ty v ctx)) {k : Unit → Run α} (hk : ∀ u, Appends (k u)) :
    Appends (writeHead c ty v >>= fun b => if b = true then writeBody ow c ty v ctx >>= k else k ()) :=
  Appends.bind (writeHead_appends c ty v) fun _ => Appends.ite (Appends.bind h hk) (hk ())

section Values

variable {ow : ObjectWriter} (how : ∀ t e v ver, Appends (ow t e v ver))
include how

/-- The body of a value only appends: by induction on the converter. -/
theorem writeBody_appends
    (c : Converter) :
    ∀ ty v ctx, Appends (writeBody ow c ty v ctx) := by
  induction c with
  | primitive s =>
      intro ty v ctx
      refine Appends.ite ?_ (Appends.bind (Appends.throw _) fun _ => ?_) <;>
        exact Appends.emit (Emit.Appends.value _)
  | string =>
      intro ty v ctx
      unfold writeBody
      split
      · refine Appends.ite ?_ (Appends.bind (Appends.throw _) fun _ => ?_) <;>
          exact Appends.emit (Emit.Appends.string _)
      · exact Appends.throw _
  | array =>
      intro ty v ctx
      unfold writeBody
      refine Appends.ite ?_ (Appends.bind (Appends.throw _) fun _ => ?_)
      all_goals
        split
        · exact Appends.ite (Appends.emit (Emit.Appends.raw _)) (Appends.throw _)
        · exact Appends.emit (Emit.Appends.bytes _)
  | custom c => exact fun ty v ctx => writeCustom_appends c ty v ctx
  | list t e conv ih =>
      intro ty v ctx
      unfold writeBody
      split
      · refine Appends.ite ?_ (Appends.bind (Appends.throw _) fun _ => ?_)
        all_goals
          refine Appends.bind (Appends.emit (Emit.Appends.count _)) fun _ => ?_
          refine Appends.bind (Appends.forIn (fun item _ => ?_) _) fun _ => Appends.pure _
          exact writeOptional_appends (ih _ _ _) fun _ => Appends.pure _
      · exact Appends.throw _
  | dictionary t k vt sorted kc vc ihk ihv =>
      intro ty v ctx
      unfold writeBody
      split
      · refine Appends.ite ?_ (Appends.bind (Appends.throw _) fun _ => ?_)
        all_goals
          refine Appends.bind (Appends.emit (Emit.Appends.count _)) fun _ => ?_
          refine Appends.ite ?_ ?_
          · refine Appends.bind (Appends.forIn (fun entry _ => ?_) _) fun _ => Appends.pure _
            obtain ⟨a, b⟩ := entry
            refine writeOptional_appends (ihk _ _ _) fun _ => ?_
            exact writeOptional_appends (ihv _ _ _) fun _ => Appends.pure _
          · refine Appends.bind (Appends.forIn (fun entry _ => ?_) _) fun _ => ?_
            · obtain ⟨a, b⟩ := entry
              refine Appends.bind (Appends.scratch _) fun _ => Appends.pure _
            · refine Appends.bind (Appends.forIn (fun bs _ => ?_) _) fun _ => Appends.pure _
              exact Appends.bind (Appends.emit (Emit.Appends.raw bs)) fun _ => Appends.pure _
      · exact Appends.throw _
  | pair t k vt kc vc ihk ihv =>
      intro ty v ctx
      unfold writeBody
      split
      · refine Appends.ite ?_ (Appends.bind (Appends.throw _) fun _ => ?_)
        all_goals
          refine writeOptional_appends (ihk _ _ _) fun _ => ?_
          exact writeValue_appends_of_body (ihv _ _ _)
      · exact Appends.throw _
  | enum t variants =>
      intro ty v ctx
      unfold writeBody
      split
      · refine Appends.ite ?_ (Appends.bind (Appends.throw _) fun _ => ?_)
        all_goals
          split
          · exact Appends.emit (Emit.Appends.string _)
          · exact Appends.throw _
      · exact Appends.throw _
  | nullable t i conv innerNullable ih =>
      intro ty v ctx
      unfold writeBody
      split
      · refine Appends.ite ?_ (Appends.bind (Appends.throw _) fun _ => ?_) <;>
          exact Appends.ite (writeValue_appends_of_body (ih _ _ _)) (ih _ _ _)
      · exact Appends.throw _
  | pointer t i conv ih =>
      intro ty v ctx
      unfold writeBody
      exact Appends.ite (ih _ _ _) (Appends.bind (Appends.throw _) fun _ => ih _ _ _)
  | object t e => exact fun _ v ctx => how t e v ctx.version

theorem writeValue_appends
    (c : Converter) (ty : Ty) (v : Typed) (ctx : Ctx) :
    Appends (writeValue ow c ty v ctx) :=
  writeValue_appends_of_body (writeBody_appends how c ty v ctx)

theorem writeDynamic_appends
    (t : Ty) (v : Typed) (ver : Option Version) :
    Appends (writeDynamic ow t v ver) := by
  unfold writeDynamic
  refine Appends.ite ?_ (Appends.bind (Appends.throw _) fun _ => ?_)
  all_goals
    refine Appends.bind (mappingList_appends t ver) fun l => ?_
    refine Appends.bind (Appends.forIn (fun m _ => ?_) _) fun _ => Appends.pure _
    exact Appends.bind (Appends.lift _) fun _ => Appends.bind (Appends.lift _) fun _ =>
      Appends.bind (writeValue_appends how _ _ _ _) fun _ => Appends.pure _

theorem writeLayout_appends
    (accessors : List Accessor) (v : Value) (ctx : Ctx) :
    Appends (writeLayout ow accessors v ctx) := by
  unfold writeLayout
  refine Appends.bind (Appends.forIn (fun a _ => ?_) _) fun _ => Appends.pure _
  split
  · have hwrite : ∀ value, Appends (writeValue ow a.mapping.converter a.mapping.member.info.ty value
        (ctx.forMember a.mapping.member) >>= fun _ => pure (ForInStep.yield PUnit.unit)) :=
      fun _ => Appends.bind (writeValue_appends how _ _ _ _) fun _ => Appends.pure _
    dsimp only
    split
    · exact Appends.bind (Appends.pure _) hwrite
    · exact Appends.bind (Appends.lift _) fun _ => Appends.bind (Appends.lift _) fun _ =>
        Appends.bind (Appends.pure _) hwrite
  · exact Appends.bind (Appends.throw _) fun _ => Appends.pure _

theorem writeCompiled_appends
    (t : Ty) (v : Typed) (ver : Option Version) :
    Appends (writeCompiled ow t v ver) := by
  unfold writeCompiled
  refine Appends.ite ?_ (Appends.bind (Appends.throw _) fun _ => ?_) <;>
    exact Appends.bind (compiled_appends t ver) fun _ => writeLayout_appends how _ _ _

end Values

theorem writeObject_appends :
    ∀ fuel t e v ver, Appends (writeObject fuel t e v ver)
  | 0, t, e, v, ver => by
      rw [writeObject]
      exact Appends.throw _
  | fuel + 1, t, e, v, ver => by
      rw [writeObject]
      cases e with
      | dynamic => exact writeDynamic_appends (writeObject_appends fuel) t v ver
      | compiled => exact writeCompiled_appends (writeObject_appends fuel) t v ver

end Run
end ObjectWire
