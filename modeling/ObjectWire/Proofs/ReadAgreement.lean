import ObjectWire.Proofs.EngineRelation
/-!
# Decoding on related machines

Decoding reads the input, the catalog (for defaults and for rebuilding maps), the mapping
lists and compiled layouts of nested objects, and the version carried in its context; it
never reads the configured version. So two machines related by an engine relation, reading
the same input from the same position, decode the same value or fail with the same error,
and end related again. Converters alike up to their object engines decode alike when the
object readers do for the engines they name.

The simulation follows the decoder: one lemma per reading step, an induction on the
likeness of the two converters for a value's body (given object readers that simulate each
other), and an induction on the depth bound for the object reader itself.

**Results.**
* `readValue_sim`: a value with its null flag decodes alike through alike converters.
* `readObject_sim`: objects decode alike through either engine, at every depth bound.
-/

namespace ObjectWire
namespace Run

variable {α : Type} {R : Machine → Machine → Prop} {E : Engine → Engine → Prop}

theorem readHead_congr
    {c₁ c₂ : Converter} (hc : Converter.Alike E c₁ c₂) (ty : Ty) :
    readHead c₁ ty = readHead c₂ ty := by
  unfold readHead
  rw [hc.target_eq, hc.handlesNull_eq]

theorem defaultOf_sim
    (hR : ViewRel R) (t : Ty) :
    Sim R (defaultOf t) (defaultOf t) :=
  Sim.bind (catalog_sim hR) fun _ => Sim.pure _

section Steps

variable (hR : EngineRel R)
include hR

theorem readHead_sim
    (c : Converter) (ty : Ty) :
    Sim R (readHead c ty) (readHead c ty) := by
  unfold readHead
  refine Sim.ite (Sim.bind (Sim.throw _) fun _ => ?_) ?_ <;>
    exact Sim.ite (Sim.bind (take_sim hR _) fun _ => Sim.pure _) (Sim.pure _)

theorem readCustom_sim
    (c : CustomConverter) :
    Sim R (readCustom c) (readCustom c) := by
  cases c with
  | bigEndianU16 => exact Sim.bind (take_sim hR _) fun _ => Sim.pure _
  | decimalU32 =>
      refine Sim.bind (take_sim hR _) fun s => ?_
      cases parseU32? s with
      | some n => exact Sim.pure _
      | none => exact Sim.throw _
  | wide32 =>
      refine Sim.bind (take_sim hR _) fun bs => ?_
      exact Sim.ite (Sim.pure _) (Sim.throw _)
  | celsius mode => exact Sim.bind (take_sim hR _) fun _ => Sim.pure _
  | probe =>
      exact Sim.bind (take_sim hR _) fun _ => Sim.bind (take_sim hR _) fun _ => Sim.pure _

theorem readValue_sim_of_body
    {orr₁ orr₂ : ObjectReader} {c₁ c₂ : Converter} {ty : Ty} {ctx : Ctx}
    (hc : Converter.Alike E c₁ c₂)
    (h : Sim R (readBody orr₁ c₁ ty ctx) (readBody orr₂ c₂ ty ctx)) :
    Sim R (readValue orr₁ c₁ ty ctx) (readValue orr₂ c₂ ty ctx) := by
  unfold readValue
  rw [readHead_congr hc]
  exact Sim.bind (readHead_sim hR c₂ ty) fun _ => Sim.ite h (defaultOf_sim hR.toViewRel ty)

theorem readOptional_sim
    {β : Type} {orr₁ orr₂ : ObjectReader} {c₁ c₂ : Converter} {ty : Ty} {ctx : Ctx}
    {k₁ k₂ : Value → Run β} (hc : Converter.Alike E c₁ c₂)
    (h : Sim R (readBody orr₁ c₁ ty ctx) (readBody orr₂ c₂ ty ctx))
    (hk : ∀ x, Sim R (k₁ x) (k₂ x)) :
    Sim R
      (readHead c₁ ty >>= fun b => if b = true then readBody orr₁ c₁ ty ctx >>= k₁ else defaultOf ty >>= k₁)
      (readHead c₂ ty >>= fun b => if b = true then readBody orr₂ c₂ ty ctx >>= k₂ else defaultOf ty >>= k₂) := by
  rw [readHead_congr hc]
  exact Sim.bind (readHead_sim hR c₂ ty) fun _ =>
    Sim.ite (Sim.bind h hk) (Sim.bind (defaultOf_sim hR.toViewRel ty) hk)

section Bodies

variable {orr₁ orr₂ : ObjectReader}
  (horr : ∀ t e₁ e₂ v, E e₁ e₂ → Sim R (orr₁ t e₁ v) (orr₂ t e₂ v))
include horr

/-- The bodies of a value decode alike: by induction on the likeness of the converters,
each part through the converters that read it. -/
theorem readBody_sim
    {c₁ c₂ : Converter} (hc : Converter.Alike E c₁ c₂) :
    ∀ ty ctx, Sim R (readBody orr₁ c₁ ty ctx) (readBody orr₂ c₂ ty ctx) := by
  induction hc with
  | primitive s => exact fun _ _ => take_sim hR _
  | string => exact fun _ _ => Sim.bind (take_sim hR _) fun _ => Sim.pure _
  | array =>
      intro ty ctx
      unfold readBody
      cases ctx.segment with
      | some seg => exact Sim.bind (take_sim hR _) fun _ => Sim.pure _
      | none => exact Sim.bind (take_sim hR _) fun _ => Sim.pure _
  | custom c => exact fun _ _ => readCustom_sim hR c
  | list t e hconv ih =>
      intro ty ctx
      refine Sim.bind (take_sim hR _) fun n => ?_
      refine Sim.bind (Sim.forIn (fun _ items => ?_) _) fun _ => Sim.pure _
      exact readOptional_sim hR hconv (ih _ _) fun _ => Sim.pure _
  | dictionary t k vt sorted hk hv ihk ihv =>
      intro ty ctx
      refine Sim.bind (take_sim hR _) fun n => ?_
      refine Sim.bind (Sim.forIn (fun _ entries => ?_) _) fun _ =>
        Sim.bind (catalog_sim hR.toViewRel) fun _ => Sim.pure _
      exact readOptional_sim hR hk (ihk _ _) fun _ =>
        readOptional_sim hR hv (ihv _ _) fun _ => Sim.pure _
  | pair t k vt hk hv ihk ihv =>
      exact fun _ _ => readOptional_sim hR hk (ihk _ _) fun _ =>
        readOptional_sim hR hv (ihv _ _) fun _ => Sim.pure _
  | enum t variants =>
      intro ty ctx
      refine Sim.bind (take_sim hR _) fun wire => ?_
      cases variants.find? (·.2 == wire) with
      | some entry => exact Sim.pure _
      | none => exact Sim.throw _
  | nullable t i innerNullable hconv ih =>
      intro ty ctx
      refine Sim.ite ?_ (Sim.bind (ih _ _) fun _ => Sim.pure _)
      rw [readHead_congr hconv]
      exact Sim.bind (readHead_sim hR _ _) fun _ =>
        Sim.bind (Sim.ite (ih _ _) (defaultOf_sim hR.toViewRel _)) fun _ => Sim.pure _
  | pointer t i hconv ih => exact fun _ _ => ih _ _
  | object t he => exact fun _ ctx => horr t _ _ ctx.version he

theorem readValue_sim
    {c₁ c₂ : Converter} (hc : Converter.Alike E c₁ c₂) (ty : Ty) (ctx : Ctx) :
    Sim R (readValue orr₁ c₁ ty ctx) (readValue orr₂ c₂ ty ctx) :=
  readValue_sim_of_body hR hc (readBody_sim hR horr hc ty ctx)

end Bodies

end Steps

theorem updateAt_sim
    {k : Typed → Run Value} (hk : ∀ x, Sim R (k x) (k x)) :
    ∀ path root, Sim R (updateAt path root k) (updateAt path root k)
  | [], root => by
      rw [updateAt]
      exact hk root
  | hop :: rest, root => by
      rw [updateAt]
      exact Sim.bind (Sim.lift _) fun _ => Sim.bind (updateAt_sim hk rest _) fun _ => Sim.pure _

theorem storeMember_sim
    (hR : ViewRel R) (d : Descriptor) (v : Value) (owner : Typed) :
    Sim R (storeMember d v owner) (storeMember d v owner) := by
  refine Sim.bind (Sim.lift _) fun o => ?_
  cases o with
  | some o => exact Sim.pure _
  | none => exact Sim.bind (log_sim hR _ _) fun _ => Sim.pure _

theorem objectReaders_sim_eq
    {orr₁ orr₂ : ObjectReader} (horr : ∀ t e v, Sim R (orr₁ t e v) (orr₂ t e v)) :
    ∀ t e₁ e₂ v, e₁ = e₂ → Sim R (orr₁ t e₁ v) (orr₂ t e₂ v) := by
  rintro t e _ v rfl
  exact horr t e v

section Objects

variable (hR : EngineRel R) {orr₁ orr₂ : ObjectReader}
  (horr : ∀ t e v, Sim R (orr₁ t e v) (orr₂ t e v))
include hR horr

theorem readDynamicInto_sim
    (t : Ty) (target : Typed) (ver : Option Version) :
    Sim R (readDynamicInto orr₁ t target ver) (readDynamicInto orr₂ t target ver) := by
  unfold readDynamicInto
  refine Sim.ite ?_ (Sim.bind (Sim.throw _) fun _ => ?_)
  all_goals
    refine Sim.bind (hR.mappingList t ver) fun l => ?_
    refine Sim.bind (Sim.forIn (fun m _ => ?_) _) fun _ => Sim.pure _
    exact Sim.bind (readValue_sim hR (objectReaders_sim_eq horr) (.refl _) _ _) fun v =>
      Sim.bind (updateAt_sim (storeMember_sim hR.toViewRel m.member v) _ _) fun _ => Sim.pure _

/-- The compiled engine: each accessor reads its member alike and stores it the same way. -/
theorem readLayout_sim
    (accessors : List Accessor) (target : Value) (ctx : Ctx) :
    Sim R (readLayout orr₁ accessors target ctx) (readLayout orr₂ accessors target ctx) := by
  unfold readLayout
  refine Sim.bind (Sim.forIn (fun a cur => ?_) _) fun _ => Sim.pure _
  refine Sim.bind (readValue_sim hR (objectReaders_sim_eq horr) (.refl _) _ _) fun v => ?_
  cases a.mapping.path with
  | nil =>
      cases a.typed.set with
      | some s => exact Sim.bind (Sim.lift _) fun _ => Sim.pure _
      | none => exact Sim.bind (log_sim hR.toViewRel _ _) fun _ => Sim.pure _
  | cons head rest =>
      cases a.typed.getMut with
      | some field =>
          exact Sim.bind (updateAt_sim (storeMember_sim hR.toViewRel _ v) _ _) fun _ =>
            Sim.pure _
      | none => exact Sim.bind (Sim.throw _) fun _ => Sim.pure _

end Objects

/-- The object reader decodes alike at every depth bound: by induction on the bound, each
nested object through the reader one level shallower. -/
theorem readObject_sim
    (hR : EngineRel R) :
    ∀ fuel t e ver, Sim R (readObject fuel t e ver) (readObject fuel t e ver)
  | 0, t, e, ver => by
      rw [readObject]
      exact Sim.throw _
  | fuel + 1, t, e, ver => by
      rw [readObject]
      cases e with
      | dynamic =>
          exact Sim.bind (defaultOf_sim hR.toViewRel t) fun _ =>
            readDynamicInto_sim hR (readObject_sim hR fuel) t _ ver
      | compiled =>
          exact Sim.bind (compiled_sim hR.toViewRel hR.mappingList t ver) fun _ =>
            Sim.bind (defaultOf_sim hR.toViewRel t) fun _ =>
              readLayout_sim hR (readObject_sim hR fuel) _ _ _

@[simp] theorem objectReader_run
    (m : Machine) :
    objectReader.run m = .ok (readObject (m.reader.input.size + 2)) m := by
  rfl

theorem objectReader_sim
    (hR : EngineRel R) :
    Sim R objectReader objectReader := by
  intro m₁ m₂ h
  rw [objectReader_run, objectReader_run, hR.reader_eq h]
  exact ⟨rfl, h⟩

end Run
end ObjectWire
