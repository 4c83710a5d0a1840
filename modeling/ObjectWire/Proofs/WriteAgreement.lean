import ObjectWire.Proofs.EngineRelation
/-!
# Encoding on related machines

Encoding a value reads the value, the writer's encoding, the mapping lists and compiled
layouts of nested objects and the version carried in its context, and writes to the sink.
So two machines related by an engine relation encode a value alike: the same bytes, or the
same error, ending related again. As for decoding, converters alike up to their object
engines encode alike when the object writers do for the engines they name.

**Results.**
* `writeValue_sim`: a value with its null flag encodes alike through alike converters.
* `writeObject_sim`: objects encode alike through either engine, at every depth bound.
-/

namespace ObjectWire
namespace Run

variable {α : Type} {R : Machine → Machine → Prop} {E : Engine → Engine → Prop}

theorem writeHead_congr
    {c₁ c₂ : Converter} (hc : Converter.Alike E c₁ c₂) (ty : Ty) (v : Typed) :
    writeHead c₁ ty v = writeHead c₂ ty v := by
  unfold writeHead
  rw [hc.target_eq, hc.handlesNull_eq]

section Steps

variable (hR : EngineRel R)
include hR

theorem writeHead_sim
    (c : Converter) (ty : Ty) (v : Typed) :
    Sim R (writeHead c ty v) (writeHead c ty v) := by
  unfold writeHead
  refine Sim.ite (Sim.bind (Sim.throw _) fun _ => ?_) ?_ <;>
    exact Sim.ite (Sim.bind (emit_sim hR _) fun _ => Sim.pure _) (Sim.pure _)

theorem writeCustom_sim
    (c : CustomConverter) (ty : Ty) (v : Typed) (ctx : Ctx) :
    Sim R (writeCustom c ty v ctx) (writeCustom c ty v ctx) := by
  unfold writeCustom
  refine Sim.ite ?_ (Sim.bind (Sim.throw _) fun _ => ?_)
  all_goals
    split
    · exact emit_sim hR _
    · exact emit_sim hR _
    · exact emit_sim hR _
    · exact emit_sim hR _
    · exact emit_sim hR _
    · refine Sim.get_bind fun m₁ m₂ hm => ?_
      rw [hR.writer_eq hm]
      exact Sim.bind (emit_sim hR _) fun _ => emit_sim hR _
    · exact Sim.throw _

theorem writeValue_sim_of_body
    {ow₁ ow₂ : ObjectWriter} {c₁ c₂ : Converter} {ty : Ty} {v : Typed} {ctx : Ctx}
    (hc : Converter.Alike E c₁ c₂)
    (h : Sim R (writeBody ow₁ c₁ ty v ctx) (writeBody ow₂ c₂ ty v ctx)) :
    Sim R (writeValue ow₁ c₁ ty v ctx) (writeValue ow₂ c₂ ty v ctx) := by
  unfold writeValue
  rw [writeHead_congr hc]
  exact Sim.bind (writeHead_sim hR c₂ ty v) fun _ => Sim.ite h (Sim.pure ())

theorem writeOptional_sim
    {ow₁ ow₂ : ObjectWriter} {c₁ c₂ : Converter} {ty : Ty} {v : Typed} {ctx : Ctx}
    (hc : Converter.Alike E c₁ c₂)
    (h : Sim R (writeBody ow₁ c₁ ty v ctx) (writeBody ow₂ c₂ ty v ctx))
    {k₁ k₂ : Unit → Run α} (hk : ∀ u, Sim R (k₁ u) (k₂ u)) :
    Sim R (writeHead c₁ ty v >>= fun b => if b = true then writeBody ow₁ c₁ ty v ctx >>= k₁ else k₁ ())
      (writeHead c₂ ty v >>= fun b => if b = true then writeBody ow₂ c₂ ty v ctx >>= k₂ else k₂ ()) := by
  rw [writeHead_congr hc]
  exact Sim.bind (writeHead_sim hR c₂ ty v) fun _ => Sim.ite (Sim.bind h hk) (hk ())

section Values

variable {ow₁ ow₂ : ObjectWriter}
  (how : ∀ t e₁ e₂ v ver, E e₁ e₂ → Sim R (ow₁ t e₁ v ver) (ow₂ t e₂ v ver))
include how

/-- The bodies of a value encode alike: by induction on the likeness of the converters. -/
theorem writeBody_sim
    {c₁ c₂ : Converter} (hc : Converter.Alike E c₁ c₂) :
    ∀ ty v ctx, Sim R (writeBody ow₁ c₁ ty v ctx) (writeBody ow₂ c₂ ty v ctx) := by
  induction hc with
  | primitive s =>
      intro ty v ctx
      refine Sim.ite ?_ (Sim.bind (Sim.throw _) fun _ => ?_) <;> exact emit_sim hR _
  | string =>
      intro ty v ctx
      unfold writeBody
      split
      · refine Sim.ite ?_ (Sim.bind (Sim.throw _) fun _ => ?_) <;> exact emit_sim hR _
      · exact Sim.throw _
  | array =>
      intro ty v ctx
      unfold writeBody
      refine Sim.ite ?_ (Sim.bind (Sim.throw _) fun _ => ?_)
      all_goals
        split
        · exact Sim.ite (emit_sim hR _) (Sim.throw _)
        · exact emit_sim hR _
  | custom c => exact fun ty v ctx => writeCustom_sim hR c ty v ctx
  | list t e hconv ih =>
      intro ty v ctx
      unfold writeBody
      split
      · refine Sim.ite ?_ (Sim.bind (Sim.throw _) fun _ => ?_)
        all_goals
          refine Sim.bind (emit_sim hR _) fun _ => ?_
          refine Sim.bind (Sim.forIn (fun item _ => ?_) _) fun _ => Sim.pure _
          exact writeOptional_sim hR hconv (ih _ _ _) fun _ => Sim.pure _
      · exact Sim.throw _
  | dictionary t k vt sorted hk hv ihk ihv =>
      intro ty v ctx
      unfold writeBody
      split
      · refine Sim.ite ?_ (Sim.bind (Sim.throw _) fun _ => ?_)
        all_goals
          refine Sim.bind (emit_sim hR _) fun _ => ?_
          refine Sim.ite ?_ ?_
          · refine Sim.bind (Sim.forIn (fun entry _ => ?_) _) fun _ => Sim.pure _
            obtain ⟨a, b⟩ := entry
            exact writeOptional_sim hR hk (ihk _ _ _) fun _ =>
              writeOptional_sim hR hv (ihv _ _ _) fun _ => Sim.pure _
          · refine Sim.bind (Sim.forIn (fun entry _ => ?_) _) fun _ => ?_
            · obtain ⟨a, b⟩ := entry
              refine Sim.bind (scratch_sim hR ?_) fun _ => Sim.pure _
              exact writeOptional_sim hR hk (ihk _ _ _) fun _ =>
                writeValue_sim_of_body hR hv (ihv _ _ _)
            · refine Sim.bind (Sim.forIn (fun bs _ => ?_) _) fun _ => Sim.pure _
              exact Sim.bind (emit_sim hR _) fun _ => Sim.pure _
      · exact Sim.throw _
  | pair t k vt hk hv ihk ihv =>
      intro ty v ctx
      unfold writeBody
      split
      · refine Sim.ite ?_ (Sim.bind (Sim.throw _) fun _ => ?_)
        all_goals
          exact writeOptional_sim hR hk (ihk _ _ _) fun _ =>
            writeValue_sim_of_body hR hv (ihv _ _ _)
      · exact Sim.throw _
  | enum t variants =>
      intro ty v ctx
      unfold writeBody
      split
      · refine Sim.ite ?_ (Sim.bind (Sim.throw _) fun _ => ?_)
        all_goals
          split
          · exact emit_sim hR _
          · exact Sim.throw _
      · exact Sim.throw _
  | nullable t i innerNullable hconv ih =>
      intro ty v ctx
      unfold writeBody
      split
      · refine Sim.ite ?_ (Sim.bind (Sim.throw _) fun _ => ?_) <;>
          exact Sim.ite (writeValue_sim_of_body hR hconv (ih _ _ _)) (ih _ _ _)
      · exact Sim.throw _
  | pointer t i hconv ih =>
      intro ty v ctx
      unfold writeBody
      exact Sim.ite (ih _ _ _) (Sim.bind (Sim.throw _) fun _ => ih _ _ _)
  | object t he => exact fun _ v ctx => how t _ _ v ctx.version he

theorem writeValue_sim
    {c₁ c₂ : Converter} (hc : Converter.Alike E c₁ c₂) (ty : Ty) (v : Typed) (ctx : Ctx) :
    Sim R (writeValue ow₁ c₁ ty v ctx) (writeValue ow₂ c₂ ty v ctx) :=
  writeValue_sim_of_body hR hc (writeBody_sim hR how hc ty v ctx)

end Values

end Steps

theorem objectWriters_sim_eq
    {ow₁ ow₂ : ObjectWriter} (how : ∀ t e v ver, Sim R (ow₁ t e v ver) (ow₂ t e v ver)) :
    ∀ t e₁ e₂ v ver, e₁ = e₂ → Sim R (ow₁ t e₁ v ver) (ow₂ t e₂ v ver) := by
  rintro t e _ v ver rfl
  exact how t e v ver

section Objects

variable (hR : EngineRel R) {ow₁ ow₂ : ObjectWriter}
  (how : ∀ t e v ver, Sim R (ow₁ t e v ver) (ow₂ t e v ver))
include hR how

theorem writeDynamic_sim
    (t : Ty) (v : Typed) (ver : Option Version) :
    Sim R (writeDynamic ow₁ t v ver) (writeDynamic ow₂ t v ver) := by
  unfold writeDynamic
  refine Sim.ite ?_ (Sim.bind (Sim.throw _) fun _ => ?_)
  all_goals
    refine Sim.bind (hR.mappingList t ver) fun l => ?_
    refine Sim.bind (Sim.forIn (fun m _ => ?_) _) fun _ => Sim.pure _
    exact Sim.bind (Sim.lift _) fun owner => Sim.bind (Sim.lift _) fun r =>
      Sim.bind (writeValue_sim hR (objectWriters_sim_eq how) (.refl _) _ _ _) fun _ => Sim.pure _

/-- The compiled engine: each accessor reaches its member and writes it alike. -/
theorem writeLayout_sim
    (accessors : List Accessor) (v : Value) (ctx : Ctx) :
    Sim R (writeLayout ow₁ accessors v ctx) (writeLayout ow₂ accessors v ctx) := by
  unfold writeLayout
  refine Sim.bind (Sim.forIn (fun a _ => ?_) _) fun _ => Sim.pure _
  cases a.typed.get with
  | none => exact Sim.bind (Sim.throw _) fun _ => Sim.pure _
  | some get =>
      dsimp only
      have hwrite : ∀ value, Sim R
          (writeValue ow₁ a.mapping.converter a.mapping.member.info.ty value
            (ctx.forMember a.mapping.member) >>= fun _ => pure (ForInStep.yield PUnit.unit))
          (writeValue ow₂ a.mapping.converter a.mapping.member.info.ty value
            (ctx.forMember a.mapping.member) >>= fun _ => pure (ForInStep.yield PUnit.unit)) :=
        fun value => Sim.bind (writeValue_sim hR (objectWriters_sim_eq how) (.refl _) _ _ _) fun _ =>
          Sim.pure _
      split
      · exact Sim.bind (Sim.pure _) hwrite
      · exact Sim.bind (Sim.lift _) fun _ => Sim.bind (Sim.lift _) fun _ =>
          Sim.bind (Sim.pure _) hwrite

theorem writeCompiled_sim
    (t : Ty) (v : Typed) (ver : Option Version) :
    Sim R (writeCompiled ow₁ t v ver) (writeCompiled ow₂ t v ver) := by
  unfold writeCompiled
  refine Sim.ite ?_ (Sim.bind (Sim.throw _) fun _ => ?_) <;>
    exact Sim.bind (compiled_sim hR.toViewRel hR.mappingList t ver) fun _ =>
      writeLayout_sim hR how _ _ _

end Objects

theorem writeObject_sim
    (hR : EngineRel R) :
    ∀ fuel t e v ver, Sim R (writeObject fuel t e v ver) (writeObject fuel t e v ver)
  | 0, t, e, v, ver => by
      rw [writeObject]
      exact Sim.throw _
  | fuel + 1, t, e, v, ver => by
      rw [writeObject]
      cases e with
      | dynamic => exact writeDynamic_sim hR (writeObject_sim hR fuel) t v ver
      | compiled => exact writeCompiled_sim hR (writeObject_sim hR fuel) t v ver

end Run
end ObjectWire
