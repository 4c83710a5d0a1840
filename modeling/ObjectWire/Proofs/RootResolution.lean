import ObjectWire.Proofs.EngineRelation
/-!
# Root converters of the two engines

A root that is not an object travels through the converter its root request resolves, and
a root request names one engine for every object inside the type. The two engines' requests
differ in that engine alone, and the resolver reads a request's engines only to put them
into object converters: the steps before the type's shape (a member's own converter, a
segment, the registry) read the selection and the segment, and the shape passes the engine
down. So the two resolutions give converters of one shape, or fail alike (`resolve_twin`),
and the root plans made with them are alike (`rootPlan_engines`): the nested checks read
only the object types a converter reaches, the same for both.

Values that differ between two runs are compared by `SimBy`, a simulation whose two sides
return related values instead of equal ones.

**Results.**
* `Resolve.resolve_twin`: requests that differ only in their engines resolve alike.
* `rootPlan_engines`: fresh root plans of the two engines are alike, or fail alike.
-/

namespace ObjectWire

/-- Converters alike up to the engines of their object converters. -/
abbrev Converter.Like : Converter → Converter → Prop := Converter.Alike fun _ _ => True

/-- Outcomes of one computation on two sides: the same error, or values related by `V`. -/
def ExceptRel {α β : Type} (V : α → β → Prop) : Except Error α → Except Error β → Prop
  | .error e₁, .error e₂ => e₁ = e₂
  | .ok a, .ok b => V a b
  | _, _ => False

namespace ExceptRel

variable {α β γ δ : Type} {V : α → β → Prop} {W : γ → δ → Prop}

theorem ok_bind
    {a : α} {k : α → Except Error γ} :
    (Except.ok a >>= k) = k a :=
  rfl

theorem like_rfl : ∀ x : Except Error (Option Converter), ExceptRel (Option.Rel Converter.Like) x x
  | .error _ => rfl
  | .ok none => .none
  | .ok (some c) => .some ((Converter.Alike.refl c).mono fun _ _ _ => trivial)

theorem bind
    {x₁ : Except Error α} {x₂ : Except Error β} (h : ExceptRel V x₁ x₂)
    {k₁ : α → Except Error γ} {k₂ : β → Except Error δ}
    (hk : ∀ a b, V a b → ExceptRel W (k₁ a) (k₂ b)) :
    ExceptRel W (x₁ >>= k₁) (x₂ >>= k₂) := by
  cases x₁ with
  | error e₁ =>
      cases x₂ with
      | error e₂ =>
          cases h
          exact rfl
      | ok b => exact h.elim
  | ok a =>
      cases x₂ with
      | error e₂ => exact h.elim
      | ok b => exact hk a b h

end ExceptRel


namespace Request

/-- Requests that differ at most in which engines they name. -/
structure Twin (r₁ r₂ : Request) : Prop where
  selection : r₁.selection = r₂.selection
  segment : r₁.segment = r₂.segment
  label : r₁.label = r₂.label
  object : r₁.object.isSome = r₂.object.isSome
  elements : r₁.plan.elements.isSome = r₂.plan.elements.isSome
  keys : r₁.plan.keys.isSome = r₂.plan.keys.isSome
  values : r₁.plan.values.isSome = r₂.plan.values.isSome

theorem Twin.nested
    {r₁ r₂ : Request} (h : r₁.Twin r₂) {o₁ o₂ : Option Engine} (ho : o₁.isSome = o₂.isSome) :
    (r₁.nested o₁).Twin (r₂.nested o₂) :=
  ⟨rfl, rfl, h.label, ho, h.elements, h.keys, h.values⟩

theorem twin_root
    (e₁ e₂ : Engine) (label : String) :
    (Request.root e₁ label).Twin (Request.root e₂ label) :=
  ⟨rfl, rfl, rfl, rfl, rfl, rfl, rfl⟩

end Request

namespace Resolve

variable (reg : List Converter) (cat : Catalog)

theorem chosen_twin
    {t : Ty} {r₁ r₂ : Request} (h : r₁.Twin r₂) :
    chosen reg t r₁ = chosen reg t r₂ := by
  unfold chosen
  rw [h.selection, h.segment]

theorem list_like
    (t e : Ty) {c₁ c₂ : Option Converter} (hc : Option.Rel Converter.Like c₁ c₂) (label : String) :
    ExceptRel (Option.Rel Converter.Like) (resolve.list t e c₁ label) (resolve.list t e c₂ label) := by
  cases hc with
  | some hc => exact .some (.list t e hc)
  | none => exact rfl

theorem parts_like
    (k v : Ty) {kc₁ kc₂ vc₁ vc₂ : Option Converter} (hk : Option.Rel Converter.Like kc₁ kc₂)
    (hv : Option.Rel Converter.Like vc₁ vc₂) (label : String) :
    ExceptRel (fun p q => Converter.Like p.1 q.1 ∧ Converter.Like p.2 q.2)
      (resolve.parts k v kc₁ vc₁ label) (resolve.parts k v kc₂ vc₂ label) := by
  cases hk with
  | none => exact rfl
  | some hk =>
      cases hv with
      | none => exact rfl
      | some hv => exact ⟨hk, hv⟩

theorem object_like
    {o₁ o₂ : Option Engine} (ho : o₁.isSome = o₂.isSome) (t : Ty) :
    Option.Rel Converter.Like (o₁.map (.object t ·)) (o₂.map (.object t ·)) := by
  cases o₁ <;> cases o₂
  · exact .none
  · cases ho
  · cases ho
  · exact .some (.object t trivial)

/-- The steps before the shape read only what twin requests share: when they decide, the
two resolutions decide alike, so only the case where both go on to the shape is left. -/
theorem resolve_twin_of
    {t : Ty} {r₁ r₂ : Request} (h : r₁.Twin r₂)
    (hshape : chosen reg t r₂ = .ok none →
      ExceptRel (Option.Rel Converter.Like) (resolve reg cat t r₁) (resolve reg cat t r₂)) :
    ExceptRel (Option.Rel Converter.Like) (resolve reg cat t r₁) (resolve reg cat t r₂) := by
  cases hc : chosen reg t r₂ with
  | error e =>
      unfold resolve
      rw [chosen_twin reg h, hc]
      exact rfl
  | ok found =>
      cases found with
      | none => exact hshape hc
      | some c =>
          unfold resolve
          rw [chosen_twin reg h, hc]
          exact ExceptRel.like_rfl _

theorem resolve_twin :
    ∀ (t : Ty) {r₁ r₂ : Request}, r₁.Twin r₂ →
      ExceptRel (Option.Rel Converter.Like) (resolve reg cat t r₁) (resolve reg cat t r₂) := by
  intro t
  induction t with
  | scalar _ | string | placeholder | newtype _ _ | enum _ =>
      intro r₁ r₂ h
      unfold resolve
      rw [chosen_twin reg h]
      exact ExceptRel.like_rfl _
  | option i ih =>
      intro r₁ r₂ h
      refine resolve_twin_of reg cat h fun hc => ?_
      unfold resolve
      rw [chosen_twin reg h, hc]
      simp only [ExceptRel.ok_bind]
      refine (ih (h.nested h.object)).bind fun c₁ c₂ hc => ?_
      cases hc with
      | none => exact Option.Rel.none
      | some hc => exact Option.Rel.some (.nullable _ _ _ hc)
  | box i ih =>
      intro r₁ r₂ h
      refine resolve_twin_of reg cat h fun hc => ?_
      unfold resolve
      rw [chosen_twin reg h, hc]
      simp only [ExceptRel.ok_bind]
      refine (ih (h.nested h.object)).bind fun c₁ c₂ hc => ?_
      cases hc with
      | none => exact Option.Rel.none
      | some hc => exact Option.Rel.some (.pointer _ _ hc)
  | vec e ih | deque e ih =>
      intro r₁ r₂ h
      refine resolve_twin_of reg cat h fun hc => ?_
      unfold resolve
      rw [chosen_twin reg h, hc]
      simp only [ExceptRel.ok_bind]
      rw [h.label]
      exact (ih (h.nested h.elements)).bind fun c₁ c₂ hc => list_like _ _ hc _
  | hashMap k v ihk ihv | btreeMap k v ihk ihv | pair k v ihk ihv =>
      intro r₁ r₂ h
      refine resolve_twin_of reg cat h fun hc => ?_
      unfold resolve
      rw [chosen_twin reg h, hc]
      simp only [ExceptRel.ok_bind]
      rw [h.label]
      refine (ihk (h.nested h.keys)).bind fun kc₁ kc₂ hk => (ihv (h.nested h.values)).bind
        fun vc₁ vc₂ hv => (parts_like k v hk hv _).bind fun ⟨kc₁, vc₁⟩ ⟨kc₂, vc₂⟩ hp => ?_
      refine Option.Rel.some ?_
      constructor
      · exact hp.1
      · exact hp.2
  | object p =>
      intro r₁ r₂ h
      refine resolve_twin_of reg cat h fun hc => ?_
      unfold resolve
      rw [chosen_twin reg h, hc]
      simp only [ExceptRel.ok_bind]
      exact object_like h.object _

end Resolve

/-- Root plans alike up to the engines of object converters. -/
inductive RootPlan.Like : RootPlan → RootPlan → Prop
  | object : RootPlan.Like .object .object
  | converter {c₁ c₂ : Converter} : Converter.Like c₁ c₂ → RootPlan.Like (.converter c₁) (.converter c₂)

namespace Run

variable {α β γ δ : Type} {R : Machine → Machine → Prop} {V : α → β → Prop} {W : γ → δ → Prop}

/-- Outcomes whose values are related by `V`, or the same error, in `R`-related machines. -/
def Matches (V : α → β → Prop) (R : Machine → Machine → Prop) :
    EStateM.Result Error Machine α → EStateM.Result Error Machine β → Prop
  | .ok a m₁, .ok b m₂ => V a b ∧ R m₁ m₂
  | .error e₁ m₁, .error e₂ m₂ => e₁ = e₂ ∧ R m₁ m₂
  | _, _ => False

/-- From `R`-related machines, `f` and `g` have outcomes related by `V`: a simulation whose
sides may return different values. -/
def SimBy (V : α → β → Prop) (R : Machine → Machine → Prop) (f : Run α) (g : Run β) : Prop :=
  ∀ m₁ m₂, R m₁ m₂ → Matches V R (f.run m₁) (g.run m₂)

/-- A step with matching outcomes, then continuations that match at related values. -/
theorem Matches.bind
    {f : Run α} {g : Run β} {m₁ m₂ : Machine} (h : Matches V R (f.run m₁) (g.run m₂))
    {k : α → Run γ} {l : β → Run δ} (hk : ∀ a b, V a b → SimBy W R (k a) (l b)) :
    Matches W R ((f >>= k).run m₁) ((g >>= l).run m₂) := by
  rw [EStateM.run_bind, EStateM.run_bind]
  cases h₁ : f.run m₁ with
  | ok a m₁' =>
      cases h₂ : g.run m₂ with
      | ok b m₂' =>
          rw [h₁, h₂] at h
          exact hk a b h.1 m₁' m₂' h.2
      | error e m₂' =>
          rw [h₁, h₂] at h
          exact h.elim
  | error e m₁' =>
      cases h₂ : g.run m₂ with
      | ok b m₂' =>
          rw [h₁, h₂] at h
          exact h.elim
      | error e' m₂' =>
          rw [h₁, h₂] at h
          exact h

namespace SimBy

theorem bind
    {f : Run α} {g : Run β} (hf : SimBy V R f g) {k : α → Run γ} {l : β → Run δ}
    (hk : ∀ a b, V a b → SimBy W R (k a) (l b)) :
    SimBy W R (f >>= k) (g >>= l) :=
  fun m₁ m₂ h => (hf m₁ m₂ h).bind hk

theorem of_sim
    {f g : Run α} (h : Sim R f g) :
    SimBy Eq R f g := by
  intro m₁ m₂ hm
  have hc := h m₁ m₂ hm
  cases h₁ : f.run m₁ with
  | ok a m₁' =>
      rw [h₁] at hc
      obtain ⟨m₂', h₂, hR⟩ := hc.ok_left
      rw [h₂]
      exact ⟨rfl, hR⟩
  | error e m₁' =>
      rw [h₁] at hc
      obtain ⟨m₂', h₂, hR⟩ := hc.error_left
      rw [h₂]
      exact ⟨rfl, hR⟩

theorem pure
    {a : α} {b : β} (h : V a b) :
    SimBy V R (Pure.pure a) (Pure.pure b) :=
  fun _ _ hm => ⟨h, hm⟩

theorem throw
    (e : Error) :
    SimBy V R (MonadExcept.throw e) (MonadExcept.throw e) :=
  fun _ _ hm => ⟨rfl, hm⟩

theorem lift
    {x : Except Error α} {y : Except Error β} (h : ExceptRel V x y) :
    SimBy V R (Run.lift x) (Run.lift y) := by
  intro m₁ m₂ hm
  cases x with
  | error e₁ =>
      cases y with
      | error e₂ => exact ⟨h, hm⟩
      | ok b => exact h.elim
  | ok a =>
      cases y with
      | error e₂ => exact h.elim
      | ok b => exact ⟨h, hm⟩

end SimBy

theorem Matches.corresponds
    {r₁ r₂ : EStateM.Result Error Machine α} (h : Matches Eq R r₁ r₂) :
    Corresponds R r₁ r₂ := by
  cases r₁ <;> cases r₂
  all_goals first | exact h.elim | exact h

theorem Matches.bind_sim
    {f : Run α} {g : Run β} {m₁ m₂ : Machine} (h : Matches V R (f.run m₁) (g.run m₂))
    {k : α → Run γ} {l : β → Run γ} (hk : ∀ a b, V a b → Sim R (k a) (l b)) :
    Corresponds R ((f >>= k).run m₁) ((g >>= l).run m₂) :=
  (h.bind fun a b hab => SimBy.of_sim (hk a b hab)).corresponds

theorem checkNested_congr
    {c₁ c₂ : Converter} (h : c₁.nestedObjects = c₂.nestedObjects) (fuel : Nat) (v : Option Version)
    (visiting : List Ty) :
    checkNested fuel c₁ v visiting = checkNested fuel c₂ v visiting := by
  cases fuel with
  | zero => rfl
  | succ fuel => simp only [checkNested, h]

/-- A root plan made afresh for each engine on related machines with one configured version:
the same object plan, or converters alike but for their engines, or the same failure. -/
theorem rootPlan_engines
    (hR : SessionRel R) {m₁ m₂ : Machine} (h : R m₁ m₂) {t : Ty}
    (hr₁ : m₁.session.roots.lookup (t, .compiled) = none)
    (hr₂ : m₂.session.roots.lookup (t, .dynamic) = none)
    (hversion : m₁.session.options.version = m₂.session.options.version) :
    Matches RootPlan.Like R ((rootPlan t .compiled).run m₁) ((rootPlan t .dynamic).run m₂) := by
  have ha := hR.agree h
  unfold rootPlan
  simp only [EStateM.run_bind, session_run, hr₁, hr₂]
  have hcache : ∀ (e₁ e₂ : Engine) (p₁ p₂ : RootPlan), RootPlan.Like p₁ p₂ → SimBy RootPlan.Like R
      (modifySession (fun s => { s with roots := s.roots ++ [((t, e₁), p₁)] }) >>= fun _ => pure p₁)
      (modifySession (fun s => { s with roots := s.roots ++ [((t, e₂), p₂)] }) >>= fun _ => pure p₂) :=
    fun e₁ e₂ p₁ p₂ hp _ _ hm => ⟨hp, hR.update hm (Session.agree_roots _ _) (Session.agree_roots _ _)⟩
  by_cases ht : t.isObject = true
  · rw [if_pos ht, if_pos ht]
    exact SimBy.bind (SimBy.pure .object) (hcache _ _) m₁ m₂ h
  · rw [if_neg ht, if_neg ht, EStateM.run_bind, EStateM.run_bind, session_run, session_run]
    dsimp only
    rw [ha.registry, ha.catalog, hversion]
    refine SimBy.bind (SimBy.lift (Resolve.resolve_twin _ _ t (Request.twin_root _ _ _)))
      (fun x y hxy => ?_) m₁ m₂ h
    cases hxy with
    | none => exact SimBy.bind (V := fun _ _ => False) (SimBy.throw _) fun _ _ h => h.elim
    | some hc =>
        refine SimBy.bind (SimBy.of_sim (buildFuel_sim hR.toViewRel)) fun fuel fuel' hfuel => ?_
        subst hfuel
        rw [checkNested_congr hc.nestedObjects_eq]
        exact SimBy.bind (SimBy.of_sim (checkNested_sim hR _ _ _ _)) fun _ _ _ =>
          SimBy.bind (SimBy.pure (RootPlan.Like.converter hc)) (hcache _ _)

end Run
end ObjectWire
