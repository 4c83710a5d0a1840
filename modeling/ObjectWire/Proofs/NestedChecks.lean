import ObjectWire.Proofs.CacheTransparency
/-!
# Nested checks vouch for the types they reach

Before a mapping list or a root plan is handed out, every object type its converters reach is
checked: its own list is built, unless the type is being built already or its list is cached.
That check is what lets the engines fetch nested lists lazily, while writing or reading. A
type *builds* when a fresh serializer builds its mapping list for the version at hand.

A nested check builds its type while visiting the types above it, so its success is the
success of the type's own build once every visited type builds (`build_refines`). By
induction on the fuel, a build visiting only types that build leaves every converter it
collects reaching only types that build (`build_checks_nested`): of the types a converter
reaches, those being visited build by assumption, and the others were just checked. So the
converters of a fresh mapping list reach only types that build, and so does the converter of
a fresh root plan.

**Results.**
* `build_checks_nested`: a build leaves its converters reaching only types that build.
* `freshList_reaches_buildable`, `checkNested_reaches_buildable`: the converters of a fresh
  mapping list, and a converter that passes its nested checks, reach only types that build.
-/

namespace ObjectWire
namespace Run

variable {α β γ : Type}

/-- A type whose mapping list a fresh serializer over `cat` with options `o` builds for the
version `v`. -/
def Buildable (cat : Catalog) (o : Options) (v : Option Version) (t : Ty) : Prop :=
  ∃ l, freshList cat o t v = .ok l

/-- A converter whose every object type builds. -/
def ReachesBuildable (cat : Catalog) (o : Options) (v : Option Version) (c : Converter) : Prop :=
  ∀ t ∈ c.nestedObjects, Buildable cat o v t

theorem Buildable.run
    {cat : Catalog} {o : Options} {v : Option Version} {t : Ty} (h : Buildable cat o v t)
    {m : Machine} (hm : m.Holds cat o []) :
    ∃ l m', (buildList cat.fuel t v [t]).run m = .ok l m' := by
  obtain ⟨l, hl⟩ := h
  have ha := buildList_cached_answer (freshLists_nil cat o) hm t v
  rw [hl] at ha
  obtain ⟨m', hm'⟩ := answer_eq_ok ha
  exact ⟨l, m', hm'⟩

/-! ## Postconditions of loops and session reads -/

namespace Ensures

variable {s₀ : Session}

theorem imp
    {f : Run α} {P Q : α → Prop} (h : Ensures s₀ f P) (hPQ : ∀ a, P a → Q a) :
    Ensures s₀ f Q :=
  fun m a m' hm hrun => (h m a m' hm hrun).imp_left (hPQ a)

theorem session_bind
    {k : Session → Run α} {Q : α → Prop} (h : ∀ s, Session.Agree s₀ s → Ensures s₀ (k s) Q) :
    Ensures s₀ (Run.session >>= k) Q := by
  intro m a m' hm hrun
  rw [EStateM.run_bind, session_run] at hrun
  exact h m.session hm m a m' hm hrun

theorem forIn_each
    {xs : List γ} {f : γ → β → Run (ForInStep β)} {P : γ → Prop}
    (h : ∀ x ∈ xs, ∀ b, Ensures s₀ (f x b) fun r => P x ∧ ∃ b', r = .yield b') :
    ∀ init, Ensures s₀ (ForIn.forIn xs init f) fun _ => ∀ x ∈ xs, P x := by
  induction xs with
  | nil => exact fun _ => Ensures.pure fun _ hx => nomatch hx
  | cons x xs ih =>
      intro init
      simp only [List.forIn_cons]
      refine Ensures.bind (h x (List.mem_cons_self ..) init) fun r ⟨hx, b, hr⟩ => ?_
      subst hr
      refine (ih (fun y hy => h y (List.mem_cons_of_mem x hy)) b).imp fun _ hxs y hy => ?_
      rcases List.mem_cons.1 hy with rfl | hy
      · exact hx
      · exact hxs y hy

end Ensures

/-! ## A nested check builds a type that builds -/

theorem buildList_fresh_of_agree
    {cat : Catalog} {o : Options} {m m' : Machine} (hm : Session.Agree (Session.new cat o) m.session)
    {fuel : Nat} {t : Ty} {v : Option Version} {V : List Ty} {l : MappingList}
    (h : (buildList fuel t v V).run m = .ok l m') :
    ∃ m₀', (buildList fuel t v V).run ⟨Session.new cat o, m.writer, m.reader⟩ = .ok l m₀' := by
  have hc := buildList_sim (around_sessionRel (Session.new cat o) m.writer m.reader) fuel t v V m
    ⟨Session.new cat o, m.writer, m.reader⟩ ⟨⟨hm, rfl, rfl⟩, ⟨Session.Agree.refl _, rfl, rfl⟩⟩
  rw [h] at hc
  obtain ⟨m₀', hrun, -⟩ := hc.ok_left
  exact ⟨m₀', hrun⟩

/-- The build a nested check makes, while visiting only types that build, is of a type that
builds: visiting those types instead of none keeps its success. -/
theorem nested_build_buildable
    {cat : Catalog} {o : Options} {v : Option Version} {t : Ty} {V : List Ty}
    (hV : ∀ x ∈ V, Buildable cat o v x) (fuel : Nat) :
    Ensures (Session.new cat o) (buildList fuel t v (t :: V)) fun _ => Buildable cat o v t := by
  intro m l m' hm hrun
  refine ⟨?_, (buildList_ensures _ fuel t v (t :: V) m l m' hm hrun).2⟩
  obtain ⟨m₀', hfresh⟩ := buildList_fresh_of_agree hm hrun
  have honly : ∀ x ∈ t :: V, x ∉ [t] → Buildable cat o v x := by
    intro x hx₁ hx₂
    rcases List.mem_cons.1 hx₁ with rfl | hx₁
    · exact absurd (List.mem_singleton_self x) hx₂
    · exact hV x hx₁
  obtain ⟨m₂', hrun₂, -⟩ := (build_refines cat o [] v (Buildable cat o v) (fun _ hx _ hm => hx.run hm)
    cat.fuel).1 fuel t (t :: V) [t] honly (buildFuel_budget cat t) _
    ((Session.new cat o).machine [] none) l m₀'
    ⟨Machine.holds_new cat o _ _, Machine.holds_new cat o _ _⟩ hfresh
  refine ⟨l, ?_⟩
  unfold freshList
  rw [hrun₂]
  rfl

/-- A build visiting only types that build leaves each converter it collects reaching only
types that build, and so do the nested checks: by induction on the fuel. -/
theorem build_checks_nested
    (cat : Catalog) (o : Options) (v : Option Version) :
    ∀ fuel,
      (∀ t V, (∀ x ∈ V, Buildable cat o v x) →
        Ensures (Session.new cat o) (buildList fuel t v V) fun l =>
          ∀ mp ∈ l.mappings, ReachesBuildable cat o v mp.converter) ∧
      (∀ t chain V path depth, (∀ x ∈ V, Buildable cat o v x) →
        Ensures (Session.new cat o) (collect fuel t v chain V path depth) fun out =>
          ∀ mp ∈ out, ReachesBuildable cat o v mp.converter) ∧
      (∀ c V, (∀ x ∈ V, Buildable cat o v x) →
        Ensures (Session.new cat o) (checkNested fuel c v V) fun _ => ReachesBuildable cat o v c)
  | 0 => by
      refine ⟨fun t V _ => ?_, fun t chain V path depth _ => ?_, fun c V _ => ?_⟩
      · rw [buildList]
        exact Ensures.throw _
      · rw [collect]
        exact Ensures.throw _
      · rw [checkNested]
        exact Ensures.throw _
  | fuel + 1 => by
      obtain ⟨-, hcollect, hcheck⟩ := build_checks_nested cat o v fuel
      have hlog : ∀ level message, Ensures (Session.new cat o) (log level message) fun _ => True :=
        fun level message => Ensures.of_sim fun R hR => log_sim hR.toViewRel level message
      refine ⟨fun t V hV => ?_, fun t chain V path depth hV => ?_, fun c V hV => ?_⟩
      · exact buildList_of_collect (hcollect t [t] V [] 0 hV)
      · exact collect_step_ensures _ (P := fun _ _ mp => ReachesBuildable cat o v mp.converter)
          (fun _ _ _ _ _ _ _ _ hc => hc) (fun _ _ _ _ _ _ _ _ _ h => h) (fun c => hcheck c V hV)
          (fun t chain path depth => hcollect t chain V path depth hV) t chain path depth
      · rw [checkNested]
        refine Ensures.bind (Ensures.forIn_each (fun nested _ _ => ?_) _) fun _ h =>
          Ensures.pure h
        refine Ensures.session_bind fun s hs => ?_
        rw [← hs.lists]
        by_cases hv : V.contains nested = true
        · rw [if_pos (by simp only [hv, Bool.true_or])]
          exact Ensures.pure ⟨hV nested (List.contains_iff_mem.1 hv), _, rfl⟩
        · rw [if_neg (by simpa [Session.new] using hv)]
          exact Ensures.bind (nested_build_buildable hV fuel) fun _ hb =>
            Ensures.bind (hlog _ _) fun _ _ => Ensures.pure ⟨hb, _, rfl⟩

theorem freshList_reaches_buildable
    {cat : Catalog} {o : Options} {t : Ty} {v : Option Version} {l : MappingList}
    (h : freshList cat o t v = .ok l) :
    ∀ mp ∈ l.mappings, ReachesBuildable cat o v mp.converter := by
  obtain ⟨m', hrun⟩ := answer_eq_ok h
  have ht : ∀ x ∈ [t], Buildable cat o v x := by
    intro x hx
    rw [List.mem_singleton.1 hx]
    exact ⟨l, h⟩
  exact ((build_checks_nested cat o v cat.fuel).1 t [t] ht _ l m' (Session.Agree.refl _) hrun).1

theorem checkNested_reaches_buildable
    {cat : Catalog} {o : Options} {m m' : Machine} (hm : Session.Agree (Session.new cat o) m.session)
    {fuel : Nat} {c : Converter} {v : Option Version}
    (h : (checkNested fuel c v []).run m = .ok () m') :
    ReachesBuildable cat o v c :=
  ((build_checks_nested cat o v fuel).2.2 c [] (fun _ hx => nomatch hx) m () m' hm h).1

end Run
end ObjectWire
