import ObjectWire.Proofs.Agreement
/-!
# Building mapping lists on agreeing sessions

The builder of mapping lists reads a session only through what agreement keeps equal: member
lists, the registry and the catalog, the cycle policy, and the cached mapping lists that the
nested checks consult. The version it builds for is an argument, never the configured one.
So on agreeing sessions it builds the same list, or fails with the same error, and leaves
the sessions agreeing.

The builder is three functions that call one another with a shared fuel; the simulation is
proved for the three at once, by induction on that fuel. The cached entry points then add
one mapping list to both caches, or none to either.

Root plans are the one place where the configured version is read (it is the version the
nested checks of a root converter run with), and they are cached under their own key; so a
root plan corresponds on two machines whose root caches and versions are equal.

**Results.**
* `build_sim_view`: `buildList`, `collect` and `checkNested` simulate themselves under every
  view relation between machines with the same cached mapping lists, so under every session
  relation (`build_sim`).
* `mappingList_sim`, `compiled_sim`: the cached entry points simulate themselves under every
  cache relation.
* `rootPlan_corresponds`: root plans correspond on related machines with the same root cache
  and the same configured version.
-/

namespace ObjectWire
namespace Run

variable {α : Type} {R : Machine → Machine → Prop}

/-- A step that returns `a` and only refreshes the session, as an engine step does. -/
def Quiet (f : Run α) (a : α) : Prop :=
  ∀ m, ∃ s, f.run m = .ok a { m with session := s } ∧ Session.Refresh m.session s

theorem quiet_pure
    (a : α) :
    Quiet (pure a) a :=
  fun m => ⟨m.session, rfl, Session.Refresh.refl _⟩

theorem quiet_modifySession
    {f : Session → Session} (hf : ∀ s, Session.Refresh s (f s)) (a : α) :
    Quiet (Run.modifySession f >>= fun _ => pure a) a :=
  fun m => ⟨f m.session, rfl, hf _⟩

theorem Sim.of_quiet
    (hR : ViewRel R) {f g : Run α} {a : α} (hf : Quiet f a) (hg : Quiet g a) :
    Sim R f g := by
  intro m₁ m₂ h
  obtain ⟨s₁, e₁, a₁⟩ := hf m₁
  obtain ⟨s₂, e₂, a₂⟩ := hg m₂
  rw [e₁, e₂]
  exact ⟨rfl, hR.update h a₁ a₂⟩

/-- The builder simulates itself under every view relation between machines with the same
cached mapping lists: by induction on the fuel shared by its three parts. -/
theorem build_sim_view
    (hR : ViewRel R) (hlists : ∀ {m₁ m₂}, R m₁ m₂ → m₁.session.lists = m₂.session.lists) :
    ∀ fuel,
      (∀ t v visiting, Sim R (Run.buildList fuel t v visiting) (Run.buildList fuel t v visiting)) ∧
      (∀ t v chain visiting path depth,
        Sim R (Run.collect fuel t v chain visiting path depth)
          (Run.collect fuel t v chain visiting path depth)) ∧
      (∀ c v visiting, Sim R (Run.checkNested fuel c v visiting)
        (Run.checkNested fuel c v visiting))
  | 0 => by
      refine ⟨fun t v visiting => ?_, fun t v chain visiting path depth => ?_, fun c v visiting => ?_⟩
      · rw [Run.buildList]
        exact Sim.throw _
      · rw [Run.collect]
        exact Sim.throw _
      · rw [Run.checkNested]
        exact Sim.throw _
  | fuel + 1 => by
      obtain ⟨hbuild, hcollect, hcheck⟩ := build_sim_view hR hlists fuel
      refine ⟨fun t v visiting => ?_, fun t v chain visiting path depth => ?_, fun c v visiting => ?_⟩
      · rw [Run.buildList]
        refine Sim.ite ?_ (Sim.bind (Sim.throw _) fun _ => ?_) <;>
          exact Sim.bind (hcollect _ _ _ _ _ _) fun found =>
            Sim.bind (log_sim hR _ _) fun _ => Sim.pure _
      · rw [Run.collect]
        refine Sim.options_bind hR fun o₁ o₂ ho => ?_
        have hpolicy : o₁.cyclePolicy = o₂.cyclePolicy := by
          have hc := congrArg Options.cyclePolicy ho
          exact hc
        simp only [hpolicy]
        refine Sim.bind (members_sim hR t) fun ds => ?_
        refine Sim.bind (Sim.forIn (fun d out => ?_) _) fun _ => Sim.pure _
        refine Sim.ite (Sim.bind (log_sim hR _ _) fun _ => Sim.pure _) ?_
        refine Sim.bind (resolveMember_sim hR d none) fun r => ?_
        cases r with
        | some c =>
            exact Sim.bind (hcheck _ _ _) fun _ => Sim.pure _
        | none =>
            cases d.info.ty.innermostObject? with
            | none => exact Sim.bind (Sim.throw _) fun _ => Sim.pure _
            | some target =>
                dsimp only
                refine Sim.ite ?_ ?_
                cases o₂.cyclePolicy
                · exact Sim.bind (log_sim hR _ _) fun _ => Sim.pure _
                refine Sim.bind (Sim.throw _) fun _ => ?_
                all_goals
                  refine Sim.ite (Sim.bind (hcollect _ _ _ _ _ _) fun _ => Sim.pure _)
                    (Sim.bind (resolveMember_sim hR _ _) fun r => ?_)
                  cases r with
                  | none => exact Sim.bind (Sim.throw _) fun _ => Sim.pure _
                  | some c => exact Sim.bind (hcheck _ _ _) fun _ => Sim.pure _
      · rw [Run.checkNested]
        refine Sim.bind (Sim.forIn (fun nested _ => ?_) _) fun _ => Sim.pure _
        refine Sim.session_bind_of (P := fun s₁ s₂ => s₁.lists = s₂.lists) hlists fun s₁ s₂ hs => ?_
        rw [hs]
        refine Sim.ite (Sim.pure _) ?_
        exact Sim.bind (hbuild _ _ _) fun _ => Sim.bind (log_sim hR _ _) fun _ => Sim.pure _

theorem build_sim
    (hR : SessionRel R) (fuel : Nat) :
    (∀ t v visiting, Sim R (Run.buildList fuel t v visiting) (Run.buildList fuel t v visiting)) ∧
      (∀ t v chain visiting path depth,
        Sim R (Run.collect fuel t v chain visiting path depth)
          (Run.collect fuel t v chain visiting path depth)) ∧
      (∀ c v visiting, Sim R (Run.checkNested fuel c v visiting)
        (Run.checkNested fuel c v visiting)) :=
  build_sim_view hR.toViewRel (fun h => (hR.agree h).lists) fuel

theorem buildList_sim
    (hR : SessionRel R) (fuel : Nat) (t : Ty) (v : Option Version) (visiting : List Ty) :
    Sim R (Run.buildList fuel t v visiting) (Run.buildList fuel t v visiting) :=
  (build_sim hR fuel).1 t v visiting

theorem checkNested_sim
    (hR : SessionRel R) (fuel : Nat) (c : Converter) (v : Option Version) (visiting : List Ty) :
    Sim R (Run.checkNested fuel c v visiting) (Run.checkNested fuel c v visiting) :=
  (build_sim hR fuel).2.2 c v visiting

theorem mappingList_sim
    (hR : CacheRel R) (t : Ty) (v : Option Version) :
    Sim R (Run.mappingList t v) (Run.mappingList t v) := by
  unfold Run.mappingList
  refine Sim.session_bind hR.toSessionRel fun s₁ s₂ hs => ?_
  rw [hs.lists]
  cases List.lookup (t, versionKey v) s₂.lists with
  | some l => exact Sim.pure l
  | none =>
      refine Sim.bind (buildFuel_sim hR.toSessionRel.toViewRel) fun fuel =>
        Sim.bind (buildList_sim hR.toSessionRel _ _ _ _) fun l => Sim.bind ?_ fun _ => Sim.pure l
      intro m₁ m₂ h
      exact ⟨rfl, hR.cache _ h⟩

theorem compiled_sim
    (hR : ViewRel R) (hlists : ∀ t v, Sim R (Run.mappingList t v) (Run.mappingList t v))
    (t : Ty) (v : Option Version) :
    Sim R (Run.compiled t v) (Run.compiled t v) := by
  unfold Run.compiled
  refine Sim.bind (hlists t v) fun l =>
    Sim.bind (catalog_sim hR) fun cat =>
      Sim.bind (Sim.lift _) fun accessors => ?_
  refine Sim.session_bind_like hR fun s₁ s₂ _ =>
    Sim.of_quiet (a := accessors) hR ?_ ?_
  all_goals
    split
    · exact quiet_pure accessors
    · exact quiet_modifySession (fun s => Session.refresh_compiled _ _) accessors

theorem session_bind_at
    {k l : Session → Run α} {m₁ m₂ : Machine}
    (h : Corresponds R ((k m₁.session).run m₁) ((l m₂.session).run m₂)) :
    Corresponds R ((Run.session >>= k).run m₁) ((Run.session >>= l).run m₂) :=
  h

/-- Root plans: the cached plan when there is one, else the same plan decided alike, the
nested checks of a root converter running with the one configured version. -/
theorem rootPlan_corresponds
    (hR : SessionRel R) {m₁ m₂ : Machine} (h : R m₁ m₂)
    (hroots : m₁.session.roots = m₂.session.roots)
    (hversion : m₁.session.options.version = m₂.session.options.version) (t : Ty) (e : Engine) :
    Corresponds R ((Run.rootPlan t e).run m₁) ((Run.rootPlan t e).run m₂) := by
  have ha := hR.agree h
  unfold Run.rootPlan
  simp only [EStateM.run_bind, session_run]
  rw [hroots]
  cases List.lookup (t, e) m₂.session.roots with
  | some p => exact ⟨rfl, h⟩
  | none =>
      dsimp only
      have hjoin : ∀ plan, Sim R
          (Run.modifySession (fun s => { s with roots := s.roots ++ [((t, e), plan)] }) >>=
            fun _ => pure plan)
          (Run.modifySession (fun s => { s with roots := s.roots ++ [((t, e), plan)] }) >>=
            fun _ => pure plan) :=
        fun plan => Sim.bind (Sim.modifySession hR fun s => Session.agree_roots _ _) fun _ =>
          Sim.pure _
      split
      · exact Sim.bind (Sim.pure _) hjoin m₁ m₂ h
      · apply session_bind_at
        rw [ha.registry, ha.catalog, hversion]
        refine Sim.bind (Sim.lift _) (fun x => ?_) m₁ m₂ h
        cases x with
        | none => exact Sim.bind (Sim.throw _) hjoin
        | some c =>
            exact Sim.bind (buildFuel_sim hR.toViewRel) fun fuel =>
              Sim.bind (checkNested_sim hR _ _ _ _) fun _ => Sim.bind (Sim.pure _) hjoin

end Run
end ObjectWire
