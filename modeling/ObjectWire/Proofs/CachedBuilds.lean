import ObjectWire.Proofs.BuildFuel
import ObjectWire.Proofs.StreamVersion
/-!
# Cached mapping lists change no build

A nested check skips every type whose mapping list is cached for its version. When each
cached list is the one a fresh serializer builds, skipping changes nothing: where the cached
machine skips, a machine with nothing cached makes the check, and it succeeds with the fuel
left to it (`build_refines`, from the fresh build), only refreshing its session. So a build
on a machine whose cache is fresh corresponds, step by step, to the same build with nothing
cached: the same list or the same error.

**Results.**
* `build_sim_cached`: builds with a fresh cache correspond to builds with none.
* `buildList_cached_answer`, `checkNested_cached_answer`: the builds of the entry points
  answer as on a fresh serializer.
-/

namespace ObjectWire

theorem Version.key_injective :
    Function.Injective Version.key := by
  intro v w h
  obtain ⟨⟨bits⟩, comparison⟩ := v
  obtain ⟨⟨bits'⟩, comparison'⟩ := w
  simp only [Version.key, Prod.mk.injEq] at h
  obtain ⟨rfl, rfl⟩ := h
  rfl

theorem versionKey_injective :
    Function.Injective versionKey :=
  Option.map_injective Version.key_injective

namespace Run

variable {α β : Type} {R : Machine → Machine → Prop}

/-! ## Fresh mapping lists -/

/-- What a fresh serializer over `cat` with options `o` builds for `t` at version `v`. -/
def freshList (cat : Catalog) (o : Options) (t : Ty) (v : Option Version) :
    Except Error MappingList :=
  answer ((buildList cat.fuel t v [t]).run ((Session.new cat o).machine [] none))

/-- Cached mapping lists that a fresh serializer builds alike. -/
def FreshLists (cat : Catalog) (o : Options) (L : List ((Ty × VersionKey) × MappingList)) :
    Prop :=
  ∀ t v l, L.lookup (t, versionKey v) = some l → freshList cat o t v = .ok l

theorem freshLists_nil
    (cat : Catalog) (o : Options) :
    FreshLists cat o [] :=
  fun _ _ _ h => nomatch h

/-- A look-up after appending an entry finds an older entry, or the new one. -/
theorem lookup_concat_eq_some
    {κ ν : Type} [BEq κ] [LawfulBEq κ] {L : List (κ × ν)} {k k' : κ} {x y : ν}
    (h : (L ++ [(k, x)]).lookup k' = some y) :
    L.lookup k' = some y ∨ (k' = k ∧ y = x) := by
  rw [List.lookup_append] at h
  cases hold : L.lookup k' with
  | some z =>
      rw [hold, Option.some_or] at h
      exact .inl h
  | none =>
      rw [hold, Option.none_or] at h
      by_cases hk : k' = k
      · subst hk
        simp only [List.lookup_cons_self, Option.some.injEq] at h
        exact .inr ⟨rfl, h.symm⟩
      · have hne : (k' == k) = false := by simpa using hk
        simp [List.lookup_cons, List.lookup_nil, hne] at h

theorem FreshLists.cache
    {cat : Catalog} {o : Options} {L : List ((Ty × VersionKey) × MappingList)}
    (hL : FreshLists cat o L) {t : Ty} {v : Option Version} {l : MappingList}
    (hl : freshList cat o t v = .ok l) :
    FreshLists cat o (L ++ [((t, versionKey v), l)]) := by
  intro t' v' l' h
  rcases lookup_concat_eq_some h with hold | ⟨hkey, rfl⟩
  · exact hL _ _ _ hold
  · obtain ⟨rfl, hv⟩ := Prod.mk.inj hkey
    obtain rfl := versionKey_injective hv
    exact hl

/-! ## Steps on one side -/

theorem Sim.step_right
    {f : Run β} {g : Run α} {k : α → Run β}
    (hg : ∀ m₁ m₂, R m₁ m₂ → ∃ b m₂', g.run m₂ = .ok b m₂' ∧ R m₁ m₂')
    (h : ∀ b, Sim R f (k b)) :
    Sim R f (g >>= k) := by
  intro m₁ m₂ hm
  obtain ⟨b, m₂', hrun, hm'⟩ := hg m₁ m₂ hm
  rw [EStateM.run_bind, hrun]
  exact h b m₁ m₂' hm'

theorem Sim.ite_of
    {c : Prop} [Decidable c] {f f' g g' : Run α}
    (hf : c → Sim R f f') (hg : ¬c → Sim R g g') :
    Sim R (if c then f else g) (if c then f' else g') := by
  by_cases hc : c
  · simpa only [if_pos hc] using hf hc
  · simpa only [if_neg hc] using hg hc

/-! ## Builds with a fresh cache -/

/-- A build on a machine whose cached lists are fresh corresponds to the same build on a
machine with none cached, given enough fuel: by induction on the fuel. Where the first skips
a nested check for a cached list, the second makes it, and it succeeds as the fresh build
of the list did. -/
theorem build_sim_cached
    {cat : Catalog} {o : Options} {L : List ((Ty × VersionKey) × MappingList)}
    (hL : FreshLists cat o L) :
    ∀ fuel,
      (∀ t v visiting, BuildBudget cat fuel t visiting →
        Sim (Holding cat o L []) (buildList fuel t v visiting) (buildList fuel t v visiting)) ∧
      (∀ t v chain visiting path depth, CollectBudget cat fuel t chain visiting →
        Sim (Holding cat o L []) (collect fuel t v chain visiting path depth)
          (collect fuel t v chain visiting path depth)) ∧
      (∀ c v visiting, NestedBudget cat fuel visiting →
        Sim (Holding cat o L []) (checkNested fuel c v visiting) (checkNested fuel c v visiting))
  | 0 =>
      ⟨fun _ _ _ hb => absurd hb.pos (Nat.lt_irrefl 0),
        fun _ _ _ _ _ _ hb => absurd hb.pos (Nat.lt_irrefl 0),
        fun _ _ _ hb => absurd hb.pos (Nat.lt_irrefl 0)⟩
  | fuel + 1 => by
      obtain ⟨hbuild, hcollect, hcheck⟩ := build_sim_cached hL fuel
      have hR : ViewRel (Holding cat o L []) := holding_viewRel
      refine ⟨fun t v visiting hb => ?_, fun t v chain visiting path depth hb => ?_,
        fun c v visiting hb => ?_⟩
      · rw [Run.buildList]
        refine Sim.ite ?_ (Sim.bind (Sim.throw _) fun _ => ?_) <;>
          exact Sim.bind (hcollect _ _ _ _ _ _ hb.collect) fun found =>
            Sim.bind (log_sim hR _ _) fun _ => Sim.pure _
      · rw [Run.collect]
        refine Sim.options_bind hR fun o₁ o₂ ho => ?_
        have hpolicy : o₁.cyclePolicy = o₂.cyclePolicy := by
          have hc := congrArg Options.cyclePolicy ho
          exact hc
        simp only [hpolicy]
        refine Sim.bind_of (Q := fun _ => t ∈ cat.types) (members_sim hR t)
          (fun _ _ _ _ hm hrun => hm.1.mem_types hrun) fun ds ht => ?_
        refine Sim.bind (Sim.forIn (fun d out => ?_) _) fun _ => Sim.pure _
        refine Sim.ite (Sim.bind (log_sim hR _ _) fun _ => Sim.pure _) ?_
        refine Sim.bind (resolveMember_sim hR d none) fun r => ?_
        cases r with
        | some c => exact Sim.bind (hcheck _ _ _ (hb.nested ht)) fun _ => Sim.pure _
        | none =>
            cases d.info.ty.innermostObject? with
            | none => exact Sim.bind (Sim.throw _) fun _ => Sim.pure _
            | some target =>
                dsimp only
                refine Sim.ite_of (fun _ => ?_) fun hout => ?_
                · cases o₂.cyclePolicy
                  · exact Sim.bind (log_sim hR _ _) fun _ => Sim.pure _
                  · exact Sim.throw_bind _
                have hx : target ∉ chain := by simpa using hout
                refine Sim.ite (Sim.bind (hcollect _ _ _ _ _ _ (hb.cascade ht hx)) fun _ =>
                  Sim.pure _) (Sim.bind (resolveMember_sim hR _ _) fun r => ?_)
                cases r with
                | none => exact Sim.bind (Sim.throw _) fun _ => Sim.pure _
                | some c => exact Sim.bind (hcheck _ _ _ (hb.nested ht)) fun _ => Sim.pure _
      · rw [Run.checkNested]
        refine Sim.bind (Sim.forIn (fun nested _ => ?_) _) fun _ => Sim.pure _
        refine Sim.session_bind_of (P := fun s₁ s₂ => s₁.lists = L ∧ s₂.lists = [])
          (fun hm => ⟨hm.1.lists, hm.2.lists⟩) fun s₁ s₂ hs => ?_
        rw [hs.1, hs.2]
        cases hv : visiting.contains nested with
        | true =>
            simp only [Bool.true_or, ↓reduceIte]
            exact Sim.pure _
        | false =>
            have hx : nested ∉ visiting := by simpa using hv
            cases hl : L.lookup (nested, versionKey v) with
            | none =>
                simp only [List.lookup_nil, Option.isSome_none, Bool.false_or, Bool.false_eq_true,
                  ↓reduceIte]
                exact Sim.bind (hbuild _ _ _ (hb.build hx)) fun _ =>
                  Sim.bind (log_sim hR _ _) fun _ => Sim.pure _
            | some l =>
                simp only [List.lookup_nil, Option.isSome_none, Option.isSome_some, Bool.false_or,
                  Bool.false_eq_true, ↓reduceIte]
                refine Sim.step_right (fun m₁ m₂ hm => ?_) fun _ =>
                  Sim.step_right (fun m₁ m₂ hm => ?_) fun _ => Sim.pure _
                · obtain ⟨m₀', hm₀⟩ := answer_eq_ok (hL nested v l hl)
                  obtain ⟨m₂', hrun, -⟩ := (build_refines cat o [] v (fun _ => False)
                    (fun _ h => h.elim) fuel).1 cat.fuel nested [nested] (nested :: visiting)
                    (visits_only_of_subset (by simp)) (hb.build hx) _ m₂ l m₀'
                    ⟨Machine.holds_new cat o _ _, hm.2⟩ hm₀
                  obtain ⟨s, rfl, hs⟩ := buildList_refresh_ok hrun
                  exact ⟨l, _, hrun, hm.1, hm.2.refresh hs⟩
                · exact ⟨(), _, log_run _ _ _, hm.1, hm.2.refresh (Session.refresh_logs _ _)⟩

section Answers

variable {cat : Catalog} {o : Options} {L : List ((Ty × VersionKey) × MappingList)}

theorem buildList_cached_answer
    (hL : FreshLists cat o L) {m : Machine} (hm : m.Holds cat o L) (t : Ty) (v : Option Version) :
    answer ((buildList cat.fuel t v [t]).run m) = freshList cat o t v :=
  ((build_sim_cached hL cat.fuel).1 t v [t] (buildFuel_budget cat t) m _
    ⟨hm, Machine.holds_new cat o _ _⟩).answer_eq

theorem checkNested_cached_answer
    (hL : FreshLists cat o L) {m : Machine} (hm : m.Holds cat o L) (c : Converter)
    (v : Option Version) :
    answer ((checkNested cat.fuel c v []).run m) =
      answer ((checkNested cat.fuel c v []).run ((Session.new cat o).machine [] none)) :=
  ((build_sim_cached hL cat.fuel).2.2 c v [] (rootFuel_budget cat) m _
    ⟨hm, Machine.holds_new cat o _ _⟩).answer_eq

end Answers

end Run
end ObjectWire
