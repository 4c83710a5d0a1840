import Mathlib.Tactic.Linarith
import ObjectWire.Proofs.MappingShape
/-!
# Fuel enough for every build

The three parts of the builder share one fuel, and the entry points give it
`4·(n + 2)²` for a catalog of `n` object types. That is enough. A nested check builds only a
type that is not being visited yet, and a cascade walks only to a type not yet on its chain;
once a type's members are found it is an object type of the catalog, so neither list can
grow past `n`. The potential
`(n + 2 - |chain|) + (n + 1 - |visiting|)·(n + 3) + 1` drops by at least the unit each call
spends, and the entry points start above it (`BuildBudget`, `CollectBudget`,
`NestedBudget`).

With enough fuel, a build depends on the types it skips only through the work it spares:
a build that succeeds while visiting some types succeeds alike, with the same list, while
visiting more of them. This is a refinement rather than a simulation: the build that skips
more may succeed where the other fails.

**Results.**
* `buildFuel_budget`, `rootFuel_budget`: the fuel of an entry point covers its build.
* `build_refines`: with enough fuel, visiting other types keeps every success, when each
  type only the first visits builds on its own.
-/

namespace ObjectWire

/-! ## Object types of a catalog -/

/-- The object types of a catalog. -/
def Catalog.types (cat : Catalog) : List Ty := cat.objects.map fun s => .object s.path

theorem Catalog.length_types
    (cat : Catalog) :
    cat.types.length = cat.objects.length :=
  List.length_map _

theorem Catalog.object?_mem_types
    {cat : Catalog} {p : String} {s : ObjectSchema} (h : cat.object? p = some s) :
    Ty.object p ∈ cat.types := by
  have hpath : s.path = p := by simpa using List.find?_some h
  exact List.mem_map.2 ⟨s, List.mem_of_find?_eq_some h, by rw [hpath]⟩

theorem discoverMembers_mem_types
    {cat : Catalog} {o : Options} {t : Ty} {ds : List Descriptor}
    (h : discoverMembers cat o t = .ok ds) :
    t ∈ cat.types := by
  unfold discoverMembers at h
  cases hk : o.memberKind t with
  | error e => simp [hk, bind, Except.bind] at h
  | ok kind =>
      cases t with
      | object p =>
          cases hs : cat.object? p with
          | none => simp [hk, hs, bind, Except.bind, throw, throwThe, MonadExceptOf.throw] at h
          | some s => exact Catalog.object?_mem_types hs
      | _ => simp [hk, bind, Except.bind, throw, throwThe, MonadExceptOf.throw] at h

theorem length_le_of_types
    {cat : Catalog} {xs : List Ty} (hnd : xs.Nodup) (hxs : ∀ x ∈ xs, x ∈ cat.types) :
    xs.length ≤ cat.objects.length := by
  rw [← cat.length_types]
  exact hnd.length_le_of_subset hxs

/-! ## Budgets -/

/-- The fuel a nested check needs while `k` types are visited, over `n` object types: each
further level of nested builds visits one more type, and under each level a chain of
cascades runs at most `n + 2` calls deep. -/
def nestedNeed (n k : Nat) : Nat := (n + 1 - k) * (n + 3) + 1

theorem nestedNeed_pos
    (n k : Nat) :
    0 < nestedNeed n k := by
  unfold nestedNeed
  omega

theorem nestedNeed_succ
    {n k : Nat} (hk : k ≤ n) :
    nestedNeed n k = nestedNeed n (k + 1) + (n + 3) := by
  unfold nestedNeed
  rw [show n + 1 - k = (n - k) + 1 by omega, show n + 1 - (k + 1) = n - k by omega, Nat.succ_mul]
  omega

/-- Fuel enough for the nested checks of a converter while the distinct object types
`visiting` are built. -/
structure NestedBudget (cat : Catalog) (fuel : Nat) (visiting : List Ty) : Prop where
  nodup : visiting.Nodup
  types : ∀ x ∈ visiting, x ∈ cat.types
  fuel : nestedNeed cat.objects.length visiting.length ≤ fuel

/-- Fuel enough to build `t` while `visiting` is built: distinct types, each of the catalog
or `t` itself, which need not be one. -/
structure BuildBudget (cat : Catalog) (fuel : Nat) (t : Ty) (visiting : List Ty) : Prop where
  nodup : visiting.Nodup
  types : ∀ x ∈ visiting, x = t ∨ x ∈ cat.types
  fuel : cat.objects.length + 2 + nestedNeed cat.objects.length visiting.length ≤ fuel

/-- Fuel enough to collect the members of `t` at the end of the cascade `chain`, while
`visiting` is built: both lists distinct, each type of the catalog or `t` itself. -/
structure CollectBudget (cat : Catalog) (fuel : Nat) (t : Ty) (chain visiting : List Ty) :
    Prop where
  chainNodup : chain.Nodup
  chainTypes : ∀ x ∈ chain, x = t ∨ x ∈ cat.types
  nodup : visiting.Nodup
  types : ∀ x ∈ visiting, x = t ∨ x ∈ cat.types
  fuel : cat.objects.length + 2 - chain.length + nestedNeed cat.objects.length visiting.length ≤
    fuel

/-- The fuel `Run.buildFuel` gives for a catalog. -/
def Catalog.fuel (cat : Catalog) : Nat := 4 * (cat.objects.length + 2) * (cat.objects.length + 2)

theorem buildFuel_run
    (m : Machine) :
    Run.buildFuel.run m = .ok m.session.catalog.fuel m :=
  rfl

section Budgets

variable {cat : Catalog} {fuel : Nat} {t x : Ty} {chain visiting : List Ty}

theorem NestedBudget.pos
    (h : NestedBudget cat fuel visiting) :
    0 < fuel :=
  lt_of_lt_of_le (nestedNeed_pos _ _) h.fuel

theorem BuildBudget.pos
    (h : BuildBudget cat fuel t visiting) :
    0 < fuel := by
  have := h.fuel
  omega

theorem CollectBudget.pos
    (h : CollectBudget cat fuel t chain visiting) :
    0 < fuel := by
  have := h.fuel
  have := nestedNeed_pos cat.objects.length visiting.length
  omega

theorem BuildBudget.collect
    (h : BuildBudget cat (fuel + 1) t visiting) :
    CollectBudget cat fuel t [t] visiting where
  chainNodup := by simp
  chainTypes y hy := .inl (List.mem_singleton.1 hy)
  nodup := h.nodup
  types := h.types
  fuel := by
    have := h.fuel
    simp only [List.length_singleton]
    omega

theorem CollectBudget.types_of_mem
    (h : CollectBudget cat fuel t chain visiting) (ht : t ∈ cat.types) :
    (∀ x ∈ chain, x ∈ cat.types) ∧ ∀ x ∈ visiting, x ∈ cat.types := by
  constructor
  · intro y hy
    rcases h.chainTypes y hy with rfl | hy
    · exact ht
    · exact hy
  · intro y hy
    rcases h.types y hy with rfl | hy
    · exact ht
    · exact hy

theorem CollectBudget.nested
    (h : CollectBudget cat (fuel + 1) t chain visiting) (ht : t ∈ cat.types) :
    NestedBudget cat fuel visiting := by
  obtain ⟨hchain, hvisiting⟩ := h.types_of_mem ht
  have hlen := length_le_of_types h.chainNodup hchain
  have := h.fuel
  exact ⟨h.nodup, hvisiting, by omega⟩

theorem CollectBudget.cascade
    (h : CollectBudget cat (fuel + 1) t chain visiting) (ht : t ∈ cat.types) (hx : x ∉ chain) :
    CollectBudget cat fuel x (x :: chain) visiting := by
  obtain ⟨hchain, hvisiting⟩ := h.types_of_mem ht
  have hlen := length_le_of_types h.chainNodup hchain
  have := h.fuel
  refine ⟨List.nodup_cons.2 ⟨hx, h.chainNodup⟩, fun y hy => ?_, h.nodup,
    fun y hy => .inr (hvisiting y hy), ?_⟩
  · rcases List.mem_cons.1 hy with rfl | hy
    · exact .inl rfl
    · exact .inr (hchain y hy)
  · simp only [List.length_cons]
    omega

theorem NestedBudget.build
    (h : NestedBudget cat (fuel + 1) visiting) (hx : x ∉ visiting) :
    BuildBudget cat fuel x (x :: visiting) := by
  have hlen := length_le_of_types h.nodup h.types
  have hneed := nestedNeed_succ hlen
  have := h.fuel
  refine ⟨List.nodup_cons.2 ⟨hx, h.nodup⟩, fun y hy => ?_, ?_⟩
  · rcases List.mem_cons.1 hy with rfl | hy
    · exact .inl rfl
    · exact .inr (h.types y hy)
  · simp only [List.length_cons]
    omega

theorem buildFuel_budget
    (cat : Catalog) (t : Ty) :
    BuildBudget cat cat.fuel t [t] where
  nodup := by simp
  types y hy := .inl (List.mem_singleton.1 hy)
  fuel := by
    unfold Catalog.fuel nestedNeed
    simp only [List.length_singleton, Nat.add_sub_cancel]
    nlinarith

theorem rootFuel_budget
    (cat : Catalog) :
    NestedBudget cat cat.fuel [] where
  nodup := List.nodup_nil
  types _ h := absurd h List.not_mem_nil
  fuel := by
    unfold Catalog.fuel nestedNeed
    simp only [List.length_nil, Nat.sub_zero]
    nlinarith

end Budgets

/-! ## Machines holding fixed mapping lists -/

/-- A machine over the catalog `cat` with the options `o`, a sound session, and the cached
mapping lists `L`. -/
structure Machine.Holds (cat : Catalog) (o : Options)
    (L : List ((Ty × VersionKey) × MappingList)) (m : Machine) : Prop where
  sound : m.session.Sound
  catalog : m.session.catalog = cat
  options : m.session.options = o
  lists : m.session.lists = L

namespace Machine.Holds

variable {cat : Catalog} {o : Options} {L L' : List ((Ty × VersionKey) × MappingList)}
  {m m' : Machine}

theorem memberList_eq
    (h : m.Holds cat o L) (t : Ty) :
    m.session.memberList t = discoverMembers cat o t := by
  rw [h.sound.memberList_eq, h.catalog, h.options]

theorem like
    (h : m.Holds cat o L) (h' : m'.Holds cat o L') :
    Session.Like m.session m'.session :=
  ⟨h.catalog.trans h'.catalog.symm, by rw [h.options, h'.options],
    fun t => (h.memberList_eq t).trans (h'.memberList_eq t).symm⟩

theorem refresh
    (h : m.Holds cat o L) {s : Session} (hs : Session.Refresh m.session s) :
    Machine.Holds cat o L { m with session := s } :=
  ⟨h.sound.of_agree hs.agree, hs.agree.catalog.symm.trans h.catalog, hs.options.trans h.options,
    hs.agree.lists.symm.trans h.lists⟩

theorem mem_types
    (h : m.Holds cat o L) {t : Ty} {ds : List Descriptor} (hrun : (Run.members t).run m = .ok ds m') :
    t ∈ cat.types := by
  cases hl : m.session.memberList t with
  | ok ds' =>
      rw [h.memberList_eq] at hl
      exact discoverMembers_mem_types hl
  | error e =>
      rw [Run.members_run_of_error hl] at hrun
      cases hrun

end Machine.Holds

theorem Machine.holds_new
    (cat : Catalog) (o : Options) (w : Writer) (r : Reader) :
    Machine.Holds cat o [] ⟨Session.new cat o, w, r⟩ :=
  ⟨Session.sound_new cat o, rfl, rfl, rfl⟩

namespace Run

variable {α β γ : Type} {R : Machine → Machine → Prop}

/-- Two machines over one catalog with one set of options, holding the mapping lists `L₁`
and `L₂`. -/
def Holding (cat : Catalog) (o : Options) (L₁ L₂ : List ((Ty × VersionKey) × MappingList))
    (m₁ m₂ : Machine) : Prop :=
  m₁.Holds cat o L₁ ∧ m₂.Holds cat o L₂

theorem holding_viewRel
    {cat : Catalog} {o : Options} {L₁ L₂ : List ((Ty × VersionKey) × MappingList)} :
    ViewRel (Holding cat o L₁ L₂) where
  like h := h.1.like h.2
  update h h₁ h₂ := ⟨h.1.refresh h₁, h.2.refresh h₂⟩

/-! ## Builds change sessions only -/

theorem Machine.eq_of_streams
    {m m' : Machine} (hw : m'.writer = m.writer) (hr : m'.reader = m.reader) :
    m' = { m with session := m'.session } := by
  cases m
  cases m'
  cases hw
  cases hr
  rfl

/-- A run that keeps every view relation between machines with the same cached mapping lists
only refreshes the session of its machine, whether it succeeds or fails. -/
theorem endState_refresh
    {f : Run α}
    (h : ∀ R, ViewRel R → (∀ {m₁ m₂}, R m₁ m₂ → m₁.session.lists = m₂.session.lists) → Sim R f f)
    (m : Machine) :
    ∃ s, endState (f.run m) = { m with session := s } ∧ Session.Refresh m.session s := by
  let R : Machine → Machine → Prop := fun m₁ m₂ =>
    (Session.Refresh m.session m₁.session ∧ m₁.writer = m.writer ∧ m₁.reader = m.reader) ∧
      (Session.Refresh m.session m₂.session ∧ m₂.writer = m.writer ∧ m₂.reader = m.reader)
  have hR : ViewRel R :=
    ⟨fun h => h.1.1.agree.like.symm.trans h.2.1.agree.like,
      fun h h₁ h₂ => ⟨⟨h.1.1.trans h₁, h.1.2⟩, ⟨h.2.1.trans h₂, h.2.2⟩⟩⟩
  have hlists : ∀ {m₁ m₂}, R m₁ m₂ → m₁.session.lists = m₂.session.lists :=
    fun h => h.1.1.agree.lists.symm.trans h.2.1.agree.lists
  have hstart : R m m := ⟨⟨Session.Refresh.refl _, rfl, rfl⟩, ⟨Session.Refresh.refl _, rfl, rfl⟩⟩
  obtain ⟨⟨hs, hw, hr⟩, -⟩ := (h R hR hlists m m hstart).endState
  exact ⟨_, Machine.eq_of_streams hw hr, hs⟩

theorem buildList_refresh
    (fuel : Nat) (t : Ty) (v : Option Version) (visiting : List Ty) (m : Machine) :
    ∃ s, endState ((buildList fuel t v visiting).run m) = { m with session := s } ∧
      Session.Refresh m.session s :=
  endState_refresh (fun _ hR hlists => (build_sim_view hR hlists fuel).1 t v visiting) m

theorem checkNested_refresh
    (fuel : Nat) (c : Converter) (v : Option Version) (visiting : List Ty) (m : Machine) :
    ∃ s, endState ((checkNested fuel c v visiting).run m) = { m with session := s } ∧
      Session.Refresh m.session s :=
  endState_refresh (fun _ hR hlists => (build_sim_view hR hlists fuel).2.2 c v visiting) m

theorem buildList_refresh_ok
    {fuel : Nat} {t : Ty} {v : Option Version} {visiting : List Ty} {m m' : Machine}
    {l : MappingList} (h : (buildList fuel t v visiting).run m = .ok l m') :
    ∃ s, m' = { m with session := s } ∧ Session.Refresh m.session s := by
  obtain ⟨s, hs, ha⟩ := buildList_refresh fuel t v visiting m
  rw [h] at hs
  exact ⟨s, hs, ha⟩

/-! ## Refinement -/

/-- From `R`-related machines, every success of `f` is matched by a success of `g` with the
same value, in related machines. -/
def Refines (R : Machine → Machine → Prop) (f g : Run α) : Prop :=
  ∀ m₁ m₂ a m₁', R m₁ m₂ → f.run m₁ = .ok a m₁' → ∃ m₂', g.run m₂ = .ok a m₂' ∧ R m₁' m₂'

namespace Refines

theorem of_sim
    {f g : Run α} (h : Sim R f g) :
    Refines R f g := by
  intro m₁ m₂ a m₁' hm hrun
  have hc := h m₁ m₂ hm
  rw [hrun] at hc
  exact hc.ok_left

theorem pure
    (a : α) :
    Refines R (Pure.pure a) (Pure.pure a) :=
  of_sim (Sim.pure a)

theorem throw_bind
    (e : Error) {k : α → Run β} {g : Run β} :
    Refines R (MonadExcept.throw e >>= k) g := by
  intro m₁ m₂ a m₁' _ hrun
  cases hrun

theorem bind_of
    {Q : α → Prop} {f g : Run α} {k l : α → Run β} (hf : Refines R f g)
    (hQ : ∀ m₁ m₂ a m₁', R m₁ m₂ → f.run m₁ = .ok a m₁' → Q a)
    (hk : ∀ a, Q a → Refines R (k a) (l a)) :
    Refines R (f >>= k) (g >>= l) := by
  intro m₁ m₂ b m₁'' hm hrun
  obtain ⟨a, m₁', h₁, h₂⟩ := run_bind_ok hrun
  obtain ⟨m₂', hg, hm'⟩ := hf m₁ m₂ a m₁' hm h₁
  obtain ⟨m₂'', hl, hm''⟩ := hk a (hQ m₁ m₂ a m₁' hm h₁) m₁' m₂' b m₁'' hm' h₂
  refine ⟨m₂'', ?_, hm''⟩
  rw [EStateM.run_bind, hg]
  exact hl

theorem bind
    {f g : Run α} {k l : α → Run β} (hf : Refines R f g) (hk : ∀ a, Refines R (k a) (l a)) :
    Refines R (f >>= k) (g >>= l) :=
  bind_of (Q := fun _ => True) hf (fun _ _ _ _ _ _ => trivial) fun a _ => hk a

theorem step_left
    {f : Run α} {k : α → Run β} {g : Run β}
    (hf : ∀ m₁ m₂ a m₁', R m₁ m₂ → f.run m₁ = .ok a m₁' → R m₁' m₂)
    (hk : ∀ a, Refines R (k a) g) :
    Refines R (f >>= k) g := by
  intro m₁ m₂ b m₁'' hm hrun
  obtain ⟨a, m₁', h₁, h₂⟩ := run_bind_ok hrun
  exact hk a m₁' m₂ b m₁'' (hf m₁ m₂ a m₁' hm h₁) h₂

theorem step_right
    {f : Run β} {g : Run α} {k : α → Run β}
    (hg : ∀ m₁ m₂, R m₁ m₂ → ∃ a m₂', g.run m₂ = .ok a m₂' ∧ R m₁ m₂')
    (hk : ∀ a, Refines R f (k a)) :
    Refines R f (g >>= k) := by
  intro m₁ m₂ b m₁' hm hrun
  obtain ⟨a, m₂', hg', hm'⟩ := hg m₁ m₂ hm
  obtain ⟨m₂'', hk', hm''⟩ := hk a m₁ m₂' b m₁' hm' hrun
  refine ⟨m₂'', ?_, hm''⟩
  rw [EStateM.run_bind, hg']
  exact hk'

theorem ite_of
    {c : Prop} [Decidable c] {f f' g g' : Run α}
    (hf : c → Refines R f f') (hg : ¬c → Refines R g g') :
    Refines R (if c then f else g) (if c then f' else g') := by
  by_cases hc : c
  · simpa only [if_pos hc] using hf hc
  · simpa only [if_neg hc] using hg hc

theorem forIn
    {xs : List γ} {f g : γ → β → Run (ForInStep β)} (h : ∀ x b, Refines R (f x b) (g x b))
    (init : β) :
    Refines R (ForIn.forIn xs init f) (ForIn.forIn xs init g) := by
  induction xs generalizing init with
  | nil => exact Refines.pure init
  | cons x xs ih =>
      simp only [List.forIn_cons]
      refine Refines.bind (h x init) fun step => ?_
      cases step with
      | done b => exact Refines.pure b
      | yield b => exact ih b

theorem options_bind
    (hR : ViewRel R) {k l : Options → Run α}
    (h : ∀ o₁ o₂, o₁.sansVersion = o₂.sansVersion → Refines R (k o₁) (l o₂)) :
    Refines R (Run.options >>= k) (Run.options >>= l) := by
  intro m₁ m₂ a m₁' hm hrun
  exact h _ _ (hR.like hm).options m₁ m₂ a m₁' hm hrun

theorem session_bind_of
    {P : Session → Session → Prop} (hP : ∀ {m₁ m₂}, R m₁ m₂ → P m₁.session m₂.session)
    {k l : Session → Run α} (h : ∀ s₁ s₂, P s₁ s₂ → Refines R (k s₁) (l s₂)) :
    Refines R (Run.session >>= k) (Run.session >>= l) := by
  intro m₁ m₂ a m₁' hm hrun
  exact h _ _ (hP hm) m₁ m₂ a m₁' hm hrun

end Refines

/-! ## Visiting other types keeps every success -/

theorem visits_only_of_subset
    {G : Ty → Prop} {V₁ V₂ : List Ty} (h : V₁ ⊆ V₂) :
    ∀ x ∈ V₁, x ∉ V₂ → G x :=
  fun _ hx₁ hx₂ => absurd (h hx₁) hx₂

/-- A build that succeeds while visiting `V₁` succeeds alike while visiting `V₂`, given
enough fuel for the second and provided every type that `V₁` visits and `V₂` does not builds
on its own (`G`): by induction on that fuel. A nested check that the first makes and the
second skips only spends work; one that the second makes and the first skips is of a type
that builds on its own, and so also while visiting more. -/
theorem build_refines
    (cat : Catalog) (o : Options) (L : List ((Ty × VersionKey) × MappingList))
    (v : Option Version) (G : Ty → Prop)
    (hG : ∀ x, G x → ∀ m, m.Holds cat o L → ∃ l m', (buildList cat.fuel x v [x]).run m = .ok l m') :
    ∀ fuel,
      (∀ fuel₁ t (V₁ V₂ : List Ty), (∀ x ∈ V₁, x ∉ V₂ → G x) → BuildBudget cat fuel t V₂ →
        Refines (Holding cat o L L) (buildList fuel₁ t v V₁) (buildList fuel t v V₂)) ∧
      (∀ fuel₁ t chain (V₁ V₂ : List Ty) path depth, (∀ x ∈ V₁, x ∉ V₂ → G x) →
        CollectBudget cat fuel t chain V₂ →
        Refines (Holding cat o L L) (collect fuel₁ t v chain V₁ path depth)
          (collect fuel t v chain V₂ path depth)) ∧
      (∀ fuel₁ c (V₁ V₂ : List Ty), (∀ x ∈ V₁, x ∉ V₂ → G x) → NestedBudget cat fuel V₂ →
        Refines (Holding cat o L L) (checkNested fuel₁ c v V₁) (checkNested fuel c v V₂))
  | 0 =>
      ⟨fun _ _ _ _ _ hb => absurd hb.pos (Nat.lt_irrefl 0),
        fun _ _ _ _ _ _ _ _ hb => absurd hb.pos (Nat.lt_irrefl 0),
        fun _ _ _ _ _ hb => absurd hb.pos (Nat.lt_irrefl 0)⟩
  | fuel + 1 => by
      obtain ⟨hbuild, hcollect, hcheck⟩ := build_refines cat o L v G hG fuel
      have hR : ViewRel (Holding cat o L L) := holding_viewRel
      refine ⟨fun fuel₁ t V₁ V₂ honly hb => ?_, fun fuel₁ t chain V₁ V₂ path depth honly hb => ?_,
        fun fuel₁ c V₁ V₂ honly hb => ?_⟩
      · cases fuel₁ with
        | zero =>
            rw [Run.buildList]
            intro _ _ _ _ _ h
            cases h
        | succ fuel₁ =>
            rw [Run.buildList, Run.buildList]
            refine Refines.ite_of (fun _ => ?_) fun _ => Refines.throw_bind _
            exact Refines.bind (hcollect _ _ _ _ _ _ _ honly hb.collect) fun found =>
              Refines.bind (Refines.of_sim (log_sim hR _ _)) fun _ => Refines.pure _
      · cases fuel₁ with
        | zero =>
            rw [Run.collect]
            intro _ _ _ _ _ h
            cases h
        | succ fuel₁ =>
            rw [Run.collect, Run.collect]
            refine Refines.options_bind hR fun o₁ o₂ ho => ?_
            have hpolicy : o₁.cyclePolicy = o₂.cyclePolicy := by
              have hc := congrArg Options.cyclePolicy ho
              exact hc
            simp only [hpolicy]
            refine Refines.bind_of (Q := fun _ => t ∈ cat.types) (Refines.of_sim (members_sim hR t))
              (fun _ _ _ _ hm hrun => hm.1.mem_types hrun) fun ds ht => ?_
            refine Refines.bind (Refines.forIn (fun d out => ?_) _) fun _ => Refines.pure _
            refine Refines.ite_of (fun _ =>
              Refines.bind (Refines.of_sim (log_sim hR _ _)) fun _ => Refines.pure _) fun _ => ?_
            refine Refines.bind (Refines.of_sim (resolveMember_sim hR d none)) fun r => ?_
            cases r with
            | some c => exact Refines.bind (hcheck _ _ _ _ honly (hb.nested ht)) fun _ => Refines.pure _
            | none =>
                cases d.info.ty.innermostObject? with
                | none => exact Refines.throw_bind _
                | some target =>
                    dsimp only
                    refine Refines.ite_of (fun _ => ?_) fun hout => ?_
                    · cases o₂.cyclePolicy
                      · exact Refines.bind (Refines.of_sim (log_sim hR _ _)) fun _ => Refines.pure _
                      · exact Refines.throw_bind _
                    have hx : target ∉ chain := by simpa using hout
                    refine Refines.ite_of (fun _ => Refines.bind
                      (hcollect _ _ _ _ _ _ _ honly (hb.cascade ht hx)) fun _ => Refines.pure _)
                      fun _ => ?_
                    refine Refines.bind (Refines.of_sim (resolveMember_sim hR _ _)) fun r => ?_
                    cases r with
                    | none => exact Refines.throw_bind _
                    | some c =>
                        exact Refines.bind (hcheck _ _ _ _ honly (hb.nested ht)) fun _ =>
                          Refines.pure _
      · cases fuel₁ with
        | zero =>
            rw [Run.checkNested]
            intro _ _ _ _ _ h
            cases h
        | succ fuel₁ =>
            rw [Run.checkNested, Run.checkNested]
            refine Refines.bind (Refines.forIn (fun nested _ => ?_) _) fun _ => Refines.pure _
            refine Refines.session_bind_of (P := fun s₁ s₂ => s₁.lists = L ∧ s₂.lists = L)
              (fun hm => ⟨hm.1.lists, hm.2.lists⟩) fun s₁ s₂ hs => ?_
            rw [hs.1, hs.2]
            by_cases hskip₂ : (V₂.contains nested || (L.lookup (nested, versionKey v)).isSome) = true
            · rw [if_pos hskip₂]
              by_cases hskip₁ :
                  (V₁.contains nested || (L.lookup (nested, versionKey v)).isSome) = true
              · rw [if_pos hskip₁]
                exact Refines.pure _
              · rw [if_neg hskip₁]
                refine Refines.step_left (fun _ _ _ _ hm hrun => ?_) fun _ =>
                  Refines.step_left (fun _ _ _ _ hm hrun => ?_) fun _ => Refines.pure _
                · obtain ⟨s, rfl, ha⟩ := buildList_refresh_ok hrun
                  exact ⟨hm.1.refresh ha, hm.2⟩
                · rw [log_run] at hrun
                  cases hrun
                  exact ⟨hm.1.refresh (Session.refresh_logs _ _), hm.2⟩
            · have hnot : ¬V₂.contains nested = true ∧
                  ¬(L.lookup (nested, versionKey v)).isSome = true := by
                simpa only [Bool.or_eq_true, not_or] using hskip₂
              have hx : nested ∉ V₂ := by simpa using hnot.1
              rw [if_neg hskip₂]
              by_cases hskip₁ :
                  (V₁.contains nested || (L.lookup (nested, versionKey v)).isSome) = true
              · rw [if_pos hskip₁]
                have hgood : G nested := by
                  refine honly nested ?_ hx
                  simp only [Bool.or_eq_true] at hskip₁
                  exact List.contains_iff_mem.1 (hskip₁.resolve_right hnot.2)
                refine Refines.step_right (fun m₁ m₂ hm => ?_) fun _ =>
                  Refines.step_right (fun m₁ m₂ hm => ?_) fun _ => Refines.pure _
                · obtain ⟨l, m', hrun⟩ := hG nested hgood m₂ hm.2
                  obtain ⟨m₂', hrun', hm'⟩ := hbuild cat.fuel nested [nested] (nested :: V₂)
                    (visits_only_of_subset (by simp)) (hb.build hx) m₂ m₂ l m' ⟨hm.2, hm.2⟩ hrun
                  exact ⟨l, m₂', hrun', hm.1, hm'.2⟩
                · exact ⟨(), _, log_run _ _ _, hm.1, hm.2.refresh (Session.refresh_logs _ _)⟩
              · rw [if_neg hskip₁]
                have honly' : ∀ x ∈ nested :: V₁, x ∉ nested :: V₂ → G x := by
                  intro x hx₁ hx₂
                  rcases List.mem_cons.1 hx₁ with rfl | hx₁
                  · exact absurd (List.mem_cons_self ..) hx₂
                  · exact honly x hx₁ fun h => hx₂ (List.mem_cons_of_mem _ h)
                exact Refines.bind (hbuild _ _ _ _ honly' (hb.build hx))
                  fun _ => Refines.bind (Refines.of_sim (log_sim hR _ _)) fun _ => Refines.pure _

end Run
end ObjectWire
