import ObjectWire.Proofs.MappingOrder
/-!
# Version gates filter mapping lists

A member's gates admit an active version by its value alone: each gate compares the value
with its own, and one that cannot compare (a NaN on either side) admits it. Without an active
version every member is present. So the mapping list of a type for a version is the list with
no version, less the mappings whose member, or a cascaded field on whose path, a gate shuts
out (`Mapping.presentAt`): a gated field takes its whole cascade with it.

Three facts carry this. The member walk with a version is the walk with none, filtered
(`MemberWalk.gate`), and a walk is a function of its members (`MemberWalk.unique`). The
builder's stable sort commutes with filtering (`sortStable_filter`). And a build for a
version succeeds whenever the build with none does (`gated_build_refines`): it walks a part
of the same members, resolves the same converters, and its nested checks, built for the same
version, succeed by the same argument one level of fuel down.

**Results.**
* `MemberWalk.gate`, `MemberWalk.unique`: gating filters the walk, which is determined.
* `sortStable_filter`: filtering and the stable sort commute.
* `gated_build_refines`: building for a version succeeds where building with none does.
* `version_gating_filters_the_mapping_list`: the mapping list for a version is the one with
  no version, filtered by the version's value.
-/

namespace ObjectWire

/-! ## Gates -/

/-- Whether a member's gates all admit the active value `x`. -/
def Descriptor.admits (x : Binary64) (d : Descriptor) : Bool :=
  d.info.attributes.versions.all fun g => g.isSupported (some x) true

/-- Whether a mapping is present at the active value `x`: its member and every cascaded field
on its path admit `x`. -/
def Mapping.presentAt (x : Binary64) (m : Mapping) : Bool :=
  m.member.admits x && m.path.all (Descriptor.admits x)

@[simp] theorem isMemberPresent_none
    (gates : List Version) :
    isMemberPresent gates none = true := by
  simp [isMemberPresent, Version.isSupported]

theorem isMemberPresent_some
    (d : Descriptor) (a : Version) :
    isMemberPresent d.info.attributes.versions (some a) = d.admits a.value :=
  rfl

/-! ## Filtering and the stable sort -/

section Sorting

variable {α : Type} {le : α → α → Bool} {p : α → Bool}

theorem insertBefore_of_head
    {a : α} {s : List α} (h : ∀ b ∈ s.head?, le a b = true) :
    insertBefore le a s = a :: s := by
  cases s with
  | nil => rfl
  | cons b s => simp [insertBefore, h b rfl]

theorem insertBefore_filter_of_not
    {a : α} (ha : p a = false) (s : List α) :
    (insertBefore le a s).filter p = s.filter p := by
  induction s with
  | nil => simp [insertBefore, ha]
  | cons b s ih =>
      unfold insertBefore
      split
      · simp [ha]
      · simp only [List.filter_cons, ih]

/-- An element the filter keeps lands in a sorted list's filtered part where it lands in the
list itself. -/
theorem insertBefore_filter_of
    (trans : ∀ a b c, le a b = true → le b c = true → le a c = true)
    {a : α} (ha : p a = true) {s : List α} (hs : s.Pairwise fun x y => le x y = true) :
    (insertBefore le a s).filter p = insertBefore le a (s.filter p) := by
  induction s with
  | nil => simp [insertBefore, ha]
  | cons b s ih =>
      have hs' := List.pairwise_cons.1 hs
      by_cases hab : le a b = true
      · rw [insertBefore, if_pos hab, List.filter_cons_of_pos ha]
        refine (insertBefore_of_head fun c hc => ?_).symm
        have hc' : c ∈ (b :: s).filter p := List.mem_of_mem_head? hc
        rcases List.mem_cons.1 (List.mem_filter.1 hc').1 with rfl | hcs
        · exact hab
        · exact trans a b c hab (hs'.1 c hcs)
      · rw [insertBefore, if_neg hab, List.filter_cons, ih hs'.2, List.filter_cons]
        split
        · rw [insertBefore, if_neg hab]
        · rfl

theorem sortStable_filter
    (trans : ∀ a b c, le a b = true → le b c = true → le a c = true)
    (total : ∀ a b, (le a b || le b a) = true) (l : List α) :
    sortStable le (l.filter p) = (sortStable le l).filter p := by
  induction l with
  | nil => rfl
  | cons a l ih =>
      have hsorted : (sortStable le l).Pairwise fun x y => le x y = true := by
        rw [sortStable_eq_mergeSort trans total]
        exact List.pairwise_mergeSort trans total l
      cases ha : p a
      · rw [List.filter_cons_of_neg (by simp [ha]), ih, sortStable,
          insertBefore_filter_of_not ha]
      · rw [List.filter_cons_of_pos ha, sortStable, ih, sortStable,
          insertBefore_filter_of trans ha hsorted]

end Sorting

theorem sortStable_before_filter
    (p : Mapping → Bool) (l : List Mapping) :
    sortStable Mapping.before (l.filter p) = (sortStable Mapping.before l).filter p := by
  refine sortStable_filter (fun a b c hab hbc => ?_) (fun a b => ?_) l
  · rw [Mapping.before_eq, decide_eq_true_eq] at *
    exact le_trans hab hbc
  · simpa [Mapping.before_eq] using le_total a.key b.key

/-! ## Walks for a version -/

namespace MemberWalk

variable {cat : Catalog} {o : Options}

/-- A walk emits its mappings behind the path it starts from. -/
theorem path_prefix
    {v : Option Version} {chain : List Ty} {path : List Descriptor} {depth : Nat}
    {ds : List Descriptor} {out : List Mapping}
    (h : MemberWalk cat o v chain path depth ds out) :
    ∀ m ∈ out, path <+: m.path := by
  induction h with
  | nil => simp
  | gatedOut _ _ ih => exact ih
  | direct _ _ _ ih =>
      intro m hm
      rcases List.mem_cons.1 hm with rfl | hm
      · exact List.prefix_refl _
      · exact ih m hm
  | backReference _ _ _ _ _ ih => exact ih
  | cascade _ _ _ _ _ _ _ _ ihin ih =>
      intro m hm
      rcases List.mem_append.1 hm with hm | hm
      · exact (List.prefix_append _ _).trans (ihin m hm)
      · exact ih m hm
  | object _ _ _ _ _ _ _ ih =>
      intro m hm
      rcases List.mem_cons.1 hm with rfl | hm
      · exact List.prefix_refl _
      · exact ih m hm

/-- The walk for a version is the walk with none, less the mappings the version's value
shuts out: a member a gate shuts out is skipped, with all it would cascade into. -/
theorem gate
    (a : Version) {chain : List Ty} {path : List Descriptor} {depth : Nat}
    {ds : List Descriptor} {out : List Mapping}
    (h : MemberWalk cat o none chain path depth ds out) (hpath : ∀ p ∈ path, p.admits a.value) :
    MemberWalk cat o (some a) chain path depth ds (out.filter (Mapping.presentAt a.value)) := by
  induction h with
  | nil => exact .nil
  | gatedOut hgate _ _ => simp at hgate
  | @direct chain path depth d ds out c _ hconv _ ih =>
      cases hd : d.admits a.value
      · have hdrop : Mapping.presentAt a.value ⟨d, path, depth, c⟩ = false := by
          simp [Mapping.presentAt, hd]
        rw [List.filter_cons_of_neg (by simp [hdrop])]
        exact .gatedOut hd (ih hpath)
      · have hkeep : Mapping.presentAt a.value ⟨d, path, depth, c⟩ = true := by
          simpa [Mapping.presentAt, hd] using hpath
        rw [List.filter_cons_of_pos hkeep]
        exact .direct hd hconv (ih hpath)
  | backReference _ hconv htarget hchain _ ih =>
      cases hd : Descriptor.admits a.value _
      · exact .gatedOut hd (ih hpath)
      · exact .backReference hd hconv htarget hchain (ih hpath)
  | @cascade chain path depth d ds out target es inner _ hconv htarget hchain hcascade hes hinner _
      ihin ih =>
      rw [List.filter_append]
      cases hd : d.admits a.value
      · have hgone : inner.filter (Mapping.presentAt a.value) = [] := by
          refine List.filter_eq_nil_iff.2 fun m hm => ?_
          obtain ⟨rest, hrest⟩ := MemberWalk.path_prefix hinner m hm
          have hdm : d ∈ m.path := by simp [← hrest]
          simp only [Mapping.presentAt, Bool.and_eq_true, List.all_eq_true, not_and]
          exact fun _ hall => by simpa [hd] using hall d hdm
        rw [hgone, List.nil_append]
        exact .gatedOut hd (ih hpath)
      · have hpath' : ∀ p ∈ path ++ [d], p.admits a.value := by
          intro p hp
          rcases List.mem_append.1 hp with hp | hp
          · exact hpath p hp
          · rw [List.mem_singleton.1 hp]
            exact hd
        exact .cascade hd hconv htarget hchain hcascade hes (ihin hpath') (ih hpath)
  | @object chain path depth d ds out target c _ hconv htarget hchain hcascade hobject _ ih =>
      cases hd : d.admits a.value
      · have hdrop : Mapping.presentAt a.value ⟨d, path, depth, c⟩ = false := by
          simp [Mapping.presentAt, hd]
        rw [List.filter_cons_of_neg (by simp [hdrop])]
        exact .gatedOut hd (ih hpath)
      · have hkeep : Mapping.presentAt a.value ⟨d, path, depth, c⟩ = true := by
          simpa [Mapping.presentAt, hd] using hpath
        rw [List.filter_cons_of_pos hkeep]
        exact .object hd hconv htarget hchain hcascade hobject (ih hpath)

/-- The walk of a list of members is determined: each member takes the one branch its gates,
converter, object type, chain and cascade condition select. -/
theorem unique
    {v : Option Version} {chain : List Ty} {path : List Descriptor} {depth : Nat}
    {ds : List Descriptor} {out₁ out₂ : List Mapping}
    (h₁ : MemberWalk cat o v chain path depth ds out₁)
    (h₂ : MemberWalk cat o v chain path depth ds out₂) :
    out₁ = out₂ := by
  induction h₁ generalizing out₂ with
  | nil =>
      cases h₂
      rfl
  | gatedOut hgate _ ih =>
      cases h₂
      case gatedOut out' _ hrest => exact ih hrest
      all_goals simp_all
  | direct hgate hconv _ ih =>
      cases h₂
      case direct out' c' _ hconv' hrest =>
        rw [hconv] at hconv'
        cases hconv'
        rw [ih hrest]
      all_goals simp_all
  | backReference hgate hconv htarget hchain _ ih =>
      cases h₂
      case backReference out' target' _ _ _ _ hrest => exact ih hrest
      all_goals simp_all
  | cascade hgate hconv htarget hchain hcascade hes _ _ ihin ih =>
      cases h₂
      case cascade out' target' es' inner' hes' _ _ _ htarget' _ hinner hrest =>
        rw [htarget] at htarget'
        cases htarget'
        rw [hes] at hes'
        cases hes'
        rw [ihin hinner, ih hrest]
      all_goals simp_all
  | object hgate hconv htarget hchain hcascade hobject _ ih =>
      cases h₂
      case object out' target' c' _ _ _ htarget' _ hobject' hrest =>
        rw [htarget] at htarget'
        cases htarget'
        rw [hobject] at hobject'
        cases hobject'
        rw [ih hrest]
      all_goals simp_all

end MemberWalk

namespace Run

variable {α β γ δ : Type} {R : Machine → Machine → Prop}

/-! ## Refinement with related values -/

/-- From `R`-related machines, every success of `f` is matched by a success of `g` with a
value related by `V`, in related machines. -/
def RefinesBy (V : α → β → Prop) (R : Machine → Machine → Prop) (f : Run α) (g : Run β) : Prop :=
  ∀ m₁ m₂ a m₁', R m₁ m₂ → f.run m₁ = .ok a m₁' →
    ∃ b m₂', g.run m₂ = .ok b m₂' ∧ V a b ∧ R m₁' m₂'

/-- Loop steps that both go on. -/
def BothYield (r₁ : ForInStep γ) (r₂ : ForInStep δ) : Prop :=
  ∃ b₁ b₂, r₁ = .yield b₁ ∧ r₂ = .yield b₂

namespace RefinesBy

variable {V : α → β → Prop} {W : γ → δ → Prop}

theorem of_sim
    {f g : Run α} (h : Sim R f g) :
    RefinesBy Eq R f g := by
  intro m₁ m₂ a m₁' hm hrun
  have hc := h m₁ m₂ hm
  rw [hrun] at hc
  obtain ⟨m₂', hg, hR⟩ := hc.ok_left
  exact ⟨a, m₂', hg, rfl, hR⟩

theorem pure
    {a : α} {b : β} (h : V a b) :
    RefinesBy V R (Pure.pure a) (Pure.pure b) := by
  rintro m₁ m₂ a' m₁' hm ⟨⟩
  exact ⟨b, m₂, rfl, h, hm⟩

theorem throw_bind
    (e : Error) {k : α → Run γ} {g : Run δ} :
    RefinesBy W R (MonadExcept.throw e >>= k) g := by
  intro m₁ m₂ a m₁' _ hrun
  cases hrun

theorem throw
    (e : Error) {g : Run β} :
    RefinesBy V R (MonadExcept.throw e) g := by
  intro m₁ m₂ a m₁' _ hrun
  cases hrun

theorem bind
    {f : Run α} {g : Run β} {k : α → Run γ} {l : β → Run δ} (hf : RefinesBy V R f g)
    (hk : ∀ a b, V a b → RefinesBy W R (k a) (l b)) :
    RefinesBy W R (f >>= k) (g >>= l) := by
  intro m₁ m₂ c m₁'' hm hrun
  obtain ⟨a, m₁', h₁, h₂⟩ := run_bind_ok hrun
  obtain ⟨b, m₂', hg, hab, hm'⟩ := hf m₁ m₂ a m₁' hm h₁
  obtain ⟨d, m₂'', hl, hcd, hm''⟩ := hk a b hab m₁' m₂' c m₁'' hm' h₂
  refine ⟨d, m₂'', ?_, hcd, hm''⟩
  rw [EStateM.run_bind, hg]
  exact hl

theorem ite_same
    {c : Prop} [Decidable c] {f f' : Run α} {g g' : Run β}
    (hf : c → RefinesBy V R f g) (hg : ¬c → RefinesBy V R f' g') :
    RefinesBy V R (if c then f else f') (if c then g else g') := by
  by_cases hc : c
  · simpa only [if_pos hc] using hf hc
  · simpa only [if_neg hc] using hg hc

theorem logs
    (hR : ViewRel R) (level₁ level₂ : Level) (message₁ message₂ : String) :
    RefinesBy (fun _ _ => True) R (log level₁ message₁) (log level₂ message₂) := by
  rintro m₁ m₂ _ m₁' hm ⟨⟩
  exact ⟨(), _, rfl, trivial, hR.update hm (Session.refresh_logs _ _) (Session.refresh_logs _ _)⟩

theorem options
    (hR : ViewRel R) :
    RefinesBy (fun o₁ o₂ => o₁.sansVersion = o₂.sansVersion) R Run.options Run.options := by
  rintro m₁ m₂ _ m₁' hm ⟨⟩
  exact ⟨_, m₂, rfl, (hR.like hm).options, hm⟩

theorem session_bind
    {P : Session → Session → Prop} (hP : ∀ {m₁ m₂}, R m₁ m₂ → P m₁.session m₂.session)
    {k : Session → Run α} {l : Session → Run β} (h : ∀ s₁ s₂, P s₁ s₂ → RefinesBy V R (k s₁) (l s₂)) :
    RefinesBy V R (Run.session >>= k) (Run.session >>= l) := by
  intro m₁ m₂ a m₁' hm hrun
  exact h _ _ (hP hm) m₁ m₂ a m₁' hm hrun

theorem forIn
    {xs : List γ} {f : γ → α → Run (ForInStep α)} {g : γ → β → Run (ForInStep β)}
    (h : ∀ x ∈ xs, ∀ a b, RefinesBy BothYield R (f x a) (g x b)) :
    ∀ init₁ init₂, RefinesBy (fun _ _ => True) R (ForIn.forIn xs init₁ f) (ForIn.forIn xs init₂ g) := by
  induction xs with
  | nil => exact fun init₁ init₂ => pure trivial
  | cons x xs ih =>
      intro init₁ init₂
      simp only [List.forIn_cons]
      refine bind (h x (List.mem_cons_self ..) init₁ init₂) fun r₁ r₂ ⟨b₁, b₂, hr₁, hr₂⟩ => ?_
      subst hr₁ hr₂
      exact ih (fun y hy => h y (List.mem_cons_of_mem x hy)) b₁ b₂

end RefinesBy

/-! ## Building for a version refines building with none -/

/-- Machines whose sessions both agree with `s₀`. -/
def BothAgree (s₀ : Session) (m₁ m₂ : Machine) : Prop :=
  Session.Agree s₀ m₁.session ∧ Session.Agree s₀ m₂.session

theorem bothAgree_sessionRel
    (s₀ : Session) :
    SessionRel (BothAgree s₀) where
  agree h := h.1.symm.trans h.2
  update h h₁ h₂ := ⟨h.1.trans h₁, h.2.trans h₂⟩

section Gated

variable {cat : Catalog} {o : Options}

theorem RefinesBy.of_left
    {s₀ : Session} {f : Run α} {g : Run β} {P : α → Prop} {V : α → β → Prop}
    (hf : Ensures s₀ f P)
    (hg : ∀ m₂ a, P a → Session.Agree s₀ m₂.session →
      ∃ b m₂', g.run m₂ = .ok b m₂' ∧ V a b ∧ Session.Agree s₀ m₂'.session) :
    RefinesBy V (BothAgree s₀) f g := by
  intro m₁ m₂ a m₁' hm hrun
  obtain ⟨ha, h₁⟩ := hf m₁ a m₁' hm.1 hrun
  obtain ⟨b, m₂', hg', hab, h₂⟩ := hg m₂ a ha hm.2
  exact ⟨b, m₂', hg', hab, h₁, h₂⟩

/-- One member: a member the version gates out is walked on the left only, with the right
logging and going on; any other member is handled alike on both sides. -/
theorem collectStep_refines
    (a : Version) {fuel : Nat} {chain visiting : List Ty} {path : List Descriptor} {depth : Nat}
    (hcollect : ∀ t chain path depth, RefinesBy (fun _ _ => True) (BothAgree (Session.new cat o))
      (collect fuel t none chain visiting path depth) (collect fuel t (some a) chain visiting path depth))
    (hcheck : ∀ c, RefinesBy (fun _ _ => True) (BothAgree (Session.new cat o))
      (checkNested fuel c none visiting) (checkNested fuel c (some a) visiting))
    (policy : CyclePolicy) (d : Descriptor) (acc₁ acc₂ : List Mapping) :
    RefinesBy BothYield (BothAgree (Session.new cat o))
      (collectStep fuel none chain visiting path depth policy d acc₁)
      (collectStep fuel (some a) chain visiting path depth policy d acc₂) := by
  have hR := bothAgree_sessionRel (Session.new cat o)
  cases hgate : isMemberPresent d.info.attributes.versions (some a)
  case false =>
    refine RefinesBy.of_left (@collectStep_walks cat o fuel none chain visiting path depth policy
      (collect_walks cat o none fuel · · visiting · ·) d acc₁) fun m₂ r ⟨w, hr, _⟩ hm₂ => ?_
    unfold collectStep
    rw [if_pos (by simp [hgate])]
    exact ⟨_, _, rfl, ⟨_, _, hr, rfl⟩, hm₂.trans (Session.agree_logs _ _)⟩
  case true =>
  unfold collectStep
  rw [if_neg (by simp), if_neg (by simp [hgate])]
  refine RefinesBy.bind (RefinesBy.of_sim (resolveMember_sim hR.toViewRel d none)) ?_
  rintro r _ rfl
  cases r with
  | some c =>
      exact RefinesBy.bind (hcheck c) fun _ _ _ => RefinesBy.pure ⟨_, _, rfl, rfl⟩
  | none =>
  cases d.info.ty.innermostObject? with
  | none => exact RefinesBy.throw _
  | some target =>
  dsimp only
  refine RefinesBy.ite_same (fun _ => ?_) fun _ => ?_
  · cases policy
    · exact RefinesBy.bind (RefinesBy.of_sim (log_sim hR.toViewRel _ _)) fun _ _ _ =>
        RefinesBy.pure ⟨_, _, rfl, rfl⟩
    · exact RefinesBy.throw_bind _
  refine RefinesBy.ite_same (fun _ => ?_) fun _ => ?_
  · exact RefinesBy.bind (hcollect _ _ _ _) fun _ _ _ => RefinesBy.pure ⟨_, _, rfl, rfl⟩
  refine RefinesBy.bind (RefinesBy.of_sim (resolveMember_sim hR.toViewRel d _)) ?_
  rintro r _ rfl
  cases r with
  | none => exact RefinesBy.throw _
  | some c => exact RefinesBy.bind (hcheck c) fun _ _ _ => RefinesBy.pure ⟨_, _, rfl, rfl⟩

/-- Building for a version succeeds wherever building with no version does, from machines
that both agree with a fresh serializer: by induction on the fuel shared by the builder's
three parts. -/
theorem gated_build_refines
    (cat : Catalog) (o : Options) (a : Version) :
    ∀ fuel,
      (∀ t visiting, RefinesBy (fun _ _ => True) (BothAgree (Session.new cat o))
        (buildList fuel t none visiting) (buildList fuel t (some a) visiting)) ∧
      (∀ t chain visiting path depth, RefinesBy (fun _ _ => True) (BothAgree (Session.new cat o))
        (collect fuel t none chain visiting path depth)
        (collect fuel t (some a) chain visiting path depth)) ∧
      (∀ c visiting, RefinesBy (fun _ _ => True) (BothAgree (Session.new cat o))
        (checkNested fuel c none visiting) (checkNested fuel c (some a) visiting))
  | 0 => by
      refine ⟨fun t visiting => ?_, fun t chain visiting path depth => ?_, fun c visiting => ?_⟩
      · rw [buildList]
        exact RefinesBy.throw _
      · rw [collect]
        exact RefinesBy.throw _
      · rw [checkNested]
        exact RefinesBy.throw _
  | fuel + 1 => by
      obtain ⟨hbuild, hcollect, hcheck⟩ := gated_build_refines cat o a fuel
      have hR := bothAgree_sessionRel (Session.new cat o)
      refine ⟨fun t visiting => ?_, fun t chain visiting path depth => ?_, fun c visiting => ?_⟩
      · rw [buildList, buildList]
        refine RefinesBy.ite_same (fun _ => ?_) fun _ => RefinesBy.throw_bind _
        exact RefinesBy.bind (hcollect _ _ _ _ _) fun _ _ _ =>
          RefinesBy.bind (RefinesBy.logs hR.toViewRel _ _ _ _) fun _ _ _ => RefinesBy.pure trivial
      · rw [collect_succ, collect_succ]
        refine RefinesBy.bind (RefinesBy.options hR.toViewRel) fun o₁ o₂ ho => ?_
        have hpolicy : o₁.cyclePolicy = o₂.cyclePolicy := by
          have hc := congrArg Options.cyclePolicy ho
          exact hc
        rw [hpolicy]
        refine RefinesBy.bind (RefinesBy.of_sim (members_sim hR.toViewRel t)) ?_
        rintro ds _ rfl
        exact RefinesBy.bind (RefinesBy.forIn (fun d _ acc₁ acc₂ =>
          collectStep_refines a (hcollect · · visiting · ·) (hcheck · visiting) _ d acc₁ acc₂) [] [])
          fun _ _ _ => RefinesBy.pure trivial
      · rw [checkNested, checkNested]
        refine RefinesBy.bind (RefinesBy.forIn (fun nested _ _ _ => ?_) _ _) fun _ _ _ =>
          RefinesBy.pure trivial
        refine RefinesBy.session_bind (P := fun s₁ s₂ => s₁.lists = [] ∧ s₂.lists = [])
          (fun hm => ⟨hm.1.lists.symm, hm.2.lists.symm⟩) fun s₁ s₂ hs => ?_
        simp only [hs.1, hs.2, List.lookup_nil, Option.isSome_none, Bool.or_false]
        refine RefinesBy.ite_same (fun _ => RefinesBy.pure ⟨_, _, rfl, rfl⟩) fun _ => ?_
        exact RefinesBy.bind (hbuild _ _) fun _ _ _ =>
          RefinesBy.bind (RefinesBy.logs hR.toViewRel _ _ _ _) fun _ _ _ =>
            RefinesBy.pure ⟨_, _, rfl, rfl⟩

end Gated

/-- The mapping list of a type for a version is its mapping list with no version, less the
mappings that the version's value shuts out: those whose member, or a cascaded field on whose
path, has a gate that does not admit the value. It depends on the version through its value
only, and a gated field takes its whole cascade with it. -/
theorem version_gating_filters_the_mapping_list
    {cat : Catalog} {o : Options} {t : Ty} {L : MappingList}
    (h : freshList cat o t none = .ok L) (a : Version) :
    ∃ L', freshList cat o t (some a) = .ok L' ∧ L'.ty = L.ty ∧ L'.version = some a ∧
      L'.mappings = L.mappings.filter (Mapping.presentAt a.value) := by
  obtain ⟨m₁', hrun⟩ := answer_eq_ok h
  obtain ⟨L', m₂', hrun', -, -⟩ := (gated_build_refines cat o a cat.fuel).1 t [t]
    ((Session.new cat o).machine [] none) ((Session.new cat o).machine [] none) L m₁'
    ⟨Session.Agree.refl _, Session.Agree.refl _⟩ hrun
  have h' : freshList cat o t (some a) = .ok L' := by
    unfold freshList
    rw [hrun']
    rfl
  obtain ⟨hty, -, ds, walk, hds, hwalk, hsorted⟩ := freshList_walks h
  obtain ⟨hty', hver', ds', walk', hds', hwalk', hsorted'⟩ := freshList_walks h'
  rw [hds] at hds'
  cases hds'
  rw [MemberWalk.unique hwalk' (hwalk.gate a fun _ hp => nomatch hp)] at hsorted'
  refine ⟨L', h', hty'.trans hty.symm, hver', ?_⟩
  rw [hsorted', hsorted, sortStable_before_filter]

/-- At version 1, `Gates` loses its members gated from 2 on, among them the field `place`
with the address it cascades into. -/
theorem gates_at_version_one_filter_the_list :
    ∃ L, freshList Sample.catalog {} (Sample.obj "Gates") none = .ok L ∧
      ∃ L', freshList Sample.catalog {} (Sample.obj "Gates") (some (.exactly (Sample.num 1))) = .ok L' ∧
        L'.ty = L.ty ∧ L'.version = some (.exactly (Sample.num 1)) ∧
        L'.mappings = L.mappings.filter (Mapping.presentAt (Sample.num 1)) := by
  have hok : (freshList Sample.catalog {} (Sample.obj "Gates") none).toBool = true := by
    decide +kernel
  cases hl : freshList Sample.catalog {} (Sample.obj "Gates") none with
  | error e =>
      rw [hl] at hok
      cases hok
  | ok L => exact ⟨L, rfl, version_gating_filters_the_mapping_list hl (.exactly (Sample.num 1))⟩

end Run
end ObjectWire
