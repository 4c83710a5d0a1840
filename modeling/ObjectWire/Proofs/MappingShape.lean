import ObjectWire.Proofs.EngineRelation
/-!
# The shape of mapping lists

Every mapping of a type's mapping list is reached through a member of that type: a member
of the root is mapped with an empty path, and a member of a cascaded object lies behind the
first field of its path, a member of the root that can be borrowed mutably. The builder
keeps this along its walk: the members it iterates are the type's own, and a cascade puts
the field it goes through in front of every mapping it collects.

A session is sound when its caches hold what they would compute afresh: each cached member
list is the type's members, and each cached mapping list belongs to its type and is reached
through the type's members. Agreement keeps soundness, and so does every step that caches,
so machines that agree and have a sound session form an engine relation.

**Results.**
* `buildList_ensures`: a built mapping list is its type's, with every mapping reached
  through a member of the type.
* `mappingList_run_sound`: asking for a mapping list keeps a session sound.
* `Machine.soundAgree_engineRel`: agreement with a sound session is an engine relation.
-/

namespace ObjectWire

/-! ## Sorting keeps the elements -/

section Sorting

variable {α : Type} (le : α → α → Bool)

theorem insertBefore_perm
    (a : α) (l : List α) :
    (insertBefore le a l).Perm (a :: l) := by
  induction l with
  | nil => exact List.Perm.refl _
  | cons b l ih =>
      unfold insertBefore
      split
      · exact List.Perm.refl _
      · exact (List.Perm.cons b ih).trans (List.Perm.swap a b l)

theorem sortStable_perm
    (l : List α) :
    (sortStable le l).Perm l := by
  induction l with
  | nil => exact List.Perm.refl _
  | cons a l ih => exact (insertBefore_perm le a _).trans (List.Perm.cons a ih)

end Sorting

/-! ## Mappings reached through the members of their type -/

/-- The member of the root that leads to a mapping: the first cascaded field on its path, or
the member itself when the path is empty. -/
def Mapping.head (m : Mapping) : Descriptor := m.path.head?.getD m.member

/-- The member `member`, behind the cascaded fields `suffix`, is reached through a member
listed in `ds`: the first field of `suffix`, which can then be borrowed mutably, or the member
itself. -/
def Reaches (ds : List Descriptor) (member : Descriptor) (suffix : List Descriptor) : Prop :=
  suffix.head?.getD member ∈ ds ∧ (suffix ≠ [] → (suffix.head?.getD member).canCascade = true)

/-- A mapping reached through a member listed in `ds`. -/
def Mapping.Anchored (ds : List Descriptor) (m : Mapping) : Prop :=
  Reaches ds m.member m.path

/-- A mapping collected for `t` behind `path`: its path extends `path` by cascaded fields
through which it is reached from the members of `t`, as `s` lists them. -/
def Reached (s : Session) (t : Ty) (path : List Descriptor) (m : Mapping) : Prop :=
  ∃ ds suffix, s.memberList t = .ok ds ∧ m.path = path ++ suffix ∧ Reaches ds m.member suffix

namespace Session

/-- The caches of a session hold what they would compute afresh. -/
structure Sound (s : Session) : Prop where
  members : ∀ t ds, s.members.lookup t = some ds → discoverMembers s.catalog s.options t = .ok ds
  lists : ∀ key l, s.lists.lookup key = some l →
    l.ty = key.1 ∧ ∀ m ∈ l.mappings, ∃ ds, s.memberList key.1 = .ok ds ∧ m.Anchored ds

theorem sound_new
    (cat : Catalog) (o : Options) :
    Sound (Session.new cat o) where
  members _ _ h := by cases h
  lists _ _ h := by cases h

theorem Sound.memberList_eq
    {s : Session} (hs : s.Sound) (t : Ty) :
    s.memberList t = discoverMembers s.catalog s.options t := by
  unfold memberList
  cases hl : s.members.lookup t with
  | some ds => exact (hs.members t ds hl).symm
  | none => rfl

/-- Soundness is a property of what agreement keeps. -/
theorem Sound.of_agree
    {s s' : Session} (hs : s.Sound) (ha : Agree s s') :
    s'.Sound := by
  have hdiscover : ∀ t, discoverMembers s'.catalog s'.options t =
      discoverMembers s.catalog s.options t := fun t => by
    rw [← ha.catalog, discoverMembers_sansVersion ha.options.symm]
  refine ⟨fun t ds hl => ?_, fun key l hl => ?_⟩
  · have hm : s'.memberList t = .ok ds := by
      unfold memberList
      rw [hl]
    rw [← ha.members, hs.memberList_eq] at hm
    rw [hdiscover]
    exact hm
  · rw [← ha.lists] at hl
    obtain ⟨hty, hmaps⟩ := hs.lists key l hl
    refine ⟨hty, fun m hm => ?_⟩
    obtain ⟨ds, hds, hanchor⟩ := hmaps m hm
    exact ⟨ds, (ha.members key.1).symm.trans hds, hanchor⟩

end Session

namespace Run

variable {α β γ : Type}

/-! ## What a run that keeps agreement can return -/

/-- A run that keeps every session relation ends, successful or not, with a session that
agrees with the one it started with. -/
theorem agree_endState
    {f : Run α} (h : ∀ R, SessionRel R → Sim R f f) (m : Machine) :
    Session.Agree m.session (endState (f.run m)).session := by
  let R : Machine → Machine → Prop := fun m₁ m₂ =>
    Session.Agree m.session m₁.session ∧ Session.Agree m.session m₂.session
  have hR : SessionRel R :=
    ⟨fun h => h.1.symm.trans h.2, fun h h₁ h₂ => ⟨h.1.trans h₁, h.2.trans h₂⟩⟩
  have hc := h R hR m m ⟨Session.Agree.refl _, Session.Agree.refl _⟩
  cases hr : f.run m with
  | ok a m' =>
      rw [hr] at hc
      obtain ⟨m'', -, hR'⟩ := hc.ok_left
      exact hR'.1
  | error e m' =>
      rw [hr] at hc
      obtain ⟨m'', -, hR'⟩ := hc.error_left
      exact hR'.1

/-- From any machine whose session agrees with `s₀`, every success of `f` returns a value in
`Q` and ends agreeing with `s₀`. -/
def Ensures (s₀ : Session) (f : Run α) (Q : α → Prop) : Prop :=
  ∀ m a m', Session.Agree s₀ m.session → f.run m = .ok a m' → Q a ∧ Session.Agree s₀ m'.session

namespace Ensures

variable {s₀ : Session} {P Q : α → Prop}

theorem pure
    {a : α} (h : Q a) :
    Ensures s₀ (Pure.pure a) Q := by
  rintro m b m' hm ⟨⟩
  exact ⟨h, hm⟩

theorem throw
    (e : Error) :
    Ensures s₀ (MonadExcept.throw e : Run α) Q := by
  rintro m b m' hm ⟨⟩

theorem bind
    {f : Run α} {k : α → Run β} {Q : β → Prop}
    (hf : Ensures s₀ f P) (hk : ∀ a, P a → Ensures s₀ (k a) Q) :
    Ensures s₀ (f >>= k) Q := by
  intro m b m' hm h
  obtain ⟨a, m₁, h₁, h₂⟩ := run_bind_ok h
  obtain ⟨ha, hm₁⟩ := hf m a m₁ hm h₁
  exact hk a ha m₁ b m' hm₁ h₂

theorem throw_bind
    {k : α → Run β} {Q : β → Prop} (e : Error) :
    Ensures s₀ (MonadExcept.throw e >>= k) Q :=
  Ensures.bind (P := fun _ => False) (Ensures.throw e) fun _ h => h.elim

theorem ite
    {c : Prop} [Decidable c] {f g : Run α}
    (hf : c → Ensures s₀ f Q) (hg : ¬c → Ensures s₀ g Q) :
    Ensures s₀ (if c then f else g) Q := by
  by_cases hc : c
  · simpa only [if_pos hc] using hf hc
  · simpa only [if_neg hc] using hg hc

theorem of_sim
    {f : Run α} (h : ∀ R, SessionRel R → Sim R f f) :
    Ensures s₀ f fun _ => True := by
  intro m a m' hm hrun
  have hend := agree_endState h m
  rw [hrun] at hend
  exact ⟨trivial, hm.trans hend⟩

theorem forIn
    {xs : List γ} {f : γ → β → Run (ForInStep β)} {I : β → Prop}
    (h : ∀ x ∈ xs, ∀ b, I b → Ensures s₀ (f x b) fun r => I r.value) :
    ∀ init, I init → Ensures s₀ (ForIn.forIn xs init f) I := by
  induction xs with
  | nil =>
      intro init hinit
      exact Ensures.pure hinit
  | cons x xs ih =>
      intro init hinit
      simp only [List.forIn_cons]
      refine Ensures.bind (h x (List.mem_cons_self ..) init hinit) fun r hr => ?_
      cases r with
      | done b => exact Ensures.pure hr
      | yield b => exact ih (fun y hy => h y (List.mem_cons_of_mem x hy)) b hr

end Ensures

theorem options_ensures
    {s₀ : Session} :
    Ensures s₀ Run.options fun _ => True := by
  rintro m a m' hm ⟨⟩
  exact ⟨trivial, hm⟩

theorem members_ensures
    {s₀ : Session} (t : Ty) :
    Ensures s₀ (Run.members t) fun ds => s₀.memberList t = .ok ds := by
  intro m ds m' hm h
  have hsame := hm.members t
  cases hl : m.session.memberList t with
  | ok ds' =>
      obtain ⟨s, hrun, hs⟩ := members_run_of_ok hl
      rw [hrun] at h
      cases h
      exact ⟨hsame.trans hl, hm.trans hs.agree⟩
  | error e =>
      rw [members_run_of_error hl] at h
      cases h

/-! ## The builder collects mappings reached from the members -/

theorem reached_here
    {s₀ : Session} {t : Ty} {ds : List Descriptor} (hds : s₀.memberList t = .ok ds)
    {d : Descriptor} (hd : d ∈ ds) (path : List Descriptor) (depth : Nat) (c : Converter) :
    Reached s₀ t path ⟨d, path, depth, c⟩ :=
  ⟨ds, [], hds, (List.append_nil path).symm, by simp [Reaches, hd]⟩

theorem reached_cascade
    {s₀ : Session} {t target : Ty} {ds : List Descriptor} (hds : s₀.memberList t = .ok ds)
    {d : Descriptor} (hd : d ∈ ds) (hcascade : d.canCascade = true)
    {path : List Descriptor} {m : Mapping} (h : Reached s₀ target (path ++ [d]) m) :
    Reached s₀ t path m := by
  obtain ⟨-, suffix, -, hpath, -⟩ := h
  refine ⟨ds, d :: suffix, hds, by rw [hpath]; simp, ?_, fun _ => hcascade⟩
  exact hd

/-- One level of collecting. What is collected for `t` behind `path` satisfies `P t path`
when a member mapped where it stands does, once its converter passed the nested checks
(`C`), when a cascade through a member of `t` carries `P` from the cascaded type to `t`, and
when collecting one level deeper ensures `P`. -/
theorem collect_step_ensures
    (s₀ : Session) {P : Ty → List Descriptor → Mapping → Prop} {C : Converter → Prop}
    {fuel : Nat} {v : Option Version} {visiting : List Ty}
    (hhere : ∀ t ds, s₀.memberList t = .ok ds → ∀ d ∈ ds, ∀ path depth c, C c →
      P t path ⟨d, path, depth, c⟩)
    (hcascade : ∀ t ds, s₀.memberList t = .ok ds → ∀ d ∈ ds, d.canCascade = true →
      ∀ target path m, P target (path ++ [d]) m → P t path m)
    (hcheck : ∀ c, Ensures s₀ (checkNested fuel c v visiting) fun _ => C c)
    (hcollect : ∀ t chain path depth,
      Ensures s₀ (collect fuel t v chain visiting path depth) fun out => ∀ m ∈ out, P t path m)
    (t : Ty) (chain : List Ty) (path : List Descriptor) (depth : Nat) :
    Ensures s₀ (collect (fuel + 1) t v chain visiting path depth)
      fun out => ∀ m ∈ out, P t path m := by
  rw [collect]
  refine Ensures.bind options_ensures fun o _ => ?_
  refine Ensures.bind (members_ensures t) fun ds hds => ?_
  refine Ensures.bind (Ensures.forIn (fun d hd out hout => ?_) [] (by simp)) fun out hout =>
    Ensures.pure hout
  have hlog : ∀ level message, Ensures s₀ (log level message) fun _ => True :=
    fun level message => Ensures.of_sim fun R hR => log_sim hR.toViewRel level message
  have hconverter : ∀ c, Ensures s₀
      (checkNested fuel c v visiting >>= fun _ =>
        Pure.pure (ForInStep.yield (out ++ [⟨d, path, depth, c⟩])))
      fun r => ∀ m ∈ r.value, P t path m := by
    refine fun c => Ensures.bind (hcheck c) fun _ hc => Ensures.pure fun m hm => ?_
    rcases List.mem_append.1 hm with hm | hm
    · exact hout m hm
    · rw [List.mem_singleton] at hm
      exact hm ▸ hhere t ds hds d hd path depth c hc
  refine Ensures.ite (fun _ => Ensures.bind (hlog _ _) fun _ _ => Ensures.pure hout) fun _ => ?_
  refine Ensures.bind (Ensures.of_sim fun R hR => resolveMember_sim hR.toViewRel d none)
    fun r _ => ?_
  cases r with
  | some c => exact hconverter c
  | none =>
      cases d.info.ty.innermostObject? with
      | none => exact Ensures.throw_bind _
      | some target =>
          dsimp only
          refine Ensures.ite (fun _ => ?_) fun _ => ?_
          cases o.cyclePolicy
          · exact Ensures.bind (hlog _ _) fun _ _ => Ensures.pure hout
          refine Ensures.bind (P := fun _ => False) (Ensures.throw _) fun _ h => h.elim
          all_goals
            refine Ensures.ite (fun hcond => ?_) fun _ => ?_
            · have hd' : d.canCascade = true := by
                simp only [Bool.and_eq_true] at hcond
                exact hcond.1.2
              refine Ensures.bind (hcollect _ _ _ _) fun found hfound =>
                Ensures.pure fun m hm => ?_
              rcases List.mem_append.1 hm with hm | hm
              · exact hout m hm
              · exact hcascade t ds hds d hd hd' _ path m (hfound m hm)
            · refine Ensures.bind
                (Ensures.of_sim fun R hR => resolveMember_sim hR.toViewRel _ _) fun r _ => ?_
              cases r with
              | none => exact Ensures.throw_bind _
              | some c => exact hconverter c

theorem buildList_of_collect
    {s₀ : Session} {P : Mapping → Prop} {fuel : Nat} {t : Ty} {v : Option Version}
    {visiting : List Ty}
    (h : Ensures s₀ (collect fuel t v [t] visiting [] 0) fun out => ∀ m ∈ out, P m) :
    Ensures s₀ (buildList (fuel + 1) t v visiting) fun l => ∀ m ∈ l.mappings, P m := by
  rw [buildList]
  refine Ensures.ite (fun _ => ?_) fun _ => Ensures.throw_bind _
  refine Ensures.bind h fun found hfound => ?_
  exact Ensures.bind (Ensures.of_sim fun R hR => log_sim hR.toViewRel _ _) fun _ _ =>
    Ensures.pure fun m hm => hfound m ((sortStable_perm _ found).subset hm)

theorem collect_members
    (s₀ : Session) :
    ∀ fuel t v chain visiting path depth,
      Ensures s₀ (collect fuel t v chain visiting path depth)
        fun out => ∀ m ∈ out, ∃ t' ds, s₀.memberList t' = .ok ds ∧ m.member ∈ ds
  | 0, t, v, chain, visiting, path, depth => by
      rw [collect]
      exact Ensures.throw _
  | fuel + 1, t, v, chain, visiting, path, depth =>
      collect_step_ensures s₀ (P := fun _ _ m => ∃ t' ds, s₀.memberList t' = .ok ds ∧ m.member ∈ ds)
        (C := fun _ => True) (fun t ds hds d hd _ _ _ _ => ⟨t, ds, hds, hd⟩)
        (fun _ _ _ _ _ _ _ _ _ h => h) (fun _ => Ensures.of_sim fun R hR => checkNested_sim hR _ _ _ _)
        (fun t chain path depth => collect_members s₀ fuel t v chain visiting path depth)
        t chain path depth

theorem buildList_members
    (s₀ : Session) (fuel : Nat) (t : Ty) (v : Option Version) (visiting : List Ty) :
    Ensures s₀ (buildList fuel t v visiting)
      fun l => ∀ m ∈ l.mappings, ∃ t' ds, s₀.memberList t' = .ok ds ∧ m.member ∈ ds := by
  cases fuel with
  | zero =>
      rw [buildList]
      exact Ensures.throw _
  | succ fuel => exact buildList_of_collect (collect_members s₀ fuel t v [t] visiting [] 0)

theorem collect_ensures
    (s₀ : Session) :
    ∀ fuel t v chain visiting path depth,
      Ensures s₀ (collect fuel t v chain visiting path depth)
        fun out => ∀ m ∈ out, Reached s₀ t path m
  | 0, t, v, chain, visiting, path, depth => by
      rw [collect]
      exact Ensures.throw _
  | fuel + 1, t, v, chain, visiting, path, depth =>
      collect_step_ensures s₀ (C := fun _ => True)
        (fun _ _ hds _ hd path depth c _ => reached_here hds hd path depth c)
        (fun _ _ hds _ hd hcascade _ _ _ h => reached_cascade hds hd hcascade h)
        (fun _ => Ensures.of_sim fun R hR => checkNested_sim hR _ _ _ _)
        (fun t chain path depth => collect_ensures s₀ fuel t v chain visiting path depth)
        t chain path depth

/-- A built mapping list is its type's, and every mapping of it is reached through a member
of the type. -/
theorem buildList_ensures
    (s₀ : Session) (fuel : Nat) (t : Ty) (v : Option Version) (visiting : List Ty) :
    Ensures s₀ (buildList fuel t v visiting)
      fun l => l.ty = t ∧ ∀ m ∈ l.mappings, ∃ ds, s₀.memberList t = .ok ds ∧ m.Anchored ds := by
  cases fuel with
  | zero =>
      rw [buildList]
      exact Ensures.throw _
  | succ fuel =>
      rw [buildList]
      have hbuild : Ensures s₀
          (collect fuel t v [t] visiting [] 0 >>= fun found =>
            log .debug s!"built mapping list for '{t.name}' ({(sortStable Mapping.before found).length} mappings, version {versionValueText v})" >>= fun _ =>
              Pure.pure (⟨t, v, sortStable Mapping.before found⟩ : MappingList))
          fun l => l.ty = t ∧ ∀ m ∈ l.mappings, ∃ ds, s₀.memberList t = .ok ds ∧ m.Anchored ds := by
        refine Ensures.bind (collect_ensures s₀ fuel t v [t] visiting [] 0) fun found hfound => ?_
        refine Ensures.bind (Ensures.of_sim fun R hR => log_sim hR.toViewRel _ _) fun _ _ =>
          Ensures.pure ⟨rfl, fun m hm => ?_⟩
        obtain ⟨ds, suffix, hds, hpath, hreach⟩ := hfound m ((sortStable_perm _ found).subset hm)
        rw [List.nil_append] at hpath
        refine ⟨ds, hds, ?_⟩
        unfold Mapping.Anchored
        rw [hpath]
        exact hreach
      exact Ensures.ite (fun _ => hbuild) fun _ => Ensures.throw_bind _

/-! ## Sound sessions -/

/-- Asking for a mapping list keeps a session sound: a cached list is sound already, and a
built one is its type's and reached through the type's members, whatever the build added
on the way. -/
theorem mappingList_run_sound
    {m : Machine} (hs : m.session.Sound) (t : Ty) (v : Option Version) :
    (endState ((mappingList t v).run m)).session.Sound := by
  unfold mappingList
  rw [EStateM.run_bind, session_run]
  dsimp only
  cases hl : m.session.lists.lookup (t, versionKey v) with
  | some l => exact hs
  | none =>
      dsimp only
      obtain ⟨fuel, hfuel⟩ : ∃ fuel, buildFuel.run m = .ok fuel m := ⟨_, rfl⟩
      rw [EStateM.run_bind, hfuel]
      dsimp only
      rw [EStateM.run_bind]
      have hagree := agree_endState (fun R hR => buildList_sim hR fuel t v [t]) m
      cases hb : (buildList fuel t v [t]).run m with
      | error e m₁ =>
          rw [hb] at hagree
          exact hs.of_agree hagree
      | ok l m₁ =>
          obtain ⟨⟨hty, hmaps⟩, -⟩ := buildList_ensures m.session fuel t v [t] m l m₁
            (Session.Agree.refl _) hb
          rw [hb] at hagree
          have hs₁ := hs.of_agree hagree
          show Session.Sound { m₁.session with lists := m₁.session.lists ++ [((t, versionKey v), l)] }
          refine ⟨hs₁.members, fun key l' hl' => ?_⟩
          rw [List.lookup_append] at hl'
          cases hold : m₁.session.lists.lookup key with
          | some cached =>
              rw [hold, Option.some_or] at hl'
              cases hl'
              exact hs₁.lists key _ hold
          | none =>
              rw [hold, Option.none_or] at hl'
              by_cases hkey : key = (t, versionKey v)
              case neg =>
                have hne : (key == (t, versionKey v)) = false := by simpa using hkey
                simp [List.lookup_cons, List.lookup_nil, hne] at hl'
              subst hkey
              have hbuilt : l' = l := by
                simp only [List.lookup_cons_self, Option.some.injEq] at hl'
                exact hl'.symm
              subst hbuilt
              refine ⟨hty, fun x hx => ?_⟩
              obtain ⟨ds, hds, hanchor⟩ := hmaps x hx
              exact ⟨ds, (hagree.members t).symm.trans hds, hanchor⟩

/-- Machines that agree, with sound sessions. -/
def Machine.SoundAgree (m₁ m₂ : Machine) : Prop :=
  Machine.Agree m₁ m₂ ∧ m₁.session.Sound

theorem Machine.SoundAgree.symm
    {m₁ m₂ : Machine} (h : Machine.SoundAgree m₁ m₂) :
    Machine.SoundAgree m₂ m₁ :=
  ⟨⟨h.1.1.symm, h.1.2.1.symm, h.1.2.2.symm⟩, h.2.of_agree h.1.1⟩

theorem Machine.soundAgree_engineRel :
    EngineRel Machine.SoundAgree where
  like h := h.1.1.like
  update h h₁ h₂ := ⟨Machine.agree_cacheRel.update h.1 h₁.agree h₂.agree, h.2.of_agree h₁.agree⟩
  writer_eq h := h.1.2.1
  reader_eq h := h.1.2.2
  setWriter _ h := ⟨⟨h.1.1, rfl, h.1.2.2⟩, h.2⟩
  setReader _ h := ⟨⟨h.1.1, h.1.2.1, rfl⟩, h.2⟩
  mappingList t v m₁ m₂ h :=
    (mappingList_sim Machine.agree_cacheRel t v m₁ m₂ h.1).with_left (mappingList_run_sound h.2 t v)

end Run
end ObjectWire
