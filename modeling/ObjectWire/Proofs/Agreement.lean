import ObjectWire.Proofs.Simulation
/-!
# Sessions that answer alike

Two sessions *agree* when no computation but the stream header can tell them apart:

* they hold the same catalog and the same options, except perhaps the configured version;
* they give the same member list for every type, whether one of them has it cached and the
  other resolves it afresh;
* they hold the same cached mapping lists.

The log, the cache of compiled layouts and the cache of root plans are left out: the first
two are only ever written, and root plans are compared where an entry point reads them.
Sessions are *alike* when they agree but perhaps for their cached mapping lists: what the
engines read of a session apart from the mapping lists they ask for.

A step of an engine only *refreshes* a session: the log and the caches of members and
compiled layouts grow, the options and the root plans stay. A relation on machines that looks
at sessions through likeness and survives refreshes is a *view relation*; one that looks
through agreement and survives any agreeing change is a *session relation*; if it also
survives the same mapping list being cached on both sides, it is a *cache relation*. The simulations of the mapping builder hold for every such relation, which
gives at once the comparison of two serializers and the fact that building leaves the writer
and the reader alone.

**Results.**
* `Session.Agree` is an equivalence that resolving members and logging preserve;
  `Session.Like` is its part that ignores cached mapping lists.
* `members_sim`, `resolveMember_sim`, `log_sim`: the steps of the builder that read or
  extend a session simulate themselves under every view relation.
-/

namespace ObjectWire

/-- The options with no version. -/
def Options.sansVersion (o : Options) : Options := { o with version := none }

theorem discoverMembers_sansVersion
    {o₁ o₂ : Options} (h : o₁.sansVersion = o₂.sansVersion) (cat : Catalog) (t : Ty) :
    discoverMembers cat o₁ t = discoverMembers cat o₂ t := by
  have hkinds : o₁.memberKinds = o₂.memberKinds := by
    have hc := congrArg Options.memberKinds h
    exact hc
  have horder : o₁.order = o₂.order := by
    have hc := congrArg Options.order h
    exact hc
  simp only [discoverMembers, Options.memberKind, hkinds, horder]

namespace Session

/-- The members of `t` as a session answers them: from its cache, or resolved afresh. -/
def memberList (s : Session) (t : Ty) : Except Error (List Descriptor) :=
  match s.members.lookup t with
  | some ds => .ok ds
  | none => discoverMembers s.catalog s.options t

/-- Sessions that every step but the reading of the configured version sees alike. -/
structure Agree (s₁ s₂ : Session) : Prop where
  catalog : s₁.catalog = s₂.catalog
  options : s₁.options.sansVersion = s₂.options.sansVersion
  members : ∀ t, s₁.memberList t = s₂.memberList t
  lists : s₁.lists = s₂.lists

theorem Agree.refl
    (s : Session) :
    Agree s s :=
  ⟨rfl, rfl, fun _ => rfl, rfl⟩

theorem Agree.symm
    {s₁ s₂ : Session} (h : Agree s₁ s₂) :
    Agree s₂ s₁ :=
  ⟨h.catalog.symm, h.options.symm, fun t => (h.members t).symm, h.lists.symm⟩

theorem Agree.trans
    {s₁ s₂ s₃ : Session} (h : Agree s₁ s₂) (h' : Agree s₂ s₃) :
    Agree s₁ s₃ :=
  ⟨h.catalog.trans h'.catalog, h.options.trans h'.options,
    fun t => (h.members t).trans (h'.members t), h.lists.trans h'.lists⟩

/-- Sessions that agree but perhaps for the mapping lists they have cached. -/
structure Like (s₁ s₂ : Session) : Prop where
  catalog : s₁.catalog = s₂.catalog
  options : s₁.options.sansVersion = s₂.options.sansVersion
  members : ∀ t, s₁.memberList t = s₂.memberList t

theorem Agree.like
    {s₁ s₂ : Session} (h : Agree s₁ s₂) :
    Like s₁ s₂ :=
  ⟨h.catalog, h.options, h.members⟩

theorem Like.refl
    (s : Session) :
    Like s s :=
  ⟨rfl, rfl, fun _ => rfl⟩

theorem Like.symm
    {s₁ s₂ : Session} (h : Like s₁ s₂) :
    Like s₂ s₁ :=
  ⟨h.catalog.symm, h.options.symm, fun t => (h.members t).symm⟩

theorem Like.trans
    {s₁ s₂ s₃ : Session} (h : Like s₁ s₂) (h' : Like s₂ s₃) :
    Like s₁ s₃ :=
  ⟨h.catalog.trans h'.catalog, h.options.trans h'.options,
    fun t => (h.members t).trans (h'.members t)⟩

theorem Like.custom
    {s₁ s₂ : Session} (h : Like s₁ s₂) :
    s₁.options.custom = s₂.options.custom := by
  have hc := congrArg Options.custom h.options
  exact hc

theorem Like.registry
    {s₁ s₂ : Session} (h : Like s₁ s₂) :
    s₁.options.registry = s₂.options.registry := by
  simp only [Options.registry, h.custom]

theorem Like.cyclePolicy
    {s₁ s₂ : Session} (h : Like s₁ s₂) :
    s₁.options.cyclePolicy = s₂.options.cyclePolicy := by
  have hc := congrArg Options.cyclePolicy h.options
  exact hc

theorem Agree.custom
    {s₁ s₂ : Session} (h : Agree s₁ s₂) :
    s₁.options.custom = s₂.options.custom :=
  h.like.custom

theorem Agree.registry
    {s₁ s₂ : Session} (h : Agree s₁ s₂) :
    s₁.options.registry = s₂.options.registry :=
  h.like.registry

theorem Agree.cyclePolicy
    {s₁ s₂ : Session} (h : Agree s₁ s₂) :
    s₁.options.cyclePolicy = s₂.options.cyclePolicy :=
  h.like.cyclePolicy

theorem agree_logs
    (s : Session) (logs : Array LogRecord) :
    Agree s { s with logs } :=
  ⟨rfl, rfl, fun _ => rfl, rfl⟩

theorem agree_compiled
    (s : Session) (compiled : List (Ty × VersionKey)) :
    Agree s { s with compiled } :=
  ⟨rfl, rfl, fun _ => rfl, rfl⟩

theorem agree_roots
    (s : Session) (roots : List ((Ty × Engine) × RootPlan)) :
    Agree s { s with roots } :=
  ⟨rfl, rfl, fun _ => rfl, rfl⟩

theorem agree_cache_members
    {s : Session} {t : Ty} {ds : List Descriptor}
    (hnone : s.members.lookup t = none)
    (hds : discoverMembers s.catalog s.options t = .ok ds) :
    Agree s { s with members := s.members ++ [(t, ds)] } := by
  refine ⟨rfl, rfl, fun t' => ?_, rfl⟩
  simp only [memberList, List.lookup_append]
  by_cases ht : t' = t
  · subst ht
    simp [hnone, hds]
  · have hother : List.lookup t' [(t, ds)] = none := by simp [ht]
    cases hl : s.members.lookup t' <;> simp [hother]

/-- What an engine step does to a session: `s'` agrees with `s` and has its options and its
root plans, so only the log and the caches of members and compiled layouts may have grown. -/
structure Refresh (s s' : Session) : Prop where
  agree : Agree s s'
  options : s'.options = s.options
  roots : s'.roots = s.roots

theorem Refresh.refl
    (s : Session) :
    Refresh s s :=
  ⟨Agree.refl s, rfl, rfl⟩

theorem Refresh.trans
    {s₁ s₂ s₃ : Session} (h : Refresh s₁ s₂) (h' : Refresh s₂ s₃) :
    Refresh s₁ s₃ :=
  ⟨h.agree.trans h'.agree, h'.options.trans h.options, h'.roots.trans h.roots⟩

theorem refresh_logs
    (s : Session) (logs : Array LogRecord) :
    Refresh s { s with logs } :=
  ⟨agree_logs s logs, rfl, rfl⟩

theorem refresh_compiled
    (s : Session) (compiled : List (Ty × VersionKey)) :
    Refresh s { s with compiled } :=
  ⟨agree_compiled s compiled, rfl, rfl⟩

end Session

/-- Machines whose sessions agree, with the same writer and the same reader. -/
def Machine.Agree (m₁ m₂ : Machine) : Prop :=
  Session.Agree m₁.session m₂.session ∧ m₁.writer = m₂.writer ∧ m₁.reader = m₂.reader

namespace Run

/-- A relation that sees sessions only through what they answer: related machines have
sessions that agree but perhaps for the mapping lists they have cached, and refreshing
each machine's session as an engine step does keeps them related. -/
structure ViewRel (R : Machine → Machine → Prop) : Prop where
  like : ∀ {m₁ m₂}, R m₁ m₂ → Session.Like m₁.session m₂.session
  update : ∀ {m₁ m₂ s₁ s₂}, R m₁ m₂ → Session.Refresh m₁.session s₁ →
    Session.Refresh m₂.session s₂ → R { m₁ with session := s₁ } { m₂ with session := s₂ }

/-- A relation that sees sessions only through agreement: related machines have agreeing
sessions, and giving each machine a session that agrees with its own keeps them related. -/
structure SessionRel (R : Machine → Machine → Prop) : Prop where
  agree : ∀ {m₁ m₂}, R m₁ m₂ → Session.Agree m₁.session m₂.session
  update : ∀ {m₁ m₂ s₁ s₂}, R m₁ m₂ → Session.Agree m₁.session s₁ →
    Session.Agree m₂.session s₂ → R { m₁ with session := s₁ } { m₂ with session := s₂ }

theorem SessionRel.toViewRel
    {R : Machine → Machine → Prop} (hR : SessionRel R) :
    ViewRel R :=
  ⟨fun h => (hR.agree h).like, fun h h₁ h₂ => hR.update h h₁.agree h₂.agree⟩

/-- A session relation that also survives caching one mapping list on both sides. -/
structure CacheRel (R : Machine → Machine → Prop) : Prop extends SessionRel R where
  cache : ∀ {m₁ m₂} (e : (Ty × VersionKey) × MappingList), R m₁ m₂ →
    R { m₁ with session := { m₁.session with lists := m₁.session.lists ++ [e] } }
      { m₂ with session := { m₂.session with lists := m₂.session.lists ++ [e] } }

theorem Machine.agree_cacheRel :
    CacheRel Machine.Agree where
  agree h := h.1
  update h h₁ h₂ := ⟨h₁.symm.trans (h.1.trans h₂), h.2.1, h.2.2⟩
  cache e h := by
    obtain ⟨⟨hc, ho, hm, hl⟩, hw, hr⟩ := h
    exact ⟨⟨hc, ho, hm, by simp only [hl]⟩, hw, hr⟩

/-- Machines with agreeing sessions, each with its writer fixed: simulations under it keep
each writer as it was. -/
def Framed (w₁ w₂ : Writer) (m₁ m₂ : Machine) : Prop :=
  Session.Agree m₁.session m₂.session ∧ m₁.writer = w₁ ∧ m₂.writer = w₂

theorem framed_cacheRel
    (w₁ w₂ : Writer) :
    CacheRel (Framed w₁ w₂) where
  agree h := h.1
  update h h₁ h₂ := ⟨h₁.symm.trans (h.1.trans h₂), h.2.1, h.2.2⟩
  cache e h := by
    obtain ⟨⟨hc, ho, hm, hl⟩, hw₁, hw₂⟩ := h
    exact ⟨⟨hc, ho, hm, by simp only [hl]⟩, hw₁, hw₂⟩

/-- Machines whose sessions both agree with `s₀`, with the writer `w` and the reader `r`:
a simulation under it changes the meaning of neither session and leaves both streams
alone. -/
def Around (s₀ : Session) (w : Writer) (r : Reader) (m₁ m₂ : Machine) : Prop :=
  (Session.Agree s₀ m₁.session ∧ m₁.writer = w ∧ m₁.reader = r) ∧
    (Session.Agree s₀ m₂.session ∧ m₂.writer = w ∧ m₂.reader = r)

theorem around_sessionRel
    (s₀ : Session) (w : Writer) (r : Reader) :
    SessionRel (Around s₀ w r) where
  agree h := h.1.1.symm.trans h.2.1
  update h h₁ h₂ := ⟨⟨h.1.1.trans h₁, h.1.2⟩, ⟨h.2.1.trans h₂, h.2.2⟩⟩

section SessionSteps

variable {α : Type} {R : Machine → Machine → Prop}

theorem Sim.modifySession
    (hR : SessionRel R) {f : Session → Session} (hf : ∀ s, Session.Agree s (f s)) :
    Sim R (Run.modifySession f) (Run.modifySession f) := by
  intro m₁ m₂ h
  exact ⟨rfl, hR.update h (hf _) (hf _)⟩

theorem log_sim
    (hR : ViewRel R) (level : Level) (message : String) :
    Sim R (Run.log level message) (Run.log level message) := by
  intro m₁ m₂ h
  exact ⟨rfl, hR.update h (Session.refresh_logs _ _) (Session.refresh_logs _ _)⟩

theorem Sim.session_bind_of
    {P : Session → Session → Prop} (hP : ∀ {m₁ m₂}, R m₁ m₂ → P m₁.session m₂.session)
    {k l : Session → Run α} (h : ∀ s₁ s₂, P s₁ s₂ → Sim R (k s₁) (l s₂)) :
    Sim R (Run.session >>= k) (Run.session >>= l) := by
  intro m₁ m₂ hm
  exact h _ _ (hP hm) m₁ m₂ hm

theorem Sim.session_bind
    (hR : SessionRel R) {k l : Session → Run α}
    (h : ∀ s₁ s₂, Session.Agree s₁ s₂ → Sim R (k s₁) (l s₂)) :
    Sim R (Run.session >>= k) (Run.session >>= l) :=
  Sim.session_bind_of hR.agree h

theorem Sim.session_bind_like
    (hR : ViewRel R) {k l : Session → Run α}
    (h : ∀ s₁ s₂, Session.Like s₁ s₂ → Sim R (k s₁) (l s₂)) :
    Sim R (Run.session >>= k) (Run.session >>= l) :=
  Sim.session_bind_of hR.like h

theorem Sim.options_bind
    (hR : ViewRel R) {k l : Options → Run α}
    (h : ∀ o₁ o₂, o₁.sansVersion = o₂.sansVersion → Sim R (k o₁) (l o₂)) :
    Sim R (Run.options >>= k) (Run.options >>= l) := by
  intro m₁ m₂ hm
  exact h _ _ (hR.like hm).options m₁ m₂ hm

theorem catalog_sim
    (hR : ViewRel R) :
    Sim R Run.catalog Run.catalog := by
  intro m₁ m₂ hm
  exact ⟨(hR.like hm).catalog, hm⟩

/-- A member list the session has is answered with no change that matters. -/
theorem members_run_of_ok
    {m : Machine} {t : Ty} {ds : List Descriptor} (h : m.session.memberList t = .ok ds) :
    ∃ s, (Run.members t).run m = .ok ds { m with session := s } ∧ Session.Refresh m.session s := by
  unfold Session.memberList at h
  cases hl : m.session.members.lookup t with
  | some ds' =>
      rw [hl] at h
      cases h
      exact ⟨m.session, by simp [Run.members, hl], Session.Refresh.refl _⟩
  | none =>
      rw [hl] at h
      refine ⟨{ m.session with
          logs := m.session.logs.push ⟨.debug, s!"resolved {ds.length} members of '{t.name}'"⟩
          members := m.session.members ++ [(t, ds)] }, ?_, ?_⟩
      · simp [Run.members, hl, h]
      · exact ⟨(Session.agree_cache_members hl h).trans (Session.agree_logs _ _), rfl, rfl⟩

theorem members_run_of_error
    {m : Machine} {t : Ty} {e : Error} (h : m.session.memberList t = .error e) :
    (Run.members t).run m = .error e m := by
  unfold Session.memberList at h
  cases hl : m.session.members.lookup t with
  | some ds' =>
      rw [hl] at h
      cases h
  | none =>
      rw [hl] at h
      simp [Run.members, hl, h]

theorem members_sim
    (hR : ViewRel R) (t : Ty) :
    Sim R (Run.members t) (Run.members t) := by
  intro m₁ m₂ h
  have hm := (hR.like h).members t
  cases h₁ : m₁.session.memberList t with
  | ok ds =>
      obtain ⟨s₁, e₁, a₁⟩ := members_run_of_ok h₁
      obtain ⟨s₂, e₂, a₂⟩ := members_run_of_ok (hm ▸ h₁)
      rw [e₁, e₂]
      exact ⟨rfl, hR.update h a₁ a₂⟩
  | error e =>
      rw [members_run_of_error h₁, members_run_of_error (hm ▸ h₁)]
      exact ⟨rfl, h⟩

theorem resolveMember_sim
    (hR : ViewRel R) (d : Descriptor) (object : Option Engine) :
    Sim R (Run.resolveMember d object) (Run.resolveMember d object) := by
  refine Sim.session_bind_like hR fun s₁ s₂ h => ?_
  rw [h.registry, h.catalog]
  exact Sim.lift _

theorem buildFuel_sim
    (hR : ViewRel R) :
    Sim R Run.buildFuel Run.buildFuel :=
  Sim.bind (catalog_sim hR) fun _ => Sim.pure _

end SessionSteps

end Run
end ObjectWire
