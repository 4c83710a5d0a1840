import ObjectWire.Proofs.CachedBuilds
import ObjectWire.Proofs.WriteAgreement
import ObjectWire.Service.Inspect
/-!
# Caches never change an answer

A serializer caches member lists, mapping lists, compiled layouts and root plans, and keeps
them from call to call until they are cleared. A session is *faithful* when each cache holds
what a fresh serializer with the same catalog and options computes: member lists as
discovered, mapping lists as built afresh, root plans as decided afresh. The cache of
compiled layouts holds keys only, which no answer reads.

A faithful session answers every mapping list and every root plan as a fresh serializer
does, and stays faithful: a cached entry is the fresh answer, and an entry made now is made
on a cache that changes no build (`build_sim_cached`). So two faithful machines over one
catalog with one set of options and the same streams form an engine relation, under which
the entry points simulate themselves. By induction over the calls, a session answers each
call as a fresh serializer with its options would, whatever came before, clearing the caches
included.

**Results.**
* `mappingList_answers_freshly`, `rootPlan_answers_freshly`: the cached entry points answer
  freshly and keep a session faithful.
* `Machine.twins_engineRel`: faithful twins form an engine relation.
* `Session.Faithful.call`: a call on a faithful session answers as on a fresh serializer.
* `Service.sessionStep_faithful`, `Service.sessionSteps_faithful`: session steps answer as on
  a fresh serializer and keep the session faithful.
* `caches_never_change_an_answer`: the same, from a fresh serializer through any steps.
-/

namespace ObjectWire
namespace Run

variable {α : Type} {R : Machine → Machine → Prop}

/-- The outcome `r`, ending in the machine `m`. -/
def outcome (r : Except Error α) (m : Machine) : EStateM.Result Error Machine α :=
  match r with
  | .ok a => .ok a m
  | .error e => .error e m

theorem Corresponds.outcome
    (r : Except Error α) {m₁ m₂ : Machine} (h : R m₁ m₂) :
    Corresponds R (outcome r m₁) (outcome r m₂) := by
  cases r <;> exact ⟨rfl, h⟩

/-! ## Deciding root plans -/

/-- The plan a machine with none cached decides for a root of type `t` and engine `e`: an
object goes by its mapping list, anything else through the converter its root request
resolves, once the nested checks of that converter pass. -/
def decidePlan (m : Machine) (t : Ty) (e : Engine) : Except Error RootPlan :=
  if t.isObject then .ok .object else
    match Resolve.resolve m.session.options.registry m.session.catalog t
        (Request.root e t.shortName) with
    | .error err => .error err
    | .ok none => .error (.config (.unsupportedMember t.shortName t.name))
    | .ok (some c) =>
      (answer ((checkNested m.session.catalog.fuel c m.session.options.version []).run m)).map
        fun _ => .converter c

/-- A machine with no plan cached for a root decides one, refreshing its session, and caches
it. -/
theorem rootPlan_run_none
    {m : Machine} {t : Ty} {e : Engine} (hnone : m.session.roots.lookup (t, e) = none) :
    ∃ s, Session.Refresh m.session s ∧
      (rootPlan t e).run m = match decidePlan m t e with
        | .ok p => .ok p { m with session := { s with roots := s.roots ++ [((t, e), p)] } }
        | .error err => .error err { m with session := s } := by
  unfold rootPlan decidePlan
  rw [EStateM.run_bind, session_run]
  dsimp only
  rw [hnone]
  dsimp only
  cases ht : t.isObject with
  | true =>
      rw [if_pos rfl, if_pos rfl]
      exact ⟨m.session, Session.Refresh.refl _, rfl⟩
  | false =>
      rw [if_neg Bool.false_ne_true, if_neg Bool.false_ne_true]
      rw [EStateM.run_bind, session_run]
      dsimp only
      rw [EStateM.run_bind]
      cases hres : Resolve.resolve m.session.options.registry m.session.catalog t
          (Request.root e t.shortName) with
      | error err =>
          rw [lift_error_run]
          exact ⟨m.session, Session.Refresh.refl _, rfl⟩
      | ok r =>
          cases r with
          | none =>
              rw [lift_ok_run]
              exact ⟨m.session, Session.Refresh.refl _, rfl⟩
          | some c =>
              rw [lift_ok_run]
              dsimp only
              rw [EStateM.run_bind, buildFuel_run]
              dsimp only
              rw [EStateM.run_bind]
              obtain ⟨s, hs, hrefresh⟩ := checkNested_refresh m.session.catalog.fuel c
                m.session.options.version [] m
              refine ⟨s, hrefresh, ?_⟩
              cases hc : (checkNested m.session.catalog.fuel c m.session.options.version []).run m with
              | error err m₁ =>
                  rw [hc] at hs
                  cases hs
                  rfl
              | ok u m₁ =>
                  rw [hc] at hs
                  cases hs
                  rfl

theorem answer_rootPlan_none
    {m : Machine} {t : Ty} {e : Engine} (hnone : m.session.roots.lookup (t, e) = none) :
    answer ((rootPlan t e).run m) = decidePlan m t e := by
  obtain ⟨s, -, hrun⟩ := rootPlan_run_none hnone
  rw [hrun]
  cases decidePlan m t e <;> rfl

/-- What a fresh serializer over `cat` with options `o` decides for a root. -/
def freshPlan (cat : Catalog) (o : Options) (t : Ty) (e : Engine) : Except Error RootPlan :=
  answer ((rootPlan t e).run ((Session.new cat o).machine [] none))

/-- Cached root plans that a fresh serializer decides alike. -/
def FreshRoots (cat : Catalog) (o : Options) (P : List ((Ty × Engine) × RootPlan)) : Prop :=
  ∀ t e p, P.lookup (t, e) = some p → freshPlan cat o t e = .ok p

theorem freshRoots_nil
    (cat : Catalog) (o : Options) :
    FreshRoots cat o [] :=
  fun _ _ _ h => nomatch h

theorem FreshRoots.cache
    {cat : Catalog} {o : Options} {P : List ((Ty × Engine) × RootPlan)} (hP : FreshRoots cat o P)
    {t : Ty} {e : Engine} {p : RootPlan} (hp : freshPlan cat o t e = .ok p) :
    FreshRoots cat o (P ++ [((t, e), p)]) := by
  intro t' e' p' h
  rcases lookup_concat_eq_some h with hold | ⟨hkey, rfl⟩
  · exact hP _ _ _ hold
  · obtain ⟨rfl, rfl⟩ := Prod.mk.inj hkey
    exact hp

/-- A machine whose cached lists are fresh decides root plans as a fresh serializer: the
same resolution, and nested checks that answer alike. -/
theorem decidePlan_cached
    {cat : Catalog} {o : Options} {L : List ((Ty × VersionKey) × MappingList)}
    (hL : FreshLists cat o L) {m : Machine} (hm : m.Holds cat o L) (t : Ty) (e : Engine) :
    decidePlan m t e = freshPlan cat o t e := by
  have hfresh : ((Session.new cat o).machine [] none).session.roots.lookup (t, e) = none := rfl
  have hcat : ((Session.new cat o).machine [] none).session.catalog = cat := rfl
  have hopt : ((Session.new cat o).machine [] none).session.options = o := rfl
  rw [freshPlan, answer_rootPlan_none hfresh]
  unfold decidePlan
  rw [hm.catalog, hm.options, hcat, hopt]
  cases Resolve.resolve o.registry cat t (Request.root e t.shortName) with
  | error err => rfl
  | ok r =>
      cases r with
      | none => rfl
      | some c =>
          dsimp only
          rw [checkNested_cached_answer hL hm]

end Run

/-! ## Faithful sessions -/

/-- A session whose caches hold what a fresh serializer with its catalog and options
computes: member lists as discovered, mapping lists as built and root plans as decided
afresh. -/
structure Session.Faithful (s : Session) : Prop where
  sound : s.Sound
  lists : Run.FreshLists s.catalog s.options s.lists
  roots : Run.FreshRoots s.catalog s.options s.roots

namespace Session

theorem faithful_new
    (cat : Catalog) (o : Options) :
    (Session.new cat o).Faithful :=
  ⟨sound_new cat o, Run.freshLists_nil cat o, Run.freshRoots_nil cat o⟩

variable {s s' : Session}

theorem Faithful.refresh
    (hf : s.Faithful) (hs : Refresh s s') :
    s'.Faithful := by
  refine ⟨hf.sound.of_agree hs.agree, ?_, ?_⟩
  · rw [← hs.agree.catalog, hs.options, ← hs.agree.lists]
    exact hf.lists
  · rw [← hs.agree.catalog, hs.options, hs.roots]
    exact hf.roots

theorem faithful_clearCaches
    (s : Session) :
    s.clearCaches.Faithful :=
  ⟨⟨(fun _ _ h => nomatch h), (fun _ _ h => nomatch h)⟩, Run.freshLists_nil _ _,
    Run.freshRoots_nil _ _⟩

theorem Faithful.holds
    {m : Machine} (hf : m.session.Faithful) :
    m.Holds m.session.catalog m.session.options m.session.lists :=
  ⟨hf.sound, rfl, rfl, rfl⟩

end Session

/-- A faithful session over the catalog `cat` with the options `o`. -/
structure Session.FaithfulOver (cat : Catalog) (o : Options) (s : Session) : Prop where
  faithful : s.Faithful
  catalog : s.catalog = cat
  options : s.options = o

theorem Session.FaithfulOver.refresh
    {cat : Catalog} {o : Options} {s s' : Session} (h : s.FaithfulOver cat o)
    (hs : Session.Refresh s s') :
    s'.FaithfulOver cat o :=
  ⟨h.faithful.refresh hs, hs.agree.catalog.symm.trans h.catalog, hs.options.trans h.options⟩

namespace Run

/-! ## The cached entry points answer freshly -/

/-- A step that, from every faithful machine, ends with the answer `fresh` gives for the
machine's catalog and options, in a faithful session over the same catalog and options. -/
def AnswersFreshly (f : Run α) (fresh : Catalog → Options → Except Error α) : Prop :=
  ∀ m : Machine, m.session.Faithful → ∃ s : Session, s.Faithful ∧
    s.catalog = m.session.catalog ∧ s.options = m.session.options ∧
    f.run m = outcome (fresh m.session.catalog m.session.options) { m with session := s }

/-- A machine with no list cached for a type and version builds it, refreshing its session,
and caches it. -/
theorem mappingList_run_none
    {m : Machine} {t : Ty} {v : Option Version}
    (hnone : m.session.lists.lookup (t, versionKey v) = none) :
    ∃ s, Session.Refresh m.session s ∧
      (mappingList t v).run m = match answer ((buildList m.session.catalog.fuel t v [t]).run m) with
        | .ok l => .ok l { m with session := { s with lists := s.lists ++ [((t, versionKey v), l)] } }
        | .error err => .error err { m with session := s } := by
  unfold mappingList
  rw [EStateM.run_bind, session_run]
  dsimp only
  rw [hnone]
  dsimp only
  rw [EStateM.run_bind, buildFuel_run]
  dsimp only
  rw [EStateM.run_bind]
  obtain ⟨s, hs, hrefresh⟩ := buildList_refresh m.session.catalog.fuel t v [t] m
  refine ⟨s, hrefresh, ?_⟩
  cases hb : (buildList m.session.catalog.fuel t v [t]).run m with
  | error err m₁ =>
      rw [hb] at hs
      cases hs
      rfl
  | ok l m₁ =>
      rw [hb] at hs
      cases hs
      rfl

/-- Mapping lists: a cached one is the fresh one, and one built now is built as on a fresh
serializer and cached. -/
theorem mappingList_answers_freshly
    (t : Ty) (v : Option Version) :
    AnswersFreshly (mappingList t v) fun cat o => freshList cat o t v := by
  intro m hf
  dsimp only
  cases hl : m.session.lists.lookup (t, versionKey v) with
  | some l =>
      refine ⟨m.session, hf, rfl, rfl, ?_⟩
      rw [hf.lists t v l hl]
      simp only [mappingList, EStateM.run_bind, session_run, hl]
      rfl
  | none =>
      obtain ⟨s, hs, hrun⟩ := mappingList_run_none hl
      have hs' := hf.refresh hs
      have hsound := mappingList_run_sound hf.sound t v
      rw [hrun, buildList_cached_answer hf.lists hf.holds] at hsound
      rw [hrun, buildList_cached_answer hf.lists hf.holds]
      cases hfresh : freshList m.session.catalog m.session.options t v with
      | error err => exact ⟨s, hs', hs.agree.catalog.symm, hs.options, rfl⟩
      | ok l =>
          rw [hfresh] at hsound
          have hl' : freshList s.catalog s.options t v = .ok l := by
            rw [← hs.agree.catalog, hs.options]
            exact hfresh
          exact ⟨_, ⟨hsound, hs'.lists.cache hl', hs'.roots⟩, hs.agree.catalog.symm, hs.options,
            rfl⟩

/-- Root plans: a cached one is the fresh one, and one decided now is decided as on a fresh
serializer and cached. -/
theorem rootPlan_answers_freshly
    (t : Ty) (e : Engine) :
    AnswersFreshly (rootPlan t e) fun cat o => freshPlan cat o t e := by
  intro m hf
  dsimp only
  cases hp : m.session.roots.lookup (t, e) with
  | some p =>
      refine ⟨m.session, hf, rfl, rfl, ?_⟩
      rw [hf.roots t e p hp]
      simp only [rootPlan, EStateM.run_bind, session_run, hp]
      rfl
  | none =>
      obtain ⟨s, hs, hrun⟩ := rootPlan_run_none hp
      have hs' := hf.refresh hs
      rw [hrun, decidePlan_cached hf.lists hf.holds]
      cases hfresh : freshPlan m.session.catalog m.session.options t e with
      | error err => exact ⟨s, hs', hs.agree.catalog.symm, hs.options, rfl⟩
      | ok p =>
          have hp' : freshPlan s.catalog s.options t e = .ok p := by
            rw [← hs.agree.catalog, hs.options]
            exact hfresh
          exact ⟨{ s with roots := s.roots ++ [((t, e), p)] },
            ⟨hs'.sound.of_agree (Session.agree_roots _ _), hs'.lists, hs'.roots.cache hp'⟩,
            hs.agree.catalog.symm, hs.options, rfl⟩

/-! ## Faithful twins -/

/-- Two serializers with faithful sessions over the catalog `cat` with the options `o`, at the
same point of a request. -/
def Machine.Twins (cat : Catalog) (o : Options) (m₁ m₂ : Machine) : Prop :=
  m₁.session.FaithfulOver cat o ∧ m₂.session.FaithfulOver cat o ∧ m₁.writer = m₂.writer ∧
    m₁.reader = m₂.reader

theorem AnswersFreshly.run
    {f : Run α} {fresh : Catalog → Options → Except Error α} (h : AnswersFreshly f fresh)
    {cat : Catalog} {o : Options} {m : Machine} (hm : m.session.FaithfulOver cat o) :
    ∃ s : Session, s.FaithfulOver cat o ∧ f.run m = outcome (fresh cat o) { m with session := s } := by
  obtain ⟨s, hf, hc, ho, hrun⟩ := h m hm.faithful
  rw [hm.catalog, hm.options] at hrun
  exact ⟨s, ⟨hf, hc.trans hm.catalog, ho.trans hm.options⟩, hrun⟩

theorem AnswersFreshly.twins
    {f : Run α} {fresh : Catalog → Options → Except Error α} (h : AnswersFreshly f fresh)
    (cat : Catalog) (o : Options) :
    Sim (Machine.Twins cat o) f f := by
  intro m₁ m₂ hm
  obtain ⟨s₁, hf₁, hrun₁⟩ := h.run hm.1
  obtain ⟨s₂, hf₂, hrun₂⟩ := h.run hm.2.1
  rw [hrun₁, hrun₂]
  exact Corresponds.outcome _ ⟨hf₁, hf₂, hm.2.2⟩

theorem Machine.twins_engineRel
    (cat : Catalog) (o : Options) :
    EngineRel (Machine.Twins cat o) where
  like h := ⟨h.1.catalog.trans h.2.1.catalog.symm, by rw [h.1.options, h.2.1.options], fun t => by
    rw [h.1.faithful.sound.memberList_eq, h.2.1.faithful.sound.memberList_eq, h.1.catalog,
      h.2.1.catalog, h.1.options, h.2.1.options]⟩
  update h h₁ h₂ := ⟨h.1.refresh h₁, h.2.1.refresh h₂, h.2.2⟩
  writer_eq h := h.2.2.1
  reader_eq h := h.2.2.2
  setWriter _ h := ⟨h.1, h.2.1, rfl, h.2.2.2⟩
  setReader _ h := ⟨h.1, h.2.1, h.2.2.1, rfl⟩
  mappingList t v := (mappingList_answers_freshly t v).twins cat o

/-! ## The entry points -/

section EntryPoints

variable {β : Type}

theorem Sim.options_bind_eq
    (hopt : ∀ {m₁ m₂}, R m₁ m₂ → m₁.session.options = m₂.session.options)
    {k l : Options → Run β} (h : ∀ o, Sim R (k o) (l o)) :
    Sim R (Run.options >>= k) (Run.options >>= l) := by
  intro m₁ m₂ hm
  show Corresponds R ((k m₁.session.options).run m₁) ((l m₂.session.options).run m₂)
  rw [hopt hm]
  exact h _ m₁ m₂ hm

theorem objectReader_bind_sim
    (hR : EngineRel R) {k l : ObjectReader → Run β}
    (h : ∀ n, Sim R (k (readObject n)) (l (readObject n))) :
    Sim R (objectReader >>= k) (objectReader >>= l) := by
  refine Sim.bind_of (Q := fun orr => ∃ n, orr = readObject n) (objectReader_sim hR)
    (fun _ _ _ _ _ hrun => ?_) fun _ hn => ?_
  · rw [objectReader_run] at hrun
    cases hrun
    exact ⟨_, rfl⟩
  · obtain ⟨n, rfl⟩ := hn
    exact h n

theorem streamVersion_sim
    (hR : EngineRel R) (hopt : ∀ {m₁ m₂}, R m₁ m₂ → m₁.session.options = m₂.session.options) :
    Sim R streamVersion streamVersion := by
  unfold streamVersion
  refine Sim.bind (take_sim hR _) fun found => Sim.options_bind_eq hopt fun o => ?_
  cases found <;> exact Sim.bind (log_sim hR.toViewRel _ _) fun _ => Sim.pure _

theorem encodeRoot_sim
    (hR : EngineRel R) (t : Ty) (v : Value) (ver : Option Version) (p : RootPlan) :
    Sim R (encodeRoot t v ver p) (encodeRoot t v ver p) := by
  cases p with
  | object =>
      exact Sim.bind (compiled_sim hR.toViewRel hR.mappingList t ver) fun _ =>
        writeLayout_sim hR (writeObject_sim hR _) _ _ _
  | converter c =>
      exact writeValue_sim hR (objectWriters_sim_eq (writeObject_sim hR _)) (.refl c) t _ _

variable (hR : EngineRel R) (hopt : ∀ {m₁ m₂}, R m₁ m₂ → m₁.session.options = m₂.session.options)
  (hroot : ∀ t e, Sim R (rootPlan t e) (rootPlan t e))
include hR hopt hroot

theorem serialize_sim
    (t : Ty) (v : Value) :
    Sim R (serialize t v) (serialize t v) := by
  rw [serialize_eq]
  exact Sim.options_bind_eq hopt fun o => Sim.bind (emit_sim hR _) fun _ =>
    Sim.bind (hroot t .compiled) fun p => encodeRoot_sim hR t v o.version p

theorem serializeDyn_sim
    (t : Ty) (v : Typed) :
    Sim R (serializeDyn t v) (serializeDyn t v) := by
  unfold serializeDyn
  refine Sim.ite ?_ (Sim.bind (Sim.throw _) fun _ => ?_)
  all_goals
    refine Sim.options_bind_eq hopt fun o => Sim.bind (emit_sim hR _) fun _ =>
      Sim.bind (hroot t .dynamic) fun p => ?_
    cases p with
    | object => exact writeDynamic_sim hR (writeObject_sim hR _) t v _
    | converter c =>
        exact writeValue_sim hR (objectWriters_sim_eq (writeObject_sim hR _)) (.refl c) t v _

theorem deserializeInto_sim
    (t : Ty) (target : Value) :
    Sim R (deserializeInto t target) (deserializeInto t target) := by
  rw [deserializeInto_eq]
  exact Sim.bind (streamVersion_sim hR hopt) fun ver => objectReader_bind_sim hR fun n =>
    Sim.bind (hroot t .compiled) fun p => decodeRoot_sim hR n t target ver p

theorem deserializeDyn_sim
    (t : Ty) (initial : Option Typed) :
    Sim R (deserializeDyn t initial) (deserializeDyn t initial) := by
  unfold deserializeDyn
  cases initial
  case' none =>
    refine Sim.bind (defaultOf_sim hR.toViewRel t) fun d => Sim.bind (Sim.pure _) fun target => ?_
  case' some i => refine Sim.bind (Sim.pure i) fun target => ?_
  all_goals
    dsimp only
    refine Sim.ite ?_ (Sim.bind (Sim.throw _) fun _ => ?_)
    all_goals
      refine Sim.bind (streamVersion_sim hR hopt) fun ver => objectReader_bind_sim hR fun n =>
        Sim.bind (hroot t .dynamic) fun p => ?_
      cases p with
      | object => exact readDynamicInto_sim hR (readObject_sim hR n) t target ver
      | converter c =>
          exact readValue_sim hR (objectReaders_sim_eq (readObject_sim hR n)) (.refl c) t _

end EntryPoints

/-- The computations a serializer runs for the calls of its interface: writing and reading
through either engine, and answering a mapping list or a member list. -/
inductive Call : {α : Type} → Run α → Prop where
  | serialize (t : Ty) (v : Value) : Call (serialize t v)
  | serializeDyn (t : Ty) (v : Typed) : Call (serializeDyn t v)
  | deserializeInto (t : Ty) (target : Value) : Call (deserializeInto t target)
  | deserializeDyn (t : Ty) (initial : Option Typed) : Call (deserializeDyn t initial)
  | mappingList (t : Ty) : Call (do mappingList t (← options).version)
  | members (t : Ty) : Call (members t)

theorem Call.sim
    (hR : EngineRel R) (hopt : ∀ {m₁ m₂}, R m₁ m₂ → m₁.session.options = m₂.session.options)
    (hroot : ∀ t e, Sim R (rootPlan t e) (rootPlan t e)) {body : Run α} (h : Call body) :
    Sim R body body := by
  cases h with
  | serialize t v => exact serialize_sim hR hopt hroot t v
  | serializeDyn t v => exact serializeDyn_sim hR hopt hroot t v
  | deserializeInto t target => exact deserializeInto_sim hR hopt hroot t target
  | deserializeDyn t initial => exact deserializeDyn_sim hR hopt hroot t initial
  | mappingList t => exact Sim.options_bind_eq hopt fun o => hR.mappingList t o.version
  | members t => exact members_sim hR.toViewRel t

theorem Call.twins
    {body : Run α} (h : Call body) (cat : Catalog) (o : Options) :
    Sim (Machine.Twins cat o) body body :=
  h.sim (Machine.twins_engineRel cat o) (fun hm => hm.1.options.trans hm.2.1.options.symm)
    fun t e => (rootPlan_answers_freshly t e).twins cat o

end Run

/-! ## Calls on a session -/

namespace Session

theorem FaithfulOver.twins
    {cat : Catalog} {o : Options} {s₁ s₂ : Session} (h₁ : s₁.FaithfulOver cat o)
    (h₂ : s₂.FaithfulOver cat o) (input : List UInt8) (room : Option Nat) :
    Run.Machine.Twins cat o (s₁.machine input room) (s₂.machine input room) :=
  ⟨h₁, h₂, by simp only [Session.machine, h₁.options, h₂.options],
    by simp only [Session.machine, h₁.options, h₂.options]⟩

theorem Faithful.call
    {s : Session} (hs : s.Faithful) {α : Type} {body : Run α} (hcall : Run.Call body)
    (input : List UInt8) (room : Option Nat) :
    (s.run body input room).1 = ((Session.new s.catalog s.options).run body input room).1 ∧
      (s.run body input room).2.writer =
        ((Session.new s.catalog s.options).run body input room).2.writer ∧
      (s.run body input room).2.session.FaithfulOver s.catalog s.options := by
  have hc := hcall.twins s.catalog s.options _ _
    (FaithfulOver.twins ⟨hs, rfl, rfl⟩ ⟨faithful_new _ _, rfl, rfl⟩ input room)
  rw [run_fst, run_fst, run_snd, run_snd]
  exact ⟨hc.answer_eq, hc.endState.2.2.1, hc.endState.1⟩

end Session

namespace Service

theorem encodeBody_call
    {req : Json} {body : Run Unit} (h : encodeBody req = .ok body) :
    Run.Call body := by
  unfold encodeBody at h
  simp only [bind, Except.bind] at h
  repeat' split at h
  all_goals cases h
  exacts [.serialize _ _, .serializeDyn _ _, .serializeDyn _ _]

theorem decodeBody_call
    {req : Json} {t : Ty} {body : Run Value} (h : decodeBody req t = .ok body) :
    Run.Call body := by
  unfold decodeBody at h
  simp only [bind, Except.bind] at h
  repeat' split at h
  all_goals cases h
  exacts [.deserializeInto _ _, .deserializeInto _ _, .deserializeDyn _ _, .deserializeDyn _ _,
    .deserializeDyn _ _]

theorem Reply.answer_eq
    {r₁ r₂ : Reply} (ho : r₁.outcome = r₂.outcome) (ha : r₁.also = r₂.also) (detail : Bool) :
    r₁.answer detail false = r₂.answer detail false := by
  simp only [Reply.answer, ho, ha, Bool.false_eq_true, if_false]

/-- Running a call on a faithful session replies as on a fresh serializer, its log records
aside, where the answer reads no more of the machine than the bytes written; it leaves the
session faithful. -/
theorem runOn_faithful
    {s : Session} (hs : s.Faithful) {α : Type} {body : Run α} (hcall : Run.Call body)
    (answer : α → Machine → List (String × Json))
    (hanswer : ∀ a m₁ m₂, m₁.writer = m₂.writer → answer a m₁ = answer a m₂)
    (input : List UInt8) (room : Option Nat) :
    (runOn s body answer input room).1.answer false false =
        (runOn (Session.new s.catalog s.options) body answer input room).1.answer false false ∧
      (runOn s body answer input room).2.FaithfulOver s.catalog s.options := by
  have hs' : ({ s with logs := #[] } : Session).Faithful :=
    hs.refresh (Session.refresh_logs s #[])
  obtain ⟨hres, hw, hend⟩ := hs'.call hcall input room
  have hnew : ({ Session.new s.catalog s.options with logs := #[] } : Session) =
      Session.new s.catalog s.options := rfl
  unfold runOn
  rw [hnew]
  dsimp only at hres hw hend
  generalize ({ s with logs := #[] } : Session).run body input room = A at hres hw hend ⊢
  generalize (Session.new s.catalog s.options).run body input room = B at hres hw ⊢
  obtain ⟨r₁, m₁⟩ := A
  obtain ⟨r₂, m₂⟩ := B
  dsimp only at hres hw hend ⊢
  refine ⟨Reply.answer_eq ?_ ?_ false, hend⟩
  · subst hres
    cases r₁ with
    | ok a =>
        dsimp only
        rw [hanswer a m₁ m₂ hw]
    | error e => rfl
  · rfl

/-- One session step on a faithful session answers as on a fresh serializer with its catalog
and options, and leaves the session faithful: a refused step keeps it, clearing the caches
empties them, and every other step runs a call. -/
theorem sessionStep_faithful
    {s : Session} (hs : s.Faithful) (step : Json) :
    (sessionStep s step).1.answer false false =
        (sessionStep (Session.new s.catalog s.options) step).1.answer false false ∧
      (sessionStep s step).2.FaithfulOver s.catalog s.options := by
  have hkeep : s.FaithfulOver s.catalog s.options := ⟨hs, rfl, rfl⟩
  unfold sessionStep
  split
  · unfold encode runChecked
    cases hb : encodeBody step with
    | error f => exact ⟨rfl, hkeep⟩
    | ok body =>
        exact runOn_faithful hs (encodeBody_call hb) written
          (fun _ _ _ hw => by simp only [written, hw]) [] none
  · unfold decode
    split
    next t bytes _ _ =>
      unfold runChecked
      cases hb : decodeBody step t with
      | error f => exact ⟨rfl, hkeep⟩
      | ok body => exact runOn_faithful hs (decodeBody_call hb) (decoded t) (fun _ _ _ _ => rfl) bytes none
    all_goals exact ⟨rfl, hkeep⟩
  · unfold mappingListOp
    split
    next t _ => exact runOn_faithful hs (.mappingList t) _ (fun _ _ _ _ => rfl) [] none
    next => exact ⟨rfl, hkeep⟩
  · unfold membersOp
    split
    next t _ => exact runOn_faithful hs (.members t) _ (fun _ _ _ _ => rfl) [] none
    next => exact ⟨rfl, hkeep⟩
  · exact ⟨rfl, Session.faithful_clearCaches s, rfl, rfl⟩
  · exact ⟨rfl, hkeep⟩

theorem sessionSteps_faithful
    {s : Session} (hs : s.Faithful) (steps : List Json) :
    sessionSteps s steps =
      steps.map fun step => (sessionStep (Session.new s.catalog s.options) step).1.answer false false := by
  induction steps generalizing s with
  | nil => rfl
  | cons step rest ih =>
      obtain ⟨hans, hover⟩ := sessionStep_faithful hs step
      have hrest := ih hover.faithful
      rw [hover.catalog, hover.options] at hrest
      simp only [sessionSteps, List.map_cons, hans, hrest]

theorem foldl_sessionStep_faithful
    {s : Session} (hs : s.Faithful) (steps : List Json) :
    (steps.foldl (fun s step => (sessionStep s step).2) s).FaithfulOver s.catalog s.options := by
  induction steps generalizing s with
  | nil => exact ⟨hs, rfl, rfl⟩
  | cons step rest ih =>
      have hover := (sessionStep_faithful hs step).2
      have hrest := ih hover.faithful
      rw [hover.catalog, hover.options] at hrest
      exact hrest

end Service

open Service in
/-- Caches never change an answer. Run any steps on a serializer over any catalog with any
options: encoding and decoding through either engine, mapping lists, member lists and
clearing the caches, in any order. Each step answers as on a freshly built serializer with the
same options; and afterwards every call of the interface returns the same result, and writes
the same bytes, as on a fresh serializer. -/
theorem caches_never_change_an_answer
    (cat : Catalog) (o : Options) (steps : List Json) {α : Type} {body : Run α}
    (hcall : Run.Call body) (input : List UInt8) (room : Option Nat) :
    sessionSteps (Session.new cat o) steps =
        steps.map (fun step => (sessionStep (Session.new cat o) step).1.answer false false) ∧
      ((steps.foldl (fun s step => (sessionStep s step).2) (Session.new cat o)).run body input
          room).1 = ((Session.new cat o).run body input room).1 ∧
      ((steps.foldl (fun s step => (sessionStep s step).2) (Session.new cat o)).run body input
          room).2.writer = ((Session.new cat o).run body input room).2.writer := by
  have hs := foldl_sessionStep_faithful (Session.faithful_new cat o) steps
  obtain ⟨hres, hw, -⟩ := hs.faithful.call hcall input room
  rw [hs.catalog, hs.options] at hres hw
  exact ⟨sessionSteps_faithful (Session.faithful_new cat o) steps, hres, hw⟩

open Service in
/-- After the mapping list of `Customer` is cached and the caches are cleared, the members of
`Customer` are listed as on a fresh serializer. -/
theorem customer_members_after_clearing :
    Run.Call (Run.members (Sample.obj "Customer")) ∧
      (([.obj [("op", .str "mapping_list"), ("type", .str "Customer")],
          .obj [("op", .str "clear_caches")]].foldl (fun s step => (sessionStep s step).2)
          (serializerWith {})).run (Run.members (Sample.obj "Customer")) [] none).1 =
        ((serializerWith {}).run (Run.members (Sample.obj "Customer")) [] none).1 :=
  ⟨.members _, (caches_never_change_an_answer Sample.catalog {} _ (.members _) [] none).2.1⟩

end ObjectWire
