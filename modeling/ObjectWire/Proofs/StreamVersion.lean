import ObjectWire.Proofs.ReadAgreement
import ObjectWire.Proofs.WriteAppends
import ObjectWire.Sample.Catalog
/-!
# The stream's version decides decoding

A stream opens with a header carrying the version it was written for, and decoding takes
its version from there whenever the header declares one. The configured version of the
decoding serializer is then read by one thing only: the root plan of a root that is not an
object, whose nested checks run with it. So two serializers whose options differ only in
their versions decode a stream that one of them wrote alike: the same value, or the same
error, provided the reader's root plan can be made.

The argument runs along the entry points. Writing puts the header for the writer's version
first (`writeHeader_run`) and then only appends (`Run.Appends`), so the header reads back as
declaring that version (`readHeader_headerBytes`). Fresh serializers whose options differ
only in their versions agree, and after the header they decode from agreeing machines with
the same version in every context, where decoding simulates itself (`readObject_sim`).

**Results.**
* `deserialize_follows_stream_version`: a stream written with a version is decoded by every
  serializer with the same options but its version as by the writer itself.
-/

namespace ObjectWire

theorem Session.agree_new
    {o₁ o₂ : Options} (h : o₁.sansVersion = o₂.sansVersion) (cat : Catalog) :
    Session.Agree (Session.new cat o₁) (Session.new cat o₂) :=
  ⟨rfl, h, fun t => discoverMembers_sansVersion h cat t, rfl⟩

/-- The machine a session runs a computation on, reading `input`. -/
def Session.machine (s : Session) (input : List UInt8) (room : Option Nat) : Machine :=
  { session := s, writer := { encoding := s.options.encoding, room },
    reader := Reader.new input s.options.encoding }

namespace Run

variable {α : Type} {R : Machine → Machine → Prop}

/-- The answer of a run, without the machine it ends in. -/
def answer : EStateM.Result Error Machine α → Except Error α
  | .ok a _ => .ok a
  | .error e _ => .error e

theorem answer_eq_ok
    {r : EStateM.Result Error Machine α} {a : α} (h : answer r = .ok a) :
    ∃ m, r = .ok a m := by
  cases r with
  | ok b m =>
      cases h
      exact ⟨m, rfl⟩
  | error e m => cases h

theorem Corresponds.answer_eq
    {r₁ r₂ : EStateM.Result Error Machine α} (h : Corresponds R r₁ r₂) :
    answer r₁ = answer r₂ := by
  cases r₁ with
  | ok a m₁ =>
      obtain ⟨m₂, rfl, -⟩ := h.ok_left
      rfl
  | error e m₁ =>
      obtain ⟨m₂, rfl, -⟩ := h.error_left
      rfl

end Run

theorem Session.run_fst
    (s : Session) (body : Run α) (input : List UInt8) (room : Option Nat) :
    (s.run body input room).1 = Run.answer (body.run (s.machine input room)) := by
  unfold Session.run Session.machine
  dsimp only
  split <;> simp_all [Run.answer, EStateM.run]

theorem Session.run_snd
    {α : Type} (s : Session) (body : Run α) (input : List UInt8) (room : Option Nat) :
    (s.run body input room).2 = endState (body.run (s.machine input room)) := by
  unfold Session.run Session.machine
  dsimp only
  split <;> simp_all [endState, EStateM.run]

theorem Session.run_eq_ok
    {s : Session} {body : Run α} {input : List UInt8} {room : Option Nat} {a : α} {m : Machine}
    (h : s.run body input room = (.ok a, m)) :
    body.run (s.machine input room) = .ok a m := by
  unfold Session.run at h
  dsimp only at h
  split at h <;> simp_all [Session.machine, EStateM.run]

namespace Run

/-! ## Steps of the entry points -/

theorem take_run_ok
    {r : Take α} {m : Machine} {a : α} {r' : Reader} (h : r.run m.reader = .ok a r') :
    (take r).run m = .ok a { m with reader := r' } := by
  show take r m = _
  unfold take
  rw [show r m.reader = .ok a r' from h]

theorem emit_run_ok
    {e : Emit α} {m : Machine} {a : α} {w : Writer} (h : e.run m.writer = .ok a w) :
    (emit e).run m = .ok a { m with writer := w } := by
  show emit e m = _
  unfold emit
  rw [show e m.writer = .ok a w from h]

theorem streamVersion_run_declared
    {m : Machine} {v : Version} {r' : Reader} (h : readHeader.run m.reader = .ok (.declared v) r') :
    ∃ logs, streamVersion.run m = .ok (some v) { m with session := { m.session with logs }, reader := r' } := by
  simp only [streamVersion, EStateM.run_bind, take_run_ok h, options_run, log_run]
  exact ⟨_, rfl⟩

theorem rootPlan_run_object
    {t : Ty} {e : Engine} {m : Machine} (ht : t.isObject = true)
    (hnone : m.session.roots.lookup (t, e) = none) :
    (rootPlan t e).run m =
      .ok .object { m with session := { m.session with roots := m.session.roots ++ [((t, e), .object)] } } := by
  simp only [rootPlan, EStateM.run_bind, session_run, hnone, ht, if_true]
  rfl

theorem rootPlan_frame
    {t : Ty} {e : Engine} {m m' : Machine} {p : RootPlan} (h : (rootPlan t e).run m = .ok p m') :
    Session.Agree m.session m'.session ∧ m'.writer = m.writer ∧ m'.reader = m.reader := by
  have hstart : Around m.session m.writer m.reader m m :=
    ⟨⟨Session.Agree.refl _, rfl, rfl⟩, ⟨Session.Agree.refl _, rfl, rfl⟩⟩
  have hc := rootPlan_corresponds (around_sessionRel _ _ _) hstart rfl rfl t e
  rw [h] at hc
  exact hc.2.1

theorem rootPlan_transfer
    {t : Ty} {e : Engine} {m₁ m₁' m₂ : Machine} {p : RootPlan}
    (h : (rootPlan t e).run m₁ = .ok p m₁') (ha : Session.Agree m₁.session m₂.session)
    (hroots : m₁.session.roots = m₂.session.roots)
    (hversion : m₁.session.options.version = m₂.session.options.version) :
    ∃ m₂', (rootPlan t e).run m₂ = .ok p m₂' := by
  have hstart : Framed m₁.writer m₂.writer m₁ m₂ := ⟨ha, rfl, rfl⟩
  have hc := rootPlan_corresponds (framed_cacheRel _ _).toSessionRel hstart hroots hversion t e
  rw [h] at hc
  obtain ⟨m₂', h₂, -⟩ := hc.ok_left
  exact ⟨m₂', h₂⟩

/-- A root that is not an object travels through the converter its root request
resolves. -/
theorem rootPlan_run_converter
    {t : Ty} {e : Engine} {m m' : Machine} {p : RootPlan} (ht : t.isObject = false)
    (hnone : m.session.roots.lookup (t, e) = none) (h : (rootPlan t e).run m = .ok p m') :
    ∃ c, p = .converter c ∧
      Resolve.resolve m.session.options.registry m.session.catalog t (Request.root e t.shortName) =
        .ok (some c) := by
  unfold rootPlan at h
  obtain ⟨s, m₁, hs, h⟩ := run_bind_ok h
  rw [session_run] at hs
  cases hs
  rw [hnone] at h
  dsimp only at h
  simp only [ht, Bool.false_eq_true, if_false] at h
  obtain ⟨s, m₂, hs, h⟩ := run_bind_ok h
  rw [session_run] at hs
  cases hs
  obtain ⟨found, m₃, hfound, h⟩ := run_bind_ok h
  have hres : Resolve.resolve m.session.options.registry m.session.catalog t
      (Request.root e t.shortName) = .ok found := by
    cases hr : Resolve.resolve m.session.options.registry m.session.catalog t
        (Request.root e t.shortName) with
    | error err =>
        rw [hr, lift_error_run] at hfound
        cases hfound
    | ok r =>
        rw [hr, lift_ok_run] at hfound
        cases hfound
        rfl
  cases found with
  | none =>
      obtain ⟨_, _, hthrow, -⟩ := run_bind_ok h
      cases hthrow
  | some c =>
      obtain ⟨fuel, m₄, -, h⟩ := run_bind_ok h
      obtain ⟨u, m₅, -, h⟩ := run_bind_ok h
      obtain ⟨plan, m₆, hplan, h⟩ := run_bind_ok h
      cases hplan
      obtain ⟨u, m₇, -, h⟩ := run_bind_ok h
      cases h
      exact ⟨c, rfl, hres⟩

/-! ## The tails of the entry points -/

/-- Writing a root of type `t` along its plan. -/
def encodeRoot (t : Ty) (v : Value) (ver : Option Version) : RootPlan → Run Unit
  | .object => do writeLayout (objectWriterFor v) (← compiled t ver) v { version := ver }
  | .converter c => writeValue (objectWriterFor v) c t ⟨t, v⟩ { version := ver }

/-- Reading a root of type `t` into `target` along its plan. -/
def decodeRoot (t : Ty) (target : Value) (orr : ObjectReader) (ver : Option Version) :
    RootPlan → Run Value
  | .object => do readLayout orr (← compiled t ver) target { version := ver }
  | .converter c => readValue orr c t { version := ver }

theorem serialize_eq
    (t : Ty) (v : Value) :
    serialize t v = options >>= fun o =>
      emit (writeHeader o.version) >>= fun _ => rootPlan t .compiled >>= encodeRoot t v o.version := by
  rfl

theorem deserializeInto_eq
    (t : Ty) (target : Value) :
    deserializeInto t target = streamVersion >>= fun ver =>
      objectReader >>= fun orr => rootPlan t .compiled >>= decodeRoot t target orr ver := by
  rfl

theorem encodeRoot_appends
    (t : Ty) (v : Value) (ver : Option Version) (p : RootPlan) :
    Appends (encodeRoot t v ver p) := by
  cases p with
  | object =>
      exact Appends.bind (compiled_appends t ver) fun _ =>
        writeLayout_appends (writeObject_appends _) _ _ _
  | converter c => exact writeValue_appends (writeObject_appends _) c t _ _

theorem decodeRoot_sim
    (hR : EngineRel R) (n : Nat) (t : Ty) (target : Value) (ver : Option Version) (p : RootPlan) :
    Sim R (decodeRoot t target (readObject n) ver p) (decodeRoot t target (readObject n) ver p) := by
  cases p with
  | object =>
      exact Sim.bind (compiled_sim hR.toViewRel hR.mappingList t ver) fun _ =>
        readLayout_sim hR (readObject_sim hR n) _ _ _
  | converter c =>
      exact readValue_sim hR (objectReaders_sim_eq (readObject_sim hR n)) (.refl c) t _


/-- A serialization that succeeds wrote the header for the configured version and then only
appended; on the way it made the root plan on the machine with the header written. -/
theorem serialize_run_ok
    {t : Ty} {v : Value} {m₀ m : Machine} (hroom : m₀.writer.room = none)
    (h : (serialize t v).run m₀ = .ok () m) :
    (∃ p m₁, (rootPlan t .compiled).run { m₀ with
        writer := m₀.writer.append (headerBytes m₀.writer.encoding m₀.session.options.version) } =
          .ok p m₁) ∧
      ∃ rest, m.writer.bytes =
        m₀.writer.bytes ++ headerBytes m₀.writer.encoding m₀.session.options.version ++ rest := by
  rw [serialize_eq] at h
  obtain ⟨o, m', ho, h⟩ := run_bind_ok h
  rw [options_run] at ho
  cases ho
  obtain ⟨u, m₁, hhead, h⟩ := run_bind_ok h
  rw [emit_run_ok (writeHeader_run hroom _)] at hhead
  cases hhead
  obtain ⟨p, m₂, hplan, h⟩ := run_bind_ok h
  refine ⟨⟨p, m₂, hplan⟩, ?_⟩
  obtain ⟨rest, hrest⟩ : m₂.writer.bytes <+: m.writer.bytes := by
    have hgrow := encodeRoot_appends t v m₀.session.options.version p m₂
    rwa [h] at hgrow
  refine ⟨rest, ?_⟩
  rw [← hrest, (rootPlan_frame hplan).2.1, Writer.bytes_append]

theorem deserializeInto_run_declared
    (t : Ty) (target : Value) {m₀ : Machine} {w : Version} {r' : Reader}
    (h : readHeader.run m₀.reader = .ok (.declared w) r') :
    ∃ logs, (deserializeInto t target).run m₀ =
      (rootPlan t .compiled >>= decodeRoot t target (readObject (r'.input.size + 2)) (some w)).run
        { m₀ with session := { m₀.session with logs }, reader := r' } := by
  obtain ⟨logs, hv⟩ := streamVersion_run_declared h
  refine ⟨logs, ?_⟩
  rw [deserializeInto_eq, EStateM.run_bind, hv]
  dsimp only
  rw [EStateM.run_bind, objectReader_run]

/-- Agreeing machines with no root plan cached make the same plan, when each can make one
(an object root always can), and end agreeing. -/
theorem rootPlan_fresh
    {t : Ty} {e : Engine} {m₁ m₂ : Machine} (ha : Machine.Agree m₁ m₂)
    (hr₁ : m₁.session.roots = []) (hr₂ : m₂.session.roots = [])
    (h₁ : t.isObject = true ∨ ∃ p m', (rootPlan t e).run m₁ = .ok p m')
    (h₂ : ∃ p m', (rootPlan t e).run m₂ = .ok p m') :
    ∃ p m₁' m₂', (rootPlan t e).run m₁ = .ok p m₁' ∧ (rootPlan t e).run m₂ = .ok p m₂' ∧
      Machine.Agree m₁' m₂' := by
  have hnone₁ : m₁.session.roots.lookup (t, e) = none := by rw [hr₁]; rfl
  have hnone₂ : m₂.session.roots.lookup (t, e) = none := by rw [hr₂]; rfl
  obtain ⟨p, m₁', m₂', hp₁, hp₂⟩ :
      ∃ p m₁' m₂', (rootPlan t e).run m₁ = .ok p m₁' ∧ (rootPlan t e).run m₂ = .ok p m₂' := by
    cases ht : t.isObject with
    | true => exact ⟨_, _, _, rootPlan_run_object ht hnone₁, rootPlan_run_object ht hnone₂⟩
    | false =>
        obtain ⟨p₁, m₁', hp₁⟩ := h₁.resolve_left (by simp [ht])
        obtain ⟨p₂, m₂', hp₂⟩ := h₂
        obtain ⟨c₁, rfl, hc₁⟩ := rootPlan_run_converter ht hnone₁ hp₁
        obtain ⟨c₂, rfl, hc₂⟩ := rootPlan_run_converter ht hnone₂ hp₂
        rw [ha.1.registry, ha.1.catalog, hc₂] at hc₁
        cases hc₁
        exact ⟨_, m₁', m₂', hp₁, hp₂⟩
  obtain ⟨hs₁, hw₁, hr₁'⟩ := rootPlan_frame hp₁
  obtain ⟨hs₂, hw₂, hr₂'⟩ := rootPlan_frame hp₂
  refine ⟨p, m₁', m₂', hp₁, hp₂, ?_, ?_, ?_⟩
  · exact hs₁.symm.trans (ha.1.trans hs₂)
  · rw [hw₁, hw₂, ha.2.1]
  · rw [hr₁', hr₂', ha.2.2]

/-- Agreeing machines with no root plan cached, reading a header that declares `w`, decode
alike into any target, when each can make its root plan. -/
theorem deserializeInto_agree_declared
    {t : Ty} {target : Value} {m₁ m₂ : Machine} {w : Version} {r' : Reader}
    (ha : Machine.Agree m₁ m₂) (hr₁ : m₁.session.roots = []) (hr₂ : m₂.session.roots = [])
    (hhead : readHeader.run m₁.reader = .ok (.declared w) r')
    (h₁ : t.isObject = true ∨ ∃ p m', (rootPlan t .compiled).run m₁ = .ok p m')
    (h₂ : ∃ p m', (rootPlan t .compiled).run m₂ = .ok p m') :
    answer ((deserializeInto t target).run m₁) = answer ((deserializeInto t target).run m₂) := by
  obtain ⟨logs₁, hd₁⟩ := deserializeInto_run_declared t target hhead
  obtain ⟨logs₂, hd₂⟩ := deserializeInto_run_declared t target (ha.2.2 ▸ hhead)
  rw [hd₁, hd₂]
  have hlogs : ∀ (m : Machine) logs, Session.Agree m.session { m.session with logs } :=
    fun m logs => Session.agree_logs m.session logs
  have h₁' : t.isObject = true ∨ ∃ p m', (rootPlan t .compiled).run
      { m₁ with session := { m₁.session with logs := logs₁ }, reader := r' } = .ok p m' := by
    rcases h₁ with hobj | ⟨p, m', hp⟩
    · exact .inl hobj
    · exact .inr ⟨p, rootPlan_transfer hp (hlogs m₁ logs₁) rfl rfl⟩
  obtain ⟨p, m₂', hp⟩ := h₂
  have h₂' : ∃ p m', (rootPlan t .compiled).run
      { m₂ with session := { m₂.session with logs := logs₂ }, reader := r' } = .ok p m' :=
    ⟨p, rootPlan_transfer hp (hlogs m₂ logs₂) rfl rfl⟩
  have hafter : Machine.Agree
      { m₁ with session := { m₁.session with logs := logs₁ }, reader := r' }
      { m₂ with session := { m₂.session with logs := logs₂ }, reader := r' } :=
    ⟨(hlogs m₁ logs₁).symm.trans (ha.1.trans (hlogs m₂ logs₂)), ha.2.1, rfl⟩
  obtain ⟨p, m₁', m₂', hp₁, hp₂, hagree⟩ := rootPlan_fresh hafter hr₁ hr₂ h₁' h₂'
  rw [EStateM.run_bind, hp₁, EStateM.run_bind, hp₂]
  exact (decodeRoot_sim Machine.agree_engineRel _ t target (some w) p m₁' m₂' hagree).answer_eq

end Run

open Run

/-- A stream written by a serializer for version `w` declares `w` to every serializer whose
options differ from the writer's only in the version, and each of them decodes it as the
writer does: the same value or the same error, into any target, provided the reader can
make its root plan (as it always can for an object root). -/
theorem deserialize_follows_stream_version
    {cat : Catalog} {oW oR : Options} {w : Version} {t : Ty} {v target : Value} {m : Machine}
    (hopts : oW.sansVersion = oR.sansVersion) (hw : oW.version = some w)
    (hser : (Session.new cat oW).run (serialize t v) = (.ok (), m))
    (hroot : t.isObject = true ∨
      ∃ p, ((Session.new cat oR).run (rootPlan t .compiled)).1 = .ok p) :
    ((Session.new cat oR).run streamVersion m.writer.bytes).1 = .ok (some w) ∧
      ((Session.new cat oR).run (deserializeInto t target) m.writer.bytes).1 =
        ((Session.new cat oW).run (deserializeInto t target) m.writer.bytes).1 := by
  obtain ⟨⟨pW, mW, hplanW⟩, rest, hbytes⟩ := serialize_run_ok rfl (Session.run_eq_ok hser)
  have hstream : m.writer.bytes = headerBytes oW.encoding (some w) ++ rest := by
    simpa [Session.machine, Session.new, Writer.bytes, hw] using hbytes
  have henc : oR.encoding = oW.encoding := by
    have hc := congrArg Options.encoding hopts
    exact hc.symm
  have ha : Machine.Agree ((Session.new cat oR).machine m.writer.bytes none)
      ((Session.new cat oW).machine m.writer.bytes none) :=
    ⟨Session.agree_new hopts.symm cat, by simp only [Session.machine, Session.new, henc],
      by simp only [Session.machine, Session.new, henc]⟩
  have hhead := readHeader_headerBytes (r := ((Session.new cat oW).machine m.writer.bytes none).reader)
    (some w) (by simpa [Session.machine, Session.new, Reader.new] using hstream)
  have hheadR := ha.2.2 ▸ hhead
  refine ⟨?_, ?_⟩
  · obtain ⟨logs, hsv⟩ := streamVersion_run_declared hheadR
    rw [Session.run_fst, hsv]
    rfl
  · have h₁ : t.isObject = true ∨ ∃ p m', (rootPlan t .compiled).run
        ((Session.new cat oR).machine m.writer.bytes none) = .ok p m' := by
      rcases hroot with hobj | ⟨p, hp⟩
      · exact .inl hobj
      · rw [Session.run_fst] at hp
        obtain ⟨m', hm⟩ := answer_eq_ok hp
        exact .inr ⟨p, rootPlan_transfer hm (Session.Agree.refl _) rfl rfl⟩
    have h₂ : ∃ p m', (rootPlan t .compiled).run
        ((Session.new cat oW).machine m.writer.bytes none) = .ok p m' :=
      ⟨pW, rootPlan_transfer hplanW (Session.Agree.refl _) rfl rfl⟩
    rw [Session.run_fst, Session.run_fst]
    exact deserializeInto_agree_declared ha rfl rfl hheadR h₁ h₂

/-- The profile of the version tests, written for version 1 and read by a serializer
configured for version 4, decodes with version 1, as the writer decodes it. -/
theorem profile_follows_stream_version :
    ((Session.new Sample.catalog { version := some (.exactly (Sample.num 4)) }).run streamVersion
        ((Session.new Sample.catalog { version := some (.exactly (Sample.num 1)) }).run
          (serialize (Sample.obj "Profile") (Sample.catalog.default (Sample.obj "Profile")))).2.writer.bytes).1 =
        .ok (some (.exactly (Sample.num 1))) ∧
      ((Session.new Sample.catalog { version := some (.exactly (Sample.num 4)) }).run
        (deserializeInto (Sample.obj "Profile") (Sample.catalog.default (Sample.obj "Profile")))
        ((Session.new Sample.catalog { version := some (.exactly (Sample.num 1)) }).run
          (serialize (Sample.obj "Profile") (Sample.catalog.default (Sample.obj "Profile")))).2.writer.bytes).1 =
      ((Session.new Sample.catalog { version := some (.exactly (Sample.num 1)) }).run
        (deserializeInto (Sample.obj "Profile") (Sample.catalog.default (Sample.obj "Profile")))
        ((Session.new Sample.catalog { version := some (.exactly (Sample.num 1)) }).run
          (serialize (Sample.obj "Profile") (Sample.catalog.default (Sample.obj "Profile")))).2.writer.bytes).1 := by
  have hok : ((Session.new Sample.catalog { version := some (.exactly (Sample.num 1)) }).run
      (serialize (Sample.obj "Profile") (Sample.catalog.default (Sample.obj "Profile")))).1.toBool = true := by
    decide +kernel
  have hser : (Session.new Sample.catalog { version := some (.exactly (Sample.num 1)) }).run
      (serialize (Sample.obj "Profile") (Sample.catalog.default (Sample.obj "Profile"))) =
        (.ok (), ((Session.new Sample.catalog { version := some (.exactly (Sample.num 1)) }).run
          (serialize (Sample.obj "Profile") (Sample.catalog.default (Sample.obj "Profile")))).2) := by
    generalize (Session.new Sample.catalog _).run _ = r at hok ⊢
    obtain ⟨_ | _, m⟩ := r <;> simp_all [Except.toBool]
  exact deserialize_follows_stream_version rfl rfl hser (.inl (by decide))

end ObjectWire
