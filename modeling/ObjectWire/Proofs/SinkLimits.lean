import Mathlib.Control.Monad.Basic
import ObjectWire.Proofs.WriteAgreement
import ObjectWire.Proofs.ReadBack
/-!
# Writing into a sink that fills up

A sink may take only so many bytes: it keeps what fits of each write and refuses the rest, and
the refused write fails, with the sink's I/O error for raw bytes (the header marker, the
payloads of strings and byte arrays, segment runs, buffered map entries, a custom
converter's raw output) and with a codec fault for fixed-width values (flags, counts,
numbers).

A write's outcome on a limited sink follows from its run on an unlimited one. That run makes a
sequence of offers (`Offers`), each raw or a value: their bytes are the stream, in order,
since nothing is written out of order or taken back, and the scratch buffers of hash-map
entries are fresh unlimited sinks, emitted afterwards as raw writes. On a sink with room for
`n` bytes the same computation makes the same offers until one does not fit: then the sink
holds the first `n` bytes of the stream and the run fails with the fault of that offer's kind
(`Offers.refusal`); when all fit, the run succeeds as before, with the room reduced by the
stream's length. `Streams` states this for one computation, against every machine at the
same point with a limited sink (`Limited`, `LimitedRun`). It is assembled along the writer's
structure as `Appends` is; the session steps write nothing and simulate themselves with each
side's streams pinned.

**Results.**
* `writeValue_streams`, `writeObject_streams`: every converter and both engines stream.
* `serialize_into_a_limited_sink`: serializing into a sink that takes `N` bytes succeeds
  exactly when the stream fits, with the same bytes; otherwise the sink holds the first `N`
  bytes of the stream and the error is the fault of the write that did not fit.
-/

namespace ObjectWire

/-! ## Offers -/

/-- The two kinds of write a sink is offered: raw bytes, and the bytes of a fixed-width
value. -/
inductive WriteKind
  | raw
  | value
  deriving DecidableEq, Repr

/-- The fault a full sink raises for a write: its I/O error for raw bytes, a codec fault for a
value. -/
def WriteKind.fault : WriteKind → Error
  | .raw => .io .sinkFull
  | .value => .codec .sinkRefused

/-- The writes of a computation, in order: each offer's bytes and kind. -/
abbrev Offers := List (List UInt8 × WriteKind)

namespace Offers

/-- The stream the writes make. -/
def bytes (os : Offers) : List UInt8 := (os.map Prod.fst).flatten

/-- The kind of the first write that does not fit in `n` bytes of room, if any does not. -/
def refusal : Offers → Nat → Option WriteKind
  | [], _ => none
  | (bs, k) :: os, n => if bs.length ≤ n then refusal os (n - bs.length) else some k

@[simp] theorem bytes_nil : bytes [] = [] := rfl

@[simp] theorem bytes_cons
    (o : List UInt8 × WriteKind) (os : Offers) :
    bytes (o :: os) = o.1 ++ bytes os := rfl

@[simp] theorem bytes_append
    (os₁ os₂ : Offers) :
    bytes (os₁ ++ os₂) = bytes os₁ ++ bytes os₂ := by
  simp [bytes]

theorem length_bytes_append
    (os₁ os₂ : Offers) :
    (os₁ ++ os₂).bytes.length = os₁.bytes.length + os₂.bytes.length := by
  rw [bytes_append, List.length_append]

theorem take_bytes_append_of_le
    {os₁ os₂ : Offers} {n : Nat} (h : os₁.bytes.length ≤ n) :
    (os₁ ++ os₂).bytes.take n = os₁.bytes ++ os₂.bytes.take (n - os₁.bytes.length) := by
  rw [bytes_append, List.take_append, List.take_of_length_le h]

theorem take_bytes_append_of_lt
    {os₁ os₂ : Offers} {n : Nat} (h : n < os₁.bytes.length) :
    (os₁ ++ os₂).bytes.take n = os₁.bytes.take n := by
  rw [bytes_append, List.take_append_of_le_length (Nat.le_of_lt h)]

theorem refusal_eq_none_iff
    (os : Offers) (n : Nat) :
    os.refusal n = none ↔ os.bytes.length ≤ n := by
  induction os generalizing n with
  | nil => simp [refusal]
  | cons o os ih =>
      obtain ⟨bs, k⟩ := o
      by_cases h : bs.length ≤ n
      · simp only [refusal, h, if_true, ih, bytes_cons, List.length_append]
        omega
      · simp only [refusal, h, if_false, reduceCtorEq, false_iff, bytes_cons, List.length_append]
        omega

theorem refusal_append
    (os₁ os₂ : Offers) (n : Nat) :
    (os₁ ++ os₂).refusal n =
      if os₁.bytes.length ≤ n then os₂.refusal (n - os₁.bytes.length) else os₁.refusal n := by
  induction os₁ generalizing n with
  | nil => simp
  | cons o os₁ ih =>
      obtain ⟨bs, k⟩ := o
      by_cases h : bs.length ≤ n
      · simp only [List.cons_append, refusal, h, if_true, ih, bytes_cons, List.length_append]
        by_cases h' : (Offers.bytes os₁).length ≤ n - bs.length
        · rw [if_pos h', if_pos (by omega), Nat.sub_sub]
        · rw [if_neg h', if_neg (by omega)]
      · simp only [List.cons_append, refusal, h, if_false, bytes_cons, List.length_append]
        rw [if_neg (by omega)]

theorem refusal_append_eq_some
    {os₁ os₂ : Offers} {n : Nat} {k : WriteKind} (h : (os₁ ++ os₂).refusal n = some k) :
    (os₁.refusal n = some k ∧ n < os₁.bytes.length) ∨
      (os₁.bytes.length ≤ n ∧ os₂.refusal (n - os₁.bytes.length) = some k) := by
  rw [refusal_append] at h
  by_cases hfit : os₁.bytes.length ≤ n
  · rw [if_pos hfit] at h
    exact .inr ⟨hfit, h⟩
  · rw [if_neg hfit] at h
    exact .inl ⟨h, Nat.lt_of_not_le hfit⟩

end Offers

/-! ## Writing steps -/

/-- The writer with room for `n` more bytes. -/
def Writer.limit (w : Writer) (n : Nat) : Writer := { w with room := some n }

@[simp] theorem Writer.bytes_limit
    (w : Writer) (n : Nat) :
    (w.limit n).bytes = w.bytes := rfl

@[simp] theorem Writer.encoding_limit
    (w : Writer) (n : Nat) :
    (w.limit n).encoding = w.encoding := rfl

theorem Writer.offer_limit_of_le
    (w : Writer) {bs : List UInt8} {n : Nat} (h : bs.length ≤ n) :
    (w.limit n).offer bs = ((w.append bs).limit (n - bs.length), true) := by
  simp [Writer.offer, Writer.limit, Writer.append, h]

theorem Writer.offer_limit_of_lt
    (w : Writer) {bs : List UInt8} {n : Nat} (h : n < bs.length) :
    ((w.limit n).offer bs).2 = false ∧ ((w.limit n).offer bs).1.bytes = w.bytes ++ bs.take n := by
  simp [Writer.offer, Writer.limit, Writer.bytes, Nat.not_le.2 h]

namespace Emit

variable {α β : Type}

/-- The writes `os` of a writing step that, from `w` on an unlimited sink, ends in `w'` with
`a`: with room for `n` bytes it ends alike, the room reduced, when they fit, and otherwise
fails with the first refused write's fault, the sink holding the first `n` bytes. -/
structure StreamsAs (e : Emit α) (w : Writer) (a : α) (w' : Writer) (os : Offers) : Prop where
  bytes : w'.bytes = w.bytes ++ os.bytes
  room : w'.room = none
  fits : ∀ n, os.bytes.length ≤ n → e.run (w.limit n) = .ok a (w'.limit (n - os.bytes.length))
  refused : ∀ n k, os.refusal n = some k →
    ∃ w'', e.run (w.limit n) = .error k.fault w'' ∧ w''.bytes = w.bytes ++ os.bytes.take n

/-- A writing step whose every successful unlimited run has writes that stream. -/
def Streams (e : Emit α) : Prop :=
  ∀ w a w', w.room = none → e.run w = .ok a w' → ∃ os, StreamsAs e w a w' os

theorem Streams.pure
    (a : α) :
    Streams (Pure.pure a : Emit α) := by
  intro w b w' _ h
  cases h
  refine ⟨[], ⟨by simp, by assumption, fun n _ => rfl, ?_⟩⟩
  intro n k h
  simp [Offers.refusal] at h

theorem Streams.throw
    (err : Error) :
    Streams (MonadExcept.throw err : Emit α) := by
  intro w a w' _ h
  cases h

theorem Streams.bind
    {e : Emit α} {k : α → Emit β} (he : Streams e) (hk : ∀ a, Streams (k a)) :
    Streams (e >>= k) := by
  intro w b w'' hroom h
  obtain ⟨a, w', hr, h⟩ := bind_ok_inv h
  obtain ⟨os₁, h₁⟩ := he w a w' hroom hr
  obtain ⟨os₂, h₂⟩ := hk a w' b w'' h₁.room h
  refine ⟨os₁ ++ os₂, ?_, h₂.room, fun n hn => ?_, fun n kind hkind => ?_⟩
  · rw [h₂.bytes, h₁.bytes, Offers.bytes_append, List.append_assoc]
  · rw [Offers.length_bytes_append] at hn
    rw [EStateM.run_bind, h₁.fits n (by omega)]
    show (k a).run _ = _
    rw [h₂.fits (n - (Offers.bytes os₁).length) (by omega), Offers.length_bytes_append, Nat.sub_sub]
  · rcases Offers.refusal_append_eq_some hkind with ⟨hkind, hlt⟩ | ⟨hfit, hkind⟩
    · obtain ⟨w₂, hrun, hbytes⟩ := h₁.refused n kind hkind
      refine ⟨w₂, by rw [EStateM.run_bind, hrun], ?_⟩
      rw [hbytes, Offers.take_bytes_append_of_lt hlt]
    · obtain ⟨w₂, hrun, hbytes⟩ := h₂.refused _ kind hkind
      refine ⟨w₂, ?_, ?_⟩
      · rw [EStateM.run_bind, h₁.fits n hfit]
        exact hrun
      · rw [hbytes, h₁.bytes, Offers.take_bytes_append_of_le hfit, List.append_assoc]

theorem Streams.ite
    {c : Prop} [Decidable c] {e e' : Emit α} (he : Streams e) (he' : Streams e') :
    Streams (if c then e else e') := by
  by_cases hc : c
  · simpa only [if_pos hc] using he
  · simpa only [if_neg hc] using he'

theorem Streams.get_bind
    {k : Writer → Emit α} (hk : ∀ w, Streams (k w)) (hlimit : ∀ w n, k (w.limit n) = k w) :
    Streams (get >>= k) := by
  intro w a w' hroom h
  obtain ⟨os, hos⟩ := hk w w a w' hroom h
  refine ⟨os, hos.bytes, hos.room, fun n hn => ?_, fun n kind hkind => ?_⟩
  · show (k (w.limit n)).run (w.limit n) = _
    rw [hlimit]
    exact hos.fits n hn
  · show ∃ w'', (k (w.limit n)).run (w.limit n) = _ ∧ _
    rw [hlimit]
    exact hos.refused n kind hkind

/-- One offer: kept whole, or refused with the fault of its kind. -/
theorem Streams.offer
    (bs : List UInt8) (k : WriteKind) :
    Streams (offer bs k.fault) := by
  intro w a w' hroom h
  rw [offer_run_unlimited hroom bs k.fault] at h
  cases h
  refine ⟨[(bs, k)], by simp, by simp [Writer.append, hroom], fun n hn => ?_, fun n k' hk => ?_⟩
  · simp only [Offers.bytes_cons, Offers.bytes_nil, List.append_nil] at hn ⊢
    rw [offer_run, w.offer_limit_of_le hn]
    rfl
  · simp only [Offers.refusal] at hk
    by_cases hfit : bs.length ≤ n
    · simp [hfit] at hk
    · simp only [hfit, if_false, Option.some.injEq] at hk
      subst hk
      obtain ⟨hok, hbytes⟩ := w.offer_limit_of_lt (Nat.lt_of_not_le hfit)
      refine ⟨((w.limit n).offer bs).1, ?_, ?_⟩
      · rw [offer_run, if_neg (by simp [hok])]
      · simpa using hbytes

theorem Streams.raw
    (bs : List UInt8) :
    Streams (raw bs) :=
  Streams.offer bs .raw

theorem Streams.value
    (bs : List UInt8) :
    Streams (value bs) :=
  Streams.offer bs .value

theorem Streams.count
    (n : Nat) :
    Streams (count n) := by
  unfold Emit.count Emit.i32
  exact Streams.ite (Streams.value _) (Streams.throw _)

theorem Streams.bytes
    (bs : List UInt8) :
    Streams (bytes bs) :=
  Streams.bind (Streams.count _) fun _ => Streams.raw _

theorem Streams.string
    (s : String) :
    Streams (string s) :=
  Streams.get_bind (fun _ => Streams.bytes _) fun _ _ => rfl

theorem writeHeader_streams
    (v : Option Version) :
    Streams (writeHeader v) := by
  unfold writeHeader
  refine Streams.bind (Streams.raw _) fun _ => Streams.bind (Streams.value _) fun _ => ?_
  cases v with
  | none => exact Streams.pure _
  | some v => exact Streams.bind (Streams.value _) fun _ => Streams.string _

end Emit

/-! ## Computations of a serializer -/

namespace Run

variable {α β γ : Type}

/-- Two machines at one point of a request, the second's sink with room for `n` more bytes
and otherwise holding what the first's holds. -/
def Limited (n : Nat) (m₁ m₂ : Machine) : Prop :=
  Session.Agree m₁.session m₂.session ∧ m₂.writer = m₁.writer.limit n ∧ m₂.reader = m₁.reader

/-- Machines with agreeing sessions and the streams of `m₁` and `m₂`: a simulation under it
touches neither side's writer or reader. -/
def Pinned (m₁ m₂ m₁' m₂' : Machine) : Prop :=
  Session.Agree m₁'.session m₂'.session ∧ m₁'.writer = m₁.writer ∧ m₁'.reader = m₁.reader ∧
    m₂'.writer = m₂.writer ∧ m₂'.reader = m₂.reader

theorem pinned_cacheRel
    (m₁ m₂ : Machine) :
    CacheRel (Pinned m₁ m₂) where
  agree h := h.1
  update h h₁ h₂ := ⟨h₁.symm.trans (h.1.trans h₂), h.2⟩
  cache e h := by
    obtain ⟨⟨hc, ho, hm, hl⟩, hstreams⟩ := h
    exact ⟨⟨hc, ho, hm, by simp only [hl]⟩, hstreams⟩

theorem Limited.pinned
    {n : Nat} {m₁ m₂ m₁' m₂' : Machine} (hm : Limited n m₁ m₂) (hp : Pinned m₁ m₂ m₁' m₂') :
    Limited n m₁' m₂' :=
  ⟨hp.1, by rw [hp.2.2.2.1, hm.2.1, hp.2.1], by rw [hp.2.2.2.2, hm.2.2, hp.2.2.1]⟩

/-- The run of `f` from `m₂`, with room for `n` bytes, against a run from `m₁` on an unlimited
sink that ends in `m₁'` with `a` after the writes `os`: it ends alike, the room reduced, when
they fit, and otherwise fails with the first refused write's fault, the sink holding the
first `n` bytes. -/
structure LimitedRun (f : Run α) (m₁ : Machine) (a : α) (m₁' : Machine) (os : Offers) (n : Nat)
    (m₂ : Machine) : Prop where
  fits : os.bytes.length ≤ n → ∃ m₂', f.run m₂ = .ok a m₂' ∧ Limited (n - os.bytes.length) m₁' m₂'
  refused : ∀ k, os.refusal n = some k →
    ∃ m₂', f.run m₂ = .error k.fault m₂' ∧ m₂'.writer.bytes = m₁.writer.bytes ++ os.bytes.take n

theorem LimitedRun.nil
    {f : Run α} {m₁ m₁' m₂ : Machine} {a : α} {n : Nat}
    (h : ∃ m₂', f.run m₂ = .ok a m₂' ∧ Limited n m₁' m₂') :
    LimitedRun f m₁ a m₁' [] n m₂ := by
  refine ⟨fun _ => by simpa using h, fun kind hkind => ?_⟩
  simp [Offers.refusal] at hkind

/-- Limited runs compose along `bind`: the continuation runs from where the first step's
limited run ends, in the room its writes leave. -/
theorem LimitedRun.bind
    {f : Run α} {k : α → Run β} {m₁ m₁' m₁'' m₂ : Machine} {a : α} {b : β} {os₁ os₂ : Offers}
    {n : Nat} (h₁ : LimitedRun f m₁ a m₁' os₁ n m₂)
    (hbytes : m₁'.writer.bytes = m₁.writer.bytes ++ os₁.bytes)
    (h₂ : ∀ m₂', f.run m₂ = .ok a m₂' → Limited (n - os₁.bytes.length) m₁' m₂' →
      LimitedRun (k a) m₁' b m₁'' os₂ (n - os₁.bytes.length) m₂') :
    LimitedRun (f >>= k) m₁ b m₁'' (os₁ ++ os₂) n m₂ := by
  refine ⟨fun hn => ?_, fun kind hkind => ?_⟩
  · rw [Offers.length_bytes_append] at hn
    obtain ⟨m₂', hr₂, hm'⟩ := h₁.fits (by omega)
    obtain ⟨m₂'', hr₂', hm''⟩ := (h₂ m₂' hr₂ hm').fits (by omega)
    refine ⟨m₂'', ?_, ?_⟩
    · rw [EStateM.run_bind, hr₂]
      exact hr₂'
    · rwa [Offers.length_bytes_append, ← Nat.sub_sub]
  · rcases Offers.refusal_append_eq_some hkind with ⟨hkind, hlt⟩ | ⟨hfit, hkind⟩
    · obtain ⟨m₂', hr₂, hb⟩ := h₁.refused kind hkind
      refine ⟨m₂', by rw [EStateM.run_bind, hr₂], ?_⟩
      rw [hb, Offers.take_bytes_append_of_lt hlt]
    · obtain ⟨m₂', hr₂, hm'⟩ := h₁.fits hfit
      obtain ⟨m₂'', hr₂', hb⟩ := (h₂ m₂' hr₂ hm').refused kind hkind
      refine ⟨m₂'', ?_, ?_⟩
      · rw [EStateM.run_bind, hr₂]
        exact hr₂'
      · rw [hb, hbytes, Offers.take_bytes_append_of_le hfit, List.append_assoc]

/-- The writes `os` of a computation that, from `m₁` on an unlimited sink, ends in `m₁'` with
`a`: they are the stream it appends, and every machine at the same point with a limited sink
runs as `LimitedRun` says. -/
structure StreamsAs (f : Run α) (m₁ : Machine) (a : α) (m₁' : Machine) (os : Offers) : Prop where
  bytes : m₁'.writer.bytes = m₁.writer.bytes ++ os.bytes
  room : m₁'.writer.room = none
  limited : ∀ n m₂, Limited n m₁ m₂ → LimitedRun f m₁ a m₁' os n m₂

/-- A computation whose every successful run on an unlimited sink has writes that stream. -/
def Streams (f : Run α) : Prop :=
  ∀ m₁ a m₁', m₁.writer.room = none → f.run m₁ = .ok a m₁' → ∃ os, StreamsAs f m₁ a m₁' os

theorem StreamsAs.nil
    {f : Run α} {m₁ m₁' : Machine} {a : α} (hw : m₁'.writer = m₁.writer)
    (hroom : m₁.writer.room = none)
    (hfits : ∀ n m₂, Limited n m₁ m₂ → ∃ m₂', f.run m₂ = .ok a m₂' ∧ Limited n m₁' m₂') :
    StreamsAs f m₁ a m₁' [] :=
  ⟨by simp [hw], by rw [hw]; exact hroom,
    fun n m₂ hm => .nil (hfits n m₂ hm)⟩

theorem Streams.pure
    (a : α) :
    Streams (Pure.pure a : Run α) := by
  intro m₁ b m₁' hroom h
  cases h
  exact ⟨[], .nil rfl hroom fun n m₂ hm => ⟨m₂, rfl, hm⟩⟩

theorem Streams.throw
    (e : Error) :
    Streams (MonadExcept.throw e : Run α) := by
  intro m₁ a m₁' _ h
  cases h

theorem Streams.bind
    {f : Run α} {k : α → Run β} (hf : Streams f) (hk : ∀ a, Streams (k a)) :
    Streams (f >>= k) := by
  intro m₁ b m₁'' hroom h
  obtain ⟨a, m₁', hr, h⟩ := run_bind_ok h
  obtain ⟨os₁, h₁⟩ := hf m₁ a m₁' hroom hr
  obtain ⟨os₂, h₂⟩ := hk a m₁' b m₁'' h₁.room h
  refine ⟨os₁ ++ os₂, ?_, h₂.room, fun n m₂ hm => ?_⟩
  · rw [h₂.bytes, h₁.bytes, Offers.bytes_append, List.append_assoc]
  · exact (h₁.limited n m₂ hm).bind h₁.bytes fun m₂' _ hm' => h₂.limited _ m₂' hm'

theorem Streams.ite
    {c : Prop} [Decidable c] {f g : Run α} (hf : Streams f) (hg : Streams g) :
    Streams (if c then f else g) := by
  by_cases hc : c
  · simpa only [if_pos hc] using hf
  · simpa only [if_neg hc] using hg

theorem Streams.lift
    (e : Except Error α) :
    Streams (lift e) := by
  cases e with
  | ok a => exact Streams.pure a
  | error err => exact Streams.throw err

theorem Streams.get_bind
    {k : Machine → Run α} (hk : ∀ m, Streams (k m))
    (henc : ∀ m₁ m₂, m₁.writer.encoding = m₂.writer.encoding → k m₁ = k m₂) :
    Streams (get >>= k) := by
  intro m₁ a m₁' hroom h
  obtain ⟨os, hos⟩ := hk m₁ m₁ a m₁' hroom h
  refine ⟨os, hos.bytes, hos.room, fun n m₂ hm => ?_⟩
  have hk₂ : (get >>= k).run m₂ = (k m₁).run m₂ := by
    show (k m₂).run m₂ = _
    rw [henc m₂ m₁ (by rw [hm.2.1, Writer.encoding_limit])]
  have hl := hos.limited n m₂ hm
  exact ⟨fun hn => by rw [hk₂]; exact hl.fits hn,
    fun kind hkind => by rw [hk₂]; exact hl.refused kind hkind⟩

theorem Streams.forIn
    {xs : List γ} {f : γ → β → Run (ForInStep β)} (h : ∀ x b, Streams (f x b)) (init : β) :
    Streams (ForIn.forIn xs init f) := by
  induction xs generalizing init with
  | nil => exact Streams.pure init
  | cons x xs ih =>
      simp only [List.forIn_cons]
      refine Streams.bind (h x init) fun step => ?_
      cases step with
      | done b => exact Streams.pure b
      | yield b => exact ih b

theorem emit_run_error
    {e : Emit α} {m : Machine} {err : Error} {w : Writer} (h : e.run m.writer = .error err w) :
    (emit e).run m = .error err { m with writer := w } := by
  show emit e m = _
  unfold emit
  rw [show e m.writer = .error err w from h]

theorem Streams.emit
    {e : Emit α} (he : e.Streams) :
    Streams (Run.emit e) := by
  intro m₁ a m₁' hroom h
  obtain ⟨w', hrun, rfl⟩ := emit_ok_inv h
  obtain ⟨os, hos⟩ := he m₁.writer a w' hroom hrun
  refine ⟨os, hos.bytes, hos.room, fun n m₂ hm => ⟨fun hn => ?_, fun kind hkind => ?_⟩⟩
  · obtain ⟨hs, hw, hr⟩ := hm
    exact ⟨_, emit_run_ok (w := w'.limit (n - os.bytes.length)) (by rw [hw]; exact hos.fits n hn),
      hs, rfl, hr⟩
  · obtain ⟨w'', hrun', hbytes⟩ := hos.refused n kind hkind
    exact ⟨_, emit_run_error (by rw [hm.2.1]; exact hrun'), hbytes⟩

/-- Scratch space is a fresh unlimited buffer on both sides: the body writes the same bytes
there, handed back alike, and neither machine's own sink changes. -/
theorem Streams.scratch
    {body : Run Unit} (h : Sim Machine.Agree body body) :
    Streams (Run.scratch body) := by
  intro m₁ bs m₁' hroom hrun
  change Run.scratch body m₁ = _ at hrun
  unfold Run.scratch at hrun
  dsimp only at hrun
  cases hb : body { m₁ with writer := Writer.new m₁.writer.encoding } with
  | error e m' =>
      rw [hb] at hrun
      cases hrun
  | ok u m' =>
      rw [hb] at hrun
      cases hrun
      refine ⟨[], .nil rfl hroom fun n m₂ hm => ?_⟩
      obtain ⟨hs, hw, hr⟩ := hm
      have hc := h { m₁ with writer := Writer.new m₁.writer.encoding }
        { m₂ with writer := Writer.new m₁.writer.encoding } ⟨hs, rfl, hr.symm⟩
      rw [show body.run { m₁ with writer := Writer.new m₁.writer.encoding } = .ok u m' from hb]
        at hc
      obtain ⟨m₂', hb₂, hagree⟩ := hc.ok_left
      refine ⟨{ m₂' with writer := m₂.writer }, ?_, hagree.1, hw, hagree.2.2.symm⟩
      show Run.scratch body m₂ = _
      unfold Run.scratch
      dsimp only
      rw [hw, Writer.encoding_limit, show body { m₂ with writer := Writer.new m₁.writer.encoding } =
        .ok () m₂' from hb₂, hagree.2.1]

theorem Corresponds.pinned_writer
    {m m' : Machine} {r : EStateM.Result Error Machine α} {a : α}
    (hc : Corresponds (Pinned m m) r r) (hr : r = .ok a m') :
    m'.writer = m.writer := by
  subst hr
  exact hc.2.2.1

theorem Streams.of_pinned
    {f : Run α} (h : ∀ m₁ m₂, Sim (Pinned m₁ m₂) f f) :
    Streams f := by
  intro m₁ a m₁' hroom hrun
  have hw := (h m₁ m₁ m₁ m₁ ⟨Session.Agree.refl _, rfl, rfl, rfl, rfl⟩).pinned_writer hrun
  refine ⟨[], .nil hw hroom fun n m₂ hm => ?_⟩
  have hc := h m₁ m₂ m₁ m₂ ⟨hm.1, rfl, rfl, rfl, rfl⟩
  rw [hrun] at hc
  obtain ⟨m₂', hrun₂, hp⟩ := hc.ok_left
  exact ⟨m₂', hrun₂, hm.pinned hp⟩

theorem mappingList_streams
    (t : Ty) (v : Option Version) :
    Streams (mappingList t v) :=
  Streams.of_pinned fun m₁ m₂ => mappingList_sim (pinned_cacheRel m₁ m₂) t v

theorem compiled_streams
    (t : Ty) (v : Option Version) :
    Streams (compiled t v) :=
  Streams.of_pinned fun m₁ m₂ =>
    compiled_sim (pinned_cacheRel m₁ m₂).toSessionRel.toViewRel
      (mappingList_sim (pinned_cacheRel m₁ m₂)) t v

/-! ## The writers of values and objects -/

theorem writeHead_streams
    (c : Converter) (ty : Ty) (v : Typed) :
    Streams (writeHead c ty v) := by
  unfold writeHead
  refine Streams.ite (Streams.bind (Streams.throw _) fun _ => ?_) ?_ <;>
    exact Streams.ite (Streams.bind (Streams.emit (Emit.Streams.value _)) fun _ => Streams.pure _)
      (Streams.pure _)

theorem writeCustom_streams
    (c : CustomConverter) (ty : Ty) (v : Typed) (ctx : Ctx) :
    Streams (writeCustom c ty v ctx) := by
  unfold writeCustom
  refine Streams.ite ?_ (Streams.bind (Streams.throw _) fun _ => ?_)
  all_goals
    split
    · exact Streams.emit (Emit.Streams.raw _)
    · exact Streams.emit (Emit.Streams.string _)
    · exact Streams.emit (Emit.Streams.value _)
    · exact Streams.emit (Emit.Streams.value _)
    · exact Streams.emit (Emit.Streams.value _)
    · refine Streams.get_bind (fun _ => Streams.bind (Streams.emit (Emit.Streams.string _)) fun _ =>
        Streams.emit (Emit.Streams.value _)) fun m₁ m₂ henc => ?_
      simp only [henc]
    · exact Streams.throw _

theorem writeValue_streams_of_body
    {ow : ObjectWriter} {c : Converter} {ty : Ty} {v : Typed} {ctx : Ctx}
    (h : Streams (writeBody ow c ty v ctx)) :
    Streams (writeValue ow c ty v ctx) :=
  Streams.bind (writeHead_streams c ty v) fun _ => Streams.ite h (Streams.pure ())

theorem writeOptional_streams
    {ow : ObjectWriter} {c : Converter} {ty : Ty} {v : Typed} {ctx : Ctx}
    (h : Streams (writeBody ow c ty v ctx)) {k : Unit → Run α} (hk : ∀ u, Streams (k u)) :
    Streams (writeHead c ty v >>= fun b => if b = true then writeBody ow c ty v ctx >>= k else k ()) :=
  Streams.bind (writeHead_streams c ty v) fun _ => Streams.ite (Streams.bind h hk) (hk ())

section Values

variable {ow : ObjectWriter} (how : ∀ t e v ver, Streams (ow t e v ver))
  (hsim : ∀ t e v ver, Sim Machine.Agree (ow t e v ver) (ow t e v ver))
include how hsim

/-- The body of a value streams: by induction on the converter. A hash map's entries are
written apart on both sides alike, then offered as raw runs. -/
theorem writeBody_streams
    (c : Converter) :
    ∀ ty v ctx, Streams (writeBody ow c ty v ctx) := by
  have hbody : ∀ c ty v ctx,
      Sim Machine.Agree (writeBody ow c ty v ctx) (writeBody ow c ty v ctx) :=
    fun c => writeBody_sim Machine.agree_engineRel (objectWriters_sim_eq hsim) (.refl c)
  induction c with
  | primitive s =>
      intro ty v ctx
      refine Streams.ite ?_ (Streams.bind (Streams.throw _) fun _ => ?_) <;>
        exact Streams.emit (Emit.Streams.value _)
  | string =>
      intro ty v ctx
      unfold writeBody
      split
      · refine Streams.ite ?_ (Streams.bind (Streams.throw _) fun _ => ?_) <;>
          exact Streams.emit (Emit.Streams.string _)
      · exact Streams.throw _
  | array =>
      intro ty v ctx
      unfold writeBody
      refine Streams.ite ?_ (Streams.bind (Streams.throw _) fun _ => ?_)
      all_goals
        split
        · exact Streams.ite (Streams.emit (Emit.Streams.raw _)) (Streams.throw _)
        · exact Streams.emit (Emit.Streams.bytes _)
  | custom c => exact fun ty v ctx => writeCustom_streams c ty v ctx
  | list t e conv ih =>
      intro ty v ctx
      unfold writeBody
      split
      · refine Streams.ite ?_ (Streams.bind (Streams.throw _) fun _ => ?_)
        all_goals
          refine Streams.bind (Streams.emit (Emit.Streams.count _)) fun _ => ?_
          refine Streams.bind (Streams.forIn (fun item _ => ?_) _) fun _ => Streams.pure _
          exact writeOptional_streams (ih _ _ _) fun _ => Streams.pure _
      · exact Streams.throw _
  | dictionary t k vt sorted kc vc ihk ihv =>
      intro ty v ctx
      unfold writeBody
      split
      · refine Streams.ite ?_ (Streams.bind (Streams.throw _) fun _ => ?_)
        all_goals
          refine Streams.bind (Streams.emit (Emit.Streams.count _)) fun _ => ?_
          refine Streams.ite ?_ ?_
          · refine Streams.bind (Streams.forIn (fun entry _ => ?_) _) fun _ => Streams.pure _
            obtain ⟨a, b⟩ := entry
            refine writeOptional_streams (ihk _ _ _) fun _ => ?_
            exact writeOptional_streams (ihv _ _ _) fun _ => Streams.pure _
          · refine Streams.bind (Streams.forIn (fun entry _ => ?_) _) fun _ => ?_
            · obtain ⟨a, b⟩ := entry
              refine Streams.bind (Streams.scratch ?_) fun _ => Streams.pure _
              exact writeOptional_sim Machine.agree_engineRel (.refl kc) (hbody _ _ _ _) fun _ =>
                writeValue_sim_of_body Machine.agree_engineRel (.refl vc) (hbody _ _ _ _)
            · refine Streams.bind (Streams.forIn (fun bs _ => ?_) _) fun _ => Streams.pure _
              exact Streams.bind (Streams.emit (Emit.Streams.raw bs)) fun _ => Streams.pure _
      · exact Streams.throw _
  | pair t k vt kc vc ihk ihv =>
      intro ty v ctx
      unfold writeBody
      split
      · refine Streams.ite ?_ (Streams.bind (Streams.throw _) fun _ => ?_)
        all_goals
          refine writeOptional_streams (ihk _ _ _) fun _ => ?_
          exact writeValue_streams_of_body (ihv _ _ _)
      · exact Streams.throw _
  | enum t variants =>
      intro ty v ctx
      unfold writeBody
      split
      · refine Streams.ite ?_ (Streams.bind (Streams.throw _) fun _ => ?_)
        all_goals
          split
          · exact Streams.emit (Emit.Streams.string _)
          · exact Streams.throw _
      · exact Streams.throw _
  | nullable t i conv innerNullable ih =>
      intro ty v ctx
      unfold writeBody
      split
      · refine Streams.ite ?_ (Streams.bind (Streams.throw _) fun _ => ?_) <;>
          exact Streams.ite (writeValue_streams_of_body (ih _ _ _)) (ih _ _ _)
      · exact Streams.throw _
  | pointer t i conv ih =>
      intro ty v ctx
      unfold writeBody
      exact Streams.ite (ih _ _ _) (Streams.bind (Streams.throw _) fun _ => ih _ _ _)
  | object t e => exact fun _ v ctx => how t e v ctx.version

theorem writeValue_streams
    (c : Converter) (ty : Ty) (v : Typed) (ctx : Ctx) :
    Streams (writeValue ow c ty v ctx) :=
  writeValue_streams_of_body (writeBody_streams how hsim c ty v ctx)

theorem writeDynamic_streams
    (t : Ty) (v : Typed) (ver : Option Version) :
    Streams (writeDynamic ow t v ver) := by
  unfold writeDynamic
  refine Streams.ite ?_ (Streams.bind (Streams.throw _) fun _ => ?_)
  all_goals
    refine Streams.bind (mappingList_streams t ver) fun l => ?_
    refine Streams.bind (Streams.forIn (fun m _ => ?_) _) fun _ => Streams.pure _
    exact Streams.bind (Streams.lift _) fun _ => Streams.bind (Streams.lift _) fun _ =>
      Streams.bind (writeValue_streams how hsim _ _ _ _) fun _ => Streams.pure _

theorem writeLayout_streams
    (accessors : List Accessor) (v : Value) (ctx : Ctx) :
    Streams (writeLayout ow accessors v ctx) := by
  unfold writeLayout
  refine Streams.bind (Streams.forIn (fun a _ => ?_) _) fun _ => Streams.pure _
  split
  · have hwrite : ∀ value, Streams (writeValue ow a.mapping.converter a.mapping.member.info.ty value
        (ctx.forMember a.mapping.member) >>= fun _ => pure (ForInStep.yield PUnit.unit)) :=
      fun _ => Streams.bind (writeValue_streams how hsim _ _ _ _) fun _ => Streams.pure _
    dsimp only
    split
    · exact Streams.bind (Streams.pure _) hwrite
    · exact Streams.bind (Streams.lift _) fun _ => Streams.bind (Streams.lift _) fun _ =>
        Streams.bind (Streams.pure _) hwrite
  · exact Streams.bind (Streams.throw _) fun _ => Streams.pure _

theorem writeCompiled_streams
    (t : Ty) (v : Typed) (ver : Option Version) :
    Streams (writeCompiled ow t v ver) := by
  unfold writeCompiled
  refine Streams.ite ?_ (Streams.bind (Streams.throw _) fun _ => ?_) <;>
    exact Streams.bind (compiled_streams t ver) fun _ => writeLayout_streams how hsim _ _ _

end Values

theorem writeObject_streams :
    ∀ fuel t e v ver, Streams (writeObject fuel t e v ver)
  | 0, t, e, v, ver => by
      rw [writeObject]
      exact Streams.throw _
  | fuel + 1, t, e, v, ver => by
      rw [writeObject]
      have hsim := writeObject_sim Machine.agree_engineRel fuel
      cases e with
      | dynamic => exact writeDynamic_streams (writeObject_streams fuel) hsim t v ver
      | compiled => exact writeCompiled_streams (writeObject_streams fuel) hsim t v ver

theorem encodeRoot_streams
    (t : Ty) (v : Value) (ver : Option Version) (p : RootPlan) :
    Streams (encodeRoot t v ver p) := by
  have hsim := writeObject_sim Machine.agree_engineRel (writerFuel v)
  cases p with
  | object =>
      exact Streams.bind (compiled_streams t ver) fun _ =>
        writeLayout_streams (writeObject_streams _) hsim _ _ _
  | converter c => exact writeValue_streams (writeObject_streams _) hsim c t _ _

/-! ## Serializing into a limited sink -/

theorem LimitedRun.options_bind
    {k : Options → Run α} {o : Options} {m₁ m₁' m₂ : Machine} {a : α} {os : Offers} {n : Nat}
    (ho : m₂.session.options = o) (h : LimitedRun (k o) m₁ a m₁' os n m₂) :
    LimitedRun (options >>= k) m₁ a m₁' os n m₂ := by
  have hrun : (options >>= k).run m₂ = (k o).run m₂ := by
    show (k m₂.session.options).run m₂ = _
    rw [ho]
  exact ⟨fun hn => by rw [hrun]; exact h.fits hn,
    fun kind hkind => by rw [hrun]; exact h.refused kind hkind⟩

theorem rootPlan_pinned
    (m₁ m₂ : Machine) (hs : m₁.session = m₂.session) (t : Ty) (e : Engine) :
    Corresponds (Pinned m₁ m₂) ((rootPlan t e).run m₁) ((rootPlan t e).run m₂) :=
  rootPlan_corresponds (pinned_cacheRel m₁ m₂).toSessionRel
    ⟨by rw [hs]; exact Session.Agree.refl _, rfl, rfl, rfl, rfl⟩ (by rw [hs]) (by rw [hs]) t e

/-- Serializing from a session: the writes of the run on an unlimited sink are its stream, and
the run from the same session with room for `N` bytes goes as `LimitedRun` says. The header
is written first; the root plan, decided next from the one session, writes nothing. -/
theorem serialize_limitedRun
    (s : Session) (t : Ty) (v : Value) {m : Machine}
    (h : (serialize t v).run (s.machine [] none) = .ok () m) :
    ∃ os : Offers, m.writer.bytes = os.bytes ∧
      ∀ N, LimitedRun (serialize t v) (s.machine [] none) () m os N (s.machine [] (some N)) := by
  rw [serialize_eq] at h
  obtain ⟨o, m₀, ho, h⟩ := run_bind_ok h
  simp only [options_run, EStateM.Result.ok.injEq] at ho
  obtain ⟨rfl, rfl⟩ := ho
  obtain ⟨_, mh, hhead, h⟩ := run_bind_ok h
  obtain ⟨p, mr, hplan, henc⟩ := run_bind_ok h
  obtain ⟨osh, hosh⟩ := Streams.emit (Emit.writeHeader_streams _) _ _ _ rfl hhead
  obtain ⟨w', -, rfl⟩ := emit_ok_inv hhead
  have hw : mr.writer = w' :=
    (rootPlan_pinned { s.machine [] none with writer := w' } { s.machine [] none with writer := w' }
      rfl t .compiled).pinned_writer hplan
  obtain ⟨osr, hosr⟩ := encodeRoot_streams t v _ p mr () m (by rw [hw]; exact hosh.room) henc
  refine ⟨osh ++ osr, ?_, fun N => ?_⟩
  · rw [hosr.bytes, hw, hosh.bytes, Offers.bytes_append, List.append_assoc]
    rfl
  rw [serialize_eq]
  refine LimitedRun.options_bind rfl ?_
  refine (hosh.limited N (s.machine [] (some N)) ⟨Session.Agree.refl _, rfl, rfl⟩).bind hosh.bytes
    fun mh₂ hhead₂ hlim => ?_
  obtain ⟨w₂, -, rfl⟩ := emit_ok_inv hhead₂
  have hc := rootPlan_pinned { s.machine [] none with writer := w' }
    { s.machine [] (some N) with writer := w₂ } rfl t .compiled
  rw [hplan] at hc
  obtain ⟨mr₂, hplan₂, hpin⟩ := hc.ok_left
  rw [← List.nil_append osr]
  refine LimitedRun.bind (.nil ⟨mr₂, hplan₂, by simpa using hlim.pinned hpin⟩) (by simp [hw])
    fun mr₂' hplan₂' hlimr => ?_
  exact hosr.limited _ mr₂' (by simpa using hlimr)

end Run

theorem Session.run_eq_of_run
    {α : Type} {s : Session} {body : Run α} {input : List UInt8} {room : Option Nat}
    {r : EStateM.Result Error Machine α} (h : body.run (s.machine input room) = r) :
    s.run body input room = (Run.answer r, endState r) :=
  Prod.ext (by rw [Session.run_fst, h]) (by rw [Session.run_snd, h])

/-- Serializing into a sink that takes `N` bytes. The writes of the run on an unlimited sink,
raw bytes or fixed-width values, make its stream `os.bytes`. The limited run succeeds when the
stream fits, the sink holding all of it; otherwise it fails at the first write that does not
fit, with the sink's I/O error if that write is raw and a codec fault if it is a value, the
sink holding the first `N` bytes of the stream. -/
theorem serialize_into_a_limited_sink
    (s : Session) (t : Ty) (v : Value) {m : Machine}
    (h : s.run (Run.serialize t v) [] none = (.ok (), m)) :
    ∃ os : Offers, m.writer.bytes = os.bytes ∧ ∀ N,
      (os.bytes.length ≤ N → ∃ m', s.run (Run.serialize t v) [] (some N) = (.ok (), m') ∧
        m'.writer.bytes = os.bytes) ∧
      (N < os.bytes.length → ∃ k m', os.refusal N = some k ∧
        s.run (Run.serialize t v) [] (some N) = (.error k.fault, m') ∧
        m'.writer.bytes = os.bytes.take N) := by
  obtain ⟨os, hbytes, hlimited⟩ := Run.serialize_limitedRun s t v (Session.run_eq_ok h)
  refine ⟨os, hbytes, fun N => ⟨fun hfit => ?_, fun hlt => ?_⟩⟩
  · obtain ⟨m', hrun, hlim⟩ := (hlimited N).fits hfit
    exact ⟨m', Session.run_eq_of_run hrun, by rw [hlim.2.1, Writer.bytes_limit, hbytes]⟩
  · obtain ⟨k, hk⟩ : ∃ k, os.refusal N = some k := by
      refine Option.ne_none_iff_exists'.1 fun hnone => ?_
      have := (Offers.refusal_eq_none_iff os N).1 hnone
      omega
    obtain ⟨m', hrun, hb⟩ := (hlimited N).refused k hk
    refine ⟨k, m', hk, Session.run_eq_of_run hrun, ?_⟩
    rw [hb]
    rfl

/-- A string root streams into sinks of every size. -/
theorem a_string_root_streams_into_any_sink :
    ∃ os : Offers,
      ((Session.new Sample.catalog {}).run (Run.serialize .string (.str "hi")) [] none).2.writer.bytes
        = os.bytes ∧
      ∀ N, (os.bytes.length ≤ N → ∃ m',
          (Session.new Sample.catalog {}).run (Run.serialize .string (.str "hi")) [] (some N) =
            (.ok (), m') ∧ m'.writer.bytes = os.bytes) ∧
        (N < os.bytes.length → ∃ k m', os.refusal N = some k ∧
          (Session.new Sample.catalog {}).run (Run.serialize .string (.str "hi")) [] (some N) =
            (.error k.fault, m') ∧ m'.writer.bytes = os.bytes.take N) :=
  serialize_into_a_limited_sink _ _ _ (Prod.ext (by decide +kernel) rfl)

example :
    ((Session.new Sample.catalog {}).run (Run.serialize .string (.str "hi")) [] (some 2)).1 =
      .error (.io .sinkFull) := by
  decide +kernel

example :
    ((Session.new Sample.catalog {}).run (Run.serialize .string (.str "hi")) [] (some 5)).1 =
      .error (.codec .sinkRefused) := by
  decide +kernel

end ObjectWire
