import ObjectWire.Proofs.Canonical
import ObjectWire.Proofs.ReadBack
/-!
# Reading back what was written, step by step

The law that decoding inverts encoding, for one writing step and one reading step. A writing
step `w` *round trips* to a reading step `r` and an outcome `x` (`Run.RoundTrips`) when, run
by a serializer at work on a write (`Machine.Writing`), whatever `w` appends `r` reads off
(`Run.ReadsOff`): on every decoding serializer over the same catalog and options whose reader
stands before those bytes and anything after them, `r` fails with the error of `x` or returns
its value, stopping just after the bytes, its session faithful still. The outcome is fixed in
advance, so a value that does not come back as it went (a rounded double, a dropped member, a
refused decimal) is stated as what it comes back as.

Reading is tracked against a budget of bytes left, as the object reader's depth bound is: a
budget of `n` admits readers with fewer than `n` bytes left, and what a step reads lowers the
budget of the steps after it.

The law composes as writers and readers are written: in sequence (`RoundTrips.bind`), a failing
first read ending the whole; around steps that both sides answer from their faithful sessions
(`RoundTrips.fresh_bind`); over the loops of collections, one element read as one was written
(`RoundTrips.forIn_push`, `ReadsOff.forIn_push`), and of an object's mappings, each value read
and then stored as a pure update (`RoundTrips.forIn_store`). At the leaves each writing step of
the sink is undone by a reading step (`Emit.ReadBy`).

**Results.**
* `Emit.readBy_scalar`, `Emit.readBy_string`, `Emit.readBy_bytes`, ...: the sink's steps read
  back.
* `RoundTrips.bind`, `ReadsOff.bind`: sequencing.
* `RoundTrips.forIn_push`, `RoundTrips.forIn_store`: the loops of collections and of objects.
* `compiled_answers_freshly`: a compiled layout is answered as a fresh serializer builds it.
-/

namespace ObjectWire

/-! ## Steps of the sink that a reading step undoes -/

/-- What `e` appends to a sink in the encoding `enc`, `t` reads back as `v` from wherever
those bytes stand, whatever follows them, and stops just after them. -/
def Emit.ReadBy {α : Type} (enc : TextEncoding) (e : Emit Unit) (t : Take α) (v : α) : Prop :=
  ∀ w w', w.encoding = enc → e.run w = .ok () w' → w'.encoding = w.encoding ∧
    ∃ b, w'.bytes = w.bytes ++ b ∧ ∀ (rd : Reader) rest, rd.encoding = enc →
      rd.input.toList.drop rd.pos = b ++ rest → t.run rd = .ok v { rd with pos := rd.pos + b.length }

namespace Emit

variable {α : Type} {enc : TextEncoding}

theorem readBy_offer
    {bs : List UInt8} {fault : Error} {t : Take α} {v : α}
    (ht : ∀ (rd : Reader) rest, rd.input.toList.drop rd.pos = bs ++ rest →
      t.run rd = .ok v { rd with pos := rd.pos + bs.length }) :
    ReadBy enc (offer bs fault) t v := by
  intro w w' _ h
  obtain ⟨hbytes, henc⟩ := offer_ok_inv h
  exact ⟨henc, bs, hbytes, fun rd rest _ hdrop => ht rd rest hdrop⟩

theorem readBy_raw
    (bs : List UInt8) :
    ReadBy enc (raw bs) (Take.raw bs.length) bs :=
  readBy_offer fun _ _ h => Take.raw_run_of h

theorem readBy_value
    (bs : List UInt8) :
    ReadBy enc (value bs) (Take.exact bs.length) bs :=
  readBy_offer fun _ _ h => Take.exact_run_of h

theorem readBy_bool
    (b : Bool) :
    ReadBy enc (bool b) Take.bool b :=
  readBy_offer fun _ _ h => Take.bool_run_of h

theorem readBy_f64
    (x : Binary64) :
    ReadBy enc (f64 x) Take.f64 x := by
  have hlen : x.toBytes.length = 8 := by simp [Binary64.toBytes_eq]
  refine readBy_offer fun _ _ h => ?_
  rw [hlen]
  exact Take.f64_run_of h

theorem readBy_scalar
    {s : Scalar} {v : Value} (hv : s.holds v = true) :
    ReadBy enc (value (s.encode v)) s.read v :=
  readBy_offer fun _ _ h => Scalar.read_run_encode s hv h

theorem bytes_ok_inv
    {bs : List UInt8} {w w' : Writer} (h : (bytes bs).run w = .ok () w') :
    bs.length ≤ maxCount ∧ w'.bytes = w.bytes ++ (countBytes bs.length ++ bs) ∧
      w'.encoding = w.encoding := by
  obtain ⟨_, w₁, hcount, hraw⟩ := bind_ok_inv h
  unfold count at hcount
  split at hcount
  · next hfit =>
      obtain ⟨hb₁, he₁⟩ := offer_ok_inv hcount
      obtain ⟨hb₂, he₂⟩ := offer_ok_inv hraw
      refine ⟨hfit, ?_, he₂.trans he₁⟩
      rw [hb₂, hb₁, List.append_assoc]
      rfl
  · cases hcount

theorem readBy_bytes
    (bs : List UInt8) :
    ReadBy enc (bytes bs) Take.bytes bs := by
  intro w w' _ h
  obtain ⟨hfit, hbytes, henc⟩ := bytes_ok_inv h
  refine ⟨henc, _, hbytes, fun rd rest _ hdrop => ?_⟩
  rw [List.append_assoc] at hdrop
  rw [Take.bytes_run_of hfit hdrop]
  simp [countBytes, Nat.add_assoc]

theorem readBy_string
    (s : String) :
    ReadBy enc (string s) Take.string s := by
  intro w w' henc h
  obtain ⟨hfit, hbytes, henc'⟩ := string_ok_inv h
  refine ⟨henc', _, hbytes, fun rd rest hrd hdrop => ?_⟩
  rw [List.append_assoc] at hdrop
  have hdec : rd.encoding.decode (w.encoding.encode s) = .ok s := by
    rw [hrd, ← henc]
    exact TextEncoding.decode_encode _ s
  rw [Take.string_run_of hfit hdrop hdec]
  simp [countBytes, Nat.add_assoc]

end Emit

/-! ## The law -/

/-- A serializer at work on a write: its session faithful over `cat` with options `o`, its sink
in the options' encoding, and the empty reader it writes with. -/
structure Machine.Writing (cat : Catalog) (o : Options) (m : Machine) : Prop where
  session : m.session.FaithfulOver cat o
  encoding : m.writer.encoding = o.encoding
  reader : m.reader = Reader.new [] o.encoding

namespace Run

variable {α β γ : Type} {cat : Catalog} {o : Options} {n : Nat}

/-- Where a reading step that should give `x` ends: with the error of `x`, or with its value
on a faithful session and the reader `rd`. -/
def EndsAt (cat : Catalog) (o : Options) (x : Except Error α) (rd : Reader) :
    EStateM.Result Error Machine α → Prop
  | .ok a m' => x = .ok a ∧ m'.session.FaithfulOver cat o ∧ m'.reader = rd
  | .error e _ => x = .error e

/-- `r` reads the bytes `b` as `x` within a budget of `n`: on every machine faithful over `cat`
with options `o` whose reader, in the options' encoding, stands before `b` and anything after
it, with fewer than `n` bytes left, `r` gives `x`, and on success stops just after `b`. -/
def ReadsOff (cat : Catalog) (o : Options) (n : Nat) (b : List UInt8) (r : Run α)
    (x : Except Error α) : Prop :=
  ∀ m rest, m.session.FaithfulOver cat o → m.reader.encoding = o.encoding →
    m.reader.input.toList.drop m.reader.pos = b ++ rest → m.reader.remaining < n →
    EndsAt cat o x { m.reader with pos := m.reader.pos + b.length } (r.run m)

/-- `w`, run by a serializer at work on a write, keeps it so and only appends. -/
def Writes (cat : Catalog) (o : Options) (w : Run Unit) : Prop :=
  ∀ m m', m.Writing cat o → w.run m = .ok () m' →
    m'.Writing cat o ∧ ∃ b, m'.writer.bytes = m.writer.bytes ++ b

/-- What `w` appends, run by a serializer at work on a write, `r` reads off as `x` within a
budget of `n`. -/
def RoundTrips (cat : Catalog) (o : Options) (n : Nat) (w : Run Unit) (r : Run α)
    (x : Except Error α) : Prop :=
  ∀ m m', m.Writing cat o → w.run m = .ok () m' →
    m'.Writing cat o ∧ ∃ b, m'.writer.bytes = m.writer.bytes ++ b ∧ ReadsOff cat o n b r x

/-- A step that keeps a faithful session faithful and leaves the reader where it was: a store
into a value, a log record. -/
def Still (cat : Catalog) (o : Options) (f : Run α) : Prop :=
  ∀ m a m', m.session.FaithfulOver cat o → f.run m = .ok a m' →
    m'.session.FaithfulOver cat o ∧ m'.reader = m.reader

theorem forIn_range_succ_const
    {m : Type → Type} [Monad m] [LawfulMonad m] (k : Nat) (init : β) (f : β → m (ForInStep β)) :
    ForIn.forIn (List.range (k + 1)) init (fun _ s => f s) = f init >>= fun r => match r with
      | .done b => Pure.pure b
      | .yield b => ForIn.forIn (List.range k) b (fun _ s => f s) := by
  rw [List.range_succ_eq_map, List.forIn_cons]
  simp only [List.forIn_map]
  rfl

/-! ## Reading off bytes -/

namespace ReadsOff

variable {b b₁ b₂ : List UInt8}

theorem mono
    {r : Run α} {x : Except Error α} {n' : Nat} (h : ReadsOff cat o n b r x) (hle : n' ≤ n) :
    ReadsOff cat o n' b r x :=
  fun m rest hs henc hdrop hrem => h m rest hs henc hdrop (Nat.lt_of_lt_of_le hrem hle)

theorem pure
    (a : α) :
    ReadsOff cat o n [] (Pure.pure a : Run α) (.ok a) :=
  fun m _ hs _ _ _ => (⟨rfl, hs, rfl⟩ : EndsAt cat o (.ok a) m.reader (.ok a m))

/-- A read followed by another reads off the bytes of both; the second runs within what the
first leaves of the budget. A first read that fails ends the whole. -/
theorem bind
    {n₂ : Nat} {r₁ : Run α} {k : α → Run β} {x₁ : Except Error α} {y : α → Except Error β}
    (h₁ : ReadsOff cat o n b₁ r₁ x₁) (h₂ : ∀ a, x₁ = .ok a → ReadsOff cat o n₂ b₂ (k a) (y a))
    (hn : n ≤ n₂ + b₁.length) :
    ReadsOff cat o n (b₁ ++ b₂) (r₁ >>= k) (x₁ >>= y) := by
  intro m rest hs henc hdrop hrem
  have hdrop₁ : m.reader.input.toList.drop m.reader.pos = b₁ ++ (b₂ ++ rest) := by
    rw [hdrop, List.append_assoc]
  have hfirst := h₁ m (b₂ ++ rest) hs henc hdrop₁ hrem
  rw [EStateM.run_bind]
  cases hr : r₁.run m with
  | error e m₁ =>
      rw [hr] at hfirst
      exact (show x₁ >>= y = .error e by rw [show x₁ = .error e from hfirst]; rfl)
  | ok a m₁ =>
      rw [hr] at hfirst
      obtain ⟨hx, hs₁, hrd₁⟩ := hfirst
      have hdrop₂ : m₁.reader.input.toList.drop m₁.reader.pos = b₂ ++ rest := by
        rw [hrd₁]
        exact Reader.drop_after hdrop₁
      have hrem₂ : m₁.reader.remaining < n₂ := by
        have hleft := Reader.remaining_of hdrop₁
        rw [Reader.remaining_eq hdrop₂]
        simp only [List.length_append] at hleft ⊢
        omega
      have hsecond := h₂ a hx m₁ rest hs₁ (by rw [hrd₁]; exact henc) hdrop₂ hrem₂
      have hend : ({ m.reader with pos := m.reader.pos + (b₁ ++ b₂).length } : Reader) =
          { m₁.reader with pos := m₁.reader.pos + b₂.length } := by
        rw [hrd₁, List.length_append, Nat.add_assoc]
      rw [hx, hend]
      exact hsecond

theorem take
    {t : Take α} {v : α}
    (ht : ∀ (rd : Reader) rest, rd.encoding = o.encoding → rd.input.toList.drop rd.pos = b ++ rest →
      t.run rd = .ok v { rd with pos := rd.pos + b.length }) :
    ReadsOff cat o n b (Run.take t) (.ok v) := by
  intro m rest hs henc hdrop _
  rw [take_run_ok (ht m.reader rest henc hdrop)]
  exact ⟨rfl, hs, rfl⟩

theorem fresh_bind
    {f : Run β} {fresh : Catalog → Options → Except Error β} (hf : AnswersFreshly f fresh)
    {k : β → Run α} {x : β → Except Error α}
    (h : ∀ a, fresh cat o = .ok a → ReadsOff cat o n b (k a) (x a)) :
    ReadsOff cat o n b (f >>= k) (fresh cat o >>= x) := by
  intro m rest hs henc hdrop hrem
  obtain ⟨s, hs', hrun⟩ := hf.run hs
  rw [EStateM.run_bind, hrun]
  cases hfr : fresh cat o with
  | error e => exact (rfl : Except.error e >>= x = .error e)
  | ok a => exact h a hfr { m with session := s } rest hs' henc hdrop hrem

/-- A count whose items fit in what follows, then what the count decides. -/
theorem count_bind
    {c per : Nat} {k : Nat → Run α} {x : Except Error α} (hfit : c ≤ maxCount)
    (hroom : c * per ≤ b.length) (h : ReadsOff cat o n b (k c) x) :
    ReadsOff cat o n (countBytes c ++ b) (Run.take (Take.count per) >>= k) x := by
  intro m rest hs henc hdrop hrem
  have hlen : (countBytes c).length = 4 := by simp [countBytes]
  have hcount := Take.count_run_of_mul hfit (by rw [hdrop, List.append_assoc])
    (show c * per ≤ (b ++ rest).length by simp only [List.length_append]; omega)
  have hafter : m.reader.input.toList.drop (m.reader.pos + 4) = b ++ rest := by
    have h₀ := Reader.drop_after (by rw [hdrop, List.append_assoc] :
      m.reader.input.toList.drop m.reader.pos = countBytes c ++ (b ++ rest))
    rwa [hlen] at h₀
  rw [EStateM.run_bind, take_run_ok hcount]
  have hrest := h { m with reader := { m.reader with pos := m.reader.pos + 4 } } rest hs henc hafter
    (by
      have hall := Reader.remaining_eq hdrop
      simp only [Reader.remaining, List.length_append, hlen] at hall hrem ⊢
      omega)
  have hend : ({ m.reader with pos := m.reader.pos + (countBytes c ++ b).length } : Reader) =
      { ({ m.reader with pos := m.reader.pos + 4 } : Reader) with
        pos := m.reader.pos + 4 + b.length } := by
    rw [List.length_append, hlen, Nat.add_assoc]
  rw [hend]
  exact hrest

/-- A store that runs as a pure update and leaves the reader alone, then a read. -/
theorem store_bind
    {step : β → Run (ForInStep β)} {put : β → Except Error β}
    (hu : UpdatesBy step fun c => (put c).map .yield) (hq : ∀ c, Still cat o (step c)) (cur : β)
    {k : ForInStep β → Run α} {x : β → Except Error α}
    (h : ∀ c, put cur = .ok c → ReadsOff cat o n b (k (.yield c)) (x c)) :
    ReadsOff cat o n b (step cur >>= k) (put cur >>= x) := by
  intro m rest hs henc hdrop hrem
  obtain ⟨m', hm'⟩ := hu m
  have hrun : (step cur).run m = finish ((put cur).map .yield) m m' := hm' cur
  cases hput : put cur with
  | error e =>
      rw [hput] at hrun
      rw [EStateM.run_bind, hrun]
      exact (rfl : Except.error e >>= x = .error e)
  | ok c =>
      rw [hput] at hrun
      rw [EStateM.run_bind, hrun]
      obtain ⟨hs', hrd⟩ := hq cur m (.yield c) m' hs hrun
      have hnext := h c hput m' rest hs' (by rw [hrd]; exact henc) (by rw [hrd]; exact hdrop)
        (by rw [hrd]; exact hrem)
      rw [hrd] at hnext
      exact hnext

/-- Items read one after another and pushed onto an array, each from its own run of bytes:
the runs in order read off as the items in order, or as the first that fails. By induction on
the items, the loop's body ignoring the index it is given. -/
theorem forIn_push
    {read : Run α} {bytes : β → List UInt8} {img : β → Except Error α} :
    ∀ (xs : List β) (acc : Array α), (∀ x ∈ xs, ReadsOff cat o n (bytes x) read (img x)) →
      ReadsOff cat o n (xs.map bytes).flatten
        (ForIn.forIn (List.range xs.length) acc fun _ s => read >>= fun a => Pure.pure (.yield (s.push a)))
        (xs.mapM img >>= fun ys => Pure.pure (acc ++ ys.toArray))
  | [], acc, _ => by
      simp only [List.map_nil, List.flatten_nil, List.length_nil, List.range_zero, List.forIn_nil,
        List.mapM_nil, pure_bind, Array.append_empty]
      exact ReadsOff.pure acc
  | x :: xs, acc, h => by
      have hrest := fun a => forIn_push xs (acc.push a) fun y hy => h y (List.mem_cons_of_mem _ hy)
      have himg : (x :: xs).mapM img >>= (fun ys => Pure.pure (acc ++ ys.toArray)) =
          img x >>= fun a => xs.mapM img >>= fun ys => Pure.pure (acc.push a ++ ys.toArray) := by
        simp [List.mapM_cons]
      rw [himg, List.length_cons, forIn_range_succ_const, bind_assoc, List.map_cons,
        List.flatten_cons]
      refine bind (h x List.mem_cons_self) (fun a _ => ?_) (Nat.le_add_right _ _)
      simp only [pure_bind]
      exact hrest a

end ReadsOff

/-! ## Steps that only look at the session -/

namespace Still

theorem pure
    (a : α) :
    Still cat o (Pure.pure a : Run α) := by
  intro m _ m' hs h
  cases h
  exact ⟨hs, rfl⟩

theorem bind
    {f : Run α} {k : α → Run β} (hf : Still cat o f) (hk : ∀ a, Still cat o (k a)) :
    Still cat o (f >>= k) := by
  intro m b m' hs h
  obtain ⟨a, m₁, h₁, h₂⟩ := run_bind_ok h
  obtain ⟨hs₁, hrd₁⟩ := hf m a m₁ hs h₁
  obtain ⟨hs', hrd'⟩ := hk a m₁ b m' hs₁ h₂
  exact ⟨hs', hrd'.trans hrd₁⟩

theorem lift
    (y : Except Error α) :
    Still cat o (Run.lift y) := by
  intro m a m' hs h
  cases y with
  | ok a' =>
      rw [lift_ok_run] at h
      cases h
      exact ⟨hs, rfl⟩
  | error e =>
      rw [lift_error_run] at h
      cases h

theorem throw
    (e : Error) :
    Still cat o (MonadExcept.throw e : Run α) := by
  intro m a m' _ h
  cases h

theorem log
    (level : Level) (message : String) :
    Still cat o (Run.log level message) := by
  intro m a m' hs h
  rw [log_run] at h
  cases h
  exact ⟨hs.refresh (Session.refresh_logs _ _), rfl⟩

end Still

theorem storeMember_still
    (d : Descriptor) (v : Value) (owner : Typed) :
    Still cat o (storeMember d v owner) := by
  unfold storeMember
  refine Still.bind (Still.lift _) fun r => ?_
  cases r with
  | some o' => exact Still.pure _
  | none => exact Still.bind (Still.log _ _) fun _ => Still.pure _

theorem updateAt_still
    {k : Typed → Run Value} (hk : ∀ x, Still cat o (k x)) :
    ∀ path root, Still cat o (updateAt path root k)
  | [], root => hk root
  | hop :: rest, root => by
      unfold updateAt
      exact Still.bind (Still.lift _) fun _ =>
        Still.bind (updateAt_still hk rest _) fun _ => Still.pure _

theorem layoutStore_still
    (a : Accessor) (v cur : Value) :
    Still cat o (layoutStore a v cur) := by
  unfold layoutStore
  split
  · split
    · exact Still.bind (Still.lift _) fun _ => Still.pure _
    · exact Still.bind (Still.log _ _) fun _ => Still.pure _
  · split
    · exact Still.bind (updateAt_still (fun x => storeMember_still _ _ x) _ _) fun _ => Still.pure _
    · exact Still.bind (Still.throw _) fun _ => Still.pure _

theorem mappingStore_still
    (t : Ty) (mp : Mapping) (v cur : Value) :
    Still cat o (updateAt mp.path ⟨t, cur⟩ (storeMember mp.member v) >>= fun cur =>
      Pure.pure (ForInStep.yield cur)) :=
  Still.bind (updateAt_still (fun x => storeMember_still _ _ x) _ _) fun _ => Still.pure _

/-! ## Steps answered freshly -/

theorem defaultOf_answers_freshly
    (t : Ty) :
    AnswersFreshly (defaultOf t) fun cat _ => .ok (cat.default t) :=
  fun m hf => ⟨m.session, hf, rfl, rfl, rfl⟩

theorem catalog_answers_freshly :
    AnswersFreshly Run.catalog fun cat _ => .ok cat :=
  fun m hf => ⟨m.session, hf, rfl, rfl, rfl⟩

/-- Compiled layouts: the layout of the mapping list a fresh serializer builds, remembered on a
session that stays faithful. -/
theorem compiled_answers_freshly
    (t : Ty) (v : Option Version) :
    AnswersFreshly (compiled t v) fun cat o => freshList cat o t v >>= compileLayout cat t := by
  intro m hf
  obtain ⟨s, hs, hc, ho, hrun⟩ := mappingList_answers_freshly t v m hf
  dsimp only at hrun ⊢
  unfold compiled
  rw [EStateM.run_bind, hrun]
  cases hl : freshList m.session.catalog m.session.options t v with
  | error e => exact ⟨s, hs, hc, ho, rfl⟩
  | ok l =>
      simp only [outcome, EStateM.run_bind, catalog_run, hc]
      rw [show (Except.ok l >>= compileLayout m.session.catalog t) = compileLayout m.session.catalog t l
        from rfl]
      cases hacc : compileLayout m.session.catalog t l with
      | error e =>
          rw [lift_error_run]
          exact ⟨s, hs, hc, ho, rfl⟩
      | ok acc =>
          rw [lift_ok_run]
          simp only [session_run]
          split
          · exact ⟨s, hs, hc, ho, rfl⟩
          · refine ⟨{ s with compiled := s.compiled ++ [(t, versionKey v)] },
              hs.refresh (Session.refresh_compiled _ _), hc, ho, ?_⟩
            rfl

/-! ## Round trips -/

namespace RoundTrips

variable {w w₁ w₂ : Run Unit}

theorem writes
    {r : Run α} {x : Except Error α} (h : RoundTrips cat o n w r x) :
    Writes cat o w := by
  intro m m' hm hw
  obtain ⟨hm', b, hb, -⟩ := h m m' hm hw
  exact ⟨hm', b, hb⟩

theorem mono
    {r : Run α} {x : Except Error α} {n' : Nat} (h : RoundTrips cat o n w r x) (hle : n' ≤ n) :
    RoundTrips cat o n' w r x := by
  intro m m' hm hw
  obtain ⟨hm', b, hb, hr⟩ := h m m' hm hw
  exact ⟨hm', b, hb, hr.mono hle⟩

theorem pure
    (a : α) :
    RoundTrips cat o n (Pure.pure ()) (Pure.pure a : Run α) (.ok a) := by
  intro m m' hm hw
  cases hw
  exact ⟨hm, [], by simp, ReadsOff.pure a⟩

theorem throw
    (e : Error) (r : Run α) (x : Except Error α) :
    RoundTrips cat o n (MonadExcept.throw e) r x := by
  intro m m' _ hw
  cases hw

theorem throw_bind
    (e : Error) (k : β → Run Unit) (r : Run α) (x : Except Error α) :
    RoundTrips cat o n (MonadExcept.throw e >>= k) r x := by
  intro m m' _ hw
  cases hw

theorem bind
    {r₁ : Run α} {k : α → Run β} {x₁ : Except Error α} {y : α → Except Error β}
    (h₁ : RoundTrips cat o n w₁ r₁ x₁) (hw₂ : Writes cat o w₂)
    (h₂ : ∀ a, x₁ = .ok a → RoundTrips cat o n w₂ (k a) (y a)) :
    RoundTrips cat o n (w₁ >>= fun _ => w₂) (r₁ >>= k) (x₁ >>= y) := by
  intro m m' hm hw
  obtain ⟨u, m₁, hrun₁, hrun₂⟩ := run_bind_ok hw
  obtain ⟨hm₁, b₁, hb₁, hr₁⟩ := h₁ m m₁ hm hrun₁
  obtain ⟨hm', b₂, hb₂⟩ := hw₂ m₁ m' hm₁ hrun₂
  refine ⟨hm', b₁ ++ b₂, by rw [hb₂, hb₁, List.append_assoc], ReadsOff.bind hr₁ (fun a ha => ?_)
    (Nat.le_add_right _ _)⟩
  obtain ⟨-, b₂', hb₂', hr₂⟩ := h₂ a ha m₁ m' hm₁ hrun₂
  rw [hb₂] at hb₂'
  rw [List.append_cancel_left hb₂']
  exact hr₂

theorem emit_take
    {e : Emit Unit} {t : Take α} {v : α} (h : Emit.ReadBy o.encoding e t v) :
    RoundTrips cat o n (emit e) (take t) (.ok v) := by
  intro m m' hm hw
  obtain ⟨w', hrun, rfl⟩ := emit_ok_inv hw
  obtain ⟨henc, b, hb, hread⟩ := h m.writer w' hm.encoding hrun
  exact ⟨⟨hm.session, henc.trans hm.encoding, hm.reader⟩, b, hb, ReadsOff.take hread⟩

/-- A step that both sides answer from their faithful sessions, then what its answer decides. -/
theorem fresh_bind
    {f : Run β} {fresh : Catalog → Options → Except Error β} (hf : AnswersFreshly f fresh)
    {w : β → Run Unit} {r : β → Run α} {x : β → Except Error α}
    (h : ∀ a, fresh cat o = .ok a → RoundTrips cat o n (w a) (r a) (x a)) :
    RoundTrips cat o n (f >>= w) (f >>= r) (fresh cat o >>= x) := by
  intro m m' hm hw
  obtain ⟨s, hs, hrun⟩ := hf.run hm.session
  rw [EStateM.run_bind, hrun] at hw
  cases hfr : fresh cat o with
  | error e =>
      rw [hfr] at hw
      cases hw
  | ok a =>
      rw [hfr] at hw
      obtain ⟨hm', b, hb, hr⟩ := h a hfr { m with session := s } m' ⟨hs, hm.encoding, hm.reader⟩ hw
      refine ⟨hm', b, hb, ?_⟩
      have hread := ReadsOff.fresh_bind (n := n) (b := b) hf (k := r) (x := x) fun a' ha' => by
        rw [hfr] at ha'
        cases ha'
        exact hr
      rwa [hfr] at hread

theorem read_fresh_bind
    {f : Run β} {fresh : Catalog → Options → Except Error β} (hf : AnswersFreshly f fresh)
    {a : β} (ha : fresh cat o = .ok a) {r : β → Run α} {x : Except Error α}
    (h : RoundTrips cat o n w (r a) x) :
    RoundTrips cat o n w (f >>= r) x := by
  intro m m' hm hw
  obtain ⟨hm', b, hb, hr⟩ := h m m' hm hw
  refine ⟨hm', b, hb, ?_⟩
  have hread := ReadsOff.fresh_bind (n := n) (b := b) hf (k := r) (x := fun _ => x) fun a' ha' => by
    rw [ha] at ha'
    cases ha'
    exact hr
  rwa [ha] at hread

theorem lift_bind
    {y : Except Error β} {w : β → Run Unit} {r : Run α} {x : β → Except Error α}
    (h : ∀ a, y = .ok a → RoundTrips cat o n (w a) r (x a)) :
    RoundTrips cat o n (Run.lift y >>= w) r (y >>= x) := by
  cases y with
  | error e => exact throw_bind e w r _
  | ok a => exact (show RoundTrips cat o n (Pure.pure a >>= w) r (x a) by rw [pure_bind]; exact h a rfl)

theorem store_bind
    {step : β → Run (ForInStep β)} {put : β → Except Error β}
    (hu : UpdatesBy step fun c => (put c).map .yield) (hq : ∀ c, Still cat o (step c)) (cur : β)
    {k : ForInStep β → Run α} {x : β → Except Error α} (hw : Writes cat o w)
    (h : ∀ c, put cur = .ok c → RoundTrips cat o n w (k (.yield c)) (x c)) :
    RoundTrips cat o n w (step cur >>= k) (put cur >>= x) := by
  intro m m' hm hrun
  obtain ⟨hm', b, hb⟩ := hw m m' hm hrun
  refine ⟨hm', b, hb, ReadsOff.store_bind hu hq cur fun c hc => ?_⟩
  obtain ⟨-, b', hb', hr⟩ := h c hc m m' hm hrun
  rw [hb] at hb'
  rw [List.append_cancel_left hb']
  exact hr

/-- Items written one after another round trip to a loop that reads as many and pushes them
onto an array: by induction on the items. -/
theorem forIn_push
    {write : β → Run Unit} {read : Run α} {img : β → Except Error α} :
    ∀ (items : List β) (acc : Array α), (∀ x ∈ items, RoundTrips cat o n (write x) read (img x)) →
      RoundTrips cat o n
        (ForIn.forIn items PUnit.unit fun x _ => write x >>= fun _ => Pure.pure (.yield PUnit.unit))
        (ForIn.forIn (List.range items.length) acc fun _ s =>
          read >>= fun a => Pure.pure (.yield (s.push a)))
        (items.mapM img >>= fun ys => Pure.pure (acc ++ ys.toArray))
  | [], acc, _ => by
      simp only [List.forIn_nil, List.length_nil, List.range_zero, List.mapM_nil, pure_bind,
        Array.append_empty]
      exact pure acc
  | x :: xs, acc, h => by
      have hrest := fun a => forIn_push xs (acc.push a) fun y hy => h y (List.mem_cons_of_mem _ hy)
      have himg : (x :: xs).mapM img >>= (fun ys => Pure.pure (acc ++ ys.toArray)) =
          img x >>= fun a => xs.mapM img >>= fun ys => Pure.pure (acc.push a ++ ys.toArray) := by
        simp [List.mapM_cons]
      rw [himg, List.forIn_cons, bind_assoc, List.length_cons, forIn_range_succ_const, bind_assoc]
      simp only [pure_bind]
      have hw := (forIn_push xs acc fun y hy => h y (List.mem_cons_of_mem _ hy)).writes
      exact bind (h x List.mem_cons_self) hw fun a _ => hrest a

/-- The mappings of an object written one after another round trip to a loop that reads each
value and stores it as a pure update: by induction on the mappings, the store of each value
read deciding how the loop goes on. -/
theorem forIn_store
    {write : γ → Run Unit} {read : γ → Run α} {img : γ → Except Error α}
    {step : γ → α → β → Run (ForInStep β)} {put : γ → α → β → Except Error β}
    (hstep : ∀ g a, UpdatesBy (step g a) fun cur => (put g a cur).map .yield)
    (hstill : ∀ g a cur, Still cat o (step g a cur)) :
    ∀ (gs : List γ) (cur : β), (∀ g ∈ gs, RoundTrips cat o n (write g) (read g) (img g)) →
      RoundTrips cat o n
        (ForIn.forIn gs PUnit.unit fun g _ => write g >>= fun _ => Pure.pure (.yield PUnit.unit))
        (ForIn.forIn gs cur fun g cur => read g >>= fun a => step g a cur)
        (gs.foldlM (fun cur g => img g >>= fun a => put g a cur) cur)
  | [], cur, _ => by
      simp only [List.forIn_nil, List.foldlM_nil]
      exact pure cur
  | g :: gs, cur, h => by
      have hrest := fun c => forIn_store hstep hstill gs c fun g' hg => h g' (List.mem_cons_of_mem _ hg)
      rw [List.forIn_cons, bind_assoc, List.forIn_cons, bind_assoc, List.foldlM_cons, bind_assoc]
      simp only [pure_bind]
      refine bind (h g List.mem_cons_self) (hrest cur).writes fun a _ => ?_
      exact store_bind (hstep g a) (hstill g a) cur (hrest cur).writes fun c _ => hrest c

end RoundTrips

end Run
end ObjectWire
