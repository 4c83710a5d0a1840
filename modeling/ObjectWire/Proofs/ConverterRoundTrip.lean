import ObjectWire.Proofs.RoundTripLaw
/-!
# Values read back through their converters

Every converter the resolver builds reads back what it writes, as the image says: a value
written with a converter by a serializer at work on a write round trips to reading it with
the same converter, and to the value's image (`Image.value`). The argument follows the
converter tree:

* the registered converters are leaves of the sink's codec: a scalar of its type reads back as
  itself, a string in the sink's encoding, a byte array as the run it kept, and a custom
  converter as its own read of its own write;
* a list is its count and its elements, read one by one as they were written; a map its count
  and its entries, a sorted map's in their order, a hash map's in the order of their encodings,
  each encoded apart as a fresh serializer encodes it (`Image.entryBytes`); the counts pass the
  readers' guards because no element is written in less than a byte;
* a pair is its key, then its value; an option its inner value, with the inner flag when the
  inner type can itself be empty; a box what it holds; an enum the wire name of its variant,
  read back as the first variant of that name;
* an object is what its engine writes, by hypothesis on the object writer and reader.

Reading is tracked against a budget: with objects read back within a budget of `k`, a body
reads back within `k`, or `k + 1` when its converter has no flag, and a value with its flag
within `k + 1` (`writeValue_roundTrips_of_body`).

**Results.**
* `Run.registered_roundTrips`: the registered converters, leaves of the sink's codec.
* `Run.writeBody_list_roundTrips`, `Run.writeBody_sortedMap_roundTrips`,
  `Run.writeBody_hashMap_roundTrips`: the collections, given their elements.
* `Resolve.Tree.roundTrips`: by induction on the tree, the body of every value reads back.
* `Resolve.Chosen.roundTrips`: every converter chosen for a request reads back its values.
-/

namespace ObjectWire

theorem ite_bind
    {m : Type → Type} [Monad m] {α β : Type} (c : Prop) [Decidable c] (a b : m α)
    (k : α → m β) :
    (if c then a else b) >>= k = if c then a >>= k else b >>= k := by
  split <;> rfl

/-! ## Sorting by a key -/

section Sorting

variable {α β : Type}

theorem insertBefore_map
    (le : β → β → Bool) (f : α → β) (a : α) (l : List α) :
    (insertBefore (fun x y => le (f x) (f y)) a l).map f = insertBefore le (f a) (l.map f) := by
  induction l with
  | nil => rfl
  | cons b l ih => by_cases h : le (f a) (f b) <;> simp [insertBefore, h, ih]

theorem sortStable_map
    (le : β → β → Bool) (f : α → β) (l : List α) :
    (sortStable (fun x y => le (f x) (f y)) l).map f = sortStable le (l.map f) := by
  induction l with
  | nil => rfl
  | cons a l ih => simp only [sortStable, insertBefore_map, List.map_cons, ih]

end Sorting

/-! ## Values of a type, part by part -/

namespace Catalog.Fits

variable {cat : Catalog}

theorem holds_of_scalar
    {s : Scalar} {v : Value} (h : cat.Fits (.scalar s) v) :
    s.holds v = true := by
  cases h
  assumption

theorem of_box
    {i : Ty} {v : Value} (h : cat.Fits (.box i) v) :
    cat.Fits i v := by
  cases h
  assumption

theorem of_present
    {i : Ty} {x : Value} (h : cat.Fits (.option i) (.present x)) :
    cat.Fits i x := by
  cases h
  assumption

theorem of_pair
    {a b : Ty} {x y : Value} (h : cat.Fits (.pair a b) (.pair x y)) :
    cat.Fits a x ∧ cat.Fits b y := by
  cases h
  exact ⟨‹_›, ‹_›⟩

theorem of_list
    {t e : Ty} {xs : List Value} (ht : t = .vec e ∨ t = .deque e) (h : cat.Fits t (.list xs)) :
    ∀ x ∈ xs, cat.Fits e x := by
  rcases ht with rfl | rfl <;> cases h <;> assumption

theorem of_map
    {t k vt : Ty} {es : List (Value × Value)} (ht : t = .hashMap k vt ∨ t = .btreeMap k vt)
    (h : cat.Fits t (.map es)) :
    (∀ e ∈ es, cat.Fits k e.1) ∧ ∀ e ∈ es, cat.Fits vt e.2 := by
  rcases ht with rfl | rfl <;> cases h <;> exact ⟨‹_›, ‹_›⟩

end Catalog.Fits

theorem Emit.count_ok_inv
    {c : Nat} {w w' : Writer} {u : Unit} (h : (Emit.count c).run w = .ok u w') :
    c ≤ maxCount ∧ w'.bytes = w.bytes ++ countBytes c ∧ w'.encoding = w.encoding := by
  unfold Emit.count at h
  split at h
  · next hfit =>
      obtain ⟨hbytes, henc⟩ := Emit.offer_ok_inv h
      exact ⟨hfit, hbytes, henc⟩
  · cases h

namespace Run

variable {α β γ : Type} {cat : Catalog} {o : Options} {n k : Nat}

/-! ## Steps around the law -/

theorem ReadsOff.throw
    (e : Error) :
    ReadsOff cat o n [] (MonadExcept.throw e : Run α) (.error e) :=
  fun _ _ _ _ _ _ => rfl

theorem RoundTrips.of_succeeds
    {w : Run Unit} {r : Run α} {x : Except Error α} {P : Prop}
    (hP : ∀ m m', w.run m = .ok () m' → P) (h : P → RoundTrips cat o n w r x) :
    RoundTrips cat o n w r x :=
  fun m m' hm hw => h (hP m m' hw) m m' hm hw

theorem RoundTrips.bind_tail
    {w : Run Unit} {r : Run α} {k : α → Run β} {x : Except Error α} {y : α → Except Error β}
    (h : RoundTrips cat o n w r x) (hk : ∀ a, x = .ok a → ReadsOff cat o n [] (k a) (y a)) :
    RoundTrips cat o n w (r >>= k) (x >>= y) := by
  intro m m' hm hw
  obtain ⟨hm', b, hb, hr⟩ := h m m' hm hw
  have hread := ReadsOff.bind hr hk (Nat.le_add_right _ _)
  rw [List.append_nil] at hread
  exact ⟨hm', b, hb, hread⟩

theorem RoundTrips.map
    {w : Run Unit} {r : Run α} {x : Except Error α} (f : α → β) (h : RoundTrips cat o n w r x) :
    RoundTrips cat o n w (r >>= fun a => Pure.pure (f a)) (x >>= fun a => Pure.pure (f a)) :=
  h.bind_tail fun a _ => ReadsOff.pure (f a)

theorem RoundTrips.map_eq
    {w : Run Unit} {r : Run α} {x : Except Error α} (f : α → β) {y : Except Error β}
    (h : RoundTrips cat o n w r x) (hy : (x >>= fun a => Pure.pure (f a)) = y) :
    RoundTrips cat o n w (r >>= fun a => Pure.pure (f a)) y :=
  hy ▸ h.map f

theorem RoundTrips.then_read
    {w : Run Unit} {r : Run α} {a : α} {k : α → Run β} {y : Except Error β}
    (h : RoundTrips cat o n w r (.ok a)) (hk : ReadsOff cat o n [] (k a) y) :
    RoundTrips cat o n w (r >>= k) y :=
  h.bind_tail (y := fun _ => y) fun _ ha => by cases ha; exact hk

theorem RoundTrips.bind_ok
    {w₁ w₂ : Run Unit} {r₁ : Run α} {k : α → Run β} {a : α} {y : Except Error β}
    (h₁ : RoundTrips cat o n w₁ r₁ (.ok a)) (hw₂ : Writes cat o w₂) (h₂ : RoundTrips cat o n w₂ (k a) y) :
    RoundTrips cat o n (w₁ >>= fun _ => w₂) (r₁ >>= k) y :=
  h₁.bind hw₂ (y := fun _ => y) fun _ ha => by cases ha; exact h₂

theorem RoundTrips.get_bind
    {w : Machine → Run Unit} {r : Run α} {x : Except Error α} (h : ∀ m, RoundTrips cat o n (w m) r x) :
    RoundTrips cat o n (get >>= w) r x :=
  fun m m' hm hw => h m m m' hm hw

theorem RoundTrips.guarded
    {c : Bool} {e : Error} {w : Run Unit} {r : Run α} {x : Except Error α}
    (h : c = true → RoundTrips cat o n w r x) :
    RoundTrips cat o n (if c = true then w else (MonadExcept.throw e : Run PUnit) >>= fun _ => w) r x := by
  by_cases hc : c = true
  · rw [if_pos hc]
    exact h hc
  · rw [if_neg hc]
    exact RoundTrips.throw_bind _ _ _ _

theorem guard_run_ok
    {c : Bool} {e : Error} {w : Run α} {m m' : Machine} {a : α}
    (h : (if c = true then w else (MonadExcept.throw e : Run PUnit) >>= fun _ => w).run m = .ok a m') :
    c = true ∧ w.run m = .ok a m' := by
  by_cases hc : c = true
  · rw [if_pos hc] at h
    exact ⟨hc, h⟩
  · rw [if_neg hc] at h
    obtain ⟨_, _, hthrow, -⟩ := run_bind_ok h
    cases hthrow

/-- A count, then what it counts: the reader's guard of `per` bytes an item passes when the
writer put out that many after the count. -/
theorem RoundTrips.count_bind
    {c per : Nat} {w : Run Unit} {k : Nat → Run α} {x : Except Error α}
    (h : RoundTrips cat o n w (k c) x)
    (hroom : ∀ m m', m.Writing cat o → (emit (Emit.count c) >>= fun _ => w).run m = .ok () m' →
      ∃ rest, m'.writer.bytes = m.writer.bytes ++ (countBytes c ++ rest) ∧ c * per ≤ rest.length) :
    RoundTrips cat o n (emit (Emit.count c) >>= fun _ => w) (take (Take.count per) >>= k) x := by
  intro m m' hm hw
  obtain ⟨rest, hrest, hle⟩ := hroom m m' hm hw
  obtain ⟨u, m₁, hcount, hw'⟩ := run_bind_ok hw
  obtain ⟨w₁, hrun, rfl⟩ := emit_ok_inv hcount
  obtain ⟨hfit, hbytes, henc⟩ := Emit.count_ok_inv hrun
  obtain ⟨hm', b, hb, hr⟩ := h { m with writer := w₁ } m'
    ⟨hm.session, henc.trans hm.encoding, hm.reader⟩ hw'
  have hb' : b = rest := by
    rw [hb, hbytes, List.append_assoc] at hrest
    exact List.append_cancel_left (List.append_cancel_left hrest)
  refine ⟨hm', countBytes c ++ b, by rw [hb, hbytes, List.append_assoc], ?_⟩
  exact ReadsOff.count_bind hfit (hb' ▸ hle) hr

/-- A step run on scratch space by a serializer at work on a write: it writes there the bytes it
writes on a fresh serializer, which read back as its round trip says, and the machine's sink is
as it was. -/
theorem RoundTrips.scratch_run
    {w : Run Unit} {r : Run α} {x : Except Error α} (h : RoundTrips cat o n w r x)
    (hs : Sim (Machine.Twins cat o) w w) {m m' : Machine} {bs : List UInt8} (hm : m.Writing cat o)
    (hrun : (scratch w).run m = .ok bs m') :
    m'.Writing cat o ∧ m'.writer = m.writer ∧ bs = bytesOf cat o w ∧ ReadsOff cat o n bs r x := by
  change scratch w m = _ at hrun
  unfold scratch at hrun
  dsimp only at hrun
  split at hrun
  · next m₁ hbody =>
      cases hrun
      have hm₀ : ({ m with writer := Writer.new m.writer.encoding } : Machine).Writing cat o :=
        ⟨hm.session, hm.encoding, hm.reader⟩
      obtain ⟨hm₁, b, hb, hr⟩ := h _ m₁ hm₀ hbody
      have htwins : Machine.Twins cat o { m with writer := Writer.new m.writer.encoding }
          ((Session.new cat o).machine [] none) :=
        ⟨hm.session, ⟨Session.faithful_new cat o, rfl, rfl⟩, by rw [hm.encoding]; rfl, hm.reader⟩
      have hc := hs _ _ htwins
      rw [show w.run _ = _ from hbody] at hc
      cases hF : w.run ((Session.new cat o).machine [] none) with
      | ok u F' =>
          rw [hF] at hc
          have hfresh : bytesOf cat o w = m₁.writer.bytes := by
            simp only [bytesOf, hF, hc.2.2.2.1]
          have hb' : m₁.writer.bytes = b := by
            rw [hb]
            rfl
          exact ⟨⟨hm₁.session, hm.encoding, hm₁.reader⟩, rfl, hfresh.symm, hb' ▸ hr⟩
      | error e F' =>
          rw [hF] at hc
          exact hc.elim
  · cases hrun

theorem RoundTrips.flag_bind
    {x : Bool} {w : Run Unit} {r : Bool → Run α} {y : Except Error α}
    (h : RoundTrips cat o n w (r x) y) :
    RoundTrips cat o (n + 1) (emit (Emit.bool x) >>= fun _ => w) (take Take.bool >>= r) y := by
  intro m m' hm hw
  obtain ⟨u, m₁, hflag, hrest⟩ := run_bind_ok hw
  obtain ⟨w₁, hrun, rfl⟩ := emit_ok_inv hflag
  obtain ⟨hbytes, henc⟩ := Emit.bool_ok_inv hrun
  obtain ⟨hm', b, hb, hr⟩ := h { m with writer := w₁ } m' ⟨hm.session, henc.trans hm.encoding, hm.reader⟩ hrest
  refine ⟨hm', [if x then 1 else 0] ++ b, by rw [hb, hbytes, List.append_assoc], ?_⟩
  have hbyte : ReadsOff cat o (n + 1) [if x then 1 else 0] (take Take.bool) (.ok x) :=
    ReadsOff.take fun _ _ _ hdrop => Take.bool_run_of hdrop
  exact ReadsOff.bind (y := fun _ => y) hbyte (fun a ha => by cases ha; exact hr) (by simp)

theorem RoundTrips.defaultOf
    (t : Ty) :
    RoundTrips cat o n (Pure.pure ()) (Run.defaultOf t) (.ok (cat.default t)) := by
  intro m m' hm hw
  cases hw
  refine ⟨hm, [], by simp, fun m₂ _ hs _ _ _ => ?_⟩
  exact (⟨by rw [hs.catalog], hs, rfl⟩ :
    EndsAt cat o (.ok (cat.default t)) _ (.ok (m₂.session.catalog.default t) m₂))

/-! ## Flags -/

section Flags

variable (ow : ObjectWriter) (orr : ObjectReader) {c : Converter} {ty : Ty} (v : Typed) (ctx : Ctx)

theorem writeValue_flag_eq
    (hty : ¬ (c.target != ty) = true) (hnull : c.handlesNull = true) :
    writeValue ow c ty v ctx = emit (Emit.bool (ty.isNull v)) >>= fun _ =>
      if (!ty.isNull v) = true then writeBody ow c ty v ctx else Pure.pure () := by
  simp only [writeValue, writeHead, hty, hnull, if_false, if_true, bind_assoc, pure_bind,
    Bool.false_eq_true]

theorem readValue_flag_eq
    (hty : ¬ (c.target != ty) = true) (hnull : c.handlesNull = true) :
    readValue orr c ty ctx = take Take.bool >>= fun b =>
      if (!b) = true then readBody orr c ty ctx else Run.defaultOf ty := by
  simp only [readValue, readHead_eq, hty, hnull, if_false, if_true, bind_assoc, pure_bind,
    Bool.false_eq_true]

theorem writeValue_plain_eq
    (hty : ¬ (c.target != ty) = true) (hnull : c.handlesNull = false) :
    writeValue ow c ty v ctx = writeBody ow c ty v ctx := by
  simp only [writeValue, writeHead, hty, hnull, if_false, pure_bind, Bool.false_eq_true, if_true]

theorem readValue_plain_eq
    (hty : ¬ (c.target != ty) = true) (hnull : c.handlesNull = false) :
    readValue orr c ty ctx = readBody orr c ty ctx := by
  simp only [readValue, readHead_eq, hty, hnull, if_false, pure_bind, Bool.false_eq_true, if_true]

end Flags

section Bodies

variable {ow : ObjectWriter} {orr : ObjectReader} {oi : ObjectImage}

/-- A value with its flag: a flag costs a byte of the budget, so a body that reads back within
`k`, or `k + 1` without a flag, gives a value that reads back within `k + 1`. -/
theorem writeValue_roundTrips_of_body
    {c : Converter} {ty : Ty} {v : Typed} {ctx : Ctx}
    (h : RoundTrips cat o (if c.handlesNull then k else k + 1) (writeBody ow c ty v ctx)
      (readBody orr c ty ctx) (Image.body cat o oi ow c ty v ctx)) :
    RoundTrips cat o (k + 1) (writeValue ow c ty v ctx) (readValue orr c ty ctx)
      (Image.value cat o oi ow c ty v ctx) := by
  by_cases hty : (c.target != ty) = true
  · intro m m' _ hw
    simp only [writeValue, writeHead, hty, if_true, bind_assoc] at hw
    obtain ⟨_, _, hthrow, -⟩ := run_bind_ok hw
    cases hthrow
  cases hnull : c.handlesNull with
  | false =>
      rw [hnull, if_neg Bool.false_ne_true] at h
      rw [writeValue_plain_eq ow v ctx hty hnull, readValue_plain_eq orr ctx hty hnull]
      simpa [Image.value, Image.flagged, hnull] using h
  | true =>
      rw [hnull, if_pos rfl] at h
      rw [writeValue_flag_eq ow v ctx hty hnull, readValue_flag_eq orr ctx hty hnull]
      unfold Image.value Image.flagged
      rw [hnull, Bool.true_and]
      refine RoundTrips.flag_bind ?_
      cases hempty : ty.isNull v with
      | true => exact RoundTrips.defaultOf ty
      | false => exact h

end Bodies

/-! ## The registered converters -/

section Registered

variable {ow : ObjectWriter} {orr : ObjectReader} {oi : ObjectImage} (ty : Ty) (v : Typed) (ctx : Ctx)

theorem writeBody_primitive_roundTrips
    (s : Scalar) (hv : cat.Fits v.ty v.val) :
    RoundTrips cat o n (writeBody ow (.primitive s) ty v ctx) (readBody orr (.primitive s) ty ctx)
      (Image.body cat o oi ow (.primitive s) ty v ctx) := by
  simp only [writeBody, readBody, Image.body]
  refine RoundTrips.guarded fun hty => ?_
  rw [beq_iff_eq] at hty
  rw [hty] at hv
  exact RoundTrips.emit_take (Emit.readBy_scalar hv.holds_of_scalar)

theorem writeBody_string_roundTrips :
    RoundTrips cat o n (writeBody ow .string ty v ctx) (readBody orr .string ty ctx)
      (Image.body cat o oi ow .string ty v ctx) := by
  simp only [writeBody, readBody, Image.body]
  split
  · next s hval =>
      refine RoundTrips.guarded fun _ => ?_
      rw [hval]
      exact (RoundTrips.emit_take (Emit.readBy_string s)).map Value.str
  · exact RoundTrips.throw _ _ _

/-- A byte array reads back as the bytes it kept: all of them with their count, or a member's
segment as its run behind zeros. -/
theorem writeBody_array_roundTrips :
    RoundTrips cat o n (writeBody ow .array ty v ctx) (readBody orr .array ty ctx)
      (Image.body cat o oi ow .array ty v ctx) := by
  simp only [writeBody, readBody, Image.body]
  refine RoundTrips.guarded fun _ => ?_
  cases hseg : ctx.segment with
  | none => exact (RoundTrips.emit_take (Emit.readBy_bytes _)).map _
  | some seg =>
      simp only [Image.kept]
      split
      · next hfit =>
          have hlen : (((byteList v.val).drop seg.offset).take seg.len).length = seg.len := by
            simp only [List.length_take, List.length_drop]
            omega
          have hraw : RoundTrips cat o n _ _ _ :=
            RoundTrips.emit_take (Emit.readBy_raw (((byteList v.val).drop seg.offset).take seg.len))
          have h := hraw.map
            fun run => Value.list ((List.replicate seg.offset 0 ++ run).map fun b => .nat b.toNat)
          rw [hlen] at h
          exact h
      · exact RoundTrips.throw _ _ _

/-- A custom converter reads back its own encoding: the two bytes of a big-endian `u16`, a
decimal text parsed if it fits a `u32`, eight bytes taken modulo `2^64` if they fit, a double,
and the probe's byte after its description. -/
theorem writeCustom_roundTrips
    (c : CustomConverter) :
    RoundTrips cat o n (writeCustom c ty v ctx) (readCustom c) (Image.custom c ty v.val) := by
  unfold writeCustom
  refine RoundTrips.guarded fun _ => ?_
  split
  · next m hval _ =>
      rw [hval]
      refine (RoundTrips.emit_take (Emit.readBy_raw _)).map_eq _ ?_
      simp [Image.custom]
  · next m hval _ =>
      rw [hval]
      refine (RoundTrips.emit_take (Emit.readBy_string (toString m))).then_read ?_
      simp only [Image.custom, parseU32?_toString]
      by_cases hfit : m < Nat.pow 2 32
      · simp only [hfit, if_true]
        exact ReadsOff.pure _
      · simp only [hfit, if_false]
        exact ReadsOff.throw _
  · next m hval _ =>
      rw [hval]
      have h : RoundTrips cat o n _ _ _ := RoundTrips.emit_take (Emit.readBy_value (leBytes 8 m))
      rw [length_leBytes] at h
      refine h.then_read ?_
      have hvalue : leValue (leBytes 8 m) = m % Nat.pow 2 64 := leValue_leBytes 8 m
      simp only [Image.custom, hvalue]
      by_cases hfit : m % Nat.pow 2 64 < Nat.pow 2 32
      · simp only [hfit, if_true]
        exact ReadsOff.pure _
      · simp only [hfit, if_false]
        exact ReadsOff.throw _
  · next x hval _ =>
      rw [hval]
      exact (RoundTrips.emit_take (Emit.readBy_f64 x)).map Value.f64
  · next x hval _ =>
      rw [hval]
      exact (RoundTrips.emit_take (Emit.readBy_f64 x.round)).map Value.f64
  · next m hval _ =>
      rw [hval]
      refine RoundTrips.get_bind fun mc => ?_
      have hraw : RoundTrips cat o n _ _ _ := RoundTrips.emit_take (Emit.readBy_value [m.toUInt8])
      have hbyte := hraw.map_eq (fun bs => Value.nat (leValue bs))
        (y := Image.custom .probe ty (.nat m)) (by simp [leValue, Image.custom])
      exact (RoundTrips.emit_take (Emit.readBy_string (probeText ctx mc.writer.encoding))).bind_ok
        hbyte.writes hbyte
  · exact RoundTrips.throw _ _ _

theorem registered_roundTrips
    {c : Converter} (hc : c ∈ o.registry) (hv : cat.Fits v.ty v.val) :
    RoundTrips cat o n (writeBody ow c ty v ctx) (readBody orr c ty ctx)
      (Image.body cat o oi ow c ty v ctx) := by
  rcases Options.mem_registry hc with ⟨i, rfl⟩ | ⟨s, rfl⟩ | rfl | rfl
  · exact writeCustom_roundTrips ty v ctx i
  · exact writeBody_primitive_roundTrips ty v ctx s hv
  · exact writeBody_string_roundTrips ty v ctx
  · exact writeBody_array_roundTrips ty v ctx

end Registered

/-! ## Collections -/

/-- Items encoded apart one by one, each on scratch space, from a serializer at work on a
write: the list of their encodings on fresh serializers, each of which reads back as the
item's round trip says. By induction on the items. -/
theorem scratch_forIn_run
    {f : β → Run Unit} {r : Run α} {img : β → Except Error α}
    (hs : ∀ x, Sim (Machine.Twins cat o) (f x) (f x)) :
    ∀ (xs : List β) (acc res : List (List UInt8)) (m m' : Machine),
      (∀ x ∈ xs, RoundTrips cat o n (f x) r (img x)) → m.Writing cat o →
      (ForIn.forIn xs acc fun x acc =>
        scratch (f x) >>= fun bs => Pure.pure (.yield (acc ++ [bs]))).run m = .ok res m' →
      m'.Writing cat o ∧ m'.writer = m.writer ∧ res = acc ++ xs.map (fun x => bytesOf cat o (f x)) ∧
        ∀ x ∈ xs, ReadsOff cat o n (bytesOf cat o (f x)) r (img x)
  | [], acc, res, m, m', _, hm, hrun => by
      rw [List.forIn_nil] at hrun
      cases hrun
      exact ⟨hm, rfl, by simp, fun _ h => nomatch h⟩
  | x :: xs, acc, res, m, m', h, hm, hrun => by
      rw [List.forIn_cons, bind_assoc] at hrun
      obtain ⟨bs, m₁, hscratch, hrest⟩ := run_bind_ok hrun
      obtain ⟨hm₁, hw₁, hbs, hread⟩ := (h x List.mem_cons_self).scratch_run (hs x) hm hscratch
      simp only [pure_bind] at hrest
      obtain ⟨hm', hw', hres, hall⟩ := scratch_forIn_run hs xs (acc ++ [bs]) res m₁ m'
        (fun y hy => h y (List.mem_cons_of_mem _ hy)) hm₁ hrest
      refine ⟨hm', hw'.trans hw₁, by rw [hres, hbs]; simp, fun y hy => ?_⟩
      rcases List.mem_cons.1 hy with rfl | hy
      · exact hbs ▸ hread
      · exact hall y hy

/-- Runs of bytes emitted one after another append their concatenation. -/
theorem emit_forIn_run :
    ∀ (bss : List (List UInt8)) (m m' : Machine), m.Writing cat o →
      (ForIn.forIn bss PUnit.unit fun bs _ =>
        emit (Emit.raw bs) >>= fun _ => Pure.pure (ForInStep.yield PUnit.unit)).run m = .ok () m' →
      m'.Writing cat o ∧ m'.writer.bytes = m.writer.bytes ++ bss.flatten
  | [], m, m', hm, hrun => by
      rw [List.forIn_nil] at hrun
      cases hrun
      exact ⟨hm, by simp⟩
  | bs :: bss, m, m', hm, hrun => by
      rw [List.forIn_cons, bind_assoc] at hrun
      obtain ⟨u, m₁, hemit, hrest⟩ := run_bind_ok hrun
      obtain ⟨w₁, hw, rfl⟩ := emit_ok_inv hemit
      obtain ⟨hbytes, henc⟩ := Emit.offer_ok_inv hw
      simp only [pure_bind] at hrest
      obtain ⟨hm', hb'⟩ := emit_forIn_run bss { m with writer := w₁ } m'
        ⟨hm.session, henc.trans hm.encoding, hm.reader⟩ hrest
      exact ⟨hm', by rw [hb', hbytes]; simp⟩

theorem push_toList_bind
    {ε δ : Type} (x : Except ε (List α)) (f : List α → δ) :
    ((x >>= fun ys => Pure.pure (#[] ++ ys.toArray)) >>= fun arr => Pure.pure (f arr.toList)) =
      x >>= fun ys => Pure.pure (f ys) := by
  cases x <;> simp

section Shapes

variable {ow : ObjectWriter} {ty : Ty} {v : Typed} {ctx : Ctx} {m m' : Machine}

/-! A collection's writer succeeds only on a value of its shape and of its own type. -/

theorem writeBody_list_shape
    {t e : Ty} {conv : Converter} (h : (writeBody ow (.list t e conv) ty v ctx).run m = .ok () m') :
    ∃ items, v.val = .list items ∧ v.ty = t := by
  unfold writeBody at h
  split at h
  · next items hval => exact ⟨items, hval, beq_iff_eq.1 (guard_run_ok h).1⟩
  · cases h

theorem writeBody_dictionary_shape
    {t k vt : Ty} {sorted : Bool} {kc vc : Converter}
    (h : (writeBody ow (.dictionary t k vt sorted kc vc) ty v ctx).run m = .ok () m') :
    ∃ entries, v.val = .map entries ∧ v.ty = t := by
  unfold writeBody at h
  split at h
  · next entries hval => exact ⟨entries, hval, beq_iff_eq.1 (guard_run_ok h).1⟩
  · cases h

theorem writeBody_pair_shape
    {t k vt : Ty} {kc vc : Converter} (h : (writeBody ow (.pair t k vt kc vc) ty v ctx).run m = .ok () m') :
    ∃ a b, v.val = .pair a b ∧ v.ty = t := by
  unfold writeBody at h
  split at h
  · next a b hval => exact ⟨a, b, hval, beq_iff_eq.1 (guard_run_ok h).1⟩
  · cases h

theorem writeBody_nullable_shape
    {t i : Ty} {conv : Converter} {inner : Bool}
    (h : (writeBody ow (.nullable t i conv inner) ty v ctx).run m = .ok () m') :
    ∃ x, v.val = .present x ∧ v.ty = t := by
  unfold writeBody at h
  split at h
  · next x hval => exact ⟨x, hval, beq_iff_eq.1 (guard_run_ok h).1⟩
  · cases h

theorem writeBody_enum_shape
    {t : Ty} {variants : List (String × String)}
    (h : (writeBody ow (.enum t variants) ty v ctx).run m = .ok () m') :
    ∃ nm, v.val = .variant nm ∧ v.ty = t := by
  unfold writeBody at h
  split at h
  · next nm hval => exact ⟨nm, hval, beq_iff_eq.1 (guard_run_ok h).1⟩
  · cases h

end Shapes

section Loops

variable {ow : ObjectWriter} {orr : ObjectReader} {oi : ObjectImage} {ty : Ty} {v : Typed} {ctx : Ctx}

/-! The writers and readers of collections, past their guards, as plain loops. -/

theorem writeBody_list_eq
    {t e : Ty} {conv : Converter} {items : List Value} (hval : v.val = .list items) (hty : v.ty = t) :
    writeBody ow (.list t e conv) ty v ctx = emit (Emit.count items.length) >>= fun _ =>
      ForIn.forIn items PUnit.unit fun x _ =>
        writeValue ow conv e ⟨e, x⟩ ctx.detached >>= fun _ => Pure.pure (.yield PUnit.unit) := by
  simp only [writeBody, hval, hty, beq_self_eq_true, writeValue, bind_assoc, ite_bind, if_true,
    pure_bind, bind_pure_unit]

theorem readBody_list_eq
    {t e : Ty} {conv : Converter} :
    readBody orr (.list t e conv) ty ctx = take (Take.count 1) >>= fun c =>
      ForIn.forIn (List.range c) (#[] : Array Value) (fun _ s =>
        readValue orr conv e ctx.detached >>= fun a => Pure.pure (.yield (s.push a))) >>=
        fun items => Pure.pure (.list items.toList) := by
  simp only [readBody, readValue, bind_assoc, ite_bind]

theorem writeBody_sortedMap_eq
    {t k vt : Ty} {kc vc : Converter} {entries : List (Value × Value)} (hval : v.val = .map entries)
    (hty : v.ty = t) :
    writeBody ow (.dictionary t k vt true kc vc) ty v ctx = emit (Emit.count entries.length) >>= fun _ =>
      ForIn.forIn entries PUnit.unit fun e _ =>
        writeEntry ow k vt kc vc ctx.detached e >>= fun _ => Pure.pure (.yield PUnit.unit) := by
  simp only [writeBody, hval, hty, beq_self_eq_true, writeEntry, writeValue, bind_assoc, ite_bind,
    if_true, pure_bind, bind_pure_unit]

theorem writeBody_hashMap_eq
    {t k vt : Ty} {kc vc : Converter} {entries : List (Value × Value)} (hval : v.val = .map entries)
    (hty : v.ty = t) :
    writeBody ow (.dictionary t k vt false kc vc) ty v ctx = emit (Emit.count entries.length) >>= fun _ =>
      ForIn.forIn entries ([] : List (List UInt8)) (fun e acc =>
        scratch (writeEntry ow k vt kc vc ctx.detached e) >>= fun bs => Pure.pure (.yield (acc ++ [bs]))) >>=
        fun encoded => ForIn.forIn (sortStable bytesLe encoded) PUnit.unit fun bs _ =>
          emit (Emit.raw bs) >>= fun _ => Pure.pure (.yield PUnit.unit) := by
  simp only [writeBody, hval, hty, beq_self_eq_true, writeEntry, writeValue, bind_assoc, ite_bind,
    if_true, pure_bind, bind_pure_unit, Bool.false_eq_true, if_false]

theorem readBody_map_eq
    {t k vt : Ty} {sorted : Bool} {kc vc : Converter} :
    readBody orr (.dictionary t k vt sorted kc vc) ty ctx = take (Take.count 2) >>= fun c =>
      ForIn.forIn (List.range c) (#[] : Array (Value × Value)) (fun _ s =>
        readEntry orr k vt kc vc ctx.detached >>= fun a => Pure.pure (.yield (s.push a))) >>=
        fun entries => Run.catalog >>= fun cat => Pure.pure (cat.mapOf k entries.toList) := by
  simp only [readBody, readEntry, readValue, bind_assoc, ite_bind, pure_bind]

theorem writeBody_pair_eq
    {t k vt : Ty} {kc vc : Converter} {a b : Value} (hval : v.val = .pair a b) (hty : v.ty = t) :
    writeBody ow (.pair t k vt kc vc) ty v ctx =
      writeValue ow kc k ⟨k, a⟩ ctx.detached >>= fun _ => writeValue ow vc vt ⟨vt, b⟩ ctx.detached := by
  simp only [writeBody, hval, hty, beq_self_eq_true, writeValue, bind_assoc, ite_bind, if_true,
    pure_bind]

theorem readBody_pair_eq
    {t k vt : Ty} {kc vc : Converter} :
    readBody orr (.pair t k vt kc vc) ty ctx =
      readValue orr kc k ctx.detached >>= fun a => readValue orr vc vt ctx.detached >>= fun b =>
        Pure.pure (Value.pair a b) := by
  simp only [readBody, readValue, bind_assoc, ite_bind]

theorem Image.body_dictionary_eq
    {t k vt : Ty} {sorted : Bool} {kc vc : Converter} {entries : List (Value × Value)}
    (hval : v.val = .map entries) :
    Image.body cat o oi ow (.dictionary t k vt sorted kc vc) ty v ctx =
      (Image.written cat o ow k vt sorted kc vc ctx.detached entries).mapM
        (Image.entry cat o oi ow k vt kc vc ctx.detached) >>= fun xs => Pure.pure (cat.mapOf k xs) := by
  simp only [Image.body, hval]
  rfl

end Loops

section Collections

variable {ow : ObjectWriter} {orr : ObjectReader} {oi : ObjectImage}

theorem writeEntry_roundTrips
    {k vt : Ty} {kc vc : Converter} {ctx : Ctx} {e : Value × Value}
    (hkey : RoundTrips cat o n (writeValue ow kc k ⟨k, e.1⟩ ctx) (readValue orr kc k ctx)
      (Image.value cat o oi ow kc k ⟨k, e.1⟩ ctx))
    (hvalue : RoundTrips cat o n (writeValue ow vc vt ⟨vt, e.2⟩ ctx) (readValue orr vc vt ctx)
      (Image.value cat o oi ow vc vt ⟨vt, e.2⟩ ctx)) :
    RoundTrips cat o n (writeEntry ow k vt kc vc ctx e) (readEntry orr k vt kc vc ctx)
      (Image.entry cat o oi ow k vt kc vc ctx e) :=
  hkey.bind hvalue.writes fun a _ => hvalue.map (Prod.mk a)

theorem writeEntry_twins
    (hsim : ∀ t e v ver, Sim (Machine.Twins cat o) (ow t e v ver) (ow t e v ver))
    (k vt : Ty) (kc vc : Converter) (ctx : Ctx) (e : Value × Value) :
    Sim (Machine.Twins cat o) (writeEntry ow k vt kc vc ctx e) (writeEntry ow k vt kc vc ctx e) :=
  Sim.bind (writeValue_sim (Machine.twins_engineRel cat o) (objectWriters_sim_eq hsim) (.refl kc) _ _ _)
    fun _ => writeValue_sim (Machine.twins_engineRel cat o) (objectWriters_sim_eq hsim) (.refl vc) _ _ _

/-- A pair is its key, then its value. -/
theorem writeBody_pair_roundTrips
    {t k vt : Ty} {kc vc : Converter} (ht : t = .pair k vt) (ty : Ty) (v : Typed) (ctx : Ctx)
    (hv : cat.Fits v.ty v.val)
    (hkey : ∀ x, cat.Fits k x → RoundTrips cat o n (writeValue ow kc k ⟨k, x⟩ ctx.detached)
      (readValue orr kc k ctx.detached) (Image.value cat o oi ow kc k ⟨k, x⟩ ctx.detached))
    (hvalue : ∀ y, cat.Fits vt y → RoundTrips cat o n (writeValue ow vc vt ⟨vt, y⟩ ctx.detached)
      (readValue orr vc vt ctx.detached) (Image.value cat o oi ow vc vt ⟨vt, y⟩ ctx.detached)) :
    RoundTrips cat o n (writeBody ow (.pair t k vt kc vc) ty v ctx) (readBody orr (.pair t k vt kc vc) ty ctx)
      (Image.body cat o oi ow (.pair t k vt kc vc) ty v ctx) := by
  refine RoundTrips.of_succeeds (fun _ _ hw => writeBody_pair_shape hw) fun ⟨a, b, hval, hty⟩ => ?_
  have hfits : cat.Fits (.pair k vt) (.pair a b) := by
    rw [← ht, ← hty, ← hval]
    exact hv
  obtain ⟨ha, hb⟩ := hfits.of_pair
  have himg : Image.body cat o oi ow (.pair t k vt kc vc) ty v ctx =
      Image.value cat o oi ow kc k ⟨k, a⟩ ctx.detached >>= fun x =>
        Image.value cat o oi ow vc vt ⟨vt, b⟩ ctx.detached >>= fun y => Pure.pure (Value.pair x y) := by
    simp only [Image.body, hval]
    rfl
  rw [writeBody_pair_eq hval hty, readBody_pair_eq, himg]
  exact (hkey a ha).bind (hvalue b hb).writes fun x _ => (hvalue b hb).map (Value.pair x)

variable (happ : ∀ t e v ver, Appends (ow t e v ver))
include happ

/-- A list of values of its element type is its count and then its items, each read back as
its converter writes it. -/
theorem writeBody_list_roundTrips
    {t e : Ty} {conv : Converter} (hconv : conv.BodyNonempty ow) (ht : t = .vec e ∨ t = .deque e)
    (ty : Ty) (v : Typed) (ctx : Ctx) (hv : cat.Fits v.ty v.val)
    (hel : ∀ x, cat.Fits e x → RoundTrips cat o n (writeValue ow conv e ⟨e, x⟩ ctx.detached)
      (readValue orr conv e ctx.detached) (Image.value cat o oi ow conv e ⟨e, x⟩ ctx.detached)) :
    RoundTrips cat o n (writeBody ow (.list t e conv) ty v ctx) (readBody orr (.list t e conv) ty ctx)
      (Image.body cat o oi ow (.list t e conv) ty v ctx) := by
  refine RoundTrips.of_succeeds (fun _ _ hw => writeBody_list_shape hw) fun ⟨items, hval, hty⟩ => ?_
  have hroom := fun m m' (_ : m.Writing cat o)
      (hw : (writeBody ow (.list t e conv) ty v ctx).run m = .ok () m') =>
    writeBody_list_run_ok happ hconv ht ty ctx hv.admits hw
  have hitems : ∀ x ∈ items, cat.Fits e x := by
    rw [hval, hty] at hv
    exact hv.of_list ht
  have himg : Image.body cat o oi ow (.list t e conv) ty v ctx =
      (items.mapM (fun x => Image.value cat o oi ow conv e ⟨e, x⟩ ctx.detached) >>= fun ys =>
        Pure.pure (#[] ++ ys.toArray)) >>= fun arr => Pure.pure (Value.list arr.toList) := by
    rw [push_toList_bind]
    simp only [Image.body, hval]
    rfl
  rw [writeBody_list_eq hval hty] at hroom ⊢
  rw [readBody_list_eq, himg]
  refine RoundTrips.count_bind ((RoundTrips.forIn_push items #[] fun x hx => hel x (hitems x hx)).map _)
    fun m m' hm hw => ?_
  obtain ⟨items', rest, hval', -, hbytes, hle⟩ := hroom m m' hm hw
  rw [hval] at hval'
  cases hval'
  exact ⟨rest, hbytes, by omega⟩

/-- A map of values of its parts' types is its count and then its entries: read back one by one
in the order they were written, and inserted into a map by the catalog. -/
theorem writeBody_dictionary_roundTrips_of_entries
    {t k vt : Ty} {sorted : Bool} {kc vc : Converter} (hkc : kc.BodyNonempty ow)
    (hvc : vc.BodyNonempty ow) (ht : t = .hashMap k vt ∨ t = .btreeMap k vt)
    (ty : Ty) (v : Typed) (ctx : Ctx) (hv : cat.Fits v.ty v.val)
    {entries : List (Value × Value)} (hval : v.val = .map entries) {w : Run Unit}
    (hw : writeBody ow (.dictionary t k vt sorted kc vc) ty v ctx =
      emit (Emit.count entries.length) >>= fun _ => w)
    (h : RoundTrips cat o n w
      (ForIn.forIn (List.range entries.length) (#[] : Array (Value × Value)) fun _ s =>
        readEntry orr k vt kc vc ctx.detached >>= fun a => Pure.pure (.yield (s.push a)))
      ((Image.written cat o ow k vt sorted kc vc ctx.detached entries).mapM
        (Image.entry cat o oi ow k vt kc vc ctx.detached) >>= fun ys => Pure.pure (#[] ++ ys.toArray))) :
    RoundTrips cat o n (writeBody ow (.dictionary t k vt sorted kc vc) ty v ctx)
      (readBody orr (.dictionary t k vt sorted kc vc) ty ctx)
      (Image.body cat o oi ow (.dictionary t k vt sorted kc vc) ty v ctx) := by
  have hroom := fun m m' (_ : m.Writing cat o)
      (hw' : (writeBody ow (.dictionary t k vt sorted kc vc) ty v ctx).run m = .ok () m') =>
    writeBody_dictionary_run_ok happ hkc hvc ht ty ctx hv.admits hw'
  rw [hw] at hroom ⊢
  rw [readBody_map_eq, Image.body_dictionary_eq hval, ← push_toList_bind]
  have htail : ∀ arr : Array (Value × Value), ReadsOff cat o n []
      (Run.catalog >>= fun c => Pure.pure (c.mapOf k arr.toList)) (.ok (cat.mapOf k arr.toList)) :=
    fun arr => ReadsOff.fresh_bind catalog_answers_freshly
      (x := fun c => .ok (c.mapOf k arr.toList)) fun c hc => by
        cases hc
        exact ReadsOff.pure _
  refine RoundTrips.count_bind (h.bind_tail fun arr _ => htail arr) fun m m' hm hw' => ?_
  obtain ⟨entries', rest, hval', -, hbytes, hle⟩ := hroom m m' hm hw'
  rw [hval] at hval'
  cases hval'
  exact ⟨rest, hbytes, by omega⟩

/-- A sorted map: its entries in their own order. -/
theorem writeBody_sortedMap_roundTrips
    {t k vt : Ty} {kc vc : Converter} (hkc : kc.BodyNonempty ow) (hvc : vc.BodyNonempty ow)
    (ht : t = .hashMap k vt ∨ t = .btreeMap k vt) (ty : Ty) (v : Typed) (ctx : Ctx)
    (hv : cat.Fits v.ty v.val)
    (hentry : ∀ e : Value × Value, cat.Fits k e.1 → cat.Fits vt e.2 →
      RoundTrips cat o n (writeEntry ow k vt kc vc ctx.detached e) (readEntry orr k vt kc vc ctx.detached)
        (Image.entry cat o oi ow k vt kc vc ctx.detached e)) :
    RoundTrips cat o n (writeBody ow (.dictionary t k vt true kc vc) ty v ctx)
      (readBody orr (.dictionary t k vt true kc vc) ty ctx)
      (Image.body cat o oi ow (.dictionary t k vt true kc vc) ty v ctx) := by
  refine RoundTrips.of_succeeds (fun _ _ hw => writeBody_dictionary_shape hw)
    fun ⟨entries, hval, hty⟩ => ?_
  have hfits : cat.Fits t (.map entries) := by
    rw [← hty, ← hval]
    exact hv
  obtain ⟨hkeys, hvalues⟩ := hfits.of_map ht
  refine writeBody_dictionary_roundTrips_of_entries happ hkc hvc ht ty v ctx hv hval
    (writeBody_sortedMap_eq hval hty) ?_
  simp only [Image.written, if_true]
  exact RoundTrips.forIn_push entries #[] fun e he => hentry e (hkeys e he) (hvalues e he)

/-- A hash map: its entries are encoded apart, as a fresh serializer encodes them, and put out
in ascending order of their encodings; they are read back in that order. -/
theorem writeBody_hashMap_roundTrips
    (hsim : ∀ t e v ver, Sim (Machine.Twins cat o) (ow t e v ver) (ow t e v ver))
    {t k vt : Ty} {kc vc : Converter} (hkc : kc.BodyNonempty ow) (hvc : vc.BodyNonempty ow)
    (ht : t = .hashMap k vt ∨ t = .btreeMap k vt) (ty : Ty) (v : Typed) (ctx : Ctx)
    (hv : cat.Fits v.ty v.val)
    (hentry : ∀ e : Value × Value, cat.Fits k e.1 → cat.Fits vt e.2 →
      RoundTrips cat o n (writeEntry ow k vt kc vc ctx.detached e) (readEntry orr k vt kc vc ctx.detached)
        (Image.entry cat o oi ow k vt kc vc ctx.detached e)) :
    RoundTrips cat o n (writeBody ow (.dictionary t k vt false kc vc) ty v ctx)
      (readBody orr (.dictionary t k vt false kc vc) ty ctx)
      (Image.body cat o oi ow (.dictionary t k vt false kc vc) ty v ctx) := by
  refine RoundTrips.of_succeeds (fun _ _ hw => writeBody_dictionary_shape hw)
    fun ⟨entries, hval, hty⟩ => ?_
  have hfits : cat.Fits t (.map entries) := by
    rw [← hty, ← hval]
    exact hv
  obtain ⟨hkeys, hvalues⟩ := hfits.of_map ht
  refine writeBody_dictionary_roundTrips_of_entries happ hkc hvc ht ty v ctx hv hval
    (writeBody_hashMap_eq hval hty) fun m m' hm hw => ?_
  obtain ⟨res, m₁, h₁, h₂⟩ := run_bind_ok hw
  obtain ⟨hm₁, hw₁, hres, hreads⟩ := scratch_forIn_run (writeEntry_twins hsim k vt kc vc ctx.detached)
    entries [] res m m₁ (fun e he => hentry e (hkeys e he) (hvalues e he)) hm h₁
  have hsorted : sortStable bytesLe (entries.map fun e => bytesOf cat o (writeEntry ow k vt kc vc ctx.detached e)) =
      (Image.written cat o ow k vt false kc vc ctx.detached entries).map
        (Image.entryBytes cat o ow k vt kc vc ctx.detached) := by
    simp only [Image.written, Bool.false_eq_true, if_false]
    exact (sortStable_map bytesLe _ entries).symm
  rw [hres, List.nil_append, hsorted] at h₂
  obtain ⟨hm', hbytes⟩ := emit_forIn_run _ m₁ m' hm₁ h₂
  refine ⟨hm', _, by rw [hbytes, hw₁], ?_⟩
  have hperm := sortStable_perm (fun a b => bytesLe (Image.entryBytes cat o ow k vt kc vc ctx.detached a)
    (Image.entryBytes cat o ow k vt kc vc ctx.detached b)) entries
  have hwritten : Image.written cat o ow k vt false kc vc ctx.detached entries =
      sortStable (fun a b => bytesLe (Image.entryBytes cat o ow k vt kc vc ctx.detached a)
        (Image.entryBytes cat o ow k vt kc vc ctx.detached b)) entries := by
    simp only [Image.written, Bool.false_eq_true, if_false]
  have hread : ReadsOff cat o n ((Image.written cat o ow k vt false kc vc ctx.detached entries).map
      (Image.entryBytes cat o ow k vt kc vc ctx.detached)).flatten _ _ :=
    ReadsOff.forIn_push (Image.written cat o ow k vt false kc vc ctx.detached entries) #[]
      fun e he => hreads e (hperm.mem_iff.1 (hwritten ▸ he))
  rw [hwritten, hperm.length_eq, ← hwritten] at hread
  exact hread

end Collections

/-! ## Enums, options and boxes -/

section Wrappers

variable {ow : ObjectWriter} {orr : ObjectReader} {oi : ObjectImage}

theorem writeBody_enum_roundTrips
    {t : Ty} {variants : List (String × String)} (ty : Ty) (v : Typed) (ctx : Ctx) :
    RoundTrips cat o n (writeBody ow (.enum t variants) ty v ctx) (readBody orr (.enum t variants) ty ctx)
      (Image.body cat o oi ow (.enum t variants) ty v ctx) := by
  refine RoundTrips.of_succeeds (fun _ _ hw => writeBody_enum_shape hw) fun ⟨nm, hval, hty⟩ => ?_
  simp only [writeBody, readBody, Image.body, hval, hty, beq_self_eq_true, if_true]
  split
  · next _ wire hfind =>
      simp only [hfind]
      refine (RoundTrips.emit_take (Emit.readBy_string wire)).then_read ?_
      cases List.find? (fun x => x.2 == wire) variants with
      | none => exact ReadsOff.throw _
      | some variant => exact ReadsOff.pure _
  · exact RoundTrips.throw _ _ _

/-- An option holding a value is its inner value: with the inner flag when the inner type can
itself be empty, else its body. -/
theorem writeBody_nullable_roundTrips
    {t i : Ty} {conv : Converter} {inner : Bool} (ht : t = .option i) (ty : Ty) (v : Typed) (ctx : Ctx)
    (hv : cat.Fits v.ty v.val)
    (hvalue : ∀ x, cat.Fits i x → RoundTrips cat o n (writeValue ow conv i ⟨i, x⟩ ctx)
      (readValue orr conv i ctx) (Image.value cat o oi ow conv i ⟨i, x⟩ ctx))
    (hbody : ∀ x, cat.Fits i x → RoundTrips cat o n (writeBody ow conv i ⟨i, x⟩ ctx)
      (readBody orr conv i ctx) (Image.body cat o oi ow conv i ⟨i, x⟩ ctx)) :
    RoundTrips cat o n (writeBody ow (.nullable t i conv inner) ty v ctx)
      (readBody orr (.nullable t i conv inner) ty ctx)
      (Image.body cat o oi ow (.nullable t i conv inner) ty v ctx) := by
  refine RoundTrips.of_succeeds (fun _ _ hw => writeBody_nullable_shape hw) fun ⟨x, hval, hty⟩ => ?_
  have hx : cat.Fits i x := by
    have hfits : cat.Fits (.option i) (.present x) := by
      rw [← ht, ← hty, ← hval]
      exact hv
    exact hfits.of_present
  cases inner with
  | true =>
      have hw : writeBody ow (.nullable t i conv true) ty v ctx = writeValue ow conv i ⟨i, x⟩ ctx := by
        simp only [writeBody, writeValue, hval, hty, beq_self_eq_true, if_true]
      have hr : readBody orr (.nullable t i conv true) ty ctx =
          readValue orr conv i ctx >>= fun a => Pure.pure (Value.present a) := by
        simp only [readBody, readValue, if_true, bind_assoc]
      have himg : Image.body cat o oi ow (.nullable t i conv true) ty v ctx =
          Image.value cat o oi ow conv i ⟨i, x⟩ ctx >>= fun a => Pure.pure (Value.present a) := by
        simp only [Image.body, hval, if_true]
        rfl
      rw [hw, hr, himg]
      exact (hvalue x hx).map Value.present
  | false =>
      have hw : writeBody ow (.nullable t i conv false) ty v ctx = writeBody ow conv i ⟨i, x⟩ ctx := by
        simp only [writeBody, hval, hty, beq_self_eq_true, if_true, Bool.false_eq_true, if_false]
      have hr : readBody orr (.nullable t i conv false) ty ctx =
          readBody orr conv i ctx >>= fun a => Pure.pure (Value.present a) := by
        simp only [readBody, Bool.false_eq_true, if_false]
      have himg : Image.body cat o oi ow (.nullable t i conv false) ty v ctx =
          Image.body cat o oi ow conv i ⟨i, x⟩ ctx >>= fun a => Pure.pure (Value.present a) := by
        simp only [Image.body, hval, Bool.false_eq_true, if_false]
      rw [hw, hr, himg]
      exact (hbody x hx).map Value.present

theorem writeBody_pointer_roundTrips
    {t i : Ty} {conv : Converter} (ht : t = .box i) (ty : Ty) (v : Typed) (ctx : Ctx)
    (hv : cat.Fits v.ty v.val)
    (hbody : ∀ x, cat.Fits i x → RoundTrips cat o n (writeBody ow conv i ⟨i, x⟩ ctx)
      (readBody orr conv i ctx) (Image.body cat o oi ow conv i ⟨i, x⟩ ctx)) :
    RoundTrips cat o n (writeBody ow (.pointer t i conv) ty v ctx) (readBody orr (.pointer t i conv) ty ctx)
      (Image.body cat o oi ow (.pointer t i conv) ty v ctx) := by
  simp only [writeBody, readBody, Image.body]
  refine RoundTrips.guarded fun hty => ?_
  rw [beq_iff_eq] at hty
  rw [hty, ht] at hv
  exact hbody v.val hv.of_box

end Wrappers

/-! ## Converter trees -/

/-- The body law of a converter: the body it writes for every value of its type reads back as
its image, within a budget of `k` for a converter with a null flag and `k + 1` for one
without. -/
def BodiesRoundTrip (cat : Catalog) (o : Options) (ow : ObjectWriter) (orr : ObjectReader)
    (oi : ObjectImage) (k : Nat) (c : Converter) : Prop :=
  ∀ ty (v : Typed) ctx, cat.Fits v.ty v.val →
    RoundTrips cat o (if c.handlesNull then k else k + 1) (writeBody ow c ty v ctx)
      (readBody orr c ty ctx) (Image.body cat o oi ow c ty v ctx)

namespace BodiesRoundTrip

variable {ow : ObjectWriter} {orr : ObjectReader} {oi : ObjectImage} {c : Converter}

theorem of_flagged
    (hnull : c.handlesNull = true)
    (h : ∀ ty (v : Typed) ctx, cat.Fits v.ty v.val → RoundTrips cat o k (writeBody ow c ty v ctx)
      (readBody orr c ty ctx) (Image.body cat o oi ow c ty v ctx)) :
    BodiesRoundTrip cat o ow orr oi k c := by
  intro ty v ctx hv
  rw [hnull, if_pos rfl]
  exact h ty v ctx hv

theorem of_flagless
    (hnull : c.handlesNull = false)
    (h : ∀ ty (v : Typed) ctx, cat.Fits v.ty v.val → RoundTrips cat o (k + 1) (writeBody ow c ty v ctx)
      (readBody orr c ty ctx) (Image.body cat o oi ow c ty v ctx)) :
    BodiesRoundTrip cat o ow orr oi k c := by
  intro ty v ctx hv
  rw [hnull, if_neg Bool.false_ne_true]
  exact h ty v ctx hv

theorem body
    (h : BodiesRoundTrip cat o ow orr oi k c) (ty : Ty) (v : Typed) (ctx : Ctx) (hv : cat.Fits v.ty v.val) :
    RoundTrips cat o k (writeBody ow c ty v ctx) (readBody orr c ty ctx) (Image.body cat o oi ow c ty v ctx) :=
  (h ty v ctx hv).mono (by split <;> omega)

theorem value
    (h : BodiesRoundTrip cat o ow orr oi k c) (ty : Ty) (v : Typed) (ctx : Ctx) (hv : cat.Fits v.ty v.val) :
    RoundTrips cat o (k + 1) (writeValue ow c ty v ctx) (readValue orr c ty ctx)
      (Image.value cat o oi ow c ty v ctx) :=
  writeValue_roundTrips_of_body (h ty v ctx hv)

theorem value_le
    (h : BodiesRoundTrip cat o ow orr oi k c) (ty : Ty) (v : Typed) (ctx : Ctx) (hv : cat.Fits v.ty v.val) :
    RoundTrips cat o k (writeValue ow c ty v ctx) (readValue orr c ty ctx)
      (Image.value cat o oi ow c ty v ctx) :=
  (h.value ty v ctx hv).mono (Nat.le_succ k)

end BodiesRoundTrip

end Run

namespace Resolve

open Run

variable {cat : Catalog} {o : Options} {k : Nat}

section Trees

variable {ow : ObjectWriter} {orr : ObjectReader} {oi : ObjectImage}
  (happ : ∀ t e v ver, Appends (ow t e v ver))
  (hsim : ∀ t e v ver, Sim (Machine.Twins cat o) (ow t e v ver) (ow t e v ver))
  (hobj : ∀ t e (v : Typed) ver, cat.Fits v.ty v.val →
    RoundTrips cat o k (ow t e v ver) (orr t e ver) (oi t e v ver))
include happ hsim hobj

/-- Every converter tree over the registry reads back the bodies it writes, objects reading
back as `hobj` says: by induction on the tree, each node's law from its parts' laws, a part
with its flag within the budget of the node. -/
theorem Tree.roundTrips
    {t : Ty} {c : Converter} (h : Tree o.registry t c) :
    BodiesRoundTrip cat o ow orr oi k c := by
  have hreg := Options.registry_bodyNonempty ow o
  induction h with
  | registry hc => exact fun ty v ctx hv => registered_roundTrips ty v ctx hc.mem hv
  | nullable _ _ ih =>
      exact BodiesRoundTrip.of_flagged rfl fun ty v ctx hv =>
        writeBody_nullable_roundTrips rfl ty v ctx hv (fun x hx => ih.value_le _ ⟨_, x⟩ ctx hx)
          fun x hx => ih.body _ ⟨_, x⟩ ctx hx
  | pointer _ _ ih =>
      exact fun ty v ctx hv => writeBody_pointer_roundTrips rfl ty v ctx hv fun x hx => ih _ ⟨_, x⟩ ctx hx
  | vec _ hconv ih =>
      exact BodiesRoundTrip.of_flagged rfl fun ty v ctx hv =>
        writeBody_list_roundTrips happ (hconv.bodyNonempty happ hreg) (.inl rfl) ty v ctx hv
          fun x hx => ih.value_le _ ⟨_, x⟩ _ hx
  | deque _ hconv ih =>
      exact BodiesRoundTrip.of_flagged rfl fun ty v ctx hv =>
        writeBody_list_roundTrips happ (hconv.bodyNonempty happ hreg) (.inr rfl) ty v ctx hv
          fun x hx => ih.value_le _ ⟨_, x⟩ _ hx
  | hashMap _ hkc hvc ihk ihv =>
      exact BodiesRoundTrip.of_flagged rfl fun ty v ctx hv =>
        writeBody_hashMap_roundTrips happ hsim (hkc.bodyNonempty happ hreg) (hvc.bodyNonempty happ hreg)
          (.inl rfl) ty v ctx hv fun e hk hv' =>
            writeEntry_roundTrips (ihk.value_le _ ⟨_, e.1⟩ _ hk) (ihv.value_le _ ⟨_, e.2⟩ _ hv')
  | btreeMap _ hkc hvc ihk ihv =>
      exact BodiesRoundTrip.of_flagged rfl fun ty v ctx hv =>
        writeBody_sortedMap_roundTrips happ (hkc.bodyNonempty happ hreg) (hvc.bodyNonempty happ hreg)
          (.inr rfl) ty v ctx hv fun e hk hv' =>
            writeEntry_roundTrips (ihk.value_le _ ⟨_, e.1⟩ _ hk) (ihv.value_le _ ⟨_, e.2⟩ _ hv')
  | pair _ _ _ ihk ihv =>
      exact BodiesRoundTrip.of_flagless rfl fun ty v ctx hv =>
        writeBody_pair_roundTrips rfl ty v ctx hv (fun x hx => ihk.value _ ⟨_, x⟩ _ hx)
          fun y hy => ihv.value _ ⟨_, y⟩ _ hy
  | enum _ => exact BodiesRoundTrip.of_flagless rfl fun ty v ctx _ => writeBody_enum_roundTrips ty v ctx
  | object _ => exact BodiesRoundTrip.of_flagged rfl fun _ v ctx hv => hobj _ _ v ctx.version hv

theorem Chosen.roundTrips
    {t : Ty} {r : Request} {c : Converter} (h : Chosen o.registry t r c) :
    BodiesRoundTrip cat o ow orr oi k c := by
  cases h with
  | given => exact fun ty v ctx _ => writeCustom_roundTrips ty v ctx _
  | named _ _ _ hnamed => exact fun ty v ctx hv => registered_roundTrips ty v ctx hnamed.mem hv
  | segment _ _ hnamed => exact fun ty v ctx hv => registered_roundTrips ty v ctx hnamed.mem hv
  | tree _ htree => exact htree.roundTrips happ hsim hobj

end Trees

end Resolve
end ObjectWire
