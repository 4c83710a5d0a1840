import ObjectWire.Proofs.ReadingFaults
import ObjectWire.Proofs.BuildFaults
/-!
# Decoding arbitrary bytes

A fresh serializer decodes any byte string, through either engine, to a value or to an error
of a short list (`DecodeFault`): a fault of the data as reading meets it (`Error.isReadFault`),
an error of one of the catalog's setters, or a configuration error that the input has no part
in, raised by the root plan, or by the mapping list at the stream's version of the root type or
of an object type the root's converter reaches.

Decoding never runs out of depth. After the header, objects are read with a bound two more
than the input's length, and the reader never has more bytes left than the input holds: every
read stays within that budget (`readObject_reads`), so the bound is never reached. Every count
read for items of at least `min` bytes leaves room for all of them (`Take.count_fits`), so no
loop over a count runs more often than there are bytes left.

The list holds more than the data's own faults. A type whose typed accessors do not serve its
members fails with an internal error (`broken_accessor_fails_decoding`), and a converter chosen
for another type fails with a type mismatch: both are read faults here.

**Results.**
* `decoding_fails_only_on_faults`: on a fresh serializer, both entry points fail only with a
  `DecodeFault`, for every type, target and input; and accepted counts fit the input.
* `broken_accessor_fails_decoding`: a type with no typed accessor for its member fails to
  decode with an internal error.
-/

namespace ObjectWire

/-- The version a serializer with options `o` decodes `input` with: the one the input's header
declares, or the serializer's own. -/
def Options.decodingVersion (o : Options) (input : List UInt8) : Option Version :=
  match readHeader (Reader.new input o.encoding) with
  | .ok (.declared v) _ => some v
  | _ => o.version

/-- The object types whose mapping lists decoding a root of type `t` fetches first along a
plan: `t` itself for an object root, the types its converter reaches otherwise. -/
def RootPlan.objectTypes (t : Ty) : RootPlan → List Ty
  | .object => [t]
  | .converter c => c.nestedObjects

open Run in
/-- What decoding a root of type `t` through the engine `e`, on a fresh serializer over `cat`
with the options `o`, may fail with at the stream version `ver`: a read fault, an error of one
of the catalog's setters, or the configuration error of the fresh root plan, or of the fresh
mapping list at `ver` of an object type that plan fetches first. -/
def DecodeFault (cat : Catalog) (o : Options) (t : Ty) (e : Engine) (ver : Option Version)
    (err : Error) : Prop :=
  err.isReadFault = true ∨ cat.SetterFault err ∨
    err.isConfiguration = true ∧ (freshPlan cat o t e = .error err ∨
      ∃ p, freshPlan cat o t e = .ok p ∧ ∃ t' ∈ p.objectTypes t, freshList cat o t' ver = .error err)

namespace Run

variable {α : Type} {cat : Catalog} {o : Options}

/-! ## The header -/

theorem readHeader_ok
    (r : Reader) :
    ∃ found r', readHeader.run r = .ok found r' := by
  simp only [readHeader, EStateM.run]
  split <;> exact ⟨_, _, rfl⟩

theorem streamVersion_run_new
    (cat : Catalog) (o : Options) (input : List UInt8) :
    ∃ m, streamVersion.run ((Session.new cat o).machine input none) =
      .ok (o.decodingVersion input) m ∧ m.session.FaithfulOver cat o := by
  obtain ⟨found, r', hfound⟩ := readHeader_ok ((Session.new cat o).machine input none).reader
  have hnew : (Session.new cat o).FaithfulOver cat o := ⟨Session.faithful_new cat o, rfl, rfl⟩
  have hread : readHeader (Reader.new input o.encoding) = .ok found r' := hfound
  cases found <;>
    simp only [Options.decodingVersion, hread, streamVersion, EStateM.run_bind,
      take_run_ok hfound, options_run, log_run] <;>
    exact ⟨_, rfl, hnew.refresh (Session.refresh_logs _ _)⟩

/-- After the header, a fresh serializer decodes within the object reader's depth bound: a
decoding that stays within one byte more than any bound it is given fails only in `E`. -/
theorem header_then_within_bound
    {input : List UInt8} {E : Error → Prop} {f : Option Version → ObjectReader → Run α}
    (hf : ∀ k, Reads (Session.FaithfulOver cat o) E (k + 1)
      (f (o.decodingVersion input) (readObject k)) fun _ => True)
    {err : Error}
    (h : answer ((streamVersion >>= fun ver => objectReader >>= f ver).run
      ((Session.new cat o).machine input none)) = .error err) :
    E err := by
  obtain ⟨m, hsv, hm⟩ := streamVersion_run_new cat o input
  rw [EStateM.run_bind, hsv] at h
  dsimp only at h
  rw [EStateM.run_bind, objectReader_run] at h
  have hleft : m.reader.remaining < m.reader.input.size + 2 + 1 := by
    unfold Reader.remaining
    omega
  exact (hf _ _ hleft m ⟨hm, le_rfl⟩).answer_error h

/-! ## Decoding along a fresh plan -/

section Roots

variable {t : Ty} {e : Engine} {ver : Option Version}

theorem decodeFault_readFault
    (err : Error) (h : err.isReadFault = true) :
    DecodeFault cat o t e ver err :=
  .inl h

theorem decodeFault_setterFault
    (err : Error) (h : cat.SetterFault err) :
    DecodeFault cat o t e ver err :=
  .inr (.inl h)

theorem decodeFault_list
    {p : RootPlan} (hp : freshPlan cat o t e = .ok p) {t' : Ty} (ht' : t' ∈ p.objectTypes t)
    {err : Error} (hl : freshList cat o t' ver = .error err) :
    DecodeFault cat o t e ver err :=
  .inr (.inr ⟨freshList_configured hl, .inr ⟨p, hp, t', ht', hl⟩⟩)

theorem rootPlan_reads
    (n : Nat) :
    Reads (Session.FaithfulOver cat o) (DecodeFault cat o t e ver) n (rootPlan t e)
      fun p => freshPlan cat o t e = .ok p :=
  (rootPlan_answers_freshly t e).reads fun _ h => .inr (.inr ⟨freshPlan_configured h, .inl h⟩)

theorem readObject_reads_planned
    {p : RootPlan} (hp : freshPlan cat o t e = .ok p) {t' : Ty} (ht' : t' ∈ p.objectTypes t)
    (k : Nat) (e' : Engine) :
    Reads (Session.FaithfulOver cat o) (DecodeFault cat o t e ver) k (readObject k t' e' ver)
      fun _ => True := by
  cases hl : freshList cat o t' ver with
  | ok l => exact readObject_reads decodeFault_readFault decodeFault_setterFault k t' e' ⟨l, hl⟩
  | error err =>
      exact readObject_reads_error hl (decodeFault_list hp ht' hl) decodeFault_readFault k e'

theorem readValue_reads_root
    {c : Converter} (hp : freshPlan cat o t e = .ok (.converter c)) (k : Nat) :
    Reads (Session.FaithfulOver cat o) (DecodeFault cat o t e ver) (k + 1)
      (readValue (readObject k) c t { version := ver }) fun _ => True :=
  readValue_reads decodeFault_readFault (P := fun t' => t' ∈ c.nestedObjects) (fun _ h => h)
    (fun _ e' ht' => readObject_reads_planned hp ht' k e') t rfl

/-- The compiled engine decodes along the fresh plan within one byte more than the objects
below. -/
theorem decodeRoot_reads
    {p : RootPlan} (hp : freshPlan cat o t .compiled = .ok p) (target : Value) (k : Nat) :
    Reads (Session.FaithfulOver cat o) (DecodeFault cat o t .compiled ver) (k + 1)
      (decodeRoot t target (readObject k) ver p) fun _ => True := by
  cases p with
  | object =>
      show Reads _ _ _ (compiled t ver >>= fun acc =>
        readLayout (readObject k) acc target { version := ver }) _
      cases hl : freshList cat o t ver with
      | ok l =>
          refine Reads.bind (compiled_reads decodeFault_readFault ⟨l, hl⟩) fun acc hacc => ?_
          exact readLayout_reads decodeFault_readFault decodeFault_setterFault
            (readObject_reads decodeFault_readFault decodeFault_setterFault k)
            (fun a ha => (hacc a ha).1) (fun a ha => (hacc a ha).2.1) (fun a ha => (hacc a ha).2.2)
            target rfl
      | error err =>
          exact Reads.bind (compiled_reads_error hl (decodeFault_list hp (List.mem_singleton_self t) hl))
            fun _ h => h.elim
  | converter c => exact readValue_reads_root hp k

theorem decodeRootDyn_reads
    {p : RootPlan} (hp : freshPlan cat o t .dynamic = .ok p) (target : Value) (k : Nat) :
    Reads (Session.FaithfulOver cat o) (DecodeFault cat o t .dynamic ver) (k + 1)
      (decodeRootDyn t target (readObject k) ver p) fun _ => True := by
  cases p with
  | object =>
      show Reads _ _ _ (readDynamicInto (readObject k) t ⟨t, target⟩ ver) _
      cases hl : freshList cat o t ver with
      | ok l =>
          exact readDynamicInto_reads decodeFault_readFault decodeFault_setterFault
            (readObject_reads decodeFault_readFault decodeFault_setterFault k) ⟨l, hl⟩ _
      | error err =>
          exact readDynamicInto_reads_error hl (decodeFault_list hp (List.mem_singleton_self t) hl)
            decodeFault_readFault _ _
  | converter c => exact readValue_reads_root hp k

end Roots

/-! ## The entry points -/

theorem deserializeInto_faults
    (cat : Catalog) (o : Options) (t : Ty) (target : Value) (input : List UInt8) {err : Error}
    (h : ((Session.new cat o).run (deserializeInto t target) input).1 = .error err) :
    DecodeFault cat o t .compiled (o.decodingVersion input) err := by
  rw [Session.run_fst, deserializeInto_eq] at h
  exact header_then_within_bound (fun k => Reads.bind (rootPlan_reads (k + 1)) fun _ hp =>
    decodeRoot_reads hp target k) h

theorem deserializeDyn_none
    (t : Ty) :
    deserializeDyn t none = defaultOf t >>= fun v => deserializeDyn t (some ⟨t, v⟩) := by
  simp only [deserializeDyn, pure_bind]

theorem deserializeDyn_other
    {t ty : Ty} (hty : ty ≠ t) (v : Value) (m : Machine) :
    (deserializeDyn t (some ⟨ty, v⟩)).run m =
      .error (Error.mismatch t.name "a value of another type") m := by
  simp only [deserializeDyn, pure_bind]
  rw [if_neg (by simpa using hty)]
  rfl

/-- Decoding through the dynamic entry point on a fresh serializer fails only with a fault of
decoding, from every initial value. -/
theorem deserializeDyn_faults
    (cat : Catalog) (o : Options) (t : Ty) (initial : Option Typed) (input : List UInt8)
    {err : Error} (h : ((Session.new cat o).run (deserializeDyn t initial) input).1 = .error err) :
    DecodeFault cat o t .dynamic (o.decodingVersion input) err := by
  rw [Session.run_fst] at h
  have hsome : ∀ ty v, answer ((deserializeDyn t (some ⟨ty, v⟩)).run
      ((Session.new cat o).machine input none)) = .error err →
      DecodeFault cat o t .dynamic (o.decodingVersion input) err := by
    intro ty v hv
    by_cases hty : ty = t
    · subst hty
      rw [deserializeDyn_eq] at hv
      exact header_then_within_bound (fun k => Reads.bind (rootPlan_reads (k + 1)) fun _ hp =>
        decodeRootDyn_reads hp v k) hv
    · rw [deserializeDyn_other hty] at hv
      cases hv
      exact decodeFault_readFault _ rfl
  cases initial with
  | some i => exact hsome i.ty i.val h
  | none =>
      rw [deserializeDyn_none, EStateM.run_bind] at h
      exact hsome t _ h

end Run

open Run

/-- Decoding arbitrary bytes is safe. On a fresh serializer, for every type and input,
decoding through the compiled entry point into any target, and through the dynamic one from
any initial value, gives a value or fails with a fault of decoding at the input's stream
version: a read fault, an error of one of the catalog's setters, or a configuration error of
the root plan or of a mapping list, which the input has no part in. It never runs out of
depth. And every count accepted for items of at least `min` bytes leaves room for them all. -/
theorem decoding_fails_only_on_faults
    (cat : Catalog) (o : Options) (t : Ty) (input : List UInt8) :
    (∀ target err, ((Session.new cat o).run (deserializeInto t target) input).1 = .error err →
        DecodeFault cat o t .compiled (o.decodingVersion input) err) ∧
      (∀ initial err, ((Session.new cat o).run (deserializeDyn t initial) input).1 = .error err →
        DecodeFault cat o t .dynamic (o.decodingVersion input) err) ∧
      ∀ min r n r', (Take.count min).run r = .ok n r' → n * min ≤ r'.remaining :=
  ⟨fun target _ h => deserializeInto_faults cat o t target input h,
    fun initial _ h => deserializeDyn_faults cat o t initial input h,
    fun _ _ _ _ h => Take.count_fits h⟩

/-- A tree cut off inside its first child fails as the input ends, which is a read fault. -/
theorem cut_tree_fails_on_read :
    ((Session.new Sample.catalog {}).run (deserializeInto (Sample.obj "Tree")
        (Sample.catalog.default (Sample.obj "Tree"))) [0, 1, 0, 0, 0, 0x41, 0, 1, 0, 0, 0, 0]).1 =
        .error (.codec (.endOfInput 1)) ∧
      DecodeFault Sample.catalog {} (Sample.obj "Tree") .compiled
        (Options.decodingVersion {} [0, 1, 0, 0, 0, 0x41, 0, 1, 0, 0, 0, 0]) (.codec (.endOfInput 1)) := by
  have hmap : ((Session.new Sample.catalog {}).run (deserializeInto (Sample.obj "Tree")
      (Sample.catalog.default (Sample.obj "Tree"))) [0, 1, 0, 0, 0, 0x41, 0, 1, 0, 0, 0, 0]).1.map
        (fun _ => ()) = .error (.codec (.endOfInput 1)) := by
    decide +kernel
  generalize hr : ((Session.new Sample.catalog {}).run (deserializeInto (Sample.obj "Tree")
    (Sample.catalog.default (Sample.obj "Tree"))) [0, 1, 0, 0, 0, 0x41, 0, 1, 0, 0, 0, 0]).1 = r
    at hmap
  cases r with
  | ok v => cases hmap
  | error e =>
      cases hmap
      exact ⟨rfl, (decoding_fails_only_on_faults _ _ _ _).1 _ _ hr⟩

/-- A type with no typed accessor for its member fails to decode through the compiled engine
with an internal error, before it reads its value. -/
theorem broken_accessor_fails_decoding :
    ((Session.new Sample.catalog {}).run (deserializeInto (Sample.obj "Broken1")
      (Sample.catalog.default (Sample.obj "Broken1"))) [0x4d, 0x43, 0x56, 0x48, 0x00, 0x09]).1.map
        (fun _ => ()) = .error (.internal (.noTypedAccessor "Broken1.a" 0)) := by
  decide +kernel

end ObjectWire
