import ObjectWire.Proofs.ObjectRoundTrip
/-!
# Decoding what a serializer wrote

A serializer decodes the stream it wrote, followed by any bytes at all, as the image of the
value it wrote (`Image.root`), and on success its reader stops just after the stream. The
stream is the header, which reads back as the writer's version, then the root along the plan
a fresh serializer makes for its type: an object root through the compiled layout of its type,
stored into the type's default; any other root through the converter chosen for it.

The image is not the value itself in general: a member without setter is read and dropped and
keeps the default, a custom converter gives its own read of its own write, a segment keeps
only its run, and a map is rebuilt from its entries in the order they were written.

The law needs the catalog's getters to hand out values of their types, as those of types
declared with stored fields do (`Catalog.gettersFit_of_fields`).

**Results.**
* `Run.encodeRoot_roundTrips`: the root after the header, at every reader fuel.
* `Run.deserializeInto_readsOff`: the whole stream, header first.
* `serializer_decodes_its_stream_as_the_image`: the serializer that wrote a stream decodes it,
  and anything after it, as the image of the value.
* `point_stream_reads_back_without_its_read_only_member`: the image is not the value: a point
  reads back without its read-only `y`.
-/

namespace ObjectWire
namespace Run

section Root

variable {α : Type} {cat : Catalog} {o : Options}

theorem freshPlan_chosen
    {t : Ty} {e : Engine} {c : Converter} (h : freshPlan cat o t e = .ok (.converter c)) :
    ∃ r, Resolve.Chosen o.registry t r c := by
  cases ht : t.isObject with
  | true =>
      rw [freshPlan_object cat o ht] at h
      cases h
  | false =>
      obtain ⟨m', hrun⟩ := answer_eq_ok h
      obtain ⟨c', hc', hres⟩ := rootPlan_run_converter ht rfl hrun
      cases hc'
      exact ⟨_, Resolve.chosen_of_resolve hres⟩

/-- The root a serializer at work writes after the header reads back, at every fuel of the
object reader, as its image: along the plan a fresh serializer makes for its type, an object
root through the compiled layout of its type into the default, any other root through its
converter with its null flag. -/
theorem encodeRoot_roundTrips
    (hg : cat.GettersFit) {t : Ty} {v : Value} (hv : cat.Fits t v) (fr : Nat) :
    RoundTrips cat o fr (rootPlan t .compiled >>= encodeRoot t v o.version)
      (rootPlan t .compiled >>= decodeRoot t (cat.default t) (readObject fr) o.version)
      (Image.root cat o t v) := by
  have happ := writeObject_appends (writerFuel v)
  have hsim := writeObject_sim (Machine.twins_engineRel cat o) (writerFuel v)
  have hobj := writeObject_roundTrips (o := o) hg (writerFuel v) fr
  refine RoundTrips.fresh_bind (rootPlan_answers_freshly t .compiled) fun p hp => ?_
  cases p with
  | object =>
      simp only [encodeRoot, decodeRoot, objectWriterFor]
      rw [← bind_assoc]
      refine RoundTrips.fresh_bind (compiled_answers_freshly t o.version) fun acc hacc => ?_
      obtain ⟨l, hl, hacc'⟩ := Except.bind_eq_ok_inv hacc
      exact (writeLayout_roundTrips hg happ hsim hobj hl hacc' hv (cat.default t)).mono
        (Nat.le_succ fr)
  | converter c =>
      obtain ⟨r, hchosen⟩ := freshPlan_chosen hp
      exact ((hchosen.roundTrips happ hsim hobj).value t ⟨t, v⟩ _ hv).mono (Nat.le_succ fr)

/-- A stream's header, read by a serializer faithful over the options it was written with,
gives back their version and moves past exactly its bytes. -/
theorem streamVersion_readsOff
    (n : Nat) :
    ReadsOff cat o n (headerBytes o.encoding o.version) streamVersion (.ok o.version) := by
  intro m rest hs henc hdrop _
  have hheader : headerBytes m.reader.encoding o.version = headerBytes o.encoding o.version := by
    rw [henc]
  have hread := readHeader_headerBytes o.version (by rw [hheader]; exact hdrop)
  rw [hheader] at hread
  have hown : m.session.options.version = o.version := by rw [hs.options]
  cases hv : o.version with
  | none =>
      rw [hv] at hread hown
      simp only [streamVersion, EStateM.run_bind, take_run_ok hread, options_run, log_run,
        HeaderRead.ofVersion]
      exact ⟨by rw [hown], hs.refresh (Session.refresh_logs _ _), rfl⟩
  | some w =>
      rw [hv] at hread
      simp only [streamVersion, EStateM.run_bind, take_run_ok hread, options_run, log_run,
        HeaderRead.ofVersion]
      exact ⟨rfl, hs.refresh (Session.refresh_logs _ _), rfl⟩

theorem ReadsOff.objectReader_bind
    {n : Nat} {b : List UInt8} {f : ObjectReader → Run α} {x : Except Error α}
    (h : ∀ fr, ReadsOff cat o fr b (f (readObject fr)) x) :
    ReadsOff cat o n b (objectReader >>= f) x := by
  intro m rest hs henc hdrop _
  rw [EStateM.run_bind, objectReader_run]
  exact h _ m rest hs henc hdrop (by simp only [Reader.remaining]; omega)

theorem deserializeInto_readsOff
    {t : Ty} {v : Value} {b : List UInt8} (n : Nat)
    (hroot : ∀ fr, ReadsOff cat o fr b
      (rootPlan t .compiled >>= decodeRoot t (cat.default t) (readObject fr) o.version)
      (Image.root cat o t v)) :
    ReadsOff cat o n (headerBytes o.encoding o.version ++ b) (deserializeInto t (cat.default t))
      (Image.root cat o t v) := by
  rw [deserializeInto_eq]
  exact ReadsOff.bind (y := fun _ => Image.root cat o t v) (streamVersion_readsOff n)
    (fun ver hver => by
      cases hver
      exact ReadsOff.objectReader_bind hroot)
    (Nat.le_add_right n _)

theorem serialize_run_header
    {t : Ty} {v : Value} {m : Machine}
    (h : (serialize t v).run ((Session.new cat o).machine [] none) = .ok () m) :
    ∃ m₁, m₁.Writing cat o ∧ m₁.writer.bytes = headerBytes o.encoding o.version ∧
      (rootPlan t .compiled >>= encodeRoot t v o.version).run m₁ = .ok () m := by
  rw [serialize_eq] at h
  obtain ⟨o', m', ho, h⟩ := run_bind_ok h
  rw [options_run] at ho
  cases ho
  obtain ⟨u, m₁, hhead, h⟩ := run_bind_ok h
  rw [emit_run_ok (writeHeader_run rfl _)] at hhead
  cases hhead
  refine ⟨_, ⟨⟨Session.faithful_new cat o, rfl, rfl⟩, rfl, rfl⟩, ?_, h⟩
  rw [Writer.bytes_append]
  rfl

end Root

end Run

/-! ## Declared catalogs -/

section Declared

variable {cat : Catalog}

theorem Declare.fieldMember_get
    {f : FieldDecl} {g : Getter} (h : (Declare.fieldMember f).access.get = some g) :
    g = fun o => .borrowed ⟨f.ty, (o.field? f.name).getD .unit⟩ := by
  unfold Declare.fieldMember at h
  split at h
  · cases h
  · simp only [Declare.fieldAccess, Option.some.injEq] at h
    exact h.symm

theorem Declare.fieldTyped_get
    {f : FieldDecl} {g : Getter} (h : (Declare.fieldTyped f).get = some g) :
    g = fun o => .borrowed ⟨f.ty, (o.field? f.name).getD .unit⟩ := by
  unfold Declare.fieldTyped at h
  split at h
  · cases h
  · simp only [Declare.fieldAccess, Option.some.injEq] at h
    exact h.symm

theorem Catalog.Fits.stored
    {p : String} {sch : ObjectSchema} (hsch : cat.object? p = some sch) {name : String} {t : Ty}
    (hf : (name, t) ∈ sch.fields) {o : Value} (ho : cat.Fits (.object p) o) :
    cat.Fits t ((o.field? name).getD .unit) := by
  cases ho with
  | object hsch' hsome hfits =>
      rw [hsch] at hsch'
      cases hsch'
      obtain ⟨x, hx⟩ := Option.isSome_iff_exists.1 (hsome _ hf)
      rw [hx]
      exact hfits _ hf x hx

/-- A catalog whose object types are declared with stored fields only hands out, through every
getter, type-erased or typed, a value of the member's type: each getter borrows a stored
field. -/
theorem Catalog.gettersFit_of_fields
    (h : ∀ sch ∈ cat.objects, ∃ fields, sch = ObjectSchema.declare sch.path fields) :
    cat.GettersFit where
  members := by
    intro p sch hsch info hinfo g hg o ho
    obtain ⟨fields, hdecl⟩ := h sch (List.mem_of_find?_eq_some hsch)
    rw [hdecl] at hinfo
    simp only [ObjectSchema.declare, List.map_nil, List.append_nil, List.mem_map] at hinfo
    obtain ⟨f, hf, rfl⟩ := hinfo
    rw [Declare.fieldMember_get hg]
    refine ho.stored hsch ?_
    rw [hdecl]
    exact List.mem_map.2 ⟨f, hf, rfl⟩
  typed := by
    intro p sch hsch tm htm g hg o ho
    obtain ⟨fields, hdecl⟩ := h sch (List.mem_of_find?_eq_some hsch)
    rw [hdecl] at htm
    simp only [ObjectSchema.declare, List.map_nil, List.append_nil, List.mem_map] at htm
    obtain ⟨f, hf, rfl⟩ := htm
    rw [Declare.fieldTyped_get hg]
    refine ho.stored hsch ?_
    rw [hdecl]
    exact List.mem_map.2 ⟨f, hf, rfl⟩

end Declared

/-! ## Decoding a stream -/

open Run in
/-- The serializer that wrote a value decodes its stream, followed by any bytes at all, as the
image of the value, and on success its reader stops just after the stream. The catalog's
getters hand out values of their types, and the value is one of its type. -/
theorem serializer_decodes_its_stream_as_the_image
    {cat : Catalog} {o : Options} (hg : cat.GettersFit) {t : Ty} {v : Value} (hv : cat.Fits t v)
    {m : Machine} (hser : (Session.new cat o).run (serialize t v) = (.ok (), m))
    (rest : List UInt8) :
    (m.session.run (deserializeInto t (cat.default t)) (m.writer.bytes ++ rest)).1 =
        Image.root cat o t v ∧
      ∀ x, Image.root cat o t v = .ok x →
        (m.session.run (deserializeInto t (cat.default t)) (m.writer.bytes ++ rest)).2.reader.pos =
          m.writer.bytes.length := by
  obtain ⟨m₁, hm₁, hheader, hrun⟩ := serialize_run_header (Session.run_eq_ok hser)
  obtain ⟨hm, b, hb, -⟩ := encodeRoot_roundTrips hg hv 0 m₁ m hm₁ hrun
  have hroot : ∀ fr, ReadsOff cat o fr b
      (rootPlan t .compiled >>= decodeRoot t (cat.default t) (readObject fr) o.version)
      (Image.root cat o t v) := fun fr => by
    obtain ⟨-, b', hb', hread⟩ := encodeRoot_roundTrips hg hv fr m₁ m hm₁ hrun
    rw [hb] at hb'
    rw [List.append_cancel_left hb']
    exact hread
  have hbytes : m.writer.bytes = headerBytes o.encoding o.version ++ b := by
    rw [hb, hheader]
  have hdecode := deserializeInto_readsOff ((m.writer.bytes ++ rest).length + 1) hroot
  rw [← hbytes] at hdecode
  have hend := hdecode (m.session.machine (m.writer.bytes ++ rest) none) rest hm.session
    (by
      show m.session.options.encoding = o.encoding
      rw [hm.session.options])
    (by simp [Session.machine, Reader.new])
    (by simp [Session.machine, Reader.new, Reader.remaining])
  rw [Session.run_fst, Session.run_snd]
  cases hres : (deserializeInto t (cat.default t)).run (m.session.machine (m.writer.bytes ++ rest) none) with
  | ok a m' =>
      rw [hres] at hend
      obtain ⟨hx, -, hrd⟩ := hend
      refine ⟨hx.symm, fun _ _ => ?_⟩
      simp [endState, hrd, Session.machine, Reader.new]
  | error e m' =>
      rw [hres] at hend
      refine ⟨hend.symm, fun x hx => ?_⟩
      rw [hend] at hx
      cases hx

open Run in
/-- The declared order types hand out values of their types, and the Oslo address, written by
a serializer with default options and decoded with two more bytes after it, decodes as its
image, the reader stopping after the stream. -/
theorem oslo_address_decodes_as_its_image :
    orderCatalog.GettersFit ∧
      orderCatalog.Fits (Sample.obj "Address") (.object [("city", .str "Oslo"), ("zip", .nat 150)]) ∧
      (Session.new orderCatalog {}).run
          (serialize (Sample.obj "Address") (.object [("city", .str "Oslo"), ("zip", .nat 150)])) =
        (.ok (), ((Session.new orderCatalog {}).run
          (serialize (Sample.obj "Address") (.object [("city", .str "Oslo"), ("zip", .nat 150)]))).2) ∧
      (((Session.new orderCatalog {}).run
          (serialize (Sample.obj "Address") (.object [("city", .str "Oslo"), ("zip", .nat 150)]))).2.session.run
          (deserializeInto (Sample.obj "Address") (orderCatalog.default (Sample.obj "Address")))
          (((Session.new orderCatalog {}).run
            (serialize (Sample.obj "Address") (.object [("city", .str "Oslo"), ("zip", .nat 150)]))).2.writer.bytes ++
              [7, 7])).1 =
        Image.root orderCatalog {} (Sample.obj "Address") (.object [("city", .str "Oslo"), ("zip", .nat 150)]) ∧
      ∀ x, Image.root orderCatalog {} (Sample.obj "Address")
          (.object [("city", .str "Oslo"), ("zip", .nat 150)]) = .ok x →
        (((Session.new orderCatalog {}).run
          (serialize (Sample.obj "Address") (.object [("city", .str "Oslo"), ("zip", .nat 150)]))).2.session.run
          (deserializeInto (Sample.obj "Address") (orderCatalog.default (Sample.obj "Address")))
          (((Session.new orderCatalog {}).run
            (serialize (Sample.obj "Address") (.object [("city", .str "Oslo"), ("zip", .nat 150)]))).2.writer.bytes ++
              [7, 7])).2.reader.pos =
          ((Session.new orderCatalog {}).run
            (serialize (Sample.obj "Address") (.object [("city", .str "Oslo"), ("zip", .nat 150)]))).2.writer.bytes.length := by
  have hg : orderCatalog.GettersFit := Catalog.gettersFit_of_fields fun sch hsch => by
    simp only [orderCatalog, List.mem_cons, List.not_mem_nil, or_false] at hsch
    rcases hsch with rfl | rfl | rfl <;> exact ⟨_, rfl⟩
  have hv : orderCatalog.Fits (Sample.obj "Address") (.object [("city", .str "Oslo"), ("zip", .nat 150)]) := by
    refine Catalog.Fits.object (rfl : orderCatalog.object? (Sample.path "Address") = some Sample.address)
      (by decide) fun f hf x hx => ?_
    simp only [Sample.address, Sample.declare, ObjectSchema.declare, Sample.fld, List.map_cons,
      List.map_nil, List.mem_cons, List.not_mem_nil, or_false] at hf
    rcases hf with rfl | rfl
    · cases hx
      exact .string
    · cases hx
      exact .scalar (by decide)
  have hok : ((Session.new orderCatalog {}).run
      (serialize (Sample.obj "Address") (.object [("city", .str "Oslo"), ("zip", .nat 150)]))).1.toBool = true := by
    decide +kernel
  have hser : (Session.new orderCatalog {}).run
      (serialize (Sample.obj "Address") (.object [("city", .str "Oslo"), ("zip", .nat 150)])) =
        (.ok (), ((Session.new orderCatalog {}).run
          (serialize (Sample.obj "Address") (.object [("city", .str "Oslo"), ("zip", .nat 150)]))).2) := by
    generalize (Session.new orderCatalog _).run _ = r at hok ⊢
    obtain ⟨_ | _, m⟩ := r <;> simp_all [Except.toBool]
  exact ⟨hg, hv, hser, serializer_decodes_its_stream_as_the_image hg hv hser [7, 7]⟩

open Run in
/-- Decoding what a serializer wrote does not give the value back in general: `Point.y` has a
getter and no setter, so it is written, then read and dropped, and the point
`{x: 3, y: -4, anchor: Oslo}` reads back with the default `y = 0`. -/
theorem point_stream_reads_back_without_its_read_only_member :
    ((Session.new Sample.catalog {}).run (serialize (Sample.obj "Point") (.object [("x", .int 3),
        ("y", .int (-4)), ("anchor", .object [("city", .str "Oslo"), ("zip", .nat 150)])]))).2.writer.bytes =
        [0x4d, 0x43, 0x56, 0x48, 0, 3, 0, 0, 0, 0xfc, 0xff, 0xff, 0xff, 0, 0, 4, 0, 0, 0,
          0x4f, 0x73, 0x6c, 0x6f, 0x96, 0, 0, 0] ∧
      (((Session.new Sample.catalog {}).run (serialize (Sample.obj "Point") (.object [("x", .int 3),
          ("y", .int (-4)), ("anchor", .object [("city", .str "Oslo"), ("zip", .nat 150)])]))).2.session.run
        (deserializeInto (Sample.obj "Point") (Sample.catalog.default (Sample.obj "Point")))
        [0x4d, 0x43, 0x56, 0x48, 0, 3, 0, 0, 0, 0xfc, 0xff, 0xff, 0xff, 0, 0, 4, 0, 0, 0,
          0x4f, 0x73, 0x6c, 0x6f, 0x96, 0, 0, 0]).1.map
        (fun v => (v.field? "y").map Value.toInt) = .ok (some 0) := by
  decide +kernel

end ObjectWire
