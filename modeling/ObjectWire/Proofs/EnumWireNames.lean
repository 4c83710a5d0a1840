import ObjectWire.Derive.Tables
import ObjectWire.Proofs.OptionLayers
/-!
# Enums travel by their wire names

The enum derive reads an enum into a `WireTable`, each variant with its wire name: the last
`rename` of its attributes, else its identifier. It accepts exactly the enums without generic
parameters, with at least one variant, all without fields, whose attributes are well formed
and whose wire names are pairwise distinct (`WireTable.ofItem_eq_ok`); the table lists the
variants in declaration order with those names. The check for a repeated wire name is made
variant by variant against the names read so far (`WireTable.collect_eq_ok`).

The derived `name_of` gives a variant's wire name and `from_name` the variant of the first arm
with a wire name; with distinct wire names that arm is the variant's own, so `from_name`
inverts `name_of`, and a string that is no wire name has no arm (`WireTable.fromName_nameOf`,
`WireTable.fromName_of_not_mem`). The enum converter searches the same table the same way: it
writes a variant as its wire name, reads every variant back, and fails on a stream naming any
other string with the data error that names the string (`readsBack_enum`,
`readValue_enum_unknown`).

**Results.**
* `derived_enums_travel_by_wire_name`: all of it, for every declaration.
-/

namespace ObjectWire

/-- In a table whose second components are distinct, the first entry with an entry's second
component is that entry. -/
theorem find?_snd_of_mem
    {l : List (String × String)} (hl : (l.map Prod.snd).Nodup) {p : String × String} (hp : p ∈ l) :
    l.find? (·.2 == p.2) = some p := by
  induction l with
  | nil => simp at hp
  | cons q l ih =>
      rw [List.map_cons, List.nodup_cons] at hl
      by_cases hq : q.2 = p.2
      · have hqp : q = p := by
          rcases List.mem_cons.1 hp with rfl | hp'
          · rfl
          · exact absurd (hq ▸ List.mem_map_of_mem (f := Prod.snd) hp') hl.1
        simp [hqp]
      · have hp' : p ∈ l := by
          rcases List.mem_cons.1 hp with rfl | hp'
          · exact absurd rfl hq
          · exact hp'
        simp [hq, ih hl.2 hp']

namespace Derive

/-- The wire names of variants, read one by one. -/
def wireNamesOf (vs : List Variant) : Except String (List String) :=
  vs.mapM fun v => wireName v.attrs v.name

theorem wireNamesOf_cons
    {v : Variant} {vs : List Variant} {ws : List String} :
    wireNamesOf (v :: vs) = .ok ws ↔
      ∃ w ws', wireName v.attrs v.name = .ok w ∧ wireNamesOf vs = .ok ws' ∧ ws = w :: ws' := by
  unfold wireNamesOf
  rw [List.mapM_cons]
  cases wireName v.attrs v.name with
  | error e => simp [bind, Except.bind]
  | ok w =>
      cases vs.mapM fun v => wireName v.attrs v.name with
      | error e => simp [bind, Except.bind]
      | ok ws' =>
          simp only [bind, Except.bind, pure, Except.pure, Except.ok.injEq]
          constructor
          · intro h
            exact ⟨w, ws', rfl, rfl, h.symm⟩
          · rintro ⟨_, _, h₁, h₂, rfl⟩
            cases h₁
            cases h₂
            rfl

theorem wireNamesOf_length
    {vs : List Variant} {ws : List String} (h : wireNamesOf vs = .ok ws) :
    ws.length = vs.length := by
  induction vs generalizing ws with
  | nil =>
      cases h
      rfl
  | cons v vs ih =>
      obtain ⟨w, ws', -, hws', rfl⟩ := wireNamesOf_cons.1 h
      simp [ih hws']

theorem wireNames_zip
    {vs : List Variant} {ws : List String} (h : wireNamesOf vs = .ok ws) (owner : String) :
    WireTable.wireNames { owner, variants := (vs.map Variant.name).zip ws } = ws := by
  simp [WireTable.wireNames, List.map_snd_zip, wireNamesOf_length h]

namespace WireTable

theorem any_snd_beq_iff
    {acc : List (String × String)} {w : String} :
    acc.any (·.2 == w) = true ↔ w ∈ acc.map Prod.snd := by
  simp only [List.any_eq_true, beq_iff_eq, List.mem_map]

/-- Collecting variants after those already read succeeds exactly when every variant has no
fields, every wire name is well formed, and the wire names are distinct among themselves and
from those read so far; the table then grows by the variants with their wire names. -/
theorem collect_eq_ok
    {vs : List Variant} {acc res : List (String × String)} :
    collect vs acc = .ok res ↔
      (∀ v ∈ vs, v.fields = .unit) ∧ ∃ ws, wireNamesOf vs = .ok ws ∧ ws.Nodup ∧
        (∀ w ∈ ws, w ∉ acc.map Prod.snd) ∧ res = acc ++ (vs.map Variant.name).zip ws := by
  induction vs generalizing acc with
  | nil =>
      simp only [collect, List.not_mem_nil, IsEmpty.forall_iff, implies_true, true_and]
      constructor
      · intro h
        cases h
        exact ⟨[], rfl, List.nodup_nil, by simp, by simp⟩
      · rintro ⟨ws, hws, -, -, rfl⟩
        cases hws
        simp
        rfl
  | cons v vs ih =>
      cases hf : v.fields with
      | named fs | unnamed fs =>
          simp [collect, hf, bind, Except.bind, throw, throwThe, MonadExceptOf.throw]
      | unit =>
          cases hw : wireName v.attrs v.name with
          | error e =>
              simp only [collect, hf, hw, wireNamesOf_cons]
              simp [bind, Except.bind]
          | ok w =>
              simp only [collect, hf, hw, wireNamesOf_cons]
              by_cases hd : acc.any (·.2 == w) = true
              · have hmem := any_snd_beq_iff.1 hd
                simp only [hd, bind, Except.bind, throw, throwThe, MonadExceptOf.throw, if_true]
                constructor
                · intro h
                  cases h
                · rintro ⟨-, ws, ⟨w', ws', hw', -, rfl⟩, -, hfresh, -⟩
                  cases hw'
                  exact (hfresh w List.mem_cons_self hmem).elim
              · simp only [hd, bind, Except.bind, Bool.false_eq_true, if_false]
                rw [ih]
                constructor
                · rintro ⟨hunit, ws', hws', hnodup, hfresh, rfl⟩
                  refine ⟨?_, w :: ws', ⟨w, ws', rfl, hws', rfl⟩, ?_, ?_, by simp⟩
                  · intro u hu
                    rcases List.mem_cons.1 hu with rfl | hu
                    · exact hf
                    · exact hunit u hu
                  · refine List.nodup_cons.2 ⟨fun hw' => hfresh w hw' (by simp), hnodup⟩
                  · intro u hu
                    rcases List.mem_cons.1 hu with rfl | hu
                    · exact fun hmem => hd (any_snd_beq_iff.2 hmem)
                    · exact fun hmem => hfresh u hu (by simp [hmem])
                · rintro ⟨hunit, _, ⟨w', ws', hw', hws', rfl⟩, hnodup, hfresh, rfl⟩
                  cases hw'
                  rw [List.nodup_cons] at hnodup
                  refine ⟨fun u hu => hunit u (List.mem_cons_of_mem _ hu), ws', hws', hnodup.2,
                    ?_, by simp⟩
                  intro u hu hmem
                  rw [List.map_append, List.mem_append] at hmem
                  rcases hmem with hmem | hmem
                  · exact hfresh u (List.mem_cons_of_mem _ hu) hmem
                  · simp only [List.map_cons, List.map_nil, List.mem_singleton] at hmem
                    exact hnodup.1 (hmem ▸ hu)

/-- What the enum derive accepts, and the table it declares. -/
theorem ofItem_eq_ok
    {item : Item} {t : WireTable} :
    ofItem item = .ok t ↔
      item.params = 0 ∧ ∃ vs ws, item.body = .enum vs ∧ vs ≠ [] ∧ (∀ v ∈ vs, v.fields = .unit) ∧
        wireNamesOf vs = .ok ws ∧ ws.Nodup ∧
        t = { owner := item.name, variants := (vs.map Variant.name).zip ws } := by
  unfold ofItem
  by_cases hp : item.params = 0
  · cases hb : item.body with
    | enum vs =>
        by_cases hvs : vs = []
        · simp [hp, hvs, bind, Except.bind]
        · cases hc : collect vs [] with
          | error e =>
              simp only [hp, hvs, hc, bne_self_eq_false, Bool.false_eq_true, if_false,
                List.isEmpty_iff, bind, Except.bind]
              constructor
              · intro h
                cases h
              · rintro ⟨-, vs', ws, hvs', -, hunit, hws, hnodup, -⟩
                cases hvs'
                have hok : collect vs [] = .ok ([] ++ (vs.map Variant.name).zip ws) :=
                  collect_eq_ok.2 ⟨hunit, ws, hws, hnodup, by simp, rfl⟩
                rw [hc] at hok
                cases hok
          | ok res =>
              obtain ⟨hunit, ws, hws, hnodup, -, hres⟩ := collect_eq_ok.1 hc
              simp only [List.nil_append] at hres
              subst hres
              simp only [hp, hvs, hc, bne_self_eq_false, Bool.false_eq_true, if_false,
                List.isEmpty_iff, bind, Except.bind, pure, Except.pure, Except.ok.injEq]
              constructor
              · rintro rfl
                exact ⟨trivial, vs, ws, rfl, hvs, hunit, hws, hnodup, rfl⟩
              · rintro ⟨-, vs', ws', hvs', -, -, hws', -, rfl⟩
                cases hvs'
                rw [hws] at hws'
                cases hws'
                rfl
    | struct fs => simp [hp]
    | union fs => simp [hp]
  · simp [hp, bind, Except.bind]

theorem fromName_nameOf
    (t : WireTable) (hnodup : t.wireNames.Nodup) {x : String} (hx : x ∈ t.variants.map Prod.fst) :
    ∃ w, t.nameOf x = some w ∧ t.fromName w = some x := by
  obtain ⟨p, hfind⟩ : ∃ p, t.variants.find? (·.1 == x) = some p := by
    obtain ⟨q, hq, rfl⟩ := List.mem_map.1 hx
    exact Option.isSome_iff_exists.1 (List.find?_isSome.2 ⟨q, hq, by simp⟩)
  have hpx : p.1 = x := by simpa using List.find?_some hfind
  refine ⟨p.2, by simp [nameOf, hfind], ?_⟩
  simp [fromName, find?_snd_of_mem hnodup (List.mem_of_find?_eq_some hfind), hpx]

theorem fromName_of_not_mem
    (t : WireTable) {s : String} (hs : s ∉ t.wireNames) :
    t.fromName s = none := by
  simp only [fromName, Option.map_eq_none_iff, List.find?_eq_none]
  intro p hp hps
  exact hs (List.mem_map.2 ⟨p, hp, by simpa using hps⟩)

end WireTable
end Derive

namespace Run

section Enum

variable {ty : Ty} {variants : List (String × String)}

theorem target_enum : (Converter.enum ty variants).target = ty := rfl

theorem writeValue_enum_of_find
    (ow : ObjectWriter) (ctx : Ctx) {x x' w : String}
    (h : variants.find? (·.1 == x) = some (x', w)) :
    writeValue ow (.enum ty variants) ty ⟨ty, .variant x⟩ ctx = emit (Emit.string w) := by
  rw [writeValue_of_target ow target_enum]
  simp [Converter.handlesNull, writeBody, h]

theorem writeValue_enum_of_find_none
    (ow : ObjectWriter) (ctx : Ctx) {x : String} (h : variants.find? (·.1 == x) = none) :
    writeValue ow (.enum ty variants) ty ⟨ty, .variant x⟩ ctx = throw (Error.mismatch ty.name ty.name) := by
  rw [writeValue_of_target ow target_enum]
  simp [Converter.handlesNull, writeBody, h]

theorem readValue_enum
    (orr : ObjectReader) (ctx : Ctx) :
    readValue orr (.enum ty variants) ty ctx =
      (take Take.string >>= fun wire =>
        match variants.find? (·.2 == wire) with
        | some (n, _) => pure (.variant n)
        | none => throw (.data (.unknownEnumName ty.name wire))) := by
  rw [readValue_of_target orr target_enum]
  rfl

/-- With distinct wire names the enum converter reads back every variant it writes. -/
theorem readsBack_enum
    (ow : ObjectWriter) (orr : ObjectReader) (ctx : Ctx) (hnodup : (variants.map Prod.snd).Nodup)
    (x : String) :
    ReadsBack (writeValue ow (.enum ty variants) ty ⟨ty, .variant x⟩ ctx)
      (readValue orr (.enum ty variants) ty ctx) (.variant x) := by
  cases hfind : variants.find? (·.1 == x) with
  | none =>
      intro m m' hw
      rw [writeValue_enum_of_find_none ow ctx hfind] at hw
      cases hw
  | some p =>
      obtain ⟨x', w⟩ := p
      have hx : x' = x := by simpa using List.find?_some hfind
      have hback := find?_snd_of_mem hnodup (List.mem_of_find?_eq_some hfind)
      rw [writeValue_enum_of_find ow ctx hfind, readValue_enum, ← bind_pure_unit (x := emit (Emit.string w))]
      refine ReadsBack.bind (ReadsBack.string w) ?_
      simp only [hback, hx]
      exact ReadsBack.pure _

theorem readValue_enum_unknown
    (orr : ObjectReader) (ctx : Ctx) {m : Machine} {s : String} {rest : List UInt8}
    (hs : s ∉ variants.map Prod.snd) (hfit : (m.reader.encoding.encode s).length ≤ maxCount)
    (hdrop : m.reader.input.toList.drop m.reader.pos =
      countBytes (m.reader.encoding.encode s).length ++ (m.reader.encoding.encode s ++ rest)) :
    ∃ m', (readValue orr (.enum ty variants) ty ctx).run m = .error (.data (.unknownEnumName ty.name s)) m' := by
  have hread := take_run_ok (Take.string_run_of hfit hdrop (TextEncoding.decode_encode _ s))
  have hnone : variants.find? (·.2 == s) = none := by
    simp only [List.find?_eq_none]
    intro p hp hps
    exact hs (List.mem_map.2 ⟨p, hp, by simpa using hps⟩)
  rw [readValue_enum, EStateM.run_bind, hread]
  simp only [hnone]
  exact ⟨_, rfl⟩

end Enum

end Run

open Derive in
/-- Derived enums encode by a bijective wire name. The enum derive accepts a declaration
exactly when it is an enum without generic parameters, with at least one variant, all without
fields, with well-formed attributes and pairwise distinct wire names, and then declares its
variants with their wire names in order. For an accepted enum, `from_name` undoes `name_of` on
every variant and has no arm for any other string; the enum converter over its table reads
back every variant it writes, and a stream naming any other string fails with the data error
naming it. -/
theorem derived_enums_travel_by_wire_name
    (item : Item) :
    (∀ t, WireTable.ofItem item = .ok t ↔
      item.params = 0 ∧ ∃ vs ws, item.body = .enum vs ∧ vs ≠ [] ∧ (∀ v ∈ vs, v.fields = .unit) ∧
        wireNamesOf vs = .ok ws ∧ ws.Nodup ∧
        t = { owner := item.name, variants := (vs.map Variant.name).zip ws }) ∧
    ∀ t, WireTable.ofItem item = .ok t →
      (∀ x ∈ t.variants.map Prod.fst, ∃ w, t.nameOf x = some w ∧ t.fromName w = some x) ∧
      (∀ s, s ∉ t.wireNames → t.fromName s = none) ∧
      (∀ (ty : Ty) (ow : ObjectWriter) (orr : ObjectReader) (ctx : Ctx) (x : String),
        Run.ReadsBack (Run.writeValue ow (.enum ty t.variants) ty ⟨ty, .variant x⟩ ctx)
          (Run.readValue orr (.enum ty t.variants) ty ctx) (.variant x)) ∧
      (∀ (ty : Ty) (orr : ObjectReader) (ctx : Ctx) (m : Machine) (s : String) (rest : List UInt8),
        s ∉ t.wireNames → (m.reader.encoding.encode s).length ≤ maxCount →
        m.reader.input.toList.drop m.reader.pos =
          countBytes (m.reader.encoding.encode s).length ++ (m.reader.encoding.encode s ++ rest) →
        ∃ m', (Run.readValue orr (.enum ty t.variants) ty ctx).run m =
          .error (.data (.unknownEnumName ty.name s)) m') := by
  refine ⟨fun t => WireTable.ofItem_eq_ok, fun t ht => ?_⟩
  have hnodup : t.wireNames.Nodup := by
    obtain ⟨-, vs, ws, -, -, -, hws, hnodup, rfl⟩ := WireTable.ofItem_eq_ok.1 ht
    rw [wireNames_zip hws]
    exact hnodup
  exact ⟨fun x hx => t.fromName_nameOf hnodup hx, fun s hs => t.fromName_of_not_mem hs,
    fun ty ow orr ctx x => Run.readsBack_enum ow orr ctx hnodup x,
    fun ty orr ctx m s rest hs hfit hdrop => Run.readValue_enum_unknown orr ctx hs hfit hdrop⟩

/-- `Biome` as declared, with `Forest` renamed: `#[mapcode(rename = "DEEP_FOREST")]`. -/
def Derive.biomeDeclaration : Derive.Item :=
  { attrs := [], name := "Biome", params := 0
    body := .enum
      [⟨[], "Plains", .unit⟩,
       ⟨[{ path := ["mapcode"]
           args := .list .paren [.ident "rename", .punct '=' .alone, .literal "\"DEEP_FOREST\""] }],
         "Forest", .unit⟩,
       ⟨[], "Desert", .unit⟩] }

/-- The derive declares for `Biome` the table the catalog holds; `Forest` names no variant,
and the converter over that table reads `Forest` back through its wire name. -/
theorem biome_travels_by_wire_name :
    Derive.WireTable.ofItem Derive.biomeDeclaration =
        .ok { owner := "Biome", variants := Sample.biome.variants } ∧
      Derive.WireTable.fromName { owner := "Biome", variants := Sample.biome.variants } "Forest" = none ∧
      ∀ (ow : ObjectWriter) (orr : ObjectReader) (ctx : Ctx),
        Run.ReadsBack
          (Run.writeValue ow (.enum Sample.biomeTy Sample.biome.variants) Sample.biomeTy
            ⟨Sample.biomeTy, .variant "Forest"⟩ ctx)
          (Run.readValue orr (.enum Sample.biomeTy Sample.biome.variants) Sample.biomeTy ctx)
          (.variant "Forest") := by
  have hok : Derive.WireTable.ofItem Derive.biomeDeclaration =
      .ok { owner := "Biome", variants := Sample.biome.variants } := rfl
  have hbiome := (derived_enums_travel_by_wire_name Derive.biomeDeclaration).2 _ hok
  exact ⟨hok, hbiome.2.1 "Forest" (by decide), fun ow orr ctx =>
    hbiome.2.2.1 Sample.biomeTy ow orr ctx "Forest"⟩

end ObjectWire
