import Mathlib
import ObjectWire.Proofs.WriteAppends
import ObjectWire.Proofs.ConverterTrees
import ObjectWire.Proofs.MappingShape
import ObjectWire.Proofs.ScalarRoundTrip
/-!
# Every encoded element takes a byte

The readers of lists and maps guard their counts: a list of `n` elements needs at least `n`
bytes after its count, a map of `n` entries at least `2 n`. The guards are sound for what
the writers produce because no converter the resolver builds writes a value of its type in
less than a byte. Converters with a null flag (strings, byte arrays, lists, maps, options,
objects, and boxes over them) spend the flag; the others spend their body: a scalar its
fixed width, a custom converter its own encoding, an enum the count of its wire name, a pair
one byte for each half, and a box over a flagless converter what that converter spends. So a
written element takes at least one byte and a written entry at least two, and every count the
writers put before a list or a map passes the reader's guard.

A value of a type is one whose shape follows the type (`Ty.admits`): a scalar in range, a
string, a sequence, map or pair of values of its parts, an enum variant, an object. Writing
something else may spend nothing, as an integer written as a boolean does.

**Results.**
* `Run.Adds`: a computation that, when it succeeds, has appended at least `n` bytes; it composes
  along binds and loops (`Run.Adds.bind`, `Run.Adds.forIn`).
* `Resolve.Tree.bodyNonempty`: by induction on the tree, a flagless converter's body spends
  at least a byte.
* `writeValue_adds_of_resolve`: every converter the resolver builds spends a byte per value.
* `Run.writeBody_list_run_ok`, `Run.writeBody_dictionary_run_ok`: a list's count is followed by
  at least a byte per item, a map's by at least two per entry.
* `encoded_elements_are_never_empty`: values take a byte, pairs two, and list and map counts
  pass the readers' guards.
-/

namespace ObjectWire

/-! ## Values of a type -/

/-- Whether a value has the shape of a value of type `t`: a scalar in its type's range, a
string, the unit of the placeholder, an empty option or one holding a value of its inner
type, what a box holds, sequences, maps and pairs of values of their parts. An enum value is a
variant and an object value an object; the engines check them against their own types. -/
def Ty.admits : Ty → Value → Bool
  | .scalar s, v => s.holds v
  | .string, .str _ => true
  | .placeholder, .unit => true
  | .newtype _ s, v => s.holds v
  | .option _, .absent => true
  | .option t, .present x => t.admits x
  | .box t, v => t.admits v
  | .vec t, .list xs => xs.all t.admits
  | .deque t, .list xs => xs.all t.admits
  | .hashMap k v, .map es => es.all fun e => k.admits e.1 && v.admits e.2
  | .btreeMap k v, .map es => es.all fun e => k.admits e.1 && v.admits e.2
  | .pair a b, .pair x y => a.admits x && b.admits y
  | .enum _, .variant _ => true
  | .object _, .object _ => true
  | _, _ => false

/-- A scalar of its type is encoded in at least one byte. -/
theorem Scalar.length_encode_pos
    {s : Scalar} {v : Value} (h : s.holds v = true) :
    0 < (s.encode v).length := by
  cases v with
  | nat n =>
      obtain ⟨hs, w, hw⟩ : s.isUnsigned = true ∧ ∃ w, s.intWidth? = some w := by
        cases s <;> simp_all [Scalar.holds, Scalar.isUnsigned, Scalar.intWidth?]
      rw [(Scalar.unsigned_codec hs hw).2, length_leBytes]
      exact Scalar.intWidth_pos hw
  | int i =>
      obtain ⟨hs, w, hw⟩ : s.isSigned = true ∧ ∃ w, s.intWidth? = some w := by
        cases s <;> simp_all [Scalar.holds, Scalar.isSigned, Scalar.intWidth?]
      rw [(Scalar.signed_codec hs hw).2, length_leBytes]
      exact Scalar.intWidth_pos hw
  | bool b => cases s <;> simp_all [Scalar.holds, Scalar.encode]
  | f32 x => cases s <;> simp_all [Scalar.holds, Scalar.encode]
  | f64 x => cases s <;> simp_all [Scalar.holds, Scalar.encode, Binary64.toBytes_eq]
  | char c =>
      cases s <;> simp only [Scalar.holds, Bool.false_eq_true] at h
      simp only [Scalar.encode, Utf8.encodeChar]
      split_ifs <;> simp
  | _ => cases s <;> simp [Scalar.holds] at h

/-! ## Computations that append bytes -/

variable {α β γ : Type}

/-- A writing step that, when it succeeds, has appended at least `n` bytes to the sink. -/
def Emit.Adds (n : Nat) (e : Emit α) : Prop :=
  ∀ w a w', e.run w = .ok a w' → ∃ bs, w'.bytes = w.bytes ++ bs ∧ n ≤ bs.length

/-- A computation that, when it succeeds with `a`, has `P a` and has appended at least `n`
bytes to the sink. -/
def Run.Adds (n : Nat) (P : α → Prop) (f : Run α) : Prop :=
  ∀ m a m', f.run m = .ok a m' → P a ∧ ∃ bs, m'.writer.bytes = m.writer.bytes ++ bs ∧ n ≤ bs.length

theorem Writer.offer_bytes_of_kept
    {w : Writer} {bs : List UInt8} (h : (w.offer bs).2 = true) :
    (w.offer bs).1.bytes = w.bytes ++ bs := by
  unfold Writer.offer at h ⊢
  split
  · simp [Writer.bytes]
  · split
    · simp [Writer.bytes]
    · simp_all

namespace Emit.Adds

variable {n k : Nat}

theorem mono
    {e : Emit α} (h : Adds n e) (hk : k ≤ n) :
    Adds k e := by
  intro w a w' hrun
  obtain ⟨bs, hbs, hn⟩ := h w a w' hrun
  exact ⟨bs, hbs, by omega⟩

theorem offer
    (bs : List UInt8) (fault : Error) :
    Adds bs.length (Emit.offer bs fault) := by
  intro w a w' hrun
  rw [Emit.offer_run] at hrun
  split at hrun
  · next hkept =>
      cases hrun
      exact ⟨bs, Writer.offer_bytes_of_kept hkept, Nat.le_refl _⟩
  · cases hrun

theorem bind
    {e : Emit α} {f : α → Emit β} (he : Adds n e) (hf : ∀ a, Adds k (f a)) :
    Adds (n + k) (e >>= f) := by
  intro w b w₂ hrun
  rw [EStateM.run_bind] at hrun
  cases he' : e.run w with
  | ok a w₁ =>
      rw [he'] at hrun
      obtain ⟨bs₁, h₁, hn⟩ := he w a w₁ he'
      obtain ⟨bs₂, h₂, hk⟩ := hf a w₁ b w₂ hrun
      exact ⟨bs₁ ++ bs₂, by rw [h₂, h₁, List.append_assoc],
        by simp only [List.length_append]; omega⟩
  | error err w₁ =>
      rw [he'] at hrun
      cases hrun

theorem raw
    (bs : List UInt8) :
    Adds bs.length (Emit.raw bs) :=
  offer bs _

theorem value
    (bs : List UInt8) :
    Adds bs.length (Emit.value bs) :=
  offer bs _

theorem bool
    (b : Bool) :
    Adds 1 (Emit.bool b) :=
  offer _ _

theorem count
    (c : Nat) :
    Adds 4 (Emit.count c) := by
  unfold Emit.count
  split
  · exact (offer _ _).mono (by simp)
  · intro w a w' hrun
    cases hrun

theorem string
    (s : String) :
    Adds 4 (Emit.string s) := by
  intro w a w' hrun
  rw [Emit.string, EStateM.run_bind, EStateM.run_get] at hrun
  exact ((bind (count _) fun _ => raw _).mono (Nat.le_add_right 4 _)) w a w' hrun

end Emit.Adds

namespace Run.Adds

variable {n k : Nat} {P Q : α → Prop}

theorem mono
    {f : Run α} (h : Adds n P f) (hk : k ≤ n) (hPQ : ∀ a, P a → Q a) :
    Adds k Q f := by
  intro m a m' hrun
  obtain ⟨hP, bs, hbs, hn⟩ := h m a m' hrun
  exact ⟨hPQ a hP, bs, hbs, by omega⟩

theorem pure
    {a : α} (h : P a) :
    Adds 0 P (Pure.pure a : Run α) := by
  intro m b m' hrun
  cases hrun
  exact ⟨h, [], by simp, Nat.zero_le _⟩

theorem throw
    (e : Error) :
    Adds n P (MonadExcept.throw e : Run α) := by
  intro m a m' hrun
  cases hrun

theorem throw_bind
    {R : β → Prop} (e : Error) (g : α → Run β) :
    Adds n R (MonadExcept.throw e >>= g) := by
  intro m a m' hrun
  cases hrun

theorem bind
    {R : β → Prop} {f : Run α} {g : α → Run β} (hf : Adds n P f) (hg : ∀ a, P a → Adds k R (g a)) :
    Adds (n + k) R (f >>= g) := by
  intro m b m₂ hrun
  obtain ⟨a, m₁, hf', hg'⟩ := run_bind_ok hrun
  obtain ⟨hP, bs₁, h₁, hn⟩ := hf m a m₁ hf'
  obtain ⟨hR, bs₂, h₂, hk⟩ := hg a hP m₁ b m₂ hg'
  exact ⟨hR, bs₁ ++ bs₂, by rw [h₂, h₁, List.append_assoc],
    by simp only [List.length_append]; omega⟩

theorem get_bind
    {g : Machine → Run α} (hg : ∀ m, Adds n P (g m)) :
    Adds n P (get >>= g) :=
  fun m => hg m m

theorem ite
    {c : Prop} [Decidable c] {f g : Run α} (hf : c → Adds n P f) (hg : ¬ c → Adds n P g) :
    Adds n P (if c then f else g) := by
  by_cases hc : c
  · simpa only [if_pos hc] using hf hc
  · simpa only [if_neg hc] using hg hc

theorem of_appends
    {f : Run α} (h : Appends f) :
    Adds 0 (fun _ => True) f := by
  intro m a m' hrun
  have hpre := h m
  rw [hrun] at hpre
  obtain ⟨bs, hbs⟩ := hpre
  exact ⟨trivial, bs, hbs.symm, Nat.zero_le _⟩

theorem emit
    {e : Emit α} (he : Emit.Adds n e) :
    Adds n (fun _ => True) (Run.emit e) := by
  intro m a m' hrun
  change Run.emit e m = _ at hrun
  unfold Run.emit at hrun
  cases he' : e m.writer with
  | ok b w' =>
      rw [he'] at hrun
      cases hrun
      exact ⟨trivial, he m.writer a w' he'⟩
  | error err w' =>
      rw [he'] at hrun
      cases hrun

theorem forIn
    {xs : List γ} {f : γ → β → Run (ForInStep β)} {g : γ → Nat} {I : Nat → β → Prop}
    (h : ∀ x ∈ xs, ∀ i b, I i b → Adds (g x) (fun s => ∃ b', s = .yield b' ∧ I (i + 1) b') (f x b))
    {i : Nat} {init : β} (hinit : I i init) :
    Adds (xs.map g).sum (I (i + xs.length)) (ForIn.forIn xs init f) := by
  induction xs generalizing i init with
  | nil => simpa using pure hinit
  | cons x xs ih =>
      rw [List.forIn_cons, List.map_cons, List.sum_cons, List.length_cons, ← Nat.add_assoc]
      refine bind (h x List.mem_cons_self i init hinit) ?_
      rintro _ ⟨b, rfl, hb⟩
      simpa [Nat.add_right_comm] using
        ih (fun y hy => h y (List.mem_cons_of_mem x hy)) hb

end Run.Adds

/-! ## Heads and bodies -/

namespace Run

variable {ow : ObjectWriter}

theorem writeHead_adds
    (c : Converter) (ty : Ty) (v : Typed) :
    Adds (if c.handlesNull then 1 else 0) (fun b => c.handlesNull = false → b = true)
      (writeHead c ty v) := by
  unfold writeHead
  refine Adds.ite (fun _ => Adds.throw_bind _ _) (fun _ => ?_)
  cases hnull : c.handlesNull with
  | true =>
      exact Adds.bind (Adds.emit (Emit.Adds.bool _)) fun _ _ => Adds.pure (by simp)
  | false => exact Adds.pure fun _ => rfl

theorem writeValue_bind
    (c : Converter) (ty : Ty) (v : Typed) (ctx : Ctx) (k : Run α) :
    (writeValue ow c ty v ctx >>= fun _ => k) =
      (writeHead c ty v >>= fun b =>
        if b = true then writeBody ow c ty v ctx >>= (fun _ => k) else k) := by
  unfold writeValue
  rw [bind_assoc]
  congr
  funext b
  split <;> simp

/-- A value costs a byte: the flag of a flagged converter, or the body of a flagless one. -/
theorem writeValue_adds
    (how : ∀ t e v ver, Appends (ow t e v ver)) {c : Converter} {ty : Ty} {v : Typed} {ctx : Ctx}
    (hbody : c.handlesNull = false → Adds 1 (fun _ => True) (writeBody ow c ty v ctx)) :
    Adds 1 (fun _ => True) (writeValue ow c ty v ctx) := by
  have hhead := writeHead_adds c ty v
  unfold writeValue
  cases hnull : c.handlesNull with
  | true =>
      rw [hnull] at hhead
      refine Adds.bind hhead fun b _ => Adds.ite (fun _ => ?_) (fun _ => Adds.pure trivial)
      exact Adds.of_appends (writeBody_appends how c ty v ctx)
  | false =>
      simp only [hnull, Bool.false_eq_true, if_false, forall_const] at hhead
      rw [← Nat.zero_add 1]
      refine Adds.bind hhead fun b (hb : b = true) => ?_
      rw [hb, if_pos rfl]
      exact hbody hnull

theorem writeOptional_adds
    (how : ∀ t e v ver, Appends (ow t e v ver)) {c : Converter} {ty : Ty} {v : Typed} {ctx : Ctx}
    (hbody : c.handlesNull = false → Adds 1 (fun _ => True) (writeBody ow c ty v ctx))
    {n : Nat} {P : α → Prop} {k : Run α} (hk : Adds n P k) :
    Adds (1 + n) P
      (writeHead c ty v >>= fun b =>
        if b = true then writeBody ow c ty v ctx >>= (fun _ => k) else k) := by
  rw [← writeValue_bind]
  exact Adds.bind (writeValue_adds how hbody) fun _ _ => hk

theorem writeBody_primitive_adds
    (s : Scalar) (ty : Ty) {v : Typed} (ctx : Ctx) (hv : v.ty.admits v.val = true) :
    Adds 1 (fun _ => True) (writeBody ow (.primitive s) ty v ctx) := by
  unfold writeBody
  refine Adds.ite (fun hty => ?_) (fun _ => Adds.throw_bind _ _)
  have hholds : s.holds v.val = true := by
    rw [beq_iff_eq] at hty
    rwa [hty, Ty.admits] at hv
  exact (Adds.emit (Emit.Adds.value _)).mono (Scalar.length_encode_pos hholds) fun _ h => h

theorem writeCustom_adds
    (c : CustomConverter) (ty : Ty) (v : Typed) (ctx : Ctx) :
    Adds 1 (fun _ => True) (writeCustom c ty v ctx) := by
  unfold writeCustom
  refine Adds.ite (fun _ => ?_) (fun _ => Adds.throw_bind _ _)
  split
  · exact (Adds.emit (Emit.Adds.raw _)).mono (by simp) fun _ h => h
  · exact (Adds.emit (Emit.Adds.string _)).mono (by omega) fun _ h => h
  · exact (Adds.emit (Emit.Adds.value _)).mono (by simp) fun _ h => h
  · exact (Adds.emit (Emit.Adds.value _)).mono (by simp [Binary64.toBytes_eq]) fun _ h => h
  · exact (Adds.emit (Emit.Adds.value _)).mono (by simp [Binary64.toBytes_eq]) fun _ h => h
  · exact Adds.get_bind fun _ =>
      (Adds.bind (Adds.emit (Emit.Adds.string _)) fun _ _ => Adds.emit (Emit.Adds.value _)).mono
        (by omega) fun _ h => h
  · exact Adds.throw _

theorem writeBody_enum_adds
    (t : Ty) (variants : List (String × String)) (ty : Ty) (v : Typed) (ctx : Ctx) :
    Adds 1 (fun _ => True) (writeBody ow (.enum t variants) ty v ctx) := by
  unfold writeBody
  split
  · refine Adds.ite (fun _ => ?_) (fun _ => Adds.throw_bind _ _)
    split
    · exact (Adds.emit (Emit.Adds.string _)).mono (by omega) fun _ h => h
    · exact Adds.throw _
  · exact Adds.throw _

end Run

/-! ## Converters the resolver builds -/

/-- With no null flag of its own, a converter writes every value of its type in at least a
byte. -/
def Converter.BodyNonempty (ow : ObjectWriter) (c : Converter) : Prop :=
  c.handlesNull = false → ∀ ty (v : Typed) ctx, v.ty.admits v.val = true →
    Run.Adds 1 (fun _ => True) (Run.writeBody ow c ty v ctx)

namespace Run

theorem writeBody_pointer_adds
    {ow : ObjectWriter} {i : Ty} {conv : Converter} (hconv : conv.BodyNonempty ow)
    (hnull : conv.handlesNull = false)
    (ty : Ty) {v : Typed} (ctx : Ctx) (hv : v.ty.admits v.val = true) :
    Adds 1 (fun _ => True) (writeBody ow (.pointer (.box i) i conv) ty v ctx) := by
  unfold writeBody
  have hinner : v.ty = .box i → i.admits v.val = true := fun hty => by
    rwa [hty, Ty.admits] at hv
  refine Adds.ite (fun hty => ?_) (fun _ => Adds.throw_bind _ _)
  exact hconv hnull i ⟨i, v.val⟩ ctx (hinner (beq_iff_eq.1 hty))

variable {ow : ObjectWriter} (how : ∀ t e v ver, Appends (ow t e v ver))
include how

theorem writeValue_adds_of_bodyNonempty
    {c : Converter} (hc : c.BodyNonempty ow) (ty : Ty) {v : Typed} (ctx : Ctx)
    (hv : v.ty.admits v.val = true) :
    Adds 1 (fun _ => True) (writeValue ow c ty v ctx) :=
  writeValue_adds how fun hnull => hc hnull ty v ctx hv

theorem writeBody_pair_adds
    {k vt : Ty} {kc vc : Converter} (hkc : kc.BodyNonempty ow) (hvc : vc.BodyNonempty ow)
    (ty : Ty) {v : Typed} (ctx : Ctx) (hv : v.ty.admits v.val = true) :
    Adds 2 (fun _ => True) (writeBody ow (.pair (.pair k vt) k vt kc vc) ty v ctx) := by
  unfold writeBody
  split
  · next a b hval =>
      refine Adds.ite (fun hty => ?_) (fun _ => Adds.throw_bind _ _)
      have hhalves : k.admits a = true ∧ vt.admits b = true := by
        rw [beq_iff_eq] at hty
        simpa [hty, hval, Ty.admits] using hv
      exact writeOptional_adds how (fun hnull => hkc hnull k ⟨k, a⟩ ctx.detached hhalves.1)
        (writeValue_adds_of_bodyNonempty how hvc vt ctx.detached hhalves.2)
  · exact Adds.throw _

end Run

theorem Converter.bodyNonempty_custom
    (ow : ObjectWriter) (c : CustomConverter) :
    (Converter.custom c).BodyNonempty ow :=
  fun _ ty v ctx _ => Run.writeCustom_adds c ty v ctx

theorem Options.mem_registry
    {o : Options} {c : Converter} (h : c ∈ o.registry) :
    (∃ i, c = .custom i) ∨ (∃ s, c = .primitive s) ∨ c = .string ∨ c = .array := by
  simp only [Options.registry, Converter.builtins, List.mem_append, List.mem_map,
    List.mem_cons, List.not_mem_nil, or_false] at h
  rcases h with ⟨i, -, rfl⟩ | ⟨s, -, rfl⟩ | rfl | rfl
  · exact .inl ⟨i, rfl⟩
  · exact .inr (.inl ⟨s, rfl⟩)
  · exact .inr (.inr (.inl rfl))
  · exact .inr (.inr (.inr rfl))

theorem Options.registry_bodyNonempty
    (ow : ObjectWriter) (o : Options) :
    ∀ c ∈ o.registry, c.BodyNonempty ow := by
  intro c hc
  rcases Options.mem_registry hc with ⟨i, rfl⟩ | ⟨s, rfl⟩ | rfl | rfl
  · exact Converter.bodyNonempty_custom ow i
  · exact fun _ ty v ctx hv => Run.writeBody_primitive_adds s ty ctx hv
  · exact fun hnull => nomatch hnull
  · exact fun hnull => nomatch hnull

namespace Resolve

section Inversion

variable {reg : List Converter} {t : Ty} {c : Converter}

theorem Preferred.mem
    (h : Preferred reg t c) :
    c ∈ reg := by
  obtain ⟨before, after, hcands, -⟩ := h
  have hmem : c ∈ candidates reg t := by
    rw [hcands]
    simp
  exact (mem_candidates.1 hmem).1

theorem FirstNamed.mem
    {n : String} (h : FirstNamed reg t n c) :
    c ∈ reg := by
  obtain ⟨before, after, hsplit, -⟩ := h
  simp [hsplit]

theorem chosen_of_resolve
    {cat : Catalog} {r : Request} (hc : resolve reg cat t r = .ok (some c)) :
    Chosen reg t r c := by
  have hresolved := resolve_resolved reg cat t r
  rwa [hc] at hresolved

theorem Chosen.tree_of_not_mem
    {r : Request} (h : Chosen reg t r c) (hcustom : ∀ i, c ≠ .custom i) (hreg : c ∉ reg) :
    Tree reg t c := by
  cases h with
  | given => exact absurd rfl (hcustom _)
  | named _ _ _ hnamed => exact absurd hnamed.mem hreg
  | segment _ _ hnamed => exact absurd hnamed.mem hreg
  | tree _ htree => exact htree

theorem Tree.list_inv
    {lt e : Ty} {conv : Converter} (h : Tree reg t (.list lt e conv))
    (hreg : .list lt e conv ∉ reg) :
    (lt = .vec e ∨ lt = .deque e) ∧ Tree reg e conv := by
  cases h with
  | registry hp => exact absurd hp.mem hreg
  | vec _ hconv => exact ⟨.inl rfl, hconv⟩
  | deque _ hconv => exact ⟨.inr rfl, hconv⟩

theorem Tree.dictionary_inv
    {dt k vt : Ty} {sorted : Bool} {kc vc : Converter}
    (h : Tree reg t (.dictionary dt k vt sorted kc vc))
    (hreg : .dictionary dt k vt sorted kc vc ∉ reg) :
    (dt = .hashMap k vt ∨ dt = .btreeMap k vt) ∧ Tree reg k kc ∧ Tree reg vt vc := by
  cases h with
  | registry hp => exact absurd hp.mem hreg
  | hashMap _ hkc hvc => exact ⟨.inl rfl, hkc, hvc⟩
  | btreeMap _ hkc hvc => exact ⟨.inr rfl, hkc, hvc⟩

theorem Tree.pair_inv
    {pt k vt : Ty} {kc vc : Converter} (h : Tree reg t (.pair pt k vt kc vc))
    (hreg : .pair pt k vt kc vc ∉ reg) :
    pt = .pair k vt ∧ Tree reg k kc ∧ Tree reg vt vc := by
  cases h with
  | registry hp => exact absurd hp.mem hreg
  | pair _ hkc hvc => exact ⟨rfl, hkc, hvc⟩

end Inversion

variable {ow : ObjectWriter} (how : ∀ t e v ver, Run.Appends (ow t e v ver))
  {reg : List Converter} (hreg : ∀ c ∈ reg, c.BodyNonempty ow)
include how hreg

/-- A converter tree over a registry of converters with non-empty bodies has a non-empty
body: by induction on the tree, a flagged node has nothing to show, a pair spends a byte for
each half, a box what its flagless inner converter spends, and an enum its wire name. -/
theorem Tree.bodyNonempty
    {t : Ty} {c : Converter} (h : Tree reg t c) :
    c.BodyNonempty ow := by
  induction h with
  | registry hc => exact hreg _ hc.mem
  | pointer _ _ ih =>
      intro hnull ty v ctx hv
      exact Run.writeBody_pointer_adds ih hnull ty ctx hv
  | pair _ _ _ ihk ihv =>
      intro _ ty v ctx hv
      exact (Run.writeBody_pair_adds how ihk ihv ty ctx hv).mono (by omega) fun _ h => h
  | enum _ =>
      intro _ ty v ctx _
      exact Run.writeBody_enum_adds _ _ ty v ctx
  | nullable | vec | deque | hashMap | btreeMap | object =>
      exact fun hnull => nomatch hnull

theorem Chosen.bodyNonempty
    {t : Ty} {r : Request} {c : Converter} (h : Chosen reg t r c) :
    c.BodyNonempty ow := by
  cases h with
  | given => exact Converter.bodyNonempty_custom ow _
  | named _ _ _ hnamed => exact hreg _ hnamed.mem
  | segment _ _ hnamed => exact hreg _ hnamed.mem
  | tree _ htree => exact htree.bodyNonempty how hreg

end Resolve

theorem writeValue_adds_of_resolve
    {ow : ObjectWriter} (how : ∀ t e v ver, Run.Appends (ow t e v ver)) {o : Options}
    {cat : Catalog} {t : Ty} {r : Request} {c : Converter}
    (hc : Resolve.resolve o.registry cat t r = .ok (some c)) (ty : Ty) {v : Typed} (ctx : Ctx)
    (hv : v.ty.admits v.val = true) :
    Run.Adds 1 (fun _ => True) (Run.writeValue ow c ty v ctx) := by
  exact Run.writeValue_adds_of_bodyNonempty how
    ((Resolve.chosen_of_resolve hc).bodyNonempty how (Options.registry_bodyNonempty ow o)) ty ctx hv

/-! ## Counts of lists and maps -/

theorem Emit.count_run_ok
    {c : Nat} {w w' : Writer} {u : Unit} (h : (Emit.count c).run w = .ok u w') :
    c ≤ maxCount ∧ w'.bytes = w.bytes ++ countBytes c := by
  unfold Emit.count at h
  split at h
  · next hfit =>
      rw [Emit.i32, Emit.value, Emit.offer_run] at h
      split at h
      · next hkept =>
          cases h
          exact ⟨hfit, Writer.offer_bytes_of_kept hkept⟩
      · cases h
  · cases h

theorem Take.count_run_of_mul
    {r : Reader} {rest : List UInt8} {n min : Nat} (hfit : n ≤ maxCount)
    (h : r.input.toList.drop r.pos = countBytes n ++ rest) (hroom : n * min ≤ rest.length) :
    (Take.count min).run r = .ok n { r with pos := r.pos + 4 } := by
  have hlen : (countBytes n).length = 4 := by simp [countBytes]
  have hexact := Take.exact_run_of h
  have hafter := Reader.drop_after h
  rw [hlen] at hexact hafter
  have hrem : ({ r with pos := r.pos + 4 } : Reader).remaining = rest.length :=
    Reader.remaining_eq hafter
  have hfits : ¬ rest.length < n * min := by omega
  simp only [Take.count, Take.i32, EStateM.run_bind, hexact, Take.pure_run,
    signedValue_countBytes hfit, Take.get_run, hrem]
  simp [hfits]
  rfl

namespace Run

variable {ow : ObjectWriter} {n : Nat} {m m' : Machine}

/-- A count, then a step that adds `n` bytes: the count's four bytes, then at least `n`. -/
theorem count_then_run_ok
    {c : Nat} {f : Unit → Run Unit} (h : (emit (Emit.count c) >>= f).run m = .ok () m')
    (hf : Adds n (fun _ => True) (f ())) :
    c ≤ maxCount ∧ ∃ rest, m'.writer.bytes = m.writer.bytes ++ (countBytes c ++ rest) ∧
      n ≤ rest.length := by
  obtain ⟨u, m₁, hcount, hrest⟩ := run_bind_ok h
  have hcount' : (Emit.count c).run m.writer = .ok u m₁.writer := by
    change emit (Emit.count c) m = _ at hcount
    unfold emit at hcount
    split at hcount
    · next hok =>
        cases hcount
        exact hok
    · cases hcount
  obtain ⟨hfit, hbytes⟩ := Emit.count_run_ok hcount'
  obtain ⟨-, rest, hrest', hn⟩ := hf m₁ () m' hrest
  exact ⟨hfit, rest, by rw [hrest', hbytes, List.append_assoc], hn⟩

theorem Adds.scratch
    {body : Run Unit} (h : Adds n (fun _ => True) body) :
    Adds 0 (fun bs => n ≤ bs.length) (Run.scratch body) := by
  intro m bs m' hrun
  change Run.scratch body m = _ at hrun
  unfold Run.scratch at hrun
  dsimp only at hrun
  split at hrun
  · next m₁ hbody =>
      cases hrun
      obtain ⟨-, bs', hbs', hn⟩ := h _ () m₁ hbody
      simp only [Writer.new, Writer.bytes, Array.toList_empty, List.nil_append] at hbs'
      exact ⟨by simpa [Writer.bytes, hbs'] using hn, [], by simp, Nat.le_refl 0⟩
  · cases hrun

variable (how : ∀ t e v ver, Appends (ow t e v ver))
include how

/-- A list of values of its element type is written as the count of its items and at least a
byte for each. -/
theorem writeBody_list_run_ok
    {t e : Ty} {conv : Converter} (hconv : conv.BodyNonempty ow) (ht : t = .vec e ∨ t = .deque e)
    (ty : Ty) {v : Typed} (ctx : Ctx) (hv : v.ty.admits v.val = true)
    (h : (writeBody ow (.list t e conv) ty v ctx).run m = .ok () m') :
    ∃ items rest, v.val = .list items ∧ items.length ≤ maxCount ∧
      m'.writer.bytes = m.writer.bytes ++ (countBytes items.length ++ rest) ∧
      items.length ≤ rest.length := by
  unfold writeBody at h
  split at h
  · next items hval =>
      split at h
      · next hty =>
          have hitems : ∀ x ∈ items, e.admits x = true := by
            rw [beq_iff_eq] at hty
            rcases ht with rfl | rfl <;> simpa [hty, hval, Ty.admits] using hv
          obtain ⟨hfit, rest, hbytes, hn⟩ := count_then_run_ok (n := items.length) h <|
            (Adds.bind (Adds.forIn (g := fun _ => 1) (I := fun _ _ => True) (i := 0)
              (fun x hx _ _ _ => writeOptional_adds how
                (fun hnull => hconv hnull e ⟨e, x⟩ ctx.detached (hitems x hx))
                (Adds.pure ⟨_, rfl, trivial⟩)) trivial)
              fun _ _ => Adds.pure (P := fun _ => True) trivial).mono (by simp) fun _ _ => trivial
          exact ⟨items, rest, hval, hfit, hbytes, hn⟩
      · obtain ⟨_, _, hthrow, -⟩ := run_bind_ok h
        cases hthrow
  · cases h

/-- A map of values of its parts' types is written as the count of its entries and at least
two bytes for each, whether its entries go out in key order or sorted by their bytes. -/
theorem writeBody_dictionary_run_ok
    {t k vt : Ty} {sorted : Bool} {kc vc : Converter} (hkc : kc.BodyNonempty ow)
    (hvc : vc.BodyNonempty ow) (ht : t = .hashMap k vt ∨ t = .btreeMap k vt)
    (ty : Ty) {v : Typed} (ctx : Ctx) (hv : v.ty.admits v.val = true)
    (h : (writeBody ow (.dictionary t k vt sorted kc vc) ty v ctx).run m = .ok () m') :
    ∃ entries rest, v.val = .map entries ∧ entries.length ≤ maxCount ∧
      m'.writer.bytes = m.writer.bytes ++ (countBytes entries.length ++ rest) ∧
      2 * entries.length ≤ rest.length := by
  unfold writeBody at h
  split at h
  · next entries hval =>
      by_cases hty : (v.ty == t) = true
      · simp only [hty, if_true] at h
        have hentries : ∀ x ∈ entries, k.admits x.1 = true ∧ vt.admits x.2 = true := by
          rw [beq_iff_eq] at hty
          rcases ht with rfl | rfl <;> simpa [hty, hval, Ty.admits] using hv
        have hkey : ∀ x ∈ entries, kc.handlesNull = false →
            Adds 1 (fun _ => True) (writeBody ow kc k ⟨k, x.1⟩ ctx.detached) :=
          fun x hx hnull => hkc hnull k ⟨k, x.1⟩ ctx.detached (hentries x hx).1
        have hval' : ∀ x ∈ entries, vc.handlesNull = false →
            Adds 1 (fun _ => True) (writeBody ow vc vt ⟨vt, x.2⟩ ctx.detached) :=
          fun x hx hnull => hvc hnull vt ⟨vt, x.2⟩ ctx.detached (hentries x hx).2
        obtain ⟨hfit, rest, hbytes, hn⟩ := count_then_run_ok (n := 2 * entries.length) h <| by
          split
          · refine (Adds.bind (Adds.forIn (g := fun _ => 2) (I := fun _ _ => True) (i := 0)
              (fun x hx _ _ _ => ?_) trivial)
              fun _ _ => Adds.pure (P := fun _ => True) trivial).mono (by simp; omega)
                fun _ _ => trivial
            exact writeOptional_adds how (hkey _ hx)
              (writeOptional_adds how (hval' _ hx) (Adds.pure ⟨_, rfl, trivial⟩))
          · refine (Adds.bind (k := 2 * entries.length) (R := fun _ => True)
              (Adds.forIn (g := fun _ => 0)
                (I := fun i acc => 2 * i ≤ (acc.map List.length).sum) (i := 0)
                (fun x hx i acc hi => ?_) (by simp)) fun acc hacc => ?_).mono (by simp)
              fun _ _ => trivial
            · refine Adds.bind (Adds.scratch (writeOptional_adds how (hkey _ hx)
                (writeValue_adds how (hval' _ hx)))) fun bs hbs => Adds.pure ⟨_, rfl, ?_⟩
              simp only [List.map_append, List.sum_append, List.map_cons, List.map_nil,
                List.sum_cons, List.sum_nil]
              omega
            · have hsum : ((sortStable bytesLe acc).map List.length).sum =
                  (acc.map List.length).sum :=
                ((sortStable_perm bytesLe acc).map List.length).sum_eq
              exact (Adds.bind (Adds.forIn (g := List.length) (I := fun _ _ => True) (i := 0)
                (fun bs _ _ _ _ => Adds.bind (Adds.emit (Emit.Adds.raw bs))
                  fun _ _ => Adds.pure ⟨_, rfl, trivial⟩) trivial)
                fun _ _ => Adds.pure (P := fun _ => True) trivial).mono (by omega)
                  fun _ _ => trivial
        exact ⟨entries, rest, hval, hfit, hbytes, hn⟩
      · simp only [hty, Bool.false_eq_true, if_false] at h
        obtain ⟨_, _, hthrow, -⟩ := run_bind_ok h
        cases hthrow
  · cases h

end Run

/-! ## Every element takes a byte -/

section Resolved

variable {o : Options} {cat : Catalog} {t : Ty} {r : Request}

theorem Options.not_mem_registry_of_parts
    {c : Converter} (hparts : (∃ lt e conv, c = .list lt e conv) ∨
      (∃ dt k vt sorted kc vc, c = .dictionary dt k vt sorted kc vc) ∨
      (∃ pt k vt kc vc, c = .pair pt k vt kc vc)) :
    c ∉ o.registry := by
  intro hmem
  rcases hparts with ⟨_, _, _, rfl⟩ | ⟨_, _, _, _, _, _, rfl⟩ | ⟨_, _, _, _, _, rfl⟩ <;>
    rcases Options.mem_registry hmem with ⟨_, h⟩ | ⟨_, h⟩ | h | h <;> cases h

/-- Every converter the resolver builds writes each value of its type in at least one byte,
its null flag included, and a pair in at least two. So the writers put out a list as the count
of its items followed by at least as many bytes, and a map as the count of its entries followed
by at least twice as many: every count they write passes the readers' guards, of one byte per
item for lists and two per entry for maps. -/
theorem encoded_elements_are_never_empty
    {c : Converter} (hc : Resolve.resolve o.registry cat t r = .ok (some c)) (fuel : Nat) :
    (∀ ty (v : Typed) ctx, v.ty.admits v.val = true → ∀ m m',
      (Run.writeValue (Run.writeObject fuel) c ty v ctx).run m = .ok () m' →
        ∃ bs, m'.writer.bytes = m.writer.bytes ++ bs ∧ 1 ≤ bs.length) ∧
    (∀ pt k vt kc vc, c = .pair pt k vt kc vc → ∀ ty (v : Typed) ctx, v.ty.admits v.val = true →
      ∀ m m', (Run.writeBody (Run.writeObject fuel) c ty v ctx).run m = .ok () m' →
        ∃ bs, m'.writer.bytes = m.writer.bytes ++ bs ∧ 2 ≤ bs.length) ∧
    (∀ lt e conv, c = .list lt e conv → ∀ ty (v : Typed) ctx, v.ty.admits v.val = true →
      ∀ m m', (Run.writeBody (Run.writeObject fuel) c ty v ctx).run m = .ok () m' →
        ∃ items rest, v.val = .list items ∧
          m'.writer.bytes = m.writer.bytes ++ (countBytes items.length ++ rest) ∧
          items.length ≤ rest.length ∧
          ∀ (rd : Reader) more,
            rd.input.toList.drop rd.pos = countBytes items.length ++ (rest ++ more) →
            (Take.count 1).run rd = .ok items.length { rd with pos := rd.pos + 4 }) ∧
    (∀ dt k vt sorted kc vc, c = .dictionary dt k vt sorted kc vc → ∀ ty (v : Typed) ctx,
      v.ty.admits v.val = true →
      ∀ m m', (Run.writeBody (Run.writeObject fuel) c ty v ctx).run m = .ok () m' →
        ∃ entries rest, v.val = .map entries ∧
          m'.writer.bytes = m.writer.bytes ++ (countBytes entries.length ++ rest) ∧
          2 * entries.length ≤ rest.length ∧
          ∀ (rd : Reader) more,
            rd.input.toList.drop rd.pos = countBytes entries.length ++ (rest ++ more) →
            (Take.count 2).run rd = .ok entries.length { rd with pos := rd.pos + 4 }) := by
  have how := Run.writeObject_appends fuel
  have hreg := Options.registry_bodyNonempty (Run.writeObject fuel) o
  have hchosen := Resolve.chosen_of_resolve hc
  refine ⟨fun ty v ctx hv m m' hrun => ?_, ?_, ?_, ?_⟩
  · obtain ⟨-, bs, hbs, hlen⟩ := writeValue_adds_of_resolve how hc ty ctx hv m () m' hrun
    exact ⟨bs, hbs, hlen⟩
  · rintro pt k vt kc vc rfl ty v ctx hv m m' hrun
    have hnot := Options.not_mem_registry_of_parts (o := o) (.inr (.inr ⟨pt, k, vt, kc, vc, rfl⟩))
    obtain ⟨rfl, hkc, hvc⟩ := (hchosen.tree_of_not_mem (fun _ h => nomatch h) hnot).pair_inv hnot
    obtain ⟨-, bs, hbs, hlen⟩ := Run.writeBody_pair_adds how (hkc.bodyNonempty how hreg)
      (hvc.bodyNonempty how hreg) ty ctx hv m () m' hrun
    exact ⟨bs, hbs, hlen⟩
  · rintro lt e conv rfl ty v ctx hv m m' hrun
    have hnot := Options.not_mem_registry_of_parts (o := o) (.inl ⟨lt, e, conv, rfl⟩)
    obtain ⟨hshape, hconv⟩ := (hchosen.tree_of_not_mem (fun _ h => nomatch h) hnot).list_inv hnot
    obtain ⟨items, rest, hval, hfit, hbytes, hroom⟩ :=
      Run.writeBody_list_run_ok how (hconv.bodyNonempty how hreg) hshape ty ctx hv hrun
    refine ⟨items, rest, hval, hbytes, hroom, fun rd more hrd => ?_⟩
    exact Take.count_run_of_mul hfit hrd (by simp only [List.length_append]; omega)
  · rintro dt k vt sorted kc vc rfl ty v ctx hv m m' hrun
    have hnot := Options.not_mem_registry_of_parts (o := o)
      (.inr (.inl ⟨dt, k, vt, sorted, kc, vc, rfl⟩))
    obtain ⟨hshape, hkc, hvc⟩ :=
      (hchosen.tree_of_not_mem (fun _ h => nomatch h) hnot).dictionary_inv hnot
    obtain ⟨entries, rest, hval, hfit, hbytes, hroom⟩ :=
      Run.writeBody_dictionary_run_ok how (hkc.bodyNonempty how hreg) (hvc.bodyNonempty how hreg)
        hshape ty ctx hv hrun
    refine ⟨entries, rest, hval, hbytes, hroom, fun rd more hrd => ?_⟩
    exact Take.count_run_of_mul hfit hrd (by simp only [List.length_append]; omega)

end Resolved

/-- A list of `u16` gets the shape's list converter over the scalar converter: it writes each
item in two bytes, and its count passes the reader's guard. -/
theorem u16_list_counts_pass_the_guard :
    Resolve.resolve ({} : Options).registry ⟨[], []⟩ (.vec (.scalar .u16))
        (Request.root .dynamic "list") =
      .ok (some (.list (.vec (.scalar .u16)) (.scalar .u16) (.primitive .u16))) ∧
    ∀ (v : Typed) ctx, v.ty.admits v.val = true → ∀ m m',
      (Run.writeBody (Run.writeObject 1)
        (.list (.vec (.scalar .u16)) (.scalar .u16) (.primitive .u16))
        (.vec (.scalar .u16)) v ctx).run m = .ok () m' →
        ∃ items rest, v.val = .list items ∧
          m'.writer.bytes = m.writer.bytes ++ (countBytes items.length ++ rest) ∧
          items.length ≤ rest.length ∧
          ∀ (rd : Reader) more,
            rd.input.toList.drop rd.pos = countBytes items.length ++ (rest ++ more) →
            (Take.count 1).run rd = .ok items.length { rd with pos := rd.pos + 4 } := by
  have hc : Resolve.resolve ({} : Options).registry ⟨[], []⟩ (.vec (.scalar .u16))
      (Request.root .dynamic "list") =
        .ok (some (.list (.vec (.scalar .u16)) (.scalar .u16) (.primitive .u16))) := by
    simp +decide [Resolve.resolve, Resolve.chosen, Resolve.byTarget, Options.registry,
      Converter.builtins, Scalar.all, Converter.target, Request.root, Request.nested,
      Resolve.resolve.list, bind, Except.bind, pure, Except.pure]
  exact ⟨hc, (encoded_elements_are_never_empty hc 1).2.2.1 _ _ _ rfl (.vec (.scalar .u16))⟩

end ObjectWire
