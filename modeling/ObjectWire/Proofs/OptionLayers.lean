import Mathlib.Control.Monad.Basic
import ObjectWire.Proofs.ReadBack
import ObjectWire.Proofs.ConverterTrees
/-!
# Options and boxes around a type

Every type is a stack of option and box layers around a base type that is neither
(`Ty.wrapIn_layers_base`). No registered converter targets an option or a box, so for a
request that names no converter the resolver builds, for the whole stack, the base type's
converter wrapped once per layer: a nullable converter for an option, a pointer converter for
a box (`resolve_layers`).

A value of such a type holds either a base value inside all of its options, or nothing, at one
of its options (`Held`). Boxes are transparent: a pointer converter writes and reads exactly
what the converter inside it does (`writeValue_pointer`, `readValue_pointer`). A nullable
converter writes its flag, then, for a full option, its inner value: with the inner flag when
the inner type can itself be empty, and without it otherwise. So a value carries one flag per
option layer it reaches, and the base converter's own flag only when no option encloses the
base (`writeValue_layers`); reading the flags back finds the layer where the value is empty, or
the base value, so every value reads back whenever its base value does (`readsBack_layers`).

**Results.**
* `resolve_layers`: the converter of a type is its base converter wrapped in its layers.
* `writeValue_layers`: what a value of a layered type writes, flag by flag.
* `readsBack_layers`: the layered converter reads back every value whose base value its base
  converter reads back.
* `layered_codec_flags_and_boxes`: all of it, with the injectivity of what values hold and
  the invariance under adding or removing boxes.
-/

namespace ObjectWire

/-! ## Layers -/

/-- A layer around a type: an option or a box. -/
inductive Layer where
  | option
  | box
  deriving DecidableEq, Repr

namespace Ty

/-- The type inside layers, the outermost first. -/
def wrapIn : List Layer → Ty → Ty
  | [], b => b
  | .option :: ls, b => .option (wrapIn ls b)
  | .box :: ls, b => .box (wrapIn ls b)

/-- The option and box layers of a type, the outermost first. -/
def layers : Ty → List Layer
  | .option t => .option :: t.layers
  | .box t => .box :: t.layers
  | _ => []

/-- The type inside all the option and box layers of a type. -/
def base : Ty → Ty
  | .option t => t.base
  | .box t => t.base
  | t => t

theorem wrapIn_layers_base
    (t : Ty) :
    wrapIn t.layers t.base = t := by
  induction t with
  | option t ih => simp only [layers, base, wrapIn, ih]
  | box t ih => simp only [layers, base, wrapIn, ih]
  | _ => rfl

theorem layers_base
    (t : Ty) :
    t.base.layers = [] := by
  induction t with
  | option t ih => exact ih
  | box t ih => exact ih
  | _ => rfl

theorem base_wrapIn
    {b : Ty} (hb : b.layers = []) (ls : List Layer) :
    (wrapIn ls b).base = b := by
  induction ls with
  | nil =>
      show b.base = b
      cases b <;> simp_all [layers, base]
  | cons l ls ih => cases l <;> simpa [wrapIn, base] using ih

theorem layers_wrapIn
    {b : Ty} (hb : b.layers = []) (ls : List Layer) :
    (wrapIn ls b).layers = ls := by
  induction ls with
  | nil => exact hb
  | cons l ls ih => cases l <;> simp [wrapIn, layers, ih]

theorem canHoldNone_wrapIn
    {b : Ty} (hb : b.layers = []) (ls : List Layer) :
    (wrapIn ls b).canHoldNone = decide (ls.count .option ≠ 0) := by
  induction ls with
  | nil =>
      show b.canHoldNone = _
      cases b <;> simp_all [layers, canHoldNone]
  | cons l ls ih => cases l <;> simp [wrapIn, canHoldNone, ih]

end Ty

/-! ## What a value of a layered type holds -/

/-- What a value of a layered type holds: nothing, at the option layer `depth` counted from
the outside from zero, or a base value inside all of its option layers. -/
inductive Held where
  | empty (depth : Nat)
  | full (y : Value)

namespace Held

/-- The value of the type with layers `ls` that holds `h`: a box is its content, an option is
`present` around what it holds, or `absent` at the layer where the value is empty. -/
def fill : List Layer → Held → Value
  | [], .full y => y
  | [], .empty _ => .absent
  | .box :: ls, h => fill ls h
  | .option :: _, .empty 0 => .absent
  | .option :: ls, .empty (d + 1) => .present (fill ls (.empty d))
  | .option :: ls, .full y => .present (fill ls (.full y))

/-- What a type with `k` option layers can hold: nothing at one of them, or a base value. -/
def Fits (k : Nat) : Held → Prop
  | .empty d => d < k
  | .full _ => True

/-- What the value inside one more option layer holds, seen from outside it. -/
def deeper : Held → Held
  | .empty d => .empty (d + 1)
  | .full y => .full y

/-- Whether the value is empty at its outermost option layer. -/
def emptyAtTop : Held → Bool
  | .empty 0 => true
  | _ => false

/-- The flags written before a value that holds `h` under `k` option layers: clear at each
option layer it passes, set at the layer where it is empty, and, under no option layer at all,
the base converter's own clear flag when it has one. -/
def flags (k : Nat) (baseFlag : Bool) : Held → List Bool
  | .empty d => List.replicate d false ++ [true]
  | .full _ => List.replicate k false ++ (if k = 0 ∧ baseFlag = true then [false] else [])

@[simp] theorem fill_box
    (ls : List Layer) (h : Held) :
    fill (.box :: ls) h = fill ls h := by
  cases h with
  | empty d => rfl
  | full y => rfl

theorem fill_full_of_count_zero
    {ls : List Layer} (hk : ls.count .option = 0) (y : Value) :
    fill ls (.full y) = y := by
  induction ls with
  | nil => rfl
  | cons l ls ih =>
      cases l with
      | option => simp at hk
      | box => simpa using ih (by simpa using hk)

@[simp] theorem fill_option_deeper
    (ls : List Layer) (h : Held) :
    fill (.option :: ls) h.deeper = .present (fill ls h) := by
  cases h <;> rfl

theorem fill_filter
    (ls : List Layer) (h : Held) :
    fill (ls.filter (· == .option)) h = fill ls h := by
  induction ls generalizing h with
  | nil => rfl
  | cons l ls ih =>
      cases l with
      | box => simpa using ih h
      | option =>
          cases h with
          | empty d =>
              cases d with
              | zero => rfl
              | succ d => simpa [fill] using ih (.empty d)
          | full y => simpa [fill] using ih (.full y)

theorem full_of_fits_zero
    {h : Held} (hf : h.Fits 0) :
    ∃ y, h = .full y := by
  cases h with
  | empty d => exact absurd hf (Nat.not_lt_zero d)
  | full y => exact ⟨y, rfl⟩

theorem eq_empty_or_deeper
    {k : Nat} {h : Held} (hf : h.Fits (k + 1)) :
    h = .empty 0 ∨ ∃ h' : Held, h = h'.deeper ∧ h'.Fits k := by
  cases h with
  | empty d =>
      cases d with
      | zero => exact .inl rfl
      | succ d => exact .inr ⟨.empty d, rfl, Nat.lt_of_succ_lt_succ hf⟩
  | full y => exact .inr ⟨.full y, rfl, trivial⟩

/-- Distinct things held make distinct values. -/
theorem fill_injective
    (ls : List Layer) {h₁ h₂ : Held} (hf₁ : h₁.Fits (ls.count .option))
    (hf₂ : h₂.Fits (ls.count .option)) (h : fill ls h₁ = fill ls h₂) :
    h₁ = h₂ := by
  induction ls generalizing h₁ h₂ with
  | nil =>
      obtain ⟨y₁, rfl⟩ := full_of_fits_zero hf₁
      obtain ⟨y₂, rfl⟩ := full_of_fits_zero hf₂
      simpa [fill] using h
  | cons l ls ih =>
      cases l with
      | box => simpa using ih hf₁ hf₂ (by simpa using h)
      | option =>
          rw [List.count_cons_self] at hf₁ hf₂
          rcases eq_empty_or_deeper hf₁ with rfl | ⟨h₁', rfl, hf₁'⟩ <;>
            rcases eq_empty_or_deeper hf₂ with rfl | ⟨h₂', rfl, hf₂'⟩
          · rfl
          · simp [fill] at h
          · simp [fill] at h
          · rw [ih hf₁' hf₂' (by simpa using h)]

end Held

/-! ## The converter of a layered type -/

/-- The converter `c` of the base type `b`, wrapped in the layers `ls`. -/
def Converter.layered (b : Ty) (c : Converter) : List Layer → Converter
  | [] => c
  | .option :: ls =>
    .nullable (Ty.wrapIn (.option :: ls) b) (Ty.wrapIn ls b) (layered b c ls)
      (Ty.wrapIn ls b).canHoldNone
  | .box :: ls => .pointer (Ty.wrapIn (.box :: ls) b) (Ty.wrapIn ls b) (layered b c ls)

theorem Converter.target_layered
    {b : Ty} {c : Converter} (hc : c.target = b) (ls : List Layer) :
    (c.layered b ls).target = Ty.wrapIn ls b := by
  cases ls with
  | nil => exact hc
  | cons l ls => cases l <;> rfl

namespace Resolve

theorem registry_targets_base
    (o : Options) :
    ∀ c ∈ o.registry, c.target.layers = [] := by
  intro c hc
  simp only [Options.registry, Converter.builtins, List.mem_append, List.mem_map,
    List.mem_cons, List.not_mem_nil, or_false] at hc
  rcases hc with ⟨cc, -, rfl⟩ | ⟨s, -, rfl⟩ | rfl | rfl
  · cases cc <;> rfl
  · rfl
  · rfl
  · rfl

theorem candidates_registry_of_layers
    (o : Options) {t : Ty} (ht : t.layers ≠ []) :
    candidates o.registry t = [] := by
  rw [List.eq_nil_iff_forall_not_mem]
  intro c hc
  obtain ⟨hmem, rfl⟩ := mem_candidates.1 hc
  exact ht (registry_targets_base o c hmem)

theorem resolve_nested_self
    {reg : List Converter} {cat : Catalog} {r : Request} (hn : ¬ Names r) (t : Ty) :
    resolve reg cat t (r.nested r.object) = resolve reg cat t r := by
  rw [resolve.eq_def, resolve.eq_def]
  dsimp only
  rw [chosen_of_not_names hn, chosen_of_not_names (not_names_nested r _)]
  rfl

/-- The converter of a type is the converter of its base type, wrapped in its layers. -/
theorem resolve_layers
    (o : Options) (cat : Catalog) {r : Request} (hn : ¬ Names r) (t : Ty) :
    resolve o.registry cat t r =
      (resolve o.registry cat t.base r).map (Option.map fun c => c.layered t.base t.layers) := by
  induction t generalizing r with
  | option i ih =>
      simp only [Ty.base, Ty.layers]
      rw [resolve_option_of_nil hn (candidates_registry_of_layers o (by simp [Ty.layers])),
        ih (not_names_nested r _), resolve_nested_self hn]
      cases resolve o.registry cat i.base r with
      | error e => rfl
      | ok x =>
          cases x with
          | none => rfl
          | some c =>
              simp only [Except.map, Option.map, Converter.layered, Ty.wrapIn,
                Ty.wrapIn_layers_base]
  | box i ih =>
      simp only [Ty.base, Ty.layers]
      rw [resolve_box_of_nil hn (candidates_registry_of_layers o (by simp [Ty.layers])),
        ih (not_names_nested r _), resolve_nested_self hn]
      cases resolve o.registry cat i.base r with
      | error e => rfl
      | ok x =>
          cases x with
          | none => rfl
          | some c =>
              simp only [Except.map, Option.map, Converter.layered, Ty.wrapIn,
                Ty.wrapIn_layers_base]
  | _ =>
      simp only [Ty.base, Ty.layers, Converter.layered]
      cases resolve o.registry cat _ r with
      | error e => rfl
      | ok x => cases x <;> rfl

theorem resolve_of_byTarget
    {reg : List Converter} {cat : Catalog} {t : Ty} {r : Request} {c : Converter} (hn : ¬ Names r)
    (h : byTarget reg t = .ok (some c)) :
    resolve reg cat t r = .ok (some c) := by
  rw [resolve.eq_def]
  dsimp only
  rw [chosen_of_not_names hn, h]
  rfl

theorem target_of_resolve
    {reg : List Converter} {cat : Catalog} {t : Ty} {r : Request} {c : Converter} (hn : ¬ Names r)
    (h : resolve reg cat t r = .ok (some c)) :
    c.target = t := by
  have hres := resolve_resolved reg cat t r
  rw [h] at hres
  exact (Chosen.tree_of_not_names hn hres).target_eq

end Resolve

namespace Run

/-! ## Heads, pointers and nullables -/

theorem writeValue_of_target
    (ow : ObjectWriter) {c : Converter} {ty : Ty} (hc : c.target = ty) (x : Value) (ctx : Ctx) :
    writeValue ow c ty ⟨ty, x⟩ ctx =
      if c.handlesNull then
        (emit (Emit.bool (Ty.isNull.go ty x)) >>= fun _ =>
          if Ty.isNull.go ty x then pure () else writeBody ow c ty ⟨ty, x⟩ ctx)
      else writeBody ow c ty ⟨ty, x⟩ ctx := by
  unfold writeValue writeHead
  cases c.handlesNull <;> cases hg : Ty.isNull.go ty x <;> simp [hc, Ty.isNull, hg]

theorem readValue_of_target
    (orr : ObjectReader) {c : Converter} {ty : Ty} (hc : c.target = ty) (ctx : Ctx) :
    readValue orr c ty ctx =
      if c.handlesNull then
        (take Take.bool >>= fun f => if f then defaultOf ty else readBody orr c ty ctx)
      else readBody orr c ty ctx := by
  unfold readValue readHead
  cases c.handlesNull
  · simp [hc]
  · simp only [hc, bne_self_eq_false, Bool.false_eq_true, if_true, if_false, bind_assoc, pure_bind]
    congr 1
    funext f
    cases f <;> rfl

theorem defaultOf_option (i : Ty) : defaultOf (.option i) = pure .absent := by
  funext m
  simp only [defaultOf, catalog, Catalog.default, Catalog.defaultWith, Catalog.defaultShape]
  rfl

theorem defaultOf_box (i : Ty) : defaultOf (.box i) = defaultOf i := by
  funext m
  simp [defaultOf, catalog, Catalog.default, Catalog.defaultWith, Catalog.defaultShape]

theorem writeBody_pointer
    (ow : ObjectWriter) (i : Ty) (c : Converter) (x : Value) (ctx : Ctx) :
    writeBody ow (.pointer (.box i) i c) (.box i) ⟨.box i, x⟩ ctx = writeBody ow c i ⟨i, x⟩ ctx := by
  simp [writeBody]

section Pointer

variable {i : Ty} {c : Converter} (hc : c.target = i)
include hc

theorem writeValue_pointer
    (ow : ObjectWriter) (x : Value) (ctx : Ctx) :
    writeValue ow (.pointer (.box i) i c) (.box i) ⟨.box i, x⟩ ctx = writeValue ow c i ⟨i, x⟩ ctx := by
  have hp : (Converter.pointer (.box i) i c).target = .box i := rfl
  rw [writeValue_of_target ow hp, writeValue_of_target ow hc, writeBody_pointer]
  rfl

theorem readValue_pointer
    (orr : ObjectReader) (ctx : Ctx) :
    readValue orr (.pointer (.box i) i c) (.box i) ctx = readValue orr c i ctx := by
  have hp : (Converter.pointer (.box i) i c).target = .box i := rfl
  rw [readValue_of_target orr hp, readValue_of_target orr hc, defaultOf_box]
  rfl

end Pointer

section Nullable

variable {i : Ty} (conv : Converter) (inn : Bool)

theorem target_nullable : (Converter.nullable (.option i) i conv inn).target = .option i := rfl

theorem writeValue_nullable_absent
    (ow : ObjectWriter) (ctx : Ctx) :
    writeValue ow (.nullable (.option i) i conv inn) (.option i) ⟨.option i, .absent⟩ ctx =
      (emit (Emit.bool true) >>= fun _ => pure ()) := by
  rw [writeValue_of_target ow (target_nullable conv inn)]
  simp [Converter.handlesNull, Ty.isNull.go]

theorem writeValue_nullable_present
    (ow : ObjectWriter) (y : Value) (ctx : Ctx) :
    writeValue ow (.nullable (.option i) i conv inn) (.option i) ⟨.option i, .present y⟩ ctx =
      (emit (Emit.bool false) >>= fun _ =>
        if inn then writeValue ow conv i ⟨i, y⟩ ctx else writeBody ow conv i ⟨i, y⟩ ctx) := by
  rw [writeValue_of_target ow (target_nullable conv inn)]
  cases inn <;> simp [Converter.handlesNull, Ty.isNull.go, writeBody, writeValue]

theorem readValue_nullable
    (orr : ObjectReader) (ctx : Ctx) :
    readValue orr (.nullable (.option i) i conv inn) (.option i) ctx =
      (take Take.bool >>= fun f =>
        if f then pure .absent
        else Value.present <$> if inn then readValue orr conv i ctx else readBody orr conv i ctx) := by
  rw [readValue_of_target orr (target_nullable conv inn), defaultOf_option]
  cases inn <;> simp [Converter.handlesNull, readBody, readValue]

end Nullable

/-! ## What a layered value writes -/

/-- Writes flags, one byte each, in order. -/
def writeFlags : List Bool → Run Unit
  | [] => pure ()
  | f :: fs => do
    emit (Emit.bool f)
    writeFlags fs

/-- What a value holding `h` under `k` option layers writes, around the base converter `c` of
`b`: its flags, then the body of the base value it holds, if any. -/
def writeHeld (ow : ObjectWriter) (c : Converter) (b : Ty) (k : Nat) (ctx : Ctx) : Held → Run Unit
  | .empty d => writeFlags ((Held.empty d).flags k c.handlesNull)
  | .full y => do
    writeFlags ((Held.full y).flags k c.handlesNull)
    writeBody ow c b ⟨b, y⟩ ctx

section Held

variable (ow : ObjectWriter) (c : Converter) (b : Ty) (ctx : Ctx)

theorem writeHeld_empty_zero
    (k : Nat) :
    writeHeld ow c b k ctx (.empty 0) = (emit (Emit.bool true) >>= fun _ => pure ()) := by
  simp [writeHeld, writeFlags, Held.flags]

theorem writeHeld_zero_full
    (y : Value) :
    writeHeld ow c b 0 ctx (.full y) =
      if c.handlesNull then (emit (Emit.bool false) >>= fun _ => writeBody ow c b ⟨b, y⟩ ctx)
      else writeBody ow c b ⟨b, y⟩ ctx := by
  cases hn : c.handlesNull <;> simp [writeHeld, writeFlags, Held.flags, hn]

theorem writeHeld_one_full
    (y : Value) :
    writeHeld ow c b 1 ctx (.full y) = (emit (Emit.bool false) >>= fun _ => writeBody ow c b ⟨b, y⟩ ctx) := by
  simp [writeHeld, writeFlags, Held.flags]

theorem writeHeld_deeper
    {k : Nat} (hk : k ≠ 0) (h : Held) :
    writeHeld ow c b (k + 1) ctx h.deeper = (emit (Emit.bool false) >>= fun _ => writeHeld ow c b k ctx h) := by
  cases h with
  | empty d => simp [writeHeld, writeFlags, Held.flags, Held.deeper, List.replicate_succ]
  | full y => simp [writeHeld, writeFlags, Held.flags, Held.deeper, List.replicate_succ, hk]

end Held

/-! ## The layered converter -/

section Layered

variable {b : Ty} {c : Converter} (hb : b.layers = []) (hc : c.target = b)

theorem isNull_go_of_base
    (hb : b.layers = []) (x : Value) :
    Ty.isNull.go b x = false := by
  cases b <;> simp_all [Ty.layers, Ty.isNull.go]

theorem writeBody_boxes
    (ow : ObjectWriter) {ls : List Layer} (hk : ls.count .option = 0) (y : Value) (ctx : Ctx) :
    writeBody ow (c.layered b ls) (Ty.wrapIn ls b) ⟨Ty.wrapIn ls b, y⟩ ctx =
      writeBody ow c b ⟨b, y⟩ ctx := by
  induction ls with
  | nil => rfl
  | cons l ls ih =>
      cases l with
      | option => simp at hk
      | box =>
          simp only [Converter.layered, Ty.wrapIn]
          rw [writeBody_pointer, ih (by simpa using hk)]

theorem readBody_boxes
    (orr : ObjectReader) {ls : List Layer} (hk : ls.count .option = 0) (ctx : Ctx) :
    readBody orr (c.layered b ls) (Ty.wrapIn ls b) ctx = readBody orr c b ctx := by
  induction ls with
  | nil => rfl
  | cons l ls ih =>
      cases l with
      | option => simp at hk
      | box => exact ih (by simpa using hk)

include hb hc

/-- What a value of a layered type writes: one clear flag for each option layer it passes, a
set flag at the layer where it is empty, and under no option layer the base converter's own
clear flag, when it has one; then the body of the base value it holds. -/
theorem writeValue_layers
    (ow : ObjectWriter) (ctx : Ctx) (ls : List Layer) (h : Held) (hf : h.Fits (ls.count .option)) :
    writeValue ow (c.layered b ls) (Ty.wrapIn ls b) ⟨Ty.wrapIn ls b, h.fill ls⟩ ctx =
      writeHeld ow c b (ls.count .option) ctx h := by
  induction ls generalizing h with
  | nil =>
      obtain ⟨y, rfl⟩ := Held.full_of_fits_zero hf
      rw [List.count_nil, writeHeld_zero_full]
      simp only [Converter.layered, Ty.wrapIn, Held.fill]
      rw [writeValue_of_target ow hc, isNull_go_of_base hb]
      simp
  | cons l ls ih =>
      cases l with
      | box =>
          have hcount : (Layer.box :: ls).count .option = ls.count .option := by simp
          rw [hcount] at hf ⊢
          rw [Held.fill_box]
          exact (writeValue_pointer (Converter.target_layered hc ls) ow _ ctx).trans (ih h hf)
      | option =>
          rw [List.count_cons_self] at hf ⊢
          simp only [Converter.layered, Ty.wrapIn]
          rcases Held.eq_empty_or_deeper hf with rfl | ⟨h', rfl, hf'⟩
          · rw [writeHeld_empty_zero]
            exact writeValue_nullable_absent _ _ ow ctx
          · rw [Held.fill_option_deeper, writeValue_nullable_present, Ty.canHoldNone_wrapIn hb]
            by_cases hk : ls.count .option = 0
            · obtain ⟨y, rfl⟩ := Held.full_of_fits_zero (hk ▸ hf')
              simp only [hk, ne_eq, not_true_eq_false, decide_false, Bool.false_eq_true, if_false]
              rw [writeBody_boxes ow hk, Held.fill_full_of_count_zero hk]
              exact (writeHeld_one_full ow c b ctx y).symm
            · simp only [hk, ne_eq, not_false_eq_true, decide_true, if_true]
              rw [ih h' hf', writeHeld_deeper ow c b ctx hk]

/-- A layered value reads back whenever its base value does: the reads follow the flags to the
layer where the value is empty, or through all of them to the base value. -/
theorem readsBack_held
    (ow : ObjectWriter) (orr : ObjectReader) (ctx : Ctx) (ls : List Layer) (h : Held)
    (hf : h.Fits (ls.count .option))
    (hbase : ∀ y, h = .full y → ReadsBack (writeBody ow c b ⟨b, y⟩ ctx) (readBody orr c b ctx) y) :
    ReadsBack (writeHeld ow c b (ls.count .option) ctx h)
      (readValue orr (c.layered b ls) (Ty.wrapIn ls b) ctx) (h.fill ls) := by
  induction ls generalizing h with
  | nil =>
      obtain ⟨y, rfl⟩ := Held.full_of_fits_zero hf
      rw [List.count_nil, writeHeld_zero_full]
      simp only [Converter.layered, Ty.wrapIn, Held.fill]
      rw [readValue_of_target orr hc]
      cases c.handlesNull with
      | false => exact hbase y rfl
      | true => exact ReadsBack.bind (ReadsBack.bool false) (hbase y rfl)
  | cons l ls ih =>
      cases l with
      | box =>
          have hcount : (Layer.box :: ls).count .option = ls.count .option := by simp
          rw [hcount] at hf ⊢
          rw [Held.fill_box]
          simp only [Converter.layered, Ty.wrapIn]
          rw [readValue_pointer (Converter.target_layered hc ls)]
          exact ih h hf hbase
      | option =>
          rw [List.count_cons_self] at hf ⊢
          simp only [Converter.layered, Ty.wrapIn]
          rw [readValue_nullable, Ty.canHoldNone_wrapIn hb]
          rcases Held.eq_empty_or_deeper hf with rfl | ⟨h', rfl, hf'⟩
          · rw [writeHeld_empty_zero]
            exact ReadsBack.bind (ReadsBack.bool true) (ReadsBack.pure Value.absent)
          · rw [Held.fill_option_deeper]
            by_cases hk : ls.count .option = 0
            · obtain ⟨y, rfl⟩ := Held.full_of_fits_zero (hk ▸ hf')
              simp only [hk, ne_eq, not_true_eq_false, decide_false, Bool.false_eq_true, if_false,
                Held.deeper, Nat.zero_add]
              rw [Held.fill_full_of_count_zero hk, readBody_boxes orr hk, writeHeld_one_full]
              exact ReadsBack.bind (ReadsBack.bool false) (ReadsBack.map Value.present (hbase y rfl))
            · simp only [hk, ne_eq, not_false_eq_true, decide_true, if_true]
              rw [writeHeld_deeper ow c b ctx hk]
              have hbase' : ∀ y, h' = .full y →
                  ReadsBack (writeBody ow c b ⟨b, y⟩ ctx) (readBody orr c b ctx) y :=
                fun y hy => hbase y (by rw [hy]; rfl)
              exact ReadsBack.bind (ReadsBack.bool false) (ReadsBack.map Value.present (ih h' hf' hbase'))

theorem readsBack_layers
    (ow : ObjectWriter) (orr : ObjectReader) (ctx : Ctx) (ls : List Layer) (h : Held)
    (hf : h.Fits (ls.count .option))
    (hbase : ∀ y, h = .full y → ReadsBack (writeBody ow c b ⟨b, y⟩ ctx) (readBody orr c b ctx) y) :
    ReadsBack (writeValue ow (c.layered b ls) (Ty.wrapIn ls b) ⟨Ty.wrapIn ls b, h.fill ls⟩ ctx)
      (readValue orr (c.layered b ls) (Ty.wrapIn ls b) ctx) (h.fill ls) := by
  rw [writeValue_layers hb hc ow ctx ls h hf]
  exact readsBack_held hb hc ow orr ctx ls h hf hbase

theorem writeValue_boxes_invariant
    (ow : ObjectWriter) (ctx : Ctx) {ls ls' : List Layer}
    (hls : ls'.filter (· == .option) = ls.filter (· == .option)) (h : Held)
    (hf : h.Fits (ls.count .option)) :
    h.fill ls' = h.fill ls ∧
      writeValue ow (c.layered b ls') (Ty.wrapIn ls' b) ⟨Ty.wrapIn ls' b, h.fill ls'⟩ ctx =
        writeValue ow (c.layered b ls) (Ty.wrapIn ls b) ⟨Ty.wrapIn ls b, h.fill ls⟩ ctx := by
  have hcount : ls'.count .option = ls.count .option := by
    rw [List.count_eq_length_filter, List.count_eq_length_filter, hls]
  refine ⟨by rw [← Held.fill_filter ls', hls, Held.fill_filter], ?_⟩
  rw [writeValue_layers hb hc ow ctx ls' h (hcount ▸ hf), writeValue_layers hb hc ow ctx ls h hf,
    hcount]

end Layered

/-! ## The codec of options and boxes -/

/-- Options and boxes around a base type `b` whose converter `c` resolves, for a request that
names no converter. A value of the layered type is `h.fill ls` for what it holds, `h`.

* The layered type resolves to `c` wrapped in its layers.
* A value writes one clear flag for each option layer it passes, a set flag at the layer where
  it is empty, and the base converter's own clear flag only when no option layer encloses the
  base; then the body of the base value it holds.
* Every value reads back, stopping just after its bytes, whenever its base value does.
* Distinct things held are distinct values, so an empty option is told apart at every depth.
* Adding or removing boxes anywhere changes neither the value nor its bytes. -/
theorem layered_codec_flags_and_boxes
    (o : Options) (cat : Catalog) {r : Request} (hn : ¬ Resolve.Names r) {b : Ty}
    (hb : b.layers = []) {c : Converter} (hc : Resolve.resolve o.registry cat b r = .ok (some c))
    (ls : List Layer) :
    Resolve.resolve o.registry cat (Ty.wrapIn ls b) r = .ok (some (c.layered b ls)) ∧
    (∀ (ow : ObjectWriter) (ctx : Ctx) (h : Held), h.Fits (ls.count .option) →
      writeValue ow (c.layered b ls) (Ty.wrapIn ls b) ⟨Ty.wrapIn ls b, h.fill ls⟩ ctx =
        writeHeld ow c b (ls.count .option) ctx h) ∧
    (∀ (ow : ObjectWriter) (orr : ObjectReader) (ctx : Ctx) (h : Held), h.Fits (ls.count .option) →
      (∀ y, h = .full y → ReadsBack (writeBody ow c b ⟨b, y⟩ ctx) (readBody orr c b ctx) y) →
      ReadsBack (writeValue ow (c.layered b ls) (Ty.wrapIn ls b) ⟨Ty.wrapIn ls b, h.fill ls⟩ ctx)
        (readValue orr (c.layered b ls) (Ty.wrapIn ls b) ctx) (h.fill ls)) ∧
    (∀ h₁ h₂ : Held, h₁.Fits (ls.count .option) → h₂.Fits (ls.count .option) →
      h₁.fill ls = h₂.fill ls → h₁ = h₂) ∧
    (∀ ls' : List Layer, ls'.filter (· == .option) = ls.filter (· == .option) →
      ∀ (ow : ObjectWriter) (ctx : Ctx) (h : Held), h.Fits (ls.count .option) →
        h.fill ls' = h.fill ls ∧
          writeValue ow (c.layered b ls') (Ty.wrapIn ls' b) ⟨Ty.wrapIn ls' b, h.fill ls'⟩ ctx =
            writeValue ow (c.layered b ls) (Ty.wrapIn ls b) ⟨Ty.wrapIn ls b, h.fill ls⟩ ctx) := by
  have htarget : c.target = b := Resolve.target_of_resolve hn hc
  have hresolve : Resolve.resolve o.registry cat (Ty.wrapIn ls b) r = .ok (some (c.layered b ls)) := by
    rw [Resolve.resolve_layers o cat hn, Ty.base_wrapIn hb, Ty.layers_wrapIn hb, hc]
    rfl
  exact ⟨hresolve, fun ow ctx => writeValue_layers hb htarget ow ctx ls,
    fun ow orr ctx => readsBack_layers hb htarget ow orr ctx ls,
    fun _ _ hf₁ hf₂ => Held.fill_injective ls hf₁ hf₂,
    fun _ hls ow ctx => writeValue_boxes_invariant hb htarget ow ctx hls⟩

/-- An option of a box of an option of a byte: a byte inside both options, and the value empty
at the inner option, both read back. -/
theorem boxed_nested_options_of_a_byte_read_back :
    Resolve.resolve ({} : Options).registry Sample.catalog (.option (.box (.option (.scalar .u8))))
        (Request.root .dynamic "x") =
      .ok (some ((Converter.primitive .u8).layered (.scalar .u8) [.option, .box, .option])) ∧
    ∀ (ow : ObjectWriter) (orr : ObjectReader) (ctx : Ctx),
      ReadsBack
        (writeValue ow ((Converter.primitive .u8).layered (.scalar .u8) [.option, .box, .option])
          (.option (.box (.option (.scalar .u8))))
          ⟨.option (.box (.option (.scalar .u8))), .present (.present (.nat 7))⟩ ctx)
        (readValue orr ((Converter.primitive .u8).layered (.scalar .u8) [.option, .box, .option])
          (.option (.box (.option (.scalar .u8)))) ctx)
        (.present (.present (.nat 7))) ∧
      ReadsBack
        (writeValue ow ((Converter.primitive .u8).layered (.scalar .u8) [.option, .box, .option])
          (.option (.box (.option (.scalar .u8)))) ⟨.option (.box (.option (.scalar .u8))), .present .absent⟩ ctx)
        (readValue orr ((Converter.primitive .u8).layered (.scalar .u8) [.option, .box, .option])
          (.option (.box (.option (.scalar .u8)))) ctx)
        (.present .absent) := by
  have hn : ¬ Resolve.Names (Request.root .dynamic "x") := by
    simp [Resolve.Names, Request.root]
  have hcodec := layered_codec_flags_and_boxes {} Sample.catalog hn (b := .scalar .u8) rfl
    (Resolve.resolve_of_byTarget hn rfl) [.option, .box, .option]
  refine ⟨hcodec.1, fun ow orr ctx => ⟨?_, ?_⟩⟩
  · exact hcodec.2.2.1 ow orr ctx (.full (.nat 7)) trivial fun y hy => by
      cases hy
      exact ReadsBack.primitive ow orr ctx rfl
  · refine hcodec.2.2.1 ow orr ctx (.empty 1) (by show 1 < 2; decide) ?_
    intro _ h
    cases h

/-- Reading back needs the base value to read back. A point's member `y` has a getter and no
setter, so the converter resolved for `Point` writes it and then reads and drops it: a point
with `y = -4` reads back with the default `y = 0`. -/
theorem point_converter_drops_its_read_only_member :
    Resolve.resolve ({} : Options).registry Sample.catalog (Sample.obj "Point")
        (Request.root .dynamic "Point") = .ok (some (.object (Sample.obj "Point") .dynamic)) ∧
      ((Session.new Sample.catalog {}).run
          (writeValue (objectWriterFor (.object [("x", .int 3), ("y", .int (-4)),
              ("anchor", .object [("city", .str "Oslo"), ("zip", .nat 150)])]))
            (.object (Sample.obj "Point") .dynamic) (Sample.obj "Point")
            ⟨Sample.obj "Point", .object [("x", .int 3), ("y", .int (-4)),
              ("anchor", .object [("city", .str "Oslo"), ("zip", .nat 150)])]⟩
            { version := none })).2.writer.bytes =
        [0, 3, 0, 0, 0, 0xfc, 0xff, 0xff, 0xff, 0, 0, 4, 0, 0, 0, 0x4f, 0x73, 0x6c, 0x6f, 0x96, 0, 0, 0] ∧
      ((Session.new Sample.catalog {}).run
          (objectReader >>= fun orr =>
            readValue orr (.object (Sample.obj "Point") .dynamic) (Sample.obj "Point") { version := none })
          [0, 3, 0, 0, 0, 0xfc, 0xff, 0xff, 0xff, 0, 0, 4, 0, 0, 0, 0x4f, 0x73, 0x6c, 0x6f, 0x96, 0, 0, 0]).1.map
        (fun v => (v.field? "y").map Value.toInt) = .ok (some 0) := by
  have hn : ¬ Resolve.Names (Request.root .dynamic "Point") := by
    simp [Resolve.Names, Request.root]
  refine ⟨?_, by decide +kernel⟩
  rw [Resolve.resolve.eq_def]
  dsimp only
  rw [Resolve.chosen_of_not_names hn]
  rfl

end Run

end ObjectWire
