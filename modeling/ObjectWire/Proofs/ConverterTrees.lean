import ObjectWire.Convert.Resolve
/-!
# Converter trees follow their types

Resolving a converter for a type builds a tree that follows the type. At every node the
registry is scanned first: the converters that target the node's type are its candidates, in
the order the registry lists them; a single candidate is taken, of several the first unnamed
one, and several named ones are ambiguous. Only when there is no candidate does the node's
shape build the converter: an option or a box wraps the converter of its inner type, a list
the converter of its elements, a map or a pair those of its two parts, an enum and an object
(given an engine) get a converter of their own. A request may name a converter, by instance,
by name or through a segment; that choice is honoured at the top of the tree only, since the
parts are resolved with requests that name nothing.

Resolution therefore fails only for an unknown name, an ambiguous registry, or a part of a
collection without a converter. It finds no converter exactly for options and boxes around a
primitive the registry has no converter for, or around an object type when the request gives
no engine.

**Results.**
* `byTarget_eq_some`, `byTarget_eq_none`, `byTarget_eq_error`: the registry scan, through the
  candidates.
* `resolve_resolved`: by induction on the type, every result is an error of the three kinds, no
  converter for an unconverted type, or a chosen converter tree.
* `resolve_eq_none_of_unconverted`: conversely, a type that is unconverted gets no converter.
* `resolve_object_of_unconverted`: one unconverted for want of an engine gets an object
  converter once an engine is given.
* `converter_resolution_builds_typed_trees`: the two together.
-/

namespace ObjectWire
namespace Resolve

/-! ## The registry scan -/

/-- The registered converters that target a type, in scan order. -/
def candidates (reg : List Converter) (t : Ty) : List Converter := reg.filter (·.target == t)

theorem mem_candidates
    {reg : List Converter} {t : Ty} {c : Converter} :
    c ∈ candidates reg t ↔ c ∈ reg ∧ c.target = t := by
  simp [candidates]

/-- The converter the registry offers for a type: its only candidate, or an unnamed candidate
with only named candidates before it. -/
def Preferred (reg : List Converter) (t : Ty) (c : Converter) : Prop :=
  ∃ before after, candidates reg t = before ++ c :: after ∧
    ((before = [] ∧ after = []) ∨ (c.name? = none ∧ ∀ d ∈ before, d.name? ≠ none))

/-- The first registered converter that carries a name and targets a type. -/
def FirstNamed (reg : List Converter) (t : Ty) (n : String) (c : Converter) : Prop :=
  ∃ before after, reg = before ++ c :: after ∧ c.name? = some n ∧ c.target = t ∧
    ∀ d ∈ before, ¬ (d.name? = some n ∧ d.target = t)

section Scan

variable {reg : List Converter} {t : Ty} {c : Converter}

theorem byName_eq_ok
    {n : String} (h : byName reg t n = .ok c) :
    FirstNamed reg t n c := by
  unfold byName at h
  split at h
  · next c' hfind =>
      cases h
      obtain ⟨hc, before, after, hreg, hbefore⟩ := List.find?_eq_some_iff_append.1 hfind
      simp only [Bool.and_eq_true, beq_iff_eq] at hc
      refine ⟨before, after, hreg, hc.1, hc.2, fun d hd hnamed => ?_⟩
      simpa [hnamed.1, hnamed.2] using hbefore d hd
  · cases h

theorem byName_eq_error
    {n : String} {e : Error} (h : byName reg t n = .error e) :
    e = .config (.unknownConverter n t.name) ∧ ∀ c ∈ reg, c.name? = some n → c.target ≠ t := by
  unfold byName at h
  split at h
  · cases h
  · next hfind =>
      cases h
      refine ⟨rfl, fun c hc hname htarget => ?_⟩
      have := List.find?_eq_none.1 hfind c hc
      simp [hname, htarget] at this

theorem byTarget_eq_none
    (h : byTarget reg t = .ok none) :
    candidates reg t = [] := by
  unfold byTarget at h
  split at h
  · assumption
  · cases h
  · split at h <;> cases h

theorem byTarget_eq_some
    (h : byTarget reg t = .ok (some c)) :
    Preferred reg t c := by
  unfold byTarget at h
  split at h
  · cases h
  · next c' hone =>
      cases h
      exact ⟨[], [], hone, .inl ⟨rfl, rfl⟩⟩
  · split at h
    · next several _ _ c' hfind =>
        cases h
        obtain ⟨hc, before, after, hsev, hbefore⟩ := List.find?_eq_some_iff_append.1 hfind
        refine ⟨before, after, hsev, .inr ⟨by simpa using hc, fun d hd hnone => ?_⟩⟩
        simpa [hnone] using hbefore d hd
    · cases h

/-- Several candidates, all named, are ambiguous; the error lists their names in scan order. -/
theorem byTarget_eq_error
    {e : Error} (h : byTarget reg t = .error e) :
    2 ≤ (candidates reg t).length ∧ (∀ c ∈ candidates reg t, c.name?.isSome) ∧
      e = .config (.ambiguousConverter t.name ((candidates reg t).filterMap (·.name?))) := by
  unfold byTarget at h
  split at h
  · cases h
  · cases h
  · next several hnil hone =>
      split at h
      · cases h
      · next hfind =>
          cases h
          refine ⟨?_, fun c hc => ?_, rfl⟩
          · match hsev : candidates reg t with
            | [] => exact absurd hsev hnil
            | [c] => exact absurd hsev (hone c)
            | _ :: _ :: _ => simp
          · have := List.find?_eq_none.1 hfind c hc
            simpa [Option.isSome_iff_ne_none] using this

end Scan

/-! ## What a resolution gives -/

/-- Whether a request names its converter: by instance or by name, or through a segment. -/
def Names (r : Request) : Prop :=
  (∃ sel, r.selection = some sel ∧ (sel.inst.isSome ∨ sel.name.isSome)) ∨ r.segment.isSome

theorem not_names_nested
    (r : Request) (object : Option Engine) :
    ¬ Names (r.nested object) := by
  simp [Names, Request.nested]

/-- A type that gets no converter when objects get the engine `object`: options and boxes
around a primitive, or around an object type when no engine is given, with no candidate at
any layer. -/
inductive Unconverted (reg : List Converter) (object : Option Engine) : Ty → Prop
  | primitive {t} : t.shape = .primitive → candidates reg t = [] → Unconverted reg object t
  | object {p} : object = none → candidates reg (.object p) = [] → Unconverted reg object (.object p)
  | option {i} : candidates reg (.option i) = [] → Unconverted reg object i →
      Unconverted reg object (.option i)
  | box {i} : candidates reg (.box i) = [] → Unconverted reg object i →
      Unconverted reg object (.box i)

/-- A converter tree for a type: at each node the registry's converter for the node's type
when there is a candidate, and otherwise the converter the node's shape builds from trees for
its parts. -/
inductive Tree (reg : List Converter) : Ty → Converter → Prop
  | registry {t c} : Preferred reg t c → Tree reg t c
  | nullable {i c} : candidates reg (.option i) = [] → Tree reg i c →
      Tree reg (.option i) (.nullable (.option i) i c i.canHoldNone)
  | pointer {i c} : candidates reg (.box i) = [] → Tree reg i c →
      Tree reg (.box i) (.pointer (.box i) i c)
  | vec {e c} : candidates reg (.vec e) = [] → Tree reg e c → Tree reg (.vec e) (.list (.vec e) e c)
  | deque {e c} : candidates reg (.deque e) = [] → Tree reg e c →
      Tree reg (.deque e) (.list (.deque e) e c)
  | hashMap {k v kc vc} : candidates reg (.hashMap k v) = [] → Tree reg k kc → Tree reg v vc →
      Tree reg (.hashMap k v) (.dictionary (.hashMap k v) k v false kc vc)
  | btreeMap {k v kc vc} : candidates reg (.btreeMap k v) = [] → Tree reg k kc → Tree reg v vc →
      Tree reg (.btreeMap k v) (.dictionary (.btreeMap k v) k v true kc vc)
  | pair {k v kc vc} : candidates reg (.pair k v) = [] → Tree reg k kc → Tree reg v vc →
      Tree reg (.pair k v) (.pair (.pair k v) k v kc vc)
  | enum {p vs} : candidates reg (.enum p) = [] → Tree reg (.enum p) (.enum (.enum p) vs)
  | object {p e} : candidates reg (.object p) = [] → Tree reg (.object p) (.object (.object p) e)

theorem Tree.target_eq
    {reg : List Converter} {t : Ty} {c : Converter} (h : Tree reg t c) :
    c.target = t := by
  cases h with
  | registry hc =>
      obtain ⟨before, after, hcands, -⟩ := hc
      have hmem : c ∈ candidates reg t := by simp [hcands]
      exact (mem_candidates.1 hmem).2
  | _ => rfl

/-- The converter a request gets for a type: the instance it carries (whatever that
converts), the first registered converter of the name it gives, the first registered array
converter for a segment, and, when it names nothing, a tree for the type. -/
inductive Chosen (reg : List Converter) (t : Ty) (r : Request) : Converter → Prop
  | given {sel i} : r.selection = some sel → sel.inst = some i → Chosen reg t r (.custom i)
  | named {sel n c} : r.selection = some sel → sel.inst = none → sel.name = some n →
      FirstNamed reg t n c → Chosen reg t r c
  | segment {c} : (∀ sel, r.selection = some sel → sel.inst = none ∧ sel.name = none) →
      r.segment.isSome → FirstNamed reg t "array" c → Chosen reg t r c
  | tree {c} : ¬ Names r → Tree reg t c → Chosen reg t r c

/-- The errors resolution fails with, raised for a member or root `label`: a name that no
registered converter of the type carries, several candidates that are all named (listed in
scan order), or a part of a collection that gets no converter. -/
inductive Fault (reg : List Converter) (label : String) : Error → Prop
  | unknown {n t} : (∀ c ∈ reg, c.name? = some n → c.target ≠ t) →
      Fault reg label (.config (.unknownConverter n t.name))
  | ambiguous {t} : 2 ≤ (candidates reg t).length → (∀ c ∈ candidates reg t, c.name?.isSome) →
      Fault reg label (.config (.ambiguousConverter t.name ((candidates reg t).filterMap (·.name?))))
  | missing {t object} : Unconverted reg object t →
      Fault reg label (.config (.missingElementStrategy label t.name))

/-- What resolving `t` for `r` may give: a fault, no converter for a type that is unconverted
when the request names nothing, or a chosen converter. -/
def Resolved (reg : List Converter) (t : Ty) (r : Request) : Except Error (Option Converter) → Prop
  | .error e => Fault reg r.label e
  | .ok none => ¬ Names r ∧ Unconverted reg r.object t
  | .ok (some c) => Chosen reg t r c

/-! ## The top of the tree -/

section Top

variable {reg : List Converter} {t : Ty} {r : Request}

theorem chosen_of_given
    {sel : Selector} {i : CustomConverter} (hsel : r.selection = some sel) (hi : sel.inst = some i) :
    chosen reg t r = .ok (some (.custom i)) := by
  unfold chosen
  rw [hsel]
  simp only [hi]
  rfl

theorem chosen_of_named
    {sel : Selector} {n : String} (hsel : r.selection = some sel) (hi : sel.inst = none)
    (hn : sel.name = some n) :
    chosen reg t r = (byName reg t n >>= fun c => pure (some c)) := by
  unfold chosen
  rw [hsel]
  simp only [hi, hn]

theorem chosen_of_unselected
    (h : ∀ sel, r.selection = some sel → sel.inst = none ∧ sel.name = none) :
    chosen reg t r =
      if r.segment.isSome then (byName reg t "array" >>= fun c => pure (some c)) else byTarget reg t := by
  unfold chosen
  cases hsel : r.selection with
  | none => rfl
  | some sel =>
      obtain ⟨hi, hn⟩ := h sel hsel
      simp only [hi, hn]

/-- A request carries an instance, or a name and no instance, or neither. -/
theorem selection_cases
    (r : Request) :
    (∃ sel i, r.selection = some sel ∧ sel.inst = some i) ∨
      (∃ sel n, r.selection = some sel ∧ sel.inst = none ∧ sel.name = some n) ∨
      ∀ sel, r.selection = some sel → sel.inst = none ∧ sel.name = none := by
  cases hsel : r.selection with
  | none => exact .inr (.inr fun sel h => nomatch h)
  | some sel =>
      cases hi : sel.inst with
      | some i => exact .inl ⟨sel, i, rfl, hi⟩
      | none =>
          cases hn : sel.name with
          | some n => exact .inr (.inl ⟨sel, n, rfl, hi, hn⟩)
          | none =>
              refine .inr (.inr fun sel' h => ?_)
              cases h
              exact ⟨hi, hn⟩

theorem names_iff_segment
    (h : ∀ sel, r.selection = some sel → sel.inst = none ∧ sel.name = none) :
    Names r ↔ r.segment.isSome := by
  refine ⟨fun hn => hn.resolve_left fun ⟨sel, hsel, hpick⟩ => ?_, .inr⟩
  obtain ⟨hi, hnm⟩ := h sel hsel
  simp [hi, hnm] at hpick

/-- What the top of a resolution may give before the shape is looked at: a fault, nothing
for a request that names nothing and a type without candidates, or a chosen converter. -/
def Offered (reg : List Converter) (t : Ty) (r : Request) : Except Error (Option Converter) → Prop
  | .error e => Fault reg r.label e
  | .ok none => ¬ Names r ∧ candidates reg t = []
  | .ok (some c) => Chosen reg t r c

/-- An instance is taken as it is, a name or a segment looks the registry up by name, and a
request that names nothing takes what the registry scan offers. -/
theorem chosen_offered :
    Offered reg t r (chosen reg t r) := by
  rcases selection_cases r with ⟨sel, i, hsel, hi⟩ | ⟨sel, n, hsel, hi, hn⟩ | hnone
  · rw [chosen_of_given hsel hi]
    exact .given hsel hi
  · rw [chosen_of_named hsel hi hn]
    cases hb : byName reg t n with
    | error e =>
        obtain ⟨rfl, hno⟩ := byName_eq_error hb
        exact .unknown hno
    | ok c => exact .named hsel hi hn (byName_eq_ok hb)
  · rw [chosen_of_unselected hnone]
    split
    · next hseg =>
        cases hb : byName reg t "array" with
        | error e =>
            obtain ⟨rfl, hno⟩ := byName_eq_error hb
            exact .unknown hno
        | ok c => exact .segment hnone hseg (byName_eq_ok hb)
    · next hseg =>
        have hplain : ¬ Names r := fun hn => hseg ((names_iff_segment hnone).1 hn)
        cases hb : byTarget reg t with
        | error e =>
            obtain ⟨htwo, hnamed, rfl⟩ := byTarget_eq_error hb
            exact .ambiguous htwo hnamed
        | ok x =>
            cases x with
            | none => exact ⟨hplain, byTarget_eq_none hb⟩
            | some c => exact .tree hplain (.registry (byTarget_eq_some hb))

/-- What the request names or the registry offers is the result, unless it is nothing; then
the shape's step `k` decides, for a request that names nothing and a type with no candidate. -/
theorem resolved_of_chosen
    {k : Except Error (Option Converter)}
    (hk : ¬ Names r → candidates reg t = [] → Resolved reg t r k) :
    Resolved reg t r (do
      let x ← chosen reg t r
      match x with
      | some c => pure (some c)
      | _ => k) := by
  have hoffered : Offered reg t r (chosen reg t r) := chosen_offered
  cases h : chosen reg t r with
  | error e =>
      rw [h] at hoffered
      exact hoffered
  | ok x =>
      rw [h] at hoffered
      cases x with
      | some c => exact hoffered
      | none => exact hk hoffered.1 hoffered.2

end Top

theorem Chosen.tree_of_not_names
    {reg : List Converter} {t : Ty} {r : Request} {c : Converter} (hn : ¬ Names r)
    (h : Chosen reg t r c) :
    Tree reg t c := by
  cases h with
  | given hsel hi => exact absurd (.inl ⟨_, hsel, .inl (by simp [hi])⟩) hn
  | named hsel _ hname => exact absurd (.inl ⟨_, hsel, .inr (by simp [hname])⟩) hn
  | segment _ hseg => exact absurd (.inr hseg) hn
  | tree _ htree => exact htree

/-- What resolving a part of a type may give, for the member or root `label` and the engine
`object` of the part's request: a fault, no converter for an unconverted part, or a tree. -/
def Part (reg : List Converter) (label : String) (object : Option Engine) (t : Ty) :
    Except Error (Option Converter) → Prop
  | .error e => Fault reg label e
  | .ok none => Unconverted reg object t
  | .ok (some c) => Tree reg t c

theorem Resolved.part
    {reg : List Converter} {t : Ty} {r : Request} {object : Option Engine}
    {x : Except Error (Option Converter)} (h : Resolved reg t (r.nested object) x) :
    Part reg r.label object t x := by
  cases x with
  | error e => exact h
  | ok x =>
      cases x with
      | none => exact h.2
      | some c => exact Chosen.tree_of_not_names (not_names_nested r object) h

theorem resolved_list
    {reg : List Converter} {r : Request} {t e : Ty} {object : Option Engine}
    {x : Except Error (Option Converter)} (hn : ¬ Names r) (hx : Part reg r.label object e x)
    (htree : ∀ c, Tree reg e c → Tree reg t (.list t e c)) :
    Resolved reg t r (x >>= fun y => resolve.list t e y r.label) := by
  cases x with
  | error err => exact hx
  | ok y =>
      cases y with
      | none => exact Fault.missing hx
      | some c => exact .tree hn (htree c hx)

/-- A map or a pair follows its two parts: the first fault stays one, the first part that gets
no converter is a missing strategy, and two part trees give the whole its tree. -/
theorem resolved_parts
    {reg : List Converter} {r : Request} {t k v : Ty} {ok ov : Option Engine}
    {xk xv : Except Error (Option Converter)} {mk : Converter → Converter → Converter}
    (hn : ¬ Names r) (hk : Part reg r.label ok k xk) (hv : Part reg r.label ov v xv)
    (htree : ∀ kc vc, Tree reg k kc → Tree reg v vc → Tree reg t (mk kc vc)) :
    Resolved reg t r (do
      let kc ← xk
      let vc ← xv
      let (kc, vc) ← resolve.parts k v kc vc r.label
      pure (some (mk kc vc))) := by
  cases xk with
  | error err => exact hk
  | ok yk =>
  cases xv with
  | error err => exact hv
  | ok yv =>
  cases yk with
  | none => exact Fault.missing hk
  | some kc =>
  cases yv with
  | none => exact Fault.missing hv
  | some vc => exact .tree hn (htree kc vc hk hv)

/-- Resolution gives a fault, no converter for an unconverted type, or a chosen converter
tree: by induction on the type, each part's result deciding its whole's. -/
theorem resolve_resolved
    (reg : List Converter) (cat : Catalog) :
    ∀ t r, Resolved reg t r (resolve reg cat t r) := by
  intro t
  induction t with
  | option i ih =>
      intro r
      rw [resolve]
      refine resolved_of_chosen fun hn hc => ?_
      have hi := (ih (r.nested r.object)).part
      cases hx : resolve reg cat i (r.nested r.object) with
      | error e =>
          rw [hx] at hi
          exact hi
      | ok x =>
          rw [hx] at hi
          cases x with
          | none => exact ⟨hn, .option hc hi⟩
          | some c => exact .tree hn (.nullable hc hi)
  | box i ih =>
      intro r
      rw [resolve]
      refine resolved_of_chosen fun hn hc => ?_
      have hi := (ih (r.nested r.object)).part
      cases hx : resolve reg cat i (r.nested r.object) with
      | error e =>
          rw [hx] at hi
          exact hi
      | ok x =>
          rw [hx] at hi
          cases x with
          | none => exact ⟨hn, .box hc hi⟩
          | some c => exact .tree hn (.pointer hc hi)
  | vec e ih =>
      intro r
      rw [resolve]
      exact resolved_of_chosen fun hn hc =>
        resolved_list hn (ih _).part fun _ htree => .vec hc htree
  | deque e ih =>
      intro r
      rw [resolve]
      exact resolved_of_chosen fun hn hc =>
        resolved_list hn (ih _).part fun _ htree => .deque hc htree
  | hashMap k v ihk ihv =>
      intro r
      rw [resolve]
      exact resolved_of_chosen fun hn hc =>
        resolved_parts hn (ihk _).part (ihv _).part fun _ _ hk hv => .hashMap hc hk hv
  | btreeMap k v ihk ihv =>
      intro r
      rw [resolve]
      exact resolved_of_chosen fun hn hc =>
        resolved_parts hn (ihk _).part (ihv _).part fun _ _ hk hv => .btreeMap hc hk hv
  | pair k v ihk ihv =>
      intro r
      rw [resolve]
      exact resolved_of_chosen fun hn hc =>
        resolved_parts hn (ihk _).part (ihv _).part fun _ _ hk hv => .pair hc hk hv
  | enum p =>
      intro r
      rw [resolve]
      exact resolved_of_chosen fun hn hc => .tree hn (.enum hc)
  | object p =>
      intro r
      rw [resolve]
      refine resolved_of_chosen fun hn hc => ?_
      cases ho : r.object with
      | none => exact ⟨hn, .object ho hc⟩
      | some e => exact .tree hn (.object hc)
  | scalar _ | string | placeholder | newtype _ _ =>
      intro r
      unfold resolve
      exact resolved_of_chosen fun hn hc => ⟨hn, .primitive rfl hc⟩

theorem byTarget_of_nil
    {reg : List Converter} {t : Ty} (h : candidates reg t = []) :
    byTarget reg t = .ok none := by
  unfold byTarget
  rw [show reg.filter (·.target == t) = [] from h]

theorem chosen_of_not_names
    {reg : List Converter} {t : Ty} {r : Request} (hn : ¬ Names r) :
    chosen reg t r = byTarget reg t := by
  rcases selection_cases r with ⟨sel, i, hsel, hi⟩ | ⟨sel, n, hsel, hi, hname⟩ | hnone
  · exact absurd (.inl ⟨sel, hsel, .inl (by simp [hi])⟩) hn
  · exact absurd (.inl ⟨sel, hsel, .inr (by simp [hname])⟩) hn
  · have hseg : ¬ r.segment.isSome := fun hseg => hn (.inr hseg)
    rw [chosen_of_unselected hnone, if_neg hseg]

theorem resolve_option_of_nil
    {reg : List Converter} {cat : Catalog} {i : Ty} {r : Request} (hn : ¬ Names r)
    (hc : candidates reg (.option i) = []) :
    resolve reg cat (.option i) r = (resolve reg cat i (r.nested r.object)).map
      (Option.map fun c => .nullable (.option i) i c i.canHoldNone) := by
  rw [resolve, chosen_of_not_names hn, byTarget_of_nil hc]
  show (resolve reg cat i (r.nested r.object) >>= _) = _
  cases resolve reg cat i (r.nested r.object) with
  | error e => rfl
  | ok x => cases x <;> rfl

theorem resolve_box_of_nil
    {reg : List Converter} {cat : Catalog} {i : Ty} {r : Request} (hn : ¬ Names r)
    (hc : candidates reg (.box i) = []) :
    resolve reg cat (.box i) r = (resolve reg cat i (r.nested r.object)).map
      (Option.map fun c => .pointer (.box i) i c) := by
  rw [resolve, chosen_of_not_names hn, byTarget_of_nil hc]
  show (resolve reg cat i (r.nested r.object) >>= _) = _
  cases resolve reg cat i (r.nested r.object) with
  | error e => rfl
  | ok x => cases x <;> rfl

/-- An unconverted type gets no converter from a request that names nothing and gives the
engine it is unconverted for: by induction on why it is unconverted. -/
theorem resolve_eq_none_of_unconverted
    {reg : List Converter} (cat : Catalog) {object : Option Engine} {t : Ty}
    (h : Unconverted reg object t) :
    ∀ r, ¬ Names r → r.object = object → resolve reg cat t r = .ok none := by
  induction h with
  | @primitive t hshape hc =>
      intro r hn _
      have hchosen : chosen reg t r = .ok none := (chosen_of_not_names hn).trans (byTarget_of_nil hc)
      cases t <;> simp only [Ty.shape, reduceCtorEq] at hshape <;> (unfold resolve; rw [hchosen]; rfl)
  | object hnone hc =>
      intro r hn ho
      rw [resolve, chosen_of_not_names hn, byTarget_of_nil hc]
      show Except.ok (r.object.map _) = _
      rw [ho, hnone]
      rfl
  | option hc _ ih =>
      intro r hn ho
      rw [resolve_option_of_nil hn hc, ih (r.nested r.object) (not_names_nested r _) ho]
      rfl
  | box hc _ ih =>
      intro r hn ho
      rw [resolve_box_of_nil hn hc, ih (r.nested r.object) (not_names_nested r _) ho]
      rfl

/-- A type left without a converter only because no engine was given gets, once an engine is
given, an object converter for the object type behind its options and boxes, wrapped in them:
by induction on why it is unconverted. -/
theorem resolve_object_of_unconverted
    {reg : List Converter} (cat : Catalog) {t z : Ty} (h : Unconverted reg none t) :
    t.innermostObject? = some z → ∀ r, ¬ Names r → ∀ e, r.object = some e →
      ∃ c, resolve reg cat t r = .ok (some c) ∧ c.nestedObjects = [z] := by
  induction h with
  | @primitive t hshape _ =>
      intro hz
      cases t <;> simp only [Ty.shape, reduceCtorEq] at hshape <;>
        simp [Ty.innermostObject?] at hz
  | @object p _ hc =>
      intro hz r hn e he
      have hp : Ty.object p = z := by simpa [Ty.innermostObject?] using hz
      rw [resolve, chosen_of_not_names hn, byTarget_of_nil hc]
      refine ⟨.object (.object p) e, ?_, by rw [← hp]; rfl⟩
      show Except.ok (r.object.map _) = _
      rw [he]
      rfl
  | @option i hc _ ih =>
      intro hz r hn e he
      obtain ⟨c, hres, hnested⟩ := ih hz (r.nested r.object) (not_names_nested r _) e he
      rw [resolve_option_of_nil hn hc, hres]
      exact ⟨.nullable (.option i) i c i.canHoldNone, rfl, hnested⟩
  | @box i hc _ ih =>
      intro hz r hn e he
      obtain ⟨c, hres, hnested⟩ := ih hz (r.nested r.object) (not_names_nested r _) e he
      rw [resolve_box_of_nil hn hc, hres]
      exact ⟨.pointer (.box i) i c, rfl, hnested⟩

/-- Resolving a converter for any type, with any registry and any request, fails only for an
unknown name, an ambiguous registry or a part of a collection without a converter; finds no
converter exactly when the request names nothing and the type is options and boxes around a
primitive without candidates or around an object type with no engine; and otherwise gives the
instance or named converter the request asks for, or a converter tree that follows the type,
with the registry's converter preempting the shape at every node. -/
theorem converter_resolution_builds_typed_trees
    (reg : List Converter) (cat : Catalog) (t : Ty) (r : Request) :
    (∀ e, resolve reg cat t r = .error e → Fault reg r.label e) ∧
    (resolve reg cat t r = .ok none ↔ ¬ Names r ∧ Unconverted reg r.object t) ∧
    (∀ c, resolve reg cat t r = .ok (some c) → Chosen reg t r c) := by
  have h := resolve_resolved reg cat t r
  refine ⟨fun e he => ?_, ⟨fun hnone => ?_, fun ⟨hn, hu⟩ => ?_⟩, fun c hc => ?_⟩
  · rw [he] at h
    exact h
  · rw [hnone] at h
    exact h
  · exact resolve_eq_none_of_unconverted cat hu r hn rfl
  · rw [hc] at h
    exact h

end Resolve
end ObjectWire
