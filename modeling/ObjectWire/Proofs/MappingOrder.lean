import Mathlib.Data.Prod.Lex
import ObjectWire.Proofs.NestedChecks
/-!
# The order of a mapping list

A mapping list is built in two passes. A depth-first walk visits the members of the root type
in the order the member list gives them, and for each member that is not gated out by the
version it either emits one mapping (the member has a converter, or gets an object converter),
skips it (its object type is already on the cascade chain), or walks, in place, the members
of the object it cascades into, one level deeper and behind it on the path (`MemberWalk`).
The list is then sorted stably by depth, then order.

The walk is what the builder's loop collects: each member contributes its part behind what
the members before it collected (`collectStep_walks`), and nested checks add nothing. The
sort is an insertion sort that puts each element before the first one it may precede; for a
total preorder that is the standard library's merge sort (`sortStable_eq_mergeSort`), which
is stable: mappings with equal keys keep the order of the walk.

**Results.**
* `collect_walks`, `freshList_walks`: the mappings collected for a type are its member walk.
* `sortStable_eq_mergeSort`: the builder's sort is the stable merge sort.
* `mapping_lists_sort_the_member_walk`: a mapping list is its member walk, stably sorted by
  depth and order; so shallower mappings come first, and ties keep the walk's order.
-/

namespace ObjectWire

/-! ## Stable sorting -/

section Sorting

variable {α : Type} (le : α → α → Bool)

theorem insertBefore_append
    {a : α} {l₁ l₂ : List α} (h₁ : ∀ b ∈ l₁, le a b = false) (h₂ : ∀ b ∈ l₂.head?, le a b = true) :
    insertBefore le a (l₁ ++ l₂) = l₁ ++ a :: l₂ := by
  induction l₁ with
  | nil =>
      cases l₂ with
      | nil => rfl
      | cons b l₂ => simp [insertBefore, h₂ b rfl]
  | cons b l₁ ih =>
      have hb : le a b = false := h₁ b (List.mem_cons_self ..)
      simp only [List.cons_append, insertBefore, hb, Bool.false_eq_true, if_false]
      rw [ih fun c hc => h₁ c (List.mem_cons_of_mem b hc)]

variable {le}

theorem sortStable_eq_mergeSort
    (trans : ∀ a b c, le a b = true → le b c = true → le a c = true)
    (total : ∀ a b, (le a b || le b a) = true) (l : List α) :
    sortStable le l = l.mergeSort le := by
  induction l with
  | nil => simp [sortStable]
  | cons a l ih =>
      obtain ⟨l₁, l₂, hcons, hrest, hbefore⟩ := List.mergeSort_cons trans total a l
      have hsorted := List.pairwise_mergeSort trans total (a :: l)
      rw [hcons, List.pairwise_append] at hsorted
      have hafter : ∀ b ∈ l₂.head?, le a b = true := fun b hb =>
        List.rel_of_pairwise_cons hsorted.2.1 (List.mem_of_mem_head? hb)
      rw [sortStable, ih, hrest, hcons]
      exact insertBefore_append le (fun b hb => by simpa using hbefore b hb) hafter

end Sorting

section KeyedSort

variable {α κ : Type} [LinearOrder κ] (key : α → κ)

/-- The stable sort by a key. -/
abbrev sortByKey (l : List α) : List α := l.mergeSort fun a b => decide (key a ≤ key b)

theorem sortByKey_pairwise
    (l : List α) :
    (sortByKey key l).Pairwise fun a b => key a ≤ key b := by
  have h := @List.pairwise_mergeSort _ (fun a b => decide (key a ≤ key b))
    (fun a b c hab hbc => by simp only [decide_eq_true_eq] at *; exact le_trans hab hbc)
    (fun a b => by simpa using le_total (key a) (key b)) l
  exact h.imp fun hab => by simpa using hab

/-- Sorting by a key keeps, for every key, the elements with that key in their order. -/
theorem sortByKey_filter_eq
    (l : List α) (k : κ) :
    (sortByKey key l).filter (fun a => key a = k) = l.filter (fun a => key a = k) := by
  have hsub : List.Sublist (l.filter fun a => key a = k) (sortByKey key l) := by
    refine List.sublist_mergeSort
      (fun a b c hab hbc => by simp only [decide_eq_true_eq] at *; exact le_trans hab hbc)
      (fun a b => by simpa using le_total (key a) (key b)) ?_ List.filter_sublist
    refine List.Pairwise.imp_of_mem ?_ (List.pairwise_of_forall fun _ _ => trivial)
    intro a b ha hb _
    simp only [List.mem_filter, decide_eq_true_eq] at ha hb
    simp [ha.2, hb.2]
  have hfilter := hsub.filter (fun a => decide (key a = k))
  simp only [List.filter_filter, Bool.and_self] at hfilter
  have hlen := ((List.mergeSort_perm l fun a b => decide (key a ≤ key b)).filter
    fun a => decide (key a = k)).length_eq
  exact (hfilter.eq_of_length hlen.symm).symm

end KeyedSort

/-! ## The order key of a mapping -/

/-- The sort key of a mapping: its cascade depth, then its member's order. -/
def Mapping.key (m : Mapping) : ℕ ×ₗ ℤ := toLex (m.cascadeId, m.member.order)

theorem Mapping.before_eq
    (a b : Mapping) :
    Mapping.before a b = decide (a.key ≤ b.key) := by
  rw [Bool.eq_iff_iff]
  simp [Mapping.before, Mapping.key, Prod.Lex.toLex_le_toLex]

theorem sortStable_before
    (l : List Mapping) :
    sortStable Mapping.before l = sortByKey Mapping.key l := by
  have hbefore : Mapping.before = fun a b => decide (a.key ≤ b.key) :=
    funext fun a => funext fun b => Mapping.before_eq a b
  rw [hbefore]
  exact sortStable_eq_mergeSort
    (fun a b c hab hbc => by simp only [decide_eq_true_eq] at *; exact le_trans hab hbc)
    (fun a b => by simpa using le_total a.key b.key) l

/-! ## The member walk -/

/-- The converter the registry of `o` resolves for a member, with object types given an
engine or not. -/
def Descriptor.converterFor (o : Options) (cat : Catalog) (d : Descriptor)
    (object : Option Engine) : Except Error (Option Converter) :=
  Resolve.resolve o.registry cat d.info.ty (Request.ofMember d.info.attributes d.qualifiedName object)

/-- Whether a member reaching `target` is flattened into its owner: a field of exactly that
type, borrowed mutably, with no engine annotation. -/
def Descriptor.cascadesInto (d : Descriptor) (target : Ty) : Bool :=
  d.info.ty == target && d.canCascade && d.info.attributes.nested.isNone

/-- The depth-first walk of the members `ds` of an object reached through the cascade
`chain`, behind the cascaded fields `path` at depth `depth`: the mappings it emits, in the
order it emits them. -/
inductive MemberWalk (cat : Catalog) (o : Options) (v : Option Version) :
    List Ty → List Descriptor → Nat → List Descriptor → List Mapping → Prop
  | nil {chain path depth} : MemberWalk cat o v chain path depth [] []
  /-- A member the version gates out is skipped. -/
  | gatedOut {chain path depth d ds out}
      (hgate : isMemberPresent d.info.attributes.versions v = false)
      (hrest : MemberWalk cat o v chain path depth ds out) :
      MemberWalk cat o v chain path depth (d :: ds) out
  /-- A member with a converter is mapped with it. -/
  | direct {chain path depth d ds out c}
      (hgate : isMemberPresent d.info.attributes.versions v = true)
      (hconv : d.converterFor o cat none = .ok (some c))
      (hrest : MemberWalk cat o v chain path depth ds out) :
      MemberWalk cat o v chain path depth (d :: ds) (⟨d, path, depth, c⟩ :: out)
  /-- A member whose object type is on the chain refers back, and is skipped. -/
  | backReference {chain path depth d ds out target}
      (hgate : isMemberPresent d.info.attributes.versions v = true)
      (hconv : d.converterFor o cat none = .ok none)
      (htarget : d.info.ty.innermostObject? = some target) (hchain : target ∈ chain)
      (hrest : MemberWalk cat o v chain path depth ds out) :
      MemberWalk cat o v chain path depth (d :: ds) out
  /-- A cascadable field emits, in place, the walk of its type's members, one level deeper
  and behind it on the path. -/
  | cascade {chain path depth d ds out target es inner}
      (hgate : isMemberPresent d.info.attributes.versions v = true)
      (hconv : d.converterFor o cat none = .ok none)
      (htarget : d.info.ty.innermostObject? = some target) (hchain : target ∉ chain)
      (hcascade : d.cascadesInto target = true) (hmembers : discoverMembers cat o target = .ok es)
      (hinner : MemberWalk cat o v (target :: chain) (path ++ [d]) (depth + 1) es inner)
      (hrest : MemberWalk cat o v chain path depth ds out) :
      MemberWalk cat o v chain path depth (d :: ds) (inner ++ out)
  /-- Any other reach of an object gets an object converter. -/
  | object {chain path depth d ds out target c}
      (hgate : isMemberPresent d.info.attributes.versions v = true)
      (hconv : d.converterFor o cat none = .ok none)
      (htarget : d.info.ty.innermostObject? = some target) (hchain : target ∉ chain)
      (hcascade : d.cascadesInto target = false)
      (hobject : d.converterFor o cat (some (d.info.attributes.nested.getD .dynamic)) = .ok (some c))
      (hrest : MemberWalk cat o v chain path depth ds out) :
      MemberWalk cat o v chain path depth (d :: ds) (⟨d, path, depth, c⟩ :: out)

namespace Run

variable {α γ δ : Type}

/-! ## One member of the builder's loop -/

/-- What the builder's loop does with one member `d`, having collected `out` so far. -/
def collectStep (fuel : Nat) (v : Option Version) (chain visiting : List Ty)
    (path : List Descriptor) (depth : Nat) (policy : CyclePolicy) (d : Descriptor)
    (out : List Mapping) : Run (ForInStep (List Mapping)) := do
  if !isMemberPresent d.info.attributes.versions v then
    log .trace s!"'{d.qualifiedName}' is gated out"
    return .yield out
  if let some c ← resolveMember d none then
    checkNested fuel c v visiting
    return .yield (out ++ [⟨d, path, depth, c⟩])
  let some target := d.info.ty.innermostObject?
    | throw (.config (.unsupportedMember d.qualifiedName d.info.ty.name))
  if chain.contains target then
    match policy with
    | .skip =>
      log .warn s!"skipping '{d.qualifiedName}': it refers back to '{target.name}'"
      return .yield out
    | .error => throw (.config (.cyclicMember d.qualifiedName target.name))
  if d.info.ty == target && d.canCascade && d.info.attributes.nested.isNone then
    return .yield (out ++ (← collect fuel target v (target :: chain) visiting (path ++ [d]) (depth + 1)))
  else
    let kind := d.info.attributes.nested.getD .dynamic
    let some c ← resolveMember d (some kind)
      | throw (.config (.unsupportedMember d.qualifiedName d.info.ty.name))
    checkNested fuel c v visiting
    return .yield (out ++ [⟨d, path, depth, c⟩])

theorem collect_succ
    (fuel : Nat) (t : Ty) (v : Option Version) (chain visiting : List Ty)
    (path : List Descriptor) (depth : Nat) :
    collect (fuel + 1) t v chain visiting path depth =
      options >>= fun o => members t >>= fun ds =>
        forIn ds [] (collectStep fuel v chain visiting path depth o.cyclePolicy) >>= fun out =>
          pure out := by
  rw [collect]
  rfl

/-! ## What the steps of a build return -/

namespace Ensures

variable {s₀ : Session}

theorem lift
    (x : Except Error α) :
    Ensures s₀ (Run.lift x) fun a => x = .ok a := by
  intro m a m' hm hrun
  cases x with
  | ok b =>
      rw [lift_ok_run] at hrun
      cases hrun
      exact ⟨rfl, hm⟩
  | error e =>
      rw [lift_error_run] at hrun
      cases hrun

theorem forIn_append
    {xs : List γ} {f : γ → List δ → Run (ForInStep (List δ))} {W : List γ → List δ → Prop}
    (hnil : W [] [])
    (h : ∀ x ∈ xs, ∀ acc, Ensures s₀ (f x acc) fun r =>
      ∃ w, r = .yield (acc ++ w) ∧ ∀ ys rest, W ys rest → W (x :: ys) (w ++ rest)) :
    ∀ init, Ensures s₀ (ForIn.forIn xs init f) fun r => ∃ w, r = init ++ w ∧ W xs w := by
  induction xs with
  | nil => exact fun init => Ensures.pure ⟨[], (List.append_nil init).symm, hnil⟩
  | cons x xs ih =>
      intro init
      simp only [List.forIn_cons]
      refine Ensures.bind (h x (List.mem_cons_self ..) init) fun r ⟨w, hr, hw⟩ => ?_
      subst hr
      refine (ih (fun y hy => h y (List.mem_cons_of_mem x hy)) (init ++ w)).imp
        fun r ⟨w', hr, hw'⟩ => ⟨w ++ w', by rw [hr, List.append_assoc], hw xs w' hw'⟩

end Ensures

section Walks

variable {cat : Catalog} {o : Options}

theorem resolveMember_ensures
    (d : Descriptor) (object : Option Engine) :
    Ensures (Session.new cat o) (resolveMember d object) fun r =>
      d.converterFor o cat object = .ok r := by
  unfold resolveMember
  refine Ensures.session_bind fun s hs => ?_
  have hreg : s.options.registry = o.registry := hs.registry.symm
  rw [hreg, ← hs.catalog]
  exact Ensures.lift _

theorem log_ensures
    (level : Level) (message : String) :
    Ensures (Session.new cat o) (log level message) fun _ => True :=
  Ensures.of_sim fun _ hR => log_sim hR.toViewRel level message

theorem checkNested_ensures
    (fuel : Nat) (c : Converter) (v : Option Version) (visiting : List Ty) :
    Ensures (Session.new cat o) (checkNested fuel c v visiting) fun _ => True :=
  Ensures.of_sim fun _ hR => checkNested_sim hR fuel c v visiting

/-- One member's part of the walk: the builder appends to what it collected a part that the
walk emits for the member ahead of the rest, given that collecting one level deeper is a
walk. -/
theorem collectStep_walks
    {fuel : Nat} {v : Option Version} {chain visiting : List Ty} {path : List Descriptor}
    {depth : Nat} (policy : CyclePolicy)
    (hcollect : ∀ t chain path depth, Ensures (Session.new cat o)
      (collect fuel t v chain visiting path depth) fun out =>
        ∃ ds, discoverMembers cat o t = .ok ds ∧ MemberWalk cat o v chain path depth ds out)
    (d : Descriptor) (acc : List Mapping) :
    Ensures (Session.new cat o) (collectStep fuel v chain visiting path depth policy d acc)
      fun r => ∃ w, r = .yield (acc ++ w) ∧ ∀ ds rest,
        MemberWalk cat o v chain path depth ds rest →
          MemberWalk cat o v chain path depth (d :: ds) (w ++ rest) := by
  unfold collectStep
  cases hgate : isMemberPresent d.info.attributes.versions v
  case false =>
    exact Ensures.bind (log_ensures _ _) fun _ _ =>
      Ensures.pure ⟨[], by simp, fun ds rest h => .gatedOut hgate h⟩
  case true =>
  dsimp only [Bool.not_true, Bool.false_eq_true, if_false]
  refine Ensures.bind (resolveMember_ensures d none) fun r hconv => ?_
  cases r with
  | some c =>
      exact Ensures.bind (checkNested_ensures _ _ _ _) fun _ _ =>
        Ensures.pure ⟨_, rfl, fun ds rest h => .direct hgate hconv h⟩
  | none =>
  cases htarget : d.info.ty.innermostObject? with
  | none => exact Ensures.throw _
  | some target =>
  dsimp only
  by_cases hchain : chain.contains target = true
  · rw [if_pos hchain]
    have hmem : target ∈ chain := List.contains_iff_mem.1 hchain
    cases policy
    · exact Ensures.bind (log_ensures _ _) fun _ _ =>
        Ensures.pure ⟨[], by simp, fun ds rest h => .backReference hgate hconv htarget hmem h⟩
    · exact Ensures.throw_bind _
  rw [if_neg hchain]
  have hfree : target ∉ chain := fun h => hchain (List.contains_iff_mem.2 h)
  cases hcascade : d.cascadesInto target
  case true =>
    rw [if_pos (show (d.info.ty == target && d.canCascade && d.info.attributes.nested.isNone) = true
      from hcascade)]
    exact Ensures.bind (hcollect _ _ _ _) fun inner ⟨es, hes, hinner⟩ =>
      Ensures.pure ⟨inner, rfl, fun ds rest h => .cascade hgate hconv htarget hfree hcascade hes hinner h⟩
  case false =>
    have hflat : (d.info.ty == target && d.canCascade && d.info.attributes.nested.isNone) = false :=
      hcascade
    rw [if_neg (ne_true_of_eq_false hflat)]
    refine Ensures.bind (resolveMember_ensures d _) fun r hobject => ?_
    cases r with
    | none => exact Ensures.throw _
    | some c =>
        exact Ensures.bind (checkNested_ensures _ _ _ _) fun _ _ =>
          Ensures.pure ⟨_, rfl, fun ds rest h => .object hgate hconv htarget hfree hcascade hobject h⟩

/-- The mappings collected for a type are the walk of its members: by induction on the
fuel, a cascade collecting the walk one level deeper. -/
theorem collect_walks
    (cat : Catalog) (o : Options) (v : Option Version) :
    ∀ fuel t chain visiting path depth,
      Ensures (Session.new cat o) (collect fuel t v chain visiting path depth) fun out =>
        ∃ ds, discoverMembers cat o t = .ok ds ∧ MemberWalk cat o v chain path depth ds out
  | 0, t, chain, visiting, path, depth => by
      rw [collect]
      exact Ensures.throw _
  | fuel + 1, t, chain, visiting, path, depth => by
      rw [collect_succ]
      refine Ensures.bind options_ensures fun o' _ => ?_
      refine Ensures.bind (members_ensures t) fun ds hds => ?_
      refine Ensures.bind (Ensures.forIn_append .nil (fun d _ acc =>
        collectStep_walks o'.cyclePolicy (fun t chain path depth =>
          collect_walks cat o v fuel t chain visiting path depth) d acc) []) fun out hout => ?_
      obtain ⟨w, hw, hwalk⟩ := hout
      rw [List.nil_append] at hw
      exact Ensures.pure ⟨ds, hds, hw ▸ hwalk⟩

theorem buildList_walks
    (cat : Catalog) (o : Options) (fuel : Nat) (t : Ty) (v : Option Version) (visiting : List Ty) :
    Ensures (Session.new cat o) (buildList fuel t v visiting) fun l =>
      l.ty = t ∧ l.version = v ∧ ∃ ds walk, discoverMembers cat o t = .ok ds ∧
        MemberWalk cat o v [t] [] 0 ds walk ∧ l.mappings = sortStable Mapping.before walk := by
  cases fuel with
  | zero =>
      rw [buildList]
      exact Ensures.throw _
  | succ fuel =>
      rw [buildList]
      refine Ensures.ite (fun _ => ?_) fun _ => Ensures.throw_bind _
      refine Ensures.bind (collect_walks cat o v fuel t [t] visiting [] 0) fun found hfound => ?_
      obtain ⟨ds, hds, hwalk⟩ := hfound
      exact Ensures.bind (log_ensures _ _) fun _ _ => Ensures.pure ⟨rfl, rfl, ds, found, hds, hwalk, rfl⟩

theorem freshList_walks
    {cat : Catalog} {o : Options} {t : Ty} {v : Option Version} {l : MappingList}
    (h : freshList cat o t v = .ok l) :
    l.ty = t ∧ l.version = v ∧ ∃ ds walk, discoverMembers cat o t = .ok ds ∧
      MemberWalk cat o v [t] [] 0 ds walk ∧ l.mappings = sortStable Mapping.before walk := by
  obtain ⟨m', hrun⟩ := answer_eq_ok h
  exact (buildList_walks cat o cat.fuel t v [t] _ l m' (Session.Agree.refl _) hrun).1

end Walks

/-- A mapping list is the depth-first walk of its type's members, sorted stably by cascade
depth and then order: shallower mappings come first, mappings at one depth follow their
order, and mappings with equal keys keep the order of the walk. -/
theorem mapping_lists_sort_the_member_walk
    {cat : Catalog} {o : Options} {t : Ty} {v : Option Version} {l : MappingList}
    (h : freshList cat o t v = .ok l) :
    ∃ ds walk, discoverMembers cat o t = .ok ds ∧ MemberWalk cat o v [t] [] 0 ds walk ∧
      l.mappings = sortByKey Mapping.key walk ∧
      l.mappings.Pairwise (fun a b => a.key ≤ b.key) ∧
      ∀ k, l.mappings.filter (fun m => m.key = k) = walk.filter (fun m => m.key = k) := by
  obtain ⟨-, -, ds, walk, hds, hwalk, hsorted⟩ := freshList_walks h
  rw [sortStable_before] at hsorted
  refine ⟨ds, walk, hds, hwalk, hsorted, ?_, fun k => ?_⟩
  · rw [hsorted]
    exact sortByKey_pairwise Mapping.key walk
  · rw [hsorted]
    exact sortByKey_filter_eq Mapping.key walk k

/-- The mapping list of `Deep`, whose cascades reach two levels down with orders that tie,
is the walk of its members sorted by key. -/
theorem deep_mapping_list_sorts_its_walk :
    ∃ l, freshList Sample.catalog {} (Sample.obj "Deep") none = .ok l ∧
      ∃ ds walk, discoverMembers Sample.catalog {} (Sample.obj "Deep") = .ok ds ∧
        MemberWalk Sample.catalog {} none [Sample.obj "Deep"] [] 0 ds walk ∧
        l.mappings = sortByKey Mapping.key walk ∧
        l.mappings.Pairwise (fun a b => a.key ≤ b.key) ∧
        ∀ k, l.mappings.filter (fun m => m.key = k) = walk.filter (fun m => m.key = k) := by
  have hok : (freshList Sample.catalog {} (Sample.obj "Deep") none).toBool = true := by
    decide +kernel
  cases hl : freshList Sample.catalog {} (Sample.obj "Deep") none with
  | error e =>
      rw [hl] at hok
      cases hok
  | ok l => exact ⟨l, rfl, mapping_lists_sort_the_member_walk hl⟩

end Run
end ObjectWire
