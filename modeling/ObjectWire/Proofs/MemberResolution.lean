import Mathlib.Data.List.Basic
import ObjectWire.Proofs.MappingOrder
/-!
# Which members a type resolves to, and in what order

Member resolution counts three things for a declared member: its position among all the
declared members of its type (the index the compiled engine uses), its discovery index among
the members of the selected kind (ignored and unreadable ones counted), and finally its place
in the sorted list. This module says what resolution returns in terms of the declared members
alone: for the member at position `i`, of the selected kind, readable and not ignored, a
descriptor with index `i` and the order the rule gives for its discovery index, which is the
number of members of that kind declared before it; then the stable sort by order.

The code finds discovery indices by numbering the members of the kind after filtering them
out; `zipIdx_filter_zipIdx` turns that numbering into a count over the declared prefix.

**Results.**
* `promisedMembers`: the descriptors resolution promises, in declaration order.
* `discoverMembers_of_kind`: with one member kind selected, the members are the promised ones
  stably sorted by order.
* `annotated_apply_of_some`, `annotated_apply_of_none`: the default rule takes the
  annotation, else the discovery index plus one, saturating at `i64::MAX`.
* `member_resolution_sorts_the_promised_members`: all of it, and the refusal of options that
  select both kinds.
-/

namespace ObjectWire

/-! ## Numbering the members of one kind -/

section Numbering

variable {α β : Type} (p : α → Bool)

/-- Numbering the elements that pass a filter is counting, for each, the elements before it
that pass. -/
theorem zipIdx_filter_zipIdx
    (G : (α × Nat) × Nat → Option β) (l : List α) (s d : Nat) :
    (((l.zipIdx s).filter fun x => p x.1).zipIdx d).filterMap G =
      (l.zipIdx s).filterMap fun x =>
        if p x.1 then G (x, d + (l.take (x.2 - s)).countP p) else none := by
  induction l generalizing s d with
  | nil => rfl
  | cons a l ih =>
      have htail : ∀ c, (if p a then 1 else 0) = c →
          ((l.zipIdx (s + 1)).filterMap fun x =>
            if p x.1 then G (x, d + c + (l.take (x.2 - (s + 1))).countP p) else none) =
          (l.zipIdx (s + 1)).filterMap fun x =>
            if p x.1 then G (x, d + ((a :: l).take (x.2 - s)).countP p) else none := by
        rintro c rfl
        apply List.filterMap_congr
        rintro ⟨x, i⟩ hx
        have hi : i - s = i - (s + 1) + 1 := by
          have := (List.mem_zipIdx hx).1
          omega
        have hcount : d + (if p a then 1 else 0) + (l.take (i - (s + 1))).countP p =
            d + ((a :: l).take (i - s)).countP p := by
          rw [hi, List.take_succ_cons, List.countP_cons, Nat.add_assoc,
            Nat.add_comm (if p a then 1 else 0)]
        simp only [hcount]
      by_cases ha : p a
      · have htail₁ := htail 1 (by simp [ha])
        simp only [List.zipIdx_cons, List.filter_cons, ha, if_true, List.filterMap_cons,
          Nat.sub_self, List.take_zero, List.countP_nil, Nat.add_zero]
        rw [ih, htail₁]
      · have htail₀ := htail 0 (by simp [ha])
        simp only [List.zipIdx_cons, List.filter_cons, ha, Bool.false_eq_true, if_false,
          List.filterMap_cons, Nat.add_zero] at htail₀ ⊢
        rw [ih, htail₀]

end Numbering

/-! ## The promised members -/

/-- The discovery index of the member at position `i` for kind `k`: the members of kind `k`
declared before it. -/
def discoveryIndex (ms : List MemberInfo) (k : MemberKind) (i : Nat) : Nat :=
  (ms.take i).countP (·.kind == k)

/-- The descriptor promised for the member `info` at position `i` of the declared members
`ms` of `t`, when kind `k` is selected and members are ordered by `rule`: one exactly when
the member is of kind `k`, readable and not ignored. -/
def promisedDescriptor (t : Ty) (rule : OrderRule) (k : MemberKind) (ms : List MemberInfo)
    (info : MemberInfo) (i : Nat) : Option Descriptor :=
  if info.kind = k ∧ info.canRead = true ∧ info.attributes.ignore = false then
    some { owner := t, info, index := i,
           order := rule.apply info (discoveryIndex ms k i) (ms.countP (·.kind == k)) }
  else none

/-- The descriptors promised for the declared members `ms` of `t`, in declaration order. -/
def promisedMembers (t : Ty) (rule : OrderRule) (k : MemberKind) (ms : List MemberInfo) :
    List Descriptor :=
  ms.zipIdx.filterMap fun x => promisedDescriptor t rule k ms x.1 x.2

/-- The members of one kind, numbered as the resolver numbers them, are the promised ones. -/
theorem kept_eq_promisedMembers
    (t : Ty) (rule : OrderRule) (k : MemberKind) (ms : List MemberInfo) :
    ((ms.zipIdx.filter fun x => x.1.kind == k).zipIdx.filterMap fun x =>
        if x.1.1.canRead && !x.1.1.attributes.ignore then
          some ({ owner := t, info := x.1.1, index := x.1.2,
                  order := rule.apply x.1.1 x.2 (ms.zipIdx.filter fun x => x.1.kind == k).length } :
            Descriptor)
        else none) =
      promisedMembers t rule k ms := by
  have htotal : (ms.zipIdx.filter fun x => x.1.kind == k).length = ms.countP (·.kind == k) := by
    rw [← List.countP_eq_length_filter]
    conv_rhs => rw [← List.zipIdx_map_fst 0 ms]
    rw [List.countP_map]
    rfl
  rw [htotal, zipIdx_filter_zipIdx (fun m : MemberInfo => m.kind == k)]
  apply List.filterMap_congr
  rintro ⟨info, i⟩ -
  by_cases hk : info.kind = k
  · by_cases hread : info.canRead = true <;> by_cases hign : info.attributes.ignore = true <;>
      simp [promisedDescriptor, discoveryIndex, hk, hread, hign]
  · simp [promisedDescriptor, hk]

theorem sortStable_order_eq
    (l : List Descriptor) :
    sortStable (fun a b => decide (a.order ≤ b.order)) l = sortByKey Descriptor.order l :=
  sortStable_eq_mergeSort
    (fun a b c hab hbc => by simp only [decide_eq_true_eq] at *; exact le_trans hab hbc)
    (fun a b => by simpa using le_total a.order b.order) l

theorem discoverMembers_of_kind
    {cat : Catalog} {opts : Options} {p : String} {schema : ObjectSchema} {k : MemberKind}
    (hschema : cat.object? p = some schema) (hkind : opts.memberKind (.object p) = .ok k) :
    discoverMembers cat opts (.object p) =
      .ok (sortByKey Descriptor.order (promisedMembers (.object p) opts.order k schema.members)) := by
  simp only [discoverMembers, hkind, hschema, bind, Except.bind, pure, Except.pure]
  rw [kept_eq_promisedMembers, sortStable_order_eq]

/-! ## The kind and the order rule -/

theorem Options.memberKind_of_single
    {opts : Options} {k : MemberKind} (h : opts.memberKinds = [k] ∨ opts.memberKinds = [] ∧ k = .field)
    (t : Ty) :
    opts.memberKind t = .ok k := by
  rcases h with h | ⟨h, rfl⟩ <;> simp [Options.memberKind, h]

theorem Options.memberKind_of_both
    {opts : Options} (hf : MemberKind.field ∈ opts.memberKinds)
    (hp : MemberKind.property ∈ opts.memberKinds) (t : Ty) :
    opts.memberKind t = .error (.config (.conflictingMemberKinds t.name)) := by
  unfold Options.memberKind
  match h : opts.memberKinds with
  | [] => simp [h] at hf
  | [k] =>
      rw [h] at hf hp
      simp only [List.mem_singleton] at hf hp
      exact absurd (hf.trans hp.symm) (by decide)
  | _ :: _ :: _ => rfl

theorem annotated_apply_of_some
    {info : MemberInfo} {o : Int} (h : info.attributes.order = some o) (i n : Nat) :
    OrderRule.annotated.apply info i n = o := by
  simp [OrderRule.apply, h]

theorem OrderRule.maxKey_toNat :
    OrderRule.maxKey.toNat = 9223372036854775807 := by
  rfl

theorem OrderRule.successor_of_lt
    {i : Nat} (h : (i : Int) < OrderRule.maxKey) :
    OrderRule.successor i = i + 1 := by
  unfold OrderRule.successor at *
  rw [OrderRule.maxKey_toNat]
  unfold OrderRule.maxKey at h
  omega

theorem OrderRule.successor_of_le
    {i : Nat} (h : OrderRule.maxKey ≤ i) :
    OrderRule.successor i = OrderRule.maxKey := by
  unfold OrderRule.successor
  rw [OrderRule.maxKey_toNat]
  unfold OrderRule.maxKey at *
  omega

theorem annotated_apply_of_none
    {info : MemberInfo} (h : info.attributes.order = none) (i n : Nat) :
    ((i : Int) < OrderRule.maxKey → OrderRule.annotated.apply info i n = i + 1) ∧
      (OrderRule.maxKey ≤ i → OrderRule.annotated.apply info i n = OrderRule.maxKey) := by
  have happly : OrderRule.annotated.apply info i n = OrderRule.successor i := by
    simp only [OrderRule.apply, h, Option.getD_none]
  rw [happly]
  exact ⟨OrderRule.successor_of_lt, OrderRule.successor_of_le⟩

/-- Member resolution. With one member kind selected (or none, meaning fields), the members of
an object type are, stably sorted by order, the readable and not ignored members of that kind,
each with its position among all declared members as index and the rule's order for its
discovery index among the members of that kind; under the default rule that order is the
annotation, else the discovery index plus one, saturating at `i64::MAX`. Options that select
both kinds are refused for every type. -/
theorem member_resolution_sorts_the_promised_members
    (cat : Catalog) (opts : Options) (p : String) (schema : ObjectSchema)
    (hschema : cat.object? p = some schema) :
    (∀ k, opts.memberKinds = [k] ∨ opts.memberKinds = [] ∧ k = .field →
      discoverMembers cat opts (.object p) =
        .ok (sortByKey Descriptor.order (promisedMembers (.object p) opts.order k schema.members))) ∧
    (∀ (info : MemberInfo) (i n : Nat) o, info.attributes.order = some o →
      OrderRule.annotated.apply info i n = o) ∧
    (∀ (info : MemberInfo) (i n : Nat), info.attributes.order = none →
      ((i : Int) < OrderRule.maxKey → OrderRule.annotated.apply info i n = i + 1) ∧
        (OrderRule.maxKey ≤ i → OrderRule.annotated.apply info i n = OrderRule.maxKey)) ∧
    (MemberKind.field ∈ opts.memberKinds → MemberKind.property ∈ opts.memberKinds →
      ∀ t, discoverMembers cat opts t = .error (.config (.conflictingMemberKinds t.name))) := by
  refine ⟨fun k hk => ?_, fun _ i n _ h => annotated_apply_of_some h i n,
    fun _ i n h => annotated_apply_of_none h i n, fun hf hp t => ?_⟩
  · exact discoverMembers_of_kind hschema (Options.memberKind_of_single hk _)
  · simp [discoverMembers, Options.memberKind_of_both hf hp t, bind, Except.bind]

/-- The `Ordered` sample type, whose members carry ties, extreme orders and an ignored
member, resolves under the default options to its promised members. -/
theorem ordered_members_resolve :
    Sample.catalog.object? (Sample.path "Ordered") = some Sample.ordered ∧
      discoverMembers Sample.catalog {} (Sample.obj "Ordered") =
        .ok (sortByKey Descriptor.order
          (promisedMembers (Sample.obj "Ordered") .annotated .field Sample.ordered.members)) :=
  ⟨rfl, (member_resolution_sorts_the_promised_members Sample.catalog {} (Sample.path "Ordered")
    Sample.ordered rfl).1 .field (.inl rfl)⟩

end ObjectWire
