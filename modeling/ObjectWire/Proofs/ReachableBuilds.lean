import Mathlib.Logic.Relation
import ObjectWire.Proofs.BuildFaults
import ObjectWire.Proofs.ConfigurationErrors
import ObjectWire.Proofs.MappingOrder
import ObjectWire.Proofs.ConverterTrees
/-!
# Mapping lists build exactly when every reachable type builds locally

A mapping list is built in two layers. Locally, the members of the type are walked: each one
is gated out, mapped with a converter, skipped as a back-reference, or cascaded into the
members of its own type, which are walked in turn behind it. Around that, every object type a
chosen converter reaches is checked by building its own list, unless it is being built
already: a depth-first search over the types, along simple paths only.

The local build of one member is `MemberBuilds`, with the nested checks replaced by a predicate
on the types they would check; a type builds locally (`BuildsLocally`) when each of its members
does under no predicate at all. A type's local build reaches the types it cascades into and
those its converters reach (`MemberReaches`), and `Reachable` closes that under steps.

A mapping list builds exactly when every reachable type builds locally. One way, a successful
build is a local build whose nested types build (`Buildable.members_build`), and a type it
cascades into builds too: dropping the chain above it only lets the members that referred back
to the chain cascade, or get object converters, into types that build
(`MemberBuilds.shrink`). The other way, by induction on the number of catalog types not being
visited, each nested check meets a visited type or a reachable one whose local build succeeds
with one more type visited (`builds_visiting_of_closed`).

**Results.**
* `MemberBuilds.grow`, `MemberBuilds.shrink`: a longer chain keeps a local build under the
  policy that skips back-references; a shorter one keeps it when the types it drops build
  locally on their own.
* `Buildable.members_build`, `buildList_succeeds`: a build succeeds exactly as a local build
  whose nested types build.
* `mapping_list_success_is_closed_under_reachability`: a mapping list builds iff every type
  reachable from its type builds locally, and then so does every reachable type's list, and
  its compiled layout meets no configuration error.
-/

namespace ObjectWire

/-! ## Local builds -/

/-- The local build of the member `d` of an object reached through the cascade `chain`: what
the builder does with it, with `P` asked of every object type a chosen converter reaches where
the builder checks it. -/
inductive MemberBuilds (cat : Catalog) (o : Options) (v : Option Version) (P : Ty → Prop) :
    List Ty → Descriptor → Prop
  /-- A member the version gates out is skipped. -/
  | gatedOut {chain d}
      (hgate : isMemberPresent d.info.attributes.versions v = false) :
      MemberBuilds cat o v P chain d
  /-- A member with a converter is mapped with it. -/
  | direct {chain d c}
      (hgate : isMemberPresent d.info.attributes.versions v = true)
      (hconv : d.converterFor o cat none = .ok (some c)) (hnested : ∀ u ∈ c.nestedObjects, P u) :
      MemberBuilds cat o v P chain d
  /-- A member whose object type is on the chain refers back, and is skipped when the policy
  skips. -/
  | backReference {chain d target}
      (hgate : isMemberPresent d.info.attributes.versions v = true)
      (hconv : d.converterFor o cat none = .ok none)
      (htarget : d.info.ty.innermostObject? = some target) (hchain : target ∈ chain)
      (hskip : o.cyclePolicy = .skip) :
      MemberBuilds cat o v P chain d
  /-- A cascadable field builds the members of its type, one type further down the chain. -/
  | cascade {chain d target es}
      (hgate : isMemberPresent d.info.attributes.versions v = true)
      (hconv : d.converterFor o cat none = .ok none)
      (htarget : d.info.ty.innermostObject? = some target) (hchain : target ∉ chain)
      (hcascade : d.cascadesInto target = true) (hmembers : discoverMembers cat o target = .ok es)
      (hinner : ∀ e ∈ es, MemberBuilds cat o v P (target :: chain) e) :
      MemberBuilds cat o v P chain d
  /-- Any other reach of an object gets an object converter. -/
  | object {chain d target c}
      (hgate : isMemberPresent d.info.attributes.versions v = true)
      (hconv : d.converterFor o cat none = .ok none)
      (htarget : d.info.ty.innermostObject? = some target) (hchain : target ∉ chain)
      (hcascade : d.cascadesInto target = false)
      (hobject : d.converterFor o cat (some (d.info.attributes.nested.getD .dynamic)) = .ok (some c))
      (hnested : ∀ u ∈ c.nestedObjects, P u) :
      MemberBuilds cat o v P chain d

/-- The object types the local build of a member reaches: those the converters it chooses
reach, the types it cascades into, and what their members reach in turn. -/
inductive MemberReaches (cat : Catalog) (o : Options) (v : Option Version) :
    List Ty → Descriptor → Ty → Prop
  | direct {chain d c u}
      (hgate : isMemberPresent d.info.attributes.versions v = true)
      (hconv : d.converterFor o cat none = .ok (some c)) (hu : u ∈ c.nestedObjects) :
      MemberReaches cat o v chain d u
  | cascade {chain d target}
      (hgate : isMemberPresent d.info.attributes.versions v = true)
      (hconv : d.converterFor o cat none = .ok none)
      (htarget : d.info.ty.innermostObject? = some target) (hchain : target ∉ chain)
      (hcascade : d.cascadesInto target = true) :
      MemberReaches cat o v chain d target
  | inner {chain d target es e u}
      (hgate : isMemberPresent d.info.attributes.versions v = true)
      (hconv : d.converterFor o cat none = .ok none)
      (htarget : d.info.ty.innermostObject? = some target) (hchain : target ∉ chain)
      (hcascade : d.cascadesInto target = true) (hmembers : discoverMembers cat o target = .ok es)
      (he : e ∈ es) (hreach : MemberReaches cat o v (target :: chain) e u) :
      MemberReaches cat o v chain d u
  | object {chain d target c u}
      (hgate : isMemberPresent d.info.attributes.versions v = true)
      (hconv : d.converterFor o cat none = .ok none)
      (htarget : d.info.ty.innermostObject? = some target) (hchain : target ∉ chain)
      (hcascade : d.cascadesInto target = false)
      (hobject : d.converterFor o cat (some (d.info.attributes.nested.getD .dynamic)) = .ok (some c))
      (hu : u ∈ c.nestedObjects) :
      MemberReaches cat o v chain d u

/-- A type builds locally: its members are found, and each builds locally through the chain of
the type alone, with no nested checks. -/
def BuildsLocally (cat : Catalog) (o : Options) (v : Option Version) (t : Ty) : Prop :=
  ∃ ds, discoverMembers cat o t = .ok ds ∧ ∀ d ∈ ds, MemberBuilds cat o v (fun _ => True) [t] d

/-- The local build of `t` reaches `u`. -/
def LocallyReaches (cat : Catalog) (o : Options) (v : Option Version) (t u : Ty) : Prop :=
  ∃ ds, discoverMembers cat o t = .ok ds ∧ ∃ d ∈ ds, MemberReaches cat o v [t] d u

/-- The types reachable from a type: itself, and what the local builds of reachable types
reach. -/
def Reachable (cat : Catalog) (o : Options) (v : Option Version) : Ty → Ty → Prop :=
  Relation.ReflTransGen (LocallyReaches cat o v)

theorem Descriptor.converterFor_object
    {o : Options} {cat : Catalog} {d : Descriptor} {z : Ty}
    (hconv : d.converterFor o cat none = .ok none) (htarget : d.info.ty.innermostObject? = some z)
    (k : Engine) :
    ∃ c, d.converterFor o cat (some k) = .ok (some c) ∧ c.nestedObjects = [z] := by
  have h := Resolve.resolve_resolved o.registry cat d.info.ty
    (Request.ofMember d.info.attributes d.qualifiedName none)
  unfold Descriptor.converterFor at hconv
  rw [hconv] at h
  exact Resolve.resolve_object_of_unconverted cat h.2 htarget _ h.1 k rfl

namespace MemberBuilds

variable {cat : Catalog} {o : Options} {v : Option Version} {P : Ty → Prop} {chain : List Ty}
  {d : Descriptor}

/-! ## What one member's local build holds -/

/-- A member with a converter passes `P` on what the converter reaches. -/
theorem of_direct
    {c : Converter} (h : MemberBuilds cat o v P chain d)
    (hgate : isMemberPresent d.info.attributes.versions v = true)
    (hconv : d.converterFor o cat none = .ok (some c)) :
    ∀ u ∈ c.nestedObjects, P u := by
  cases h with
  | gatedOut hgate' =>
      rw [hgate] at hgate'
      cases hgate'
  | direct _ hconv' hnested =>
      rw [hconv] at hconv'
      cases hconv'
      exact hnested
  | backReference _ hconv' =>
      rw [hconv] at hconv'
      cases hconv'
  | cascade _ hconv' =>
      rw [hconv] at hconv'
      cases hconv'
  | object _ hconv' =>
      rw [hconv] at hconv'
      cases hconv'

/-- A member that cascades builds the members of its type locally, one type further down. -/
theorem of_cascade
    {target : Ty} (h : MemberBuilds cat o v P chain d)
    (hgate : isMemberPresent d.info.attributes.versions v = true)
    (hconv : d.converterFor o cat none = .ok none)
    (htarget : d.info.ty.innermostObject? = some target) (hchain : target ∉ chain)
    (hcascade : d.cascadesInto target = true) :
    ∃ es, discoverMembers cat o target = .ok es ∧
      ∀ e ∈ es, MemberBuilds cat o v P (target :: chain) e := by
  cases h with
  | gatedOut hgate' =>
      rw [hgate] at hgate'
      cases hgate'
  | direct _ hconv' =>
      rw [hconv] at hconv'
      cases hconv'
  | backReference _ _ htarget' hchain' =>
      rw [htarget] at htarget'
      cases htarget'
      exact absurd hchain' hchain
  | cascade _ _ htarget' _ _ hmembers hinner =>
      rw [htarget] at htarget'
      cases htarget'
      exact ⟨_, hmembers, hinner⟩
  | object _ _ htarget' _ hcascade' =>
      rw [htarget] at htarget'
      cases htarget'
      rw [hcascade] at hcascade'
      cases hcascade'

/-- A member that gets an object converter passes `P` on what the converter reaches. -/
theorem of_object
    {target : Ty} {c : Converter} (h : MemberBuilds cat o v P chain d)
    (hgate : isMemberPresent d.info.attributes.versions v = true)
    (hconv : d.converterFor o cat none = .ok none)
    (htarget : d.info.ty.innermostObject? = some target) (hchain : target ∉ chain)
    (hcascade : d.cascadesInto target = false)
    (hobject : d.converterFor o cat (some (d.info.attributes.nested.getD .dynamic)) = .ok (some c)) :
    ∀ u ∈ c.nestedObjects, P u := by
  cases h with
  | gatedOut hgate' =>
      rw [hgate] at hgate'
      cases hgate'
  | direct _ hconv' =>
      rw [hconv] at hconv'
      cases hconv'
  | backReference _ _ htarget' hchain' =>
      rw [htarget] at htarget'
      cases htarget'
      exact absurd hchain' hchain
  | cascade _ _ htarget' _ hcascade' =>
      rw [htarget] at htarget'
      cases htarget'
      rw [hcascade] at hcascade'
      cases hcascade'
  | object _ _ _ _ _ hobject' hnested =>
      rw [hobject] at hobject'
      cases hobject'
      exact hnested

/-! ## Changing what is asked of the types reached -/

/-- A local build passes whatever its reached types satisfy: by induction on the build. -/
theorem upgrade
    {Q : Ty → Prop} (h : MemberBuilds cat o v P chain d) :
    (∀ u, P u → MemberReaches cat o v chain d u → Q u) → MemberBuilds cat o v Q chain d := by
  induction h with
  | gatedOut hgate => exact fun _ => .gatedOut hgate
  | direct hgate hconv hnested =>
      exact fun hQ => .direct hgate hconv fun u hu => hQ u (hnested u hu) (.direct hgate hconv hu)
  | backReference hgate hconv htarget hchain hskip =>
      exact fun _ => .backReference hgate hconv htarget hchain hskip
  | cascade hgate hconv htarget hchain hcascade hmembers _ ih =>
      exact fun hQ => .cascade hgate hconv htarget hchain hcascade hmembers fun e he =>
        ih e he fun u hu hreach =>
          hQ u hu (.inner hgate hconv htarget hchain hcascade hmembers he hreach)
  | object hgate hconv htarget hchain hcascade hobject hnested =>
      exact fun hQ => .object hgate hconv htarget hchain hcascade hobject fun u hu =>
        hQ u (hnested u hu) (.object hgate hconv htarget hchain hcascade hobject hu)

/-! ## Changing the chain -/

/-- Under the policy that skips back-references, a local build keeps through a longer chain:
a member that cascaded or got an object converter for a type now on the chain refers back. -/
theorem grow
    (hskip : o.cyclePolicy = .skip) (h : MemberBuilds cat o v P chain d) :
    ∀ chain', chain ⊆ chain' → MemberBuilds cat o v P chain' d := by
  induction h with
  | gatedOut hgate => exact fun _ _ => .gatedOut hgate
  | direct hgate hconv hnested => exact fun _ _ => .direct hgate hconv hnested
  | backReference hgate hconv htarget hchain =>
      exact fun _ hsub => .backReference hgate hconv htarget (hsub hchain) hskip
  | @cascade chain d target es hgate hconv htarget _ hcascade hmembers _ ih =>
      intro chain' hsub
      by_cases hin : target ∈ chain'
      · exact .backReference hgate hconv htarget hin hskip
      · exact .cascade hgate hconv htarget hin hcascade hmembers fun e he =>
          ih e he _ (List.cons_subset_cons _ hsub)
  | @object chain d target c hgate hconv htarget _ hcascade hobject hnested =>
      intro chain' hsub
      by_cases hin : target ∈ chain'
      · exact .backReference hgate hconv htarget hin hskip
      · exact .object hgate hconv htarget hin hcascade hobject hnested

/-- A local build keeps through a shorter chain when each type it drops satisfies `P` and
builds locally on its own: a member that referred back to a dropped type now cascades into it,
or gets an object converter for it. -/
theorem shrink
    (h : MemberBuilds cat o v P chain d) :
    ∀ chain', chain' ⊆ chain →
      (∀ z ∈ chain, z ∉ chain' → P z ∧
        ∃ es, discoverMembers cat o z = .ok es ∧ ∀ e ∈ es, MemberBuilds cat o v P [z] e) →
      MemberBuilds cat o v P chain' d := by
  induction h with
  | gatedOut hgate => exact fun _ _ _ => .gatedOut hgate
  | direct hgate hconv hnested => exact fun _ _ _ => .direct hgate hconv hnested
  | @backReference chain d target hgate hconv htarget hchain hskip =>
      intro chain' _ hdropped
      by_cases hin : target ∈ chain'
      · exact .backReference hgate hconv htarget hin hskip
      obtain ⟨hP, es, hes, hown⟩ := hdropped target hchain hin
      cases hcascade : d.cascadesInto target with
      | true =>
          exact .cascade hgate hconv htarget hin hcascade hes fun e he =>
            (hown e he).grow hskip _ (List.cons_subset.2 ⟨List.mem_cons_self .., List.nil_subset _⟩)
      | false =>
          obtain ⟨c, hobject, hnested⟩ := Descriptor.converterFor_object hconv htarget _
          refine .object hgate hconv htarget hin hcascade hobject fun u hu => ?_
          rw [hnested, List.mem_singleton] at hu
          exact hu ▸ hP
  | @cascade chain d target es hgate hconv htarget hchain hcascade hmembers _ ih =>
      intro chain' hsub hdropped
      refine .cascade hgate hconv htarget (fun h => hchain (hsub h)) hcascade hmembers
        fun e he => ih e he _ (List.cons_subset_cons _ hsub) fun z hz hz' => ?_
      have hne : z ≠ target := fun h => hz' (h ▸ List.mem_cons_self ..)
      exact hdropped z ((List.mem_cons.1 hz).resolve_left hne) fun h => hz' (List.mem_cons_of_mem _ h)
  | object hgate hconv htarget hchain hcascade hobject hnested =>
      exact fun _ hsub _ => .object hgate hconv htarget (fun h => hchain (hsub h)) hcascade hobject
        hnested

end MemberBuilds

namespace Run

variable {cat : Catalog} {o : Options} {v : Option Version} {E : Error → Prop}

/-! ## Builds that succeed -/

theorem options_keeps_policy :
    Keeps (Session.Agree (Session.new cat o)) E options fun o' => o'.cyclePolicy = o.cyclePolicy :=
  fun _ hm => ⟨hm.cyclePolicy.symm, hm⟩

theorem members_keeps_of_ok
    {t : Ty} {ds : List Descriptor} (hds : discoverMembers cat o t = .ok ds) :
    Keeps (Session.Agree (Session.new cat o)) E (members t) fun ds' => ds' = ds := by
  intro m hm
  obtain ⟨s, hrun, hs⟩ := members_run_of_ok ((hm.members t).symm.trans hds)
  rw [hrun]
  exact ⟨rfl, agree_refresh hm hs⟩

theorem resolveMember_keeps_of
    {d : Descriptor} {object : Option Engine} {r : Option Converter}
    (h : d.converterFor o cat object = .ok r) :
    Keeps (Session.Agree (Session.new cat o)) E (resolveMember d object) fun r' => r' = r := by
  unfold resolveMember
  refine Keeps.session_bind fun s hs => ?_
  rw [← hs.registry, ← hs.catalog]
  have h' : Resolve.resolve (Session.new cat o).options.registry (Session.new cat o).catalog
      d.info.ty (Request.ofMember d.info.attributes d.qualifiedName object) = .ok r := h
  rw [h']
  exact Keeps.pure r rfl

/-- The nested build of `x` while `V` is visited succeeds, with any fuel that covers it, from
every session agreeing with a fresh one. -/
def BuildsVisiting (cat : Catalog) (o : Options) (v : Option Version) (V : List Ty) (x : Ty) :
    Prop :=
  ∀ fuel, BuildBudget cat fuel x (x :: V) →
    Keeps (Session.Agree (Session.new cat o)) (fun _ => False) (buildList fuel x v (x :: V))
      fun _ => True

/-- One member of the builder's loop succeeds when it builds locally, given that the nested
checks it makes and the cascade it walks succeed. -/
theorem collectStep_succeeds
    {fuel : Nat} {chain V : List Ty} {path : List Descriptor} {depth : Nat} {Q : Ty → Prop}
    {d : Descriptor} (hd : MemberBuilds cat o v Q chain d)
    (hcheck : ∀ c, (∀ u ∈ c.nestedObjects, Q u) →
      Keeps (Session.Agree (Session.new cat o)) (fun _ => False) (checkNested fuel c v V)
        fun _ => True)
    (hcollect : ∀ target es, target ∉ chain → discoverMembers cat o target = .ok es →
      (∀ e ∈ es, MemberBuilds cat o v Q (target :: chain) e) →
      Keeps (Session.Agree (Session.new cat o)) (fun _ => False)
        (collect fuel target v (target :: chain) V (path ++ [d]) (depth + 1)) fun _ => True)
    (acc : List Mapping) :
    Keeps (Session.Agree (Session.new cat o)) (fun _ => False)
      (collectStep fuel v chain V path depth o.cyclePolicy d acc) fun _ => True := by
  have hlog : ∀ level message, Keeps (Session.Agree (Session.new cat o)) (fun _ => False)
      (log level message) fun _ => True :=
    Keeps.log agree_refresh
  unfold collectStep
  cases hd with
  | gatedOut hgate =>
      rw [hgate]
      exact Keeps.bind (hlog _ _) fun _ _ => Keeps.pure _ trivial
  | direct hgate hconv hnested =>
      rw [hgate]
      dsimp only [Bool.not_true, Bool.false_eq_true, if_false]
      refine Keeps.bind (resolveMember_keeps_of hconv) fun r hr => ?_
      subst hr
      exact Keeps.bind (hcheck _ hnested) fun _ _ => Keeps.pure _ trivial
  | backReference hgate hconv htarget hchain hskip =>
      rw [hgate]
      dsimp only [Bool.not_true, Bool.false_eq_true, if_false]
      refine Keeps.bind (resolveMember_keeps_of hconv) fun r hr => ?_
      subst hr
      dsimp only
      rw [htarget]
      dsimp only
      rw [if_pos (List.contains_iff_mem.2 hchain), hskip]
      exact Keeps.bind (hlog _ _) fun _ _ => Keeps.pure _ trivial
  | cascade hgate hconv htarget hchain hcascade hmembers hinner =>
      rw [hgate]
      dsimp only [Bool.not_true, Bool.false_eq_true, if_false]
      refine Keeps.bind (resolveMember_keeps_of hconv) fun r hr => ?_
      subst hr
      dsimp only
      rw [htarget]
      dsimp only
      rw [if_neg fun h => hchain (List.contains_iff_mem.1 h)]
      rw [if_pos (show (d.info.ty == _ && d.canCascade && d.info.attributes.nested.isNone) = true
        from hcascade)]
      exact Keeps.bind (hcollect _ _ hchain hmembers hinner) fun _ _ => Keeps.pure _ trivial
  | object hgate hconv htarget hchain hcascade hobject hnested =>
      rw [hgate]
      dsimp only [Bool.not_true, Bool.false_eq_true, if_false]
      refine Keeps.bind (resolveMember_keeps_of hconv) fun r hr => ?_
      subst hr
      dsimp only
      rw [htarget]
      dsimp only
      rw [if_neg fun h => hchain (List.contains_iff_mem.1 h)]
      rw [if_neg (ne_true_of_eq_false (show (d.info.ty == _ && d.canCascade &&
        d.info.attributes.nested.isNone) = false from hcascade))]
      refine Keeps.bind (resolveMember_keeps_of hobject) fun r hr => ?_
      subst hr
      exact Keeps.bind (hcheck _ hnested) fun _ _ => Keeps.pure _ trivial

/-- Collecting succeeds within its budget when every member builds locally, with each type it
reaches visited or building while the same types are visited; so do the nested checks: by
induction on the fuel. -/
theorem build_succeeds
    (cat : Catalog) (o : Options) (v : Option Version) :
    ∀ fuel,
      (∀ t chain V path depth ds, CollectBudget cat fuel t chain V →
        discoverMembers cat o t = .ok ds →
        (∀ d ∈ ds, MemberBuilds cat o v (fun x => x ∈ V ∨ BuildsVisiting cat o v V x) chain d) →
        Keeps (Session.Agree (Session.new cat o)) (fun _ => False)
          (collect fuel t v chain V path depth) fun _ => True) ∧
      (∀ c V, NestedBudget cat fuel V → (∀ x ∈ c.nestedObjects, x ∈ V ∨ BuildsVisiting cat o v V x) →
        Keeps (Session.Agree (Session.new cat o)) (fun _ => False) (checkNested fuel c v V)
          fun _ => True)
  | 0 =>
      ⟨fun _ _ _ _ _ _ hb => absurd hb.pos (Nat.lt_irrefl 0),
        fun _ _ hb => absurd hb.pos (Nat.lt_irrefl 0)⟩
  | fuel + 1 => by
      obtain ⟨hcollect, hcheck⟩ := build_succeeds cat o v fuel
      refine ⟨fun t chain V path depth ds hb hds hwalk => ?_, fun c V hb hnested => ?_⟩
      · have ht : t ∈ cat.types := discoverMembers_mem_types hds
        rw [collect_succ]
        refine Keeps.bind options_keeps_policy fun o' hpolicy => ?_
        refine Keeps.bind (members_keeps_of_ok hds) fun ds' hds' => ?_
        subst hds'
        rw [hpolicy]
        refine Keeps.bind (Keeps.forIn (fun d hd acc => ?_) _) fun _ _ => Keeps.pure _ trivial
        exact collectStep_succeeds (hwalk d hd) (fun c hc => hcheck c V (hb.nested ht) hc)
          (fun target es hx hes hinner =>
            hcollect target (target :: chain) V _ _ es (hb.cascade ht hx) hes hinner) acc
      · rw [checkNested]
        refine Keeps.bind (Keeps.forIn (fun x hx _ => ?_) _) fun _ _ => Keeps.pure _ trivial
        refine Keeps.session_bind fun s _ => ?_
        by_cases hskip : (V.contains x || (s.lists.lookup (x, versionKey v)).isSome) = true
        · rw [if_pos hskip]
          exact Keeps.pure _ trivial
        · have hxV : x ∉ V := by
            simp only [Bool.or_eq_true, not_or] at hskip
            simpa using hskip.1
          rw [if_neg hskip]
          exact Keeps.bind ((hnested x hx).resolve_left hxV fuel (hb.build hxV)) fun _ _ =>
            Keeps.bind (Keeps.log agree_refresh _ _) fun _ _ => Keeps.pure _ trivial

theorem buildList_succeeds
    {fuel : Nat} {t : Ty} {V : List Ty} {ds : List Descriptor} (hb : BuildBudget cat fuel t V)
    (hds : discoverMembers cat o t = .ok ds)
    (hwalk : ∀ d ∈ ds, MemberBuilds cat o v (fun x => x ∈ V ∨ BuildsVisiting cat o v V x) [t] d) :
    Keeps (Session.Agree (Session.new cat o)) (fun _ => False) (buildList fuel t v V)
      fun _ => True := by
  obtain ⟨fuel, rfl⟩ := Nat.exists_eq_add_one.2 hb.pos
  have hobject : t.isObject = true := by
    obtain ⟨s, -, rfl⟩ := List.mem_map.1 (discoverMembers_mem_types hds)
    rfl
  rw [buildList]
  refine Keeps.ite (fun _ => ?_) fun hnot => absurd hobject hnot
  exact Keeps.bind ((build_succeeds cat o v fuel).1 t [t] V [] 0 ds hb.collect hds hwalk)
    fun _ _ => Keeps.bind (Keeps.log agree_refresh _ _) fun _ _ => Keeps.pure _ trivial

/-- A type that builds builds too as the nested check of any visiting types: visiting more
types keeps its success (`build_refines`), and a session agreeing with a fresh one builds as
the fresh one does. -/
theorem Buildable.builds_visiting
    {x : Ty} (hx : Buildable cat o v x) (V : List Ty) :
    BuildsVisiting cat o v V x := by
  intro fuel hb m hm
  let m₀ : Machine := ⟨Session.new cat o, m.writer, m.reader⟩
  have hfresh : m₀.Holds cat o [] := Machine.holds_new cat o m.writer m.reader
  obtain ⟨l, m₁, hrun⟩ := hx.run hfresh
  obtain ⟨m₂, hrun₂, -⟩ := (build_refines cat o [] v (fun _ => False) (fun _ h => h.elim) fuel).1
    cat.fuel x [x] (x :: V) (visits_only_of_subset (List.cons_subset_cons _ (List.nil_subset _)))
    hb m₀ m₀ l m₁ ⟨hfresh, hfresh⟩ hrun
  have hc := buildList_sim (around_sessionRel (Session.new cat o) m.writer m.reader) fuel x v
    (x :: V) m₀ m ⟨⟨Session.Agree.refl _, rfl, rfl⟩, ⟨hm, rfl, rfl⟩⟩
  rw [hrun₂] at hc
  obtain ⟨m', hrun', hR⟩ := hc.ok_left
  rw [hrun']
  exact ⟨trivial, hR.2.1⟩

theorem buildable_of_keeps
    {t : Ty}
    (h : Keeps (Session.Agree (Session.new cat o)) (fun _ => False) (buildList cat.fuel t v [t])
      fun _ => True) :
    Buildable cat o v t := by
  have hrun := h ((Session.new cat o).machine [] none) (Session.Agree.refl _)
  cases hb : (buildList cat.fuel t v [t]).run ((Session.new cat o).machine [] none) with
  | ok l m' =>
      refine ⟨l, ?_⟩
      unfold freshList
      rw [hb]
      rfl
  | error e m' =>
      rw [hb] at hrun
      exact hrun.elim

/-! ## Successful builds are local builds -/

theorem options_ensures_policy :
    Ensures (Session.new cat o) options fun o' => o'.cyclePolicy = o.cyclePolicy := by
  rintro m a m' hm ⟨⟩
  exact ⟨hm.cyclePolicy.symm, hm⟩

/-- One member of the builder's loop that goes on builds locally, its nested types building,
given that collecting one level deeper ensures as much. -/
theorem collectStep_builds_locally
    {fuel : Nat} {chain V : List Ty} {path : List Descriptor} {depth : Nat}
    (hV : ∀ x ∈ V, Buildable cat o v x)
    (hcollect : ∀ t chain path depth, Ensures (Session.new cat o)
      (collect fuel t v chain V path depth) fun _ => ∃ es, discoverMembers cat o t = .ok es ∧
        ∀ e ∈ es, MemberBuilds cat o v (Buildable cat o v) chain e)
    (d : Descriptor) (acc : List Mapping) :
    Ensures (Session.new cat o) (collectStep fuel v chain V path depth o.cyclePolicy d acc)
      fun r => MemberBuilds cat o v (Buildable cat o v) chain d ∧ ∃ b, r = .yield b := by
  have hcheck : ∀ c, Ensures (Session.new cat o) (checkNested fuel c v V) fun _ =>
      ReachesBuildable cat o v c :=
    fun c => (build_checks_nested cat o v fuel).2.2 c V hV
  unfold collectStep
  cases hgate : isMemberPresent d.info.attributes.versions v
  case false =>
    exact Ensures.bind (log_ensures _ _) fun _ _ => Ensures.pure ⟨.gatedOut hgate, _, rfl⟩
  case true =>
  dsimp only [Bool.not_true, Bool.false_eq_true, if_false]
  refine Ensures.bind (resolveMember_ensures d none) fun r hconv => ?_
  cases r with
  | some c =>
      exact Ensures.bind (hcheck c) fun _ hc => Ensures.pure ⟨.direct hgate hconv hc, _, rfl⟩
  | none =>
  cases htarget : d.info.ty.innermostObject? with
  | none => exact Ensures.throw _
  | some target =>
  dsimp only
  by_cases hchain : chain.contains target = true
  · rw [if_pos hchain]
    have hmem : target ∈ chain := List.contains_iff_mem.1 hchain
    cases hpolicy : o.cyclePolicy
    · exact Ensures.bind (log_ensures _ _) fun _ _ =>
        Ensures.pure ⟨.backReference hgate hconv htarget hmem hpolicy, _, rfl⟩
    · exact Ensures.throw_bind _
  rw [if_neg hchain]
  have hfree : target ∉ chain := fun h => hchain (List.contains_iff_mem.2 h)
  cases hcascade : d.cascadesInto target
  case true =>
    rw [if_pos (show (d.info.ty == target && d.canCascade && d.info.attributes.nested.isNone) = true
      from hcascade)]
    refine Ensures.bind (hcollect _ _ _ _) fun _ hinner => ?_
    obtain ⟨es, hes, hinner⟩ := hinner
    exact Ensures.pure ⟨.cascade hgate hconv htarget hfree hcascade hes hinner, _, rfl⟩
  case false =>
    rw [if_neg (ne_true_of_eq_false (show (d.info.ty == target && d.canCascade &&
      d.info.attributes.nested.isNone) = false from hcascade))]
    refine Ensures.bind (resolveMember_ensures d _) fun r hobject => ?_
    cases r with
    | none => exact Ensures.throw _
    | some c =>
        exact Ensures.bind (hcheck c) fun _ hc =>
          Ensures.pure ⟨.object hgate hconv htarget hfree hcascade hobject hc, _, rfl⟩

/-- Collecting while visiting only types that build finds the members, and each of them builds
locally with its nested types building: by induction on the fuel. -/
theorem collect_builds_locally
    (cat : Catalog) (o : Options) (v : Option Version) :
    ∀ fuel t chain V path depth, (∀ x ∈ V, Buildable cat o v x) →
      Ensures (Session.new cat o) (collect fuel t v chain V path depth) fun _ =>
        ∃ ds, discoverMembers cat o t = .ok ds ∧
          ∀ d ∈ ds, MemberBuilds cat o v (Buildable cat o v) chain d
  | 0, t, chain, V, path, depth, _ => by
      rw [collect]
      exact Ensures.throw _
  | fuel + 1, t, chain, V, path, depth, hV => by
      rw [collect_succ]
      refine Ensures.bind options_ensures_policy fun o' hpolicy => ?_
      rw [hpolicy]
      refine Ensures.bind (members_ensures t) fun ds hds => ?_
      exact Ensures.bind (Ensures.forIn_each (fun d _ acc => collectStep_builds_locally hV
        (fun t chain path depth => collect_builds_locally cat o v fuel t chain V path depth hV)
          d acc) []) fun _ hall => Ensures.pure ⟨ds, hds, hall⟩

/-- A type that builds is a local build whose nested types build. -/
theorem Buildable.members_build
    {t : Ty} (ht : Buildable cat o v t) :
    ∃ ds, discoverMembers cat o t = .ok ds ∧
      ∀ d ∈ ds, MemberBuilds cat o v (Buildable cat o v) [t] d := by
  obtain ⟨l, hl⟩ := ht
  obtain ⟨m', hrun⟩ := answer_eq_ok hl
  obtain ⟨fuel, hfuel⟩ := Nat.exists_eq_add_one.2 (buildFuel_budget cat t).pos
  have hbuild : Ensures (Session.new cat o) (buildList (fuel + 1) t v [t]) fun _ =>
      ∃ ds, discoverMembers cat o t = .ok ds ∧
        ∀ d ∈ ds, MemberBuilds cat o v (Buildable cat o v) [t] d := by
    rw [buildList]
    refine Ensures.ite (fun _ => ?_) fun _ => Ensures.throw_bind _
    refine Ensures.bind (collect_builds_locally cat o v fuel t [t] [t] [] 0 fun x hx => ?_)
      fun _ h => Ensures.bind (log_ensures _ _) fun _ _ => Ensures.pure h
    rw [List.mem_singleton.1 hx]
    exact ⟨l, hl⟩
  rw [hfuel] at hrun
  exact (hbuild _ l m' (Session.Agree.refl _) hrun).1

theorem buildable_iff_members_build
    {t : Ty} :
    Buildable cat o v t ↔ ∃ ds, discoverMembers cat o t = .ok ds ∧
      ∀ d ∈ ds, MemberBuilds cat o v (Buildable cat o v) [t] d := by
  refine ⟨Buildable.members_build, fun h => buildable_of_keeps ?_⟩
  obtain ⟨ds, hds, hwalk⟩ := h
  exact buildList_succeeds (buildFuel_budget cat t) hds fun d hd =>
    (hwalk d hd).upgrade fun x hx _ => .inr (hx.builds_visiting [t])

/-! ## Reachable types -/

theorem cascade_buildable
    {chain : List Ty} {target : Ty} {es : List Descriptor}
    (hchain : ∀ z ∈ chain, Buildable cat o v z) (hes : discoverMembers cat o target = .ok es)
    (hinner : ∀ e ∈ es, MemberBuilds cat o v (Buildable cat o v) (target :: chain) e) :
    Buildable cat o v target := by
  refine buildable_iff_members_build.2 ⟨es, hes, fun e he => ?_⟩
  refine (hinner e he).shrink [target] (List.cons_subset_cons _ (List.nil_subset _))
    fun z hz hz' => ?_
  have hz : z ∈ chain :=
    (List.mem_cons.1 hz).resolve_left fun h => hz' (h ▸ List.mem_singleton_self _)
  exact ⟨hchain z hz, (hchain z hz).members_build⟩

/-- What the local build of a member reaches builds, when the member's build has its nested
types building and every type on its chain builds: by induction on the reach. -/
theorem MemberReaches.buildable
    {chain : List Ty} {d : Descriptor} {u : Ty} (hreach : MemberReaches cat o v chain d u) :
    MemberBuilds cat o v (Buildable cat o v) chain d → (∀ z ∈ chain, Buildable cat o v z) →
      Buildable cat o v u := by
  induction hreach with
  | direct hgate hconv hu => exact fun hd _ => hd.of_direct hgate hconv _ hu
  | cascade hgate hconv htarget hchain hcascade =>
      intro hd hbuilds
      obtain ⟨es, hes, hinner⟩ := hd.of_cascade hgate hconv htarget hchain hcascade
      exact cascade_buildable hbuilds hes hinner
  | inner hgate hconv htarget hchain hcascade hmembers he _ ih =>
      intro hd hbuilds
      obtain ⟨es, hes, hinner⟩ := hd.of_cascade hgate hconv htarget hchain hcascade
      rw [hmembers] at hes
      cases hes
      exact ih (hinner _ he) (List.forall_mem_cons.2
        ⟨cascade_buildable hbuilds hmembers hinner, hbuilds⟩)
  | object hgate hconv htarget hchain hcascade hobject hu =>
      exact fun hd _ => hd.of_object hgate hconv htarget hchain hcascade hobject _ hu

theorem Buildable.locallyReaches
    {t u : Ty} (ht : Buildable cat o v t) (hstep : LocallyReaches cat o v t u) :
    Buildable cat o v u := by
  obtain ⟨ds, hds, d, hd, hreach⟩ := hstep
  obtain ⟨ds', hds', hwalk⟩ := ht.members_build
  rw [hds] at hds'
  cases hds'
  exact MemberReaches.buildable hreach (hwalk d hd) fun z hz => List.mem_singleton.1 hz ▸ ht

theorem Buildable.reachable
    {t u : Ty} (ht : Buildable cat o v t) (hu : Reachable cat o v t u) :
    Buildable cat o v u := by
  induction hu with
  | refl => exact ht
  | tail _ hstep ih => exact ih.locallyReaches hstep

theorem Buildable.builds_locally
    {t : Ty} (ht : Buildable cat o v t) :
    BuildsLocally cat o v t := by
  obtain ⟨ds, hds, hwalk⟩ := ht.members_build
  exact ⟨ds, hds, fun d hd => (hwalk d hd).upgrade fun _ _ _ => trivial⟩

/-- Over a set of types that build locally and hold all that their local builds reach, every
type builds as a nested check while any types are visited: by induction on the number of
catalog types not visited, since each nested check visits one more. -/
theorem builds_visiting_of_closed
    {R : Ty → Prop} (hlocal : ∀ u, R u → BuildsLocally cat o v u)
    (hclosed : ∀ u w, R u → LocallyReaches cat o v u w → R w) :
    ∀ n (V : List Ty), cat.objects.length - V.length = n → ∀ t, R t → BuildsVisiting cat o v V t := by
  intro n
  induction n using Nat.strong_induction_on with
  | _ n ih =>
    intro V hn t ht fuel hb
    obtain ⟨ds, hds, hwalk⟩ := hlocal t ht
    have htype : t ∈ cat.types := discoverMembers_mem_types hds
    have hlen : (t :: V).length ≤ cat.objects.length :=
      length_le_of_types hb.nodup fun x hx => (hb.types x hx).elim (fun h => h ▸ htype) id
    refine buildList_succeeds hb hds fun d hd => (hwalk d hd).upgrade fun x _ hreach => .inr ?_
    refine ih _ ?_ (t :: V) rfl x (hclosed t x ht ⟨ds, hds, d, hd, hreach⟩)
    rw [List.length_cons] at hlen ⊢
    omega

theorem buildable_of_reachable_build_locally
    {t : Ty} (h : ∀ u, Reachable cat o v t u → BuildsLocally cat o v u) :
    Buildable cat o v t :=
  buildable_of_keeps (builds_visiting_of_closed (R := Reachable cat o v t) h
    (fun _ _ hu hstep => hu.tail hstep) _ [] rfl t .refl cat.fuel (buildFuel_budget cat t))

/-- The mapping list of a type builds exactly when every type reachable from it builds
locally: its members are found, and each one is skipped, mapped, or cascaded into members that
build locally in turn, as the cycle policy allows, with no nested checks; reachability runs
through the types each local build cascades into and the object types its converters reach
(list elements, map keys and values, pair halves, objects behind options and boxes). Then the
mapping list of every reachable type builds too, from every session a serializer can be in,
and its compiled layout meets no configuration error: an object converter or a compiled layout
of a reachable type never fails on the configuration while encoding or decoding. -/
theorem mapping_list_success_is_closed_under_reachability
    (cat : Catalog) (o : Options) (v : Option Version) (t : Ty) :
    (Buildable cat o v t ↔ ∀ u, Reachable cat o v t u → BuildsLocally cat o v u) ∧
    (Buildable cat o v t → ∀ u, Reachable cat o v t u → Buildable cat o v u ∧
      Keeps (Session.FaithfulOver cat o) (fun _ => False) (mappingList u v) (fun _ => True) ∧
      Keeps (Session.FaithfulOver cat o) Error.Incidental (compiled u v) fun _ => True) := by
  refine ⟨⟨fun ht u hu => (ht.reachable hu).builds_locally, buildable_of_reachable_build_locally⟩,
    fun ht u hu => ?_⟩
  have hu' := ht.reachable hu
  exact ⟨hu', (mappingList_keeps hu').imp fun _ _ => trivial,
    (compiled_keeps hu').imp fun _ _ => trivial⟩

end Run
end ObjectWire
