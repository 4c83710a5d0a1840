import ObjectWire.Proofs.ErrorKinds
/-!
# Builds fail only on the configuration

Resolving a converter fails only with a configuration error: an unknown or ambiguous name, or
a collection whose parts have no converter. So does discovering a type's members. A build
could also run out of fuel, but the fuel the entry points give covers every build: each level
of nested checks visits one more type and each cascade walks one more type of the chain, and
the budgets of `BuildFuel` say that neither can outgrow the catalog. By induction on the fuel,
a build within its budget fails only with a configuration error
(`build_fails_on_configuration`), and so do a fresh mapping list and a fresh root plan.

**Results.**
* `Resolve.resolve_configured`, `discoverMembers_configured`: resolution and discovery fail
  only on the configuration.
* `build_fails_on_configuration`: a build within its budget fails only on the configuration.
* `freshList_configured`, `freshPlan_configured`: so do the mapping lists and root plans a
  fresh serializer makes.
* `mapping_list_construction_terminates`: from every session a serializer can be in, a
  mapping list is built without running out of fuel, whatever the catalog's types refer to.
-/

namespace ObjectWire

/-- A configuration error. -/
def Error.Configured (e : Error) : Prop := e.isConfiguration = true

/-! ## Resolution and discovery -/

namespace Resolve

variable {reg : List Converter} {err : Error}

theorem byName_configured
    {t : Ty} {name : String} (h : byName reg t name = .error err) :
    err.Configured := by
  unfold byName at h
  split at h
  · cases h
  · cases h
    rfl

theorem byTarget_configured
    {t : Ty} (h : byTarget reg t = .error err) :
    err.Configured := by
  unfold byTarget at h
  repeat' split at h
  all_goals (cases h <;> rfl)

theorem chosen_configured
    {t : Ty} {r : Request} (h : chosen reg t r = .error err) :
    err.Configured := by
  unfold chosen at h
  simp only [bind, Except.bind, pure, Except.pure] at h
  repeat' split at h
  all_goals (try cases h)
  all_goals first | exact byName_configured ‹_› | exact byTarget_configured h

theorem list_configured
    {t e : Ty} {c : Option Converter} {label : String} (h : resolve.list t e c label = .error err) :
    err.Configured := by
  unfold resolve.list at h
  split at h
  all_goals (cases h <;> rfl)

theorem parts_configured
    {k v : Ty} {kc vc : Option Converter} {label : String}
    (h : resolve.parts k v kc vc label = .error err) :
    err.Configured := by
  unfold resolve.parts at h
  split at h
  all_goals (cases h <;> rfl)

/-- Resolution fails only on the configuration: by induction on the type, a part's failure
being the whole's. -/
theorem resolve_configured
    {cat : Catalog} :
    ∀ t r err, resolve reg cat t r = .error err → err.Configured := by
  intro t
  induction t with
  | option i ih | box i ih | vec i ih | deque i ih =>
      intro r err h
      unfold resolve at h
      simp only [bind, Except.bind, pure, Except.pure] at h
      repeat' split at h
      all_goals (try cases h)
      all_goals first | rfl | exact chosen_configured ‹_› | exact ih _ _ ‹_› |
        exact list_configured ‹_›
  | hashMap k v ihk ihv | btreeMap k v ihk ihv | pair k v ihk ihv =>
      intro r err h
      unfold resolve at h
      simp only [bind, Except.bind, pure, Except.pure] at h
      repeat' split at h
      all_goals (try cases h)
      all_goals first | rfl | exact chosen_configured ‹_› | exact ihk _ _ ‹_› |
        exact ihv _ _ ‹_› | exact parts_configured ‹_›
  | _ =>
      intro r err h
      unfold resolve at h
      simp only [bind, Except.bind, pure, Except.pure] at h
      repeat' split at h
      all_goals (try cases h)
      all_goals exact chosen_configured ‹_›

end Resolve

theorem Options.memberKind_configured
    {o : Options} {t : Ty} {err : Error} (h : o.memberKind t = .error err) :
    err.Configured := by
  unfold Options.memberKind at h
  split at h
  all_goals (cases h <;> rfl)

theorem discoverMembers_configured
    {cat : Catalog} {o : Options} {t : Ty} {err : Error} (h : discoverMembers cat o t = .error err) :
    err.Configured := by
  unfold discoverMembers at h
  simp only [bind, Except.bind, pure, Except.pure, throw, throwThe, MonadExceptOf.throw] at h
  repeat' split at h
  all_goals (try cases h)
  all_goals first | rfl | exact Options.memberKind_configured ‹_›

namespace Run

variable {cat : Catalog} {o : Options}

/-! ## The steps of a build -/

theorem agree_refresh
    {s₀ s s' : Session} (h : Session.Agree s₀ s) (hs : Session.Refresh s s') :
    Session.Agree s₀ s' :=
  h.trans hs.agree

theorem options_keeps
    {S : Session → Prop} {E : Error → Prop} :
    Keeps S E options fun _ => True :=
  fun _ hm => ⟨trivial, hm⟩

theorem members_keeps
    (t : Ty) :
    Keeps (Session.Agree (Session.new cat o)) Error.Configured (members t)
      fun ds => discoverMembers cat o t = .ok ds := by
  intro m hm
  have hsame : m.session.memberList t = discoverMembers cat o t := (hm.members t).symm
  cases hd : discoverMembers cat o t with
  | ok ds =>
      obtain ⟨s, hrun, hs⟩ := members_run_of_ok (hsame.trans hd)
      rw [hrun]
      exact ⟨rfl, agree_refresh hm hs⟩
  | error err =>
      rw [members_run_of_error (hsame.trans hd)]
      exact discoverMembers_configured hd

theorem resolveMember_keeps
    (d : Descriptor) (object : Option Engine) :
    Keeps (Session.Agree (Session.new cat o)) Error.Configured (resolveMember d object)
      fun _ => True :=
  Keeps.session_bind fun _ _ =>
    (Keeps.lift (Resolve.resolve_configured _ _)).imp fun _ _ => trivial

theorem log_keeps_agree
    (level : Level) (message : String) :
    Keeps (Session.Agree (Session.new cat o)) Error.Configured (log level message) fun _ => True :=
  Keeps.log agree_refresh level message

/-! ## Builds within their budget -/

/-- A build within its budget fails only on the configuration, and so do its collecting and
its nested checks: by induction on the fuel, each nested build and each cascade staying
within the budget of the step that makes it. -/
theorem build_fails_on_configuration
    (cat : Catalog) (o : Options) (v : Option Version) :
    ∀ fuel,
      (∀ t V, BuildBudget cat fuel t V →
        Keeps (Session.Agree (Session.new cat o)) Error.Configured (buildList fuel t v V)
          fun _ => True) ∧
      (∀ t chain V path depth, CollectBudget cat fuel t chain V →
        Keeps (Session.Agree (Session.new cat o)) Error.Configured
          (collect fuel t v chain V path depth) fun _ => True) ∧
      (∀ c V, NestedBudget cat fuel V →
        Keeps (Session.Agree (Session.new cat o)) Error.Configured (checkNested fuel c v V)
          fun _ => True)
  | 0 =>
      ⟨fun _ _ hb => absurd hb.pos (Nat.lt_irrefl 0),
        fun _ _ _ _ _ hb => absurd hb.pos (Nat.lt_irrefl 0),
        fun _ _ hb => absurd hb.pos (Nat.lt_irrefl 0)⟩
  | fuel + 1 => by
      obtain ⟨hbuild, hcollect, hcheck⟩ := build_fails_on_configuration cat o v fuel
      refine ⟨fun t V hb => ?_, fun t chain V path depth hb => ?_, fun c V hb => ?_⟩
      · rw [buildList]
        refine Keeps.ite (fun _ => ?_) fun _ => Keeps.throw_bind rfl
        exact Keeps.bind (hcollect _ _ _ _ _ hb.collect) fun _ _ =>
          Keeps.bind (log_keeps_agree _ _) fun _ _ => Keeps.pure _ trivial
      · rw [collect]
        refine Keeps.bind options_keeps fun o' _ => ?_
        refine Keeps.bind (members_keeps t) fun ds hds => ?_
        have ht : t ∈ cat.types := discoverMembers_mem_types hds
        refine Keeps.bind (Keeps.forIn (fun d _ out => ?_) _) fun _ _ => Keeps.pure _ trivial
        refine Keeps.ite (fun _ => Keeps.bind (log_keeps_agree _ _) fun _ _ =>
          Keeps.pure _ trivial) fun _ => ?_
        refine Keeps.bind (resolveMember_keeps d none) fun r _ => ?_
        cases r with
        | some c =>
            exact Keeps.bind (hcheck _ _ (hb.nested ht)) fun _ _ => Keeps.pure _ trivial
        | none =>
            cases d.info.ty.innermostObject? with
            | none => exact Keeps.throw_bind rfl
            | some target =>
                dsimp only
                refine Keeps.ite (fun _ => ?_) fun hout => ?_
                · cases o'.cyclePolicy
                  · exact Keeps.bind (log_keeps_agree _ _) fun _ _ => Keeps.pure _ trivial
                  · exact Keeps.throw_bind rfl
                have hx : target ∉ chain := by simpa using hout
                refine Keeps.ite (fun _ => Keeps.bind (hcollect _ _ _ _ _ (hb.cascade ht hx))
                  fun _ _ => Keeps.pure _ trivial) fun _ => ?_
                refine Keeps.bind (resolveMember_keeps _ _) fun r _ => ?_
                cases r with
                | none => exact Keeps.throw_bind rfl
                | some c =>
                    exact Keeps.bind (hcheck _ _ (hb.nested ht)) fun _ _ => Keeps.pure _ trivial
      · rw [checkNested]
        refine Keeps.bind (Keeps.forIn (fun nested _ _ => ?_) _) fun _ _ => Keeps.pure _ trivial
        refine Keeps.session_bind fun s _ => ?_
        by_cases hskip : (V.contains nested || (s.lists.lookup (nested, versionKey v)).isSome) = true
        · rw [if_pos hskip]
          exact Keeps.pure _ trivial
        · have hx : nested ∉ V := by
            simp only [Bool.or_eq_true, not_or] at hskip
            simpa using hskip.1
          rw [if_neg hskip]
          exact Keeps.bind (hbuild _ _ (hb.build hx)) fun _ _ =>
            Keeps.bind (log_keeps_agree _ _) fun _ _ => Keeps.pure _ trivial

end Run

open Run

theorem freshList_configured
    {t : Ty} {v : Option Version} {err : Error} (h : freshList cat o t v = .error err) :
    err.Configured :=
  ((build_fails_on_configuration cat o v cat.fuel).1 t [t] (buildFuel_budget cat t)).answer_error
    (Session.Agree.refl _) h

/-- A root plan a fresh serializer fails to decide fails with a configuration error. -/
theorem freshPlan_configured
    {t : Ty} {e : Engine} {err : Error} (h : freshPlan cat o t e = .error err) :
    err.Configured := by
  unfold freshPlan at h
  rw [answer_rootPlan_none rfl] at h
  unfold decidePlan at h
  split at h
  · cases h
  · split at h
    · next herr =>
        cases h
        exact Resolve.resolve_configured _ _ _ herr
    · cases h
      rfl
    · next c _ =>
        cases hrun : (checkNested ((Session.new cat o).machine [] none).session.catalog.fuel c
            ((Session.new cat o).machine [] none).session.options.version []).run
            ((Session.new cat o).machine [] none) with
        | ok u m' =>
            rw [hrun] at h
            cases h
        | error e' m' =>
            rw [hrun] at h
            cases h
            have hkeep := (build_fails_on_configuration cat o o.version cat.fuel).2.2 c []
              (rootFuel_budget cat)
            exact hkeep.answer_error (m := (Session.new cat o).machine [] none)
              (Session.Agree.refl _) (congrArg answer hrun)

/-- Building mapping lists terminates on every catalog, however its object types refer to each
other and to themselves through fields, options, boxes, lists, maps and pairs. The builder's
three parts recurse only into a type that is not on the cascade chain yet, or not yet being
visited by the nested checks, so the fuel they are given never runs out (running out would be
the internal error of a value nesting too deep): from every session a serializer can be in,
building the mapping list of any type for any version fails only with a configuration
error. -/
theorem mapping_list_construction_terminates
    (cat : Catalog) (o : Options) (t : Ty) (v : Option Version) :
    ∀ m : Machine, m.session.FaithfulOver cat o →
      (∃ l m', (mappingList t v).run m = .ok l m') ∨
        ∃ e m', (mappingList t v).run m = .error e m' ∧ e.Configured := by
  intro m hm
  obtain ⟨s, _, hrun⟩ := (mappingList_answers_freshly t v).run hm
  rw [hrun]
  cases hl : freshList cat o t v with
  | ok l => exact .inl ⟨l, _, rfl⟩
  | error err => exact .inr ⟨err, _, rfl, freshList_configured hl⟩

/-- The mutually recursive folders and file entries of the sample catalog: a fresh serializer
builds their mapping list or fails on the configuration. -/
theorem folder_mapping_list_terminates :
    ((Session.new Sample.catalog {}).machine [] none).session.FaithfulOver Sample.catalog {} ∧
      ((∃ l m', (mappingList (Sample.obj "Folder") none).run
          ((Session.new Sample.catalog {}).machine [] none) = .ok l m') ∨
        ∃ e m', (mappingList (Sample.obj "Folder") none).run
          ((Session.new Sample.catalog {}).machine [] none) = .error e m' ∧ e.Configured) :=
  ⟨⟨Session.faithful_new _ _, rfl, rfl⟩,
    mapping_list_construction_terminates Sample.catalog {} (Sample.obj "Folder") none _
      ⟨Session.faithful_new _ _, rfl, rfl⟩⟩

end ObjectWire
