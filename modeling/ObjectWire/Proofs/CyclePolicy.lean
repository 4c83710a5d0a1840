import ObjectWire.Proofs.VersionGating
/-!
# Skipping back-references, or rejecting them

A member that refers back to an object type on the chain of cascades being walked is left
out with a warning under the `skip` cycle policy, and fails the build under `error`. Nothing
else reads the policy. So two builds under the two policies, from machines alike but for it,
run in *lockstep*: they take the same steps, log the same records and fill the same caches.
They part at the first back-reference, if there is one: the skipping build warns of it and
goes on, the strict build fails naming the member and the type it refers back to.

`Parts` says how the two outcomes can stand to each other, `Lockstep` that two computations
end so from every machine, and the skipping side only ever appends to the log, so the warning
it parted on stays the first new one whatever it does afterwards.

**Results.**
* `Lockstep.bind`, `Lockstep.forIn`, `Lockstep.ite`: lockstep composes along the structure of
  a computation; `members_lockstep`, `resolveMember_lockstep`: the steps that read the session
  do not read the policy.
* `Lockstep.skip_or_reject`: the one step where the policies part.
* `build_lockstep`: the builder's three parts, by induction on their shared fuel.
* `strict_policy_fails_at_the_first_skipped_back_reference`: a fresh strict build gives a
  list exactly when the skipping build gives it with no warning; else it fails with the
  cyclic-member error for the first member the skipping build warned of, or, where there was
  none, as the skipping build does.
-/

namespace ObjectWire

/-- The options with cycles rejected. -/
def Options.strict (o : Options) : Options := { o with cyclePolicy := .error }

/-- The session with cycles rejected. -/
def Session.strict (s : Session) : Session := { s with options := s.options.strict }

/-- The machine with cycles rejected. -/
def Machine.strict (m : Machine) : Machine := { m with session := m.session.strict }

/-- The warnings in a machine's log. -/
def Machine.warnings (m : Machine) : List LogRecord :=
  m.session.logs.toList.filter fun r => r.level == .warn

/-- The warning logged for a member left out as a back-reference to `target`. -/
def backReferenceWarning (member target : String) : LogRecord :=
  ⟨.warn, s!"skipping '{member}': it refers back to '{target}'"⟩

@[simp] theorem Session.strict_members
    (s : Session) :
    s.strict.members = s.members :=
  rfl

@[simp] theorem Session.strict_catalog
    (s : Session) :
    s.strict.catalog = s.catalog :=
  rfl

@[simp] theorem Session.strict_lists
    (s : Session) :
    s.strict.lists = s.lists :=
  rfl

@[simp] theorem discoverMembers_strict
    (cat : Catalog) (o : Options) (t : Ty) :
    discoverMembers cat o.strict t = discoverMembers cat o t :=
  rfl

theorem Machine.warnings_of_prefix
    {m m' : Machine} (h : m.session.logs.toList <+: m'.session.logs.toList) :
    ∃ L, m'.warnings = m.warnings ++ L := by
  obtain ⟨L, hL⟩ := h
  exact ⟨L.filter fun r => r.level == .warn, by rw [warnings, warnings, ← hL, List.filter_append]⟩

theorem Machine.warnings_push
    (m : Machine) (r : LogRecord) :
    ({ m with session := { m.session with logs := m.session.logs.push r } } : Machine).warnings =
      m.warnings ++ [r].filter fun r => r.level == .warn := by
  simp only [warnings, Array.toList_push, List.filter_append]

namespace Run

variable {α β γ : Type}

/-! ## Runs in lockstep -/

/-- A run that only appends to the log. -/
def GrowsLog (f : Run α) : Prop :=
  ∀ m, m.session.logs.toList <+: (endState (f.run m)).session.logs.toList

theorem GrowsLog.bind_end
    {k : α → Run β} (hk : ∀ a, GrowsLog (k a)) (f : Run α) (m : Machine) :
    (endState (f.run m)).session.logs.toList <+: (endState ((f >>= k).run m)).session.logs.toList := by
  rw [EStateM.run_bind]
  cases f.run m with
  | ok a m₁ => exact hk a m₁
  | error e m₁ => exact List.prefix_refl _

/-- How a run under the skipping policy (left) and one under the strict policy (right), from
machines alike but for it whose log holds the warnings `W`, can end: alike with no new
warning, or parted at a back-reference, which the left warns of first and the right fails on. -/
inductive Parts (W : List LogRecord) :
    EStateM.Result Error Machine α → EStateM.Result Error Machine α → Prop
  | ok {a : α} {m : Machine} (hw : m.warnings = W) : Parts W (.ok a m) (.ok a m.strict)
  | error {e : Error} {m : Machine} (hw : m.warnings = W) : Parts W (.error e m) (.error e m.strict)
  | parted {r : EStateM.Result Error Machine α} {m : Machine} {member target : String}
      {rest : List LogRecord} (hw : (endState r).warnings = W ++ backReferenceWarning member target :: rest) :
      Parts W r (.error (.config (.cyclicMember member target)) m)

/-- `f` on a machine and `g` on the same machine with cycles rejected end as `Parts` says,
and `f` only appends to the log. -/
structure Lockstep (f g : Run α) : Prop where
  grows : GrowsLog f
  parts : ∀ m, Parts m.warnings (f.run m) (g.run m.strict)

namespace Lockstep

theorem pure
    (a : α) :
    Lockstep (Pure.pure a : Run α) (Pure.pure a) :=
  ⟨fun _ => List.prefix_refl _, fun _ => .ok rfl⟩

theorem throw
    (e : Error) :
    Lockstep (MonadExcept.throw e : Run α) (MonadExcept.throw e) :=
  ⟨fun _ => List.prefix_refl _, fun _ => .error rfl⟩

theorem throw_bind
    (e : Error) {k l : α → Run β} :
    Lockstep (MonadExcept.throw e >>= k) (MonadExcept.throw e >>= l) :=
  ⟨fun _ => List.prefix_refl _, fun _ => .error rfl⟩

/-- Lockstep composes along `bind`; after the runs part, the left's further warnings come
after the one they parted on. -/
theorem bind
    {f g : Run α} {k l : α → Run β} (hf : Lockstep f g) (hk : ∀ a, Lockstep (k a) (l a)) :
    Lockstep (f >>= k) (g >>= l) := by
  refine ⟨fun m => (hf.grows m).trans (GrowsLog.bind_end (fun a => (hk a).grows) f m), fun m => ?_⟩
  have h := hf.parts m
  simp only [EStateM.run_bind]
  generalize f.run m = r₁ at h ⊢
  generalize g.run m.strict = r₂ at h ⊢
  cases h with
  | ok hw =>
      rename_i a m₁
      have hnext := (hk a).parts m₁
      rw [hw] at hnext
      exact hnext
  | error hw => exact .error hw
  | parted hw =>
      rename_i m₂ member target rest
      cases r₁ with
      | ok a m₁ =>
          obtain ⟨L, hL⟩ := Machine.warnings_of_prefix ((hk a).grows m₁)
          have hend : (endState ((k a).run m₁)).warnings =
              m.warnings ++ backReferenceWarning member target :: (rest ++ L) := by
            rw [hL, show m₁.warnings = _ from hw, List.append_assoc, List.cons_append]
          exact .parted hend
      | error e m₁ => exact .parted hw

theorem ite
    {c : Prop} [Decidable c] {f f' g g' : Run α} (hf : Lockstep f g) (hg : Lockstep f' g') :
    Lockstep (if c then f else f') (if c then g else g') := by
  by_cases hc : c
  · simpa only [if_pos hc] using hf
  · simpa only [if_neg hc] using hg

theorem forIn
    {xs : List γ} {f g : γ → β → Run (ForInStep β)} (h : ∀ x b, Lockstep (f x b) (g x b))
    (init : β) :
    Lockstep (ForIn.forIn xs init f) (ForIn.forIn xs init g) := by
  induction xs generalizing init with
  | nil => exact pure init
  | cons x xs ih =>
      simp only [List.forIn_cons]
      refine bind (h x init) fun step => ?_
      cases step with
      | done b => exact pure b
      | yield b => exact ih b

theorem lift
    (x : Except Error α) :
    Lockstep (Run.lift x) (Run.lift x) := by
  cases x with
  | ok a => exact pure a
  | error e => exact throw e

theorem log
    {level : Level} (hlevel : level ≠ .warn) (message : String) :
    Lockstep (Run.log level message) (Run.log level message) := by
  refine ⟨fun m => ⟨[⟨level, message⟩], by simp [endState]⟩, fun m => ?_⟩
  refine .ok ?_
  simp [Machine.warnings_push, hlevel]

theorem session_bind
    {k l : Session → Run α} (h : ∀ s, Lockstep (k s) (l s.strict)) :
    Lockstep (Run.session >>= k) (Run.session >>= l) :=
  ⟨fun m => (h m.session).grows m, fun m => (h m.session).parts m⟩

theorem options_bind
    {k l : Options → Run α} (h : ∀ o, Lockstep (k o) (l o.strict)) :
    Lockstep (Run.options >>= k) (Run.options >>= l) :=
  ⟨fun m => (h m.session.options).grows m, fun m => (h m.session.options).parts m⟩

theorem modifySession
    {f : Session → Session} (hlogs : ∀ s, (f s).logs = s.logs)
    (hstrict : ∀ s, (f s).strict = f s.strict) :
    Lockstep (Run.modifySession f) (Run.modifySession f) := by
  refine ⟨fun m => by simp [endState, hlogs], fun m => ?_⟩
  simp only [modifySession_run]
  have hm : ({ m with session := f m.session } : Machine).strict = { m.strict with session := f m.strict.session } := by
    simp only [Machine.strict, hstrict]
  rw [← hm]
  exact .ok (by simp only [Machine.warnings, hlogs])

theorem skip_or_reject
    (member target : String) (b : α) :
    Lockstep (Run.log .warn s!"skipping '{member}': it refers back to '{target}'" >>= fun _ => Pure.pure b)
      (MonadExcept.throw (.config (.cyclicMember member target))) := by
  refine ⟨fun m => ⟨[backReferenceWarning member target], by simp [endState, backReferenceWarning]⟩, fun m => ?_⟩
  have hwarned : (endState ((Run.log .warn s!"skipping '{member}': it refers back to '{target}'" >>=
      fun _ => Pure.pure b).run m)).warnings = m.warnings ++ [backReferenceWarning member target] := by
    simp [endState, Machine.warnings_push, backReferenceWarning]
  exact .parted hwarned

end Lockstep

/-! ## The builder in lockstep -/

theorem members_lockstep
    (t : Ty) :
    Lockstep (members t) (members t) := by
  unfold members
  refine Lockstep.session_bind fun s => ?_
  simp only [Session.strict_members, Session.strict_catalog]
  cases s.members.lookup t with
  | some ds => exact Lockstep.pure ds
  | none =>
      exact Lockstep.bind (Lockstep.lift _) fun ds =>
        Lockstep.bind (Lockstep.log (by decide) _) fun _ =>
          Lockstep.bind (Lockstep.modifySession (fun _ => rfl) fun _ => rfl) fun _ =>
            Lockstep.pure ds

theorem resolveMember_lockstep
    (d : Descriptor) (object : Option Engine) :
    Lockstep (resolveMember d object) (resolveMember d object) :=
  Lockstep.session_bind fun _ => Lockstep.lift _

/-- One member: the same steps on both sides but for a back-reference, where the left's
policy decides and the right rejects. -/
theorem collectStep_lockstep
    {fuel : Nat} {v : Option Version} {chain visiting : List Ty} {path : List Descriptor}
    {depth : Nat}
    (hcollect : ∀ t chain path depth, Lockstep (collect fuel t v chain visiting path depth)
      (collect fuel t v chain visiting path depth))
    (hcheck : ∀ c, Lockstep (checkNested fuel c v visiting) (checkNested fuel c v visiting))
    (policy : CyclePolicy) (d : Descriptor) (acc : List Mapping) :
    Lockstep (collectStep fuel v chain visiting path depth policy d acc)
      (collectStep fuel v chain visiting path depth .error d acc) := by
  unfold collectStep
  refine Lockstep.ite (Lockstep.bind (Lockstep.log (by decide) _) fun _ => Lockstep.pure _) ?_
  refine Lockstep.bind (resolveMember_lockstep d none) fun r => ?_
  cases r with
  | some c => exact Lockstep.bind (hcheck c) fun _ => Lockstep.pure _
  | none =>
  cases d.info.ty.innermostObject? with
  | none => exact Lockstep.throw _
  | some target =>
  dsimp only
  refine Lockstep.ite ?_ (Lockstep.ite ?_ ?_)
  · cases policy
    · exact Lockstep.skip_or_reject _ _ _
    · exact Lockstep.throw _
  · exact Lockstep.bind (hcollect _ _ _ _) fun _ => Lockstep.pure _
  · refine Lockstep.bind (resolveMember_lockstep d _) fun r => ?_
    cases r with
    | none => exact Lockstep.throw _
    | some c => exact Lockstep.bind (hcheck c) fun _ => Lockstep.pure _

/-- The builder's three parts run in lockstep under the two policies: by induction on their
shared fuel, the policy read afresh by each walk of members. -/
theorem build_lockstep :
    ∀ fuel,
      (∀ t v visiting, Lockstep (buildList fuel t v visiting) (buildList fuel t v visiting)) ∧
      (∀ t v chain visiting path depth, Lockstep (collect fuel t v chain visiting path depth)
        (collect fuel t v chain visiting path depth)) ∧
      (∀ c v visiting, Lockstep (checkNested fuel c v visiting) (checkNested fuel c v visiting))
  | 0 => by
      refine ⟨fun t v visiting => ?_, fun t v chain visiting path depth => ?_, fun c v visiting => ?_⟩
      · rw [buildList]
        exact Lockstep.throw _
      · rw [collect]
        exact Lockstep.throw _
      · rw [checkNested]
        exact Lockstep.throw _
  | fuel + 1 => by
      obtain ⟨hbuild, hcollect, hcheck⟩ := build_lockstep fuel
      refine ⟨fun t v visiting => ?_, fun t v chain visiting path depth => ?_, fun c v visiting => ?_⟩
      · rw [buildList]
        refine Lockstep.ite ?_ (Lockstep.throw_bind _)
        exact Lockstep.bind (hcollect _ _ _ _ _ _) fun _ =>
          Lockstep.bind (Lockstep.log (by decide) _) fun _ => Lockstep.pure _
      · rw [collect_succ]
        refine Lockstep.options_bind fun o => Lockstep.bind (members_lockstep t) fun ds => ?_
        exact Lockstep.bind (Lockstep.forIn (fun d acc => collectStep_lockstep
          (hcollect · v · visiting · ·) (hcheck · v visiting) o.cyclePolicy d acc) [])
          fun out => Lockstep.pure out
      · rw [checkNested]
        refine Lockstep.bind (Lockstep.forIn (fun nested _ => ?_) _) fun _ => Lockstep.pure _
        refine Lockstep.session_bind fun s => ?_
        simp only [Session.strict_lists]
        exact Lockstep.ite (Lockstep.pure _) (Lockstep.bind (hbuild _ _ _) fun _ =>
          Lockstep.bind (Lockstep.log (by decide) _) fun _ => Lockstep.pure _)

/-! ## Fresh builds under the two policies -/

/-- A fresh serializer's build of the list of `t` at version `v`, with the machine it ends in. -/
def freshBuild (cat : Catalog) (o : Options) (t : Ty) (v : Option Version) :
    EStateM.Result Error Machine MappingList :=
  (buildList cat.fuel t v [t]).run ((Session.new cat o).machine [] none)

/-- The warnings a fresh build logs. -/
def freshWarnings (cat : Catalog) (o : Options) (t : Ty) (v : Option Version) : List LogRecord :=
  (endState (freshBuild cat o t v)).warnings

theorem freshList_eq_answer
    (cat : Catalog) (o : Options) (t : Ty) (v : Option Version) :
    freshList cat o t v = answer (freshBuild cat o t v) :=
  rfl

theorem freshBuild_parts
    (cat : Catalog) (o : Options) (t : Ty) (v : Option Version) :
    Parts [] (freshBuild cat { o with cyclePolicy := .skip } t v)
      (freshBuild cat { o with cyclePolicy := .error } t v) :=
  ((build_lockstep cat.fuel).1 t v [t]).parts ((Session.new cat { o with cyclePolicy := .skip }).machine [] none)

/-- Under the strict policy a fresh build gives a list exactly when the skipping build gives
it and logs no warning. Otherwise, if the skipping build warned, its first warning is of a
member left out as a back-reference, and the strict build fails with the cyclic-member error
for that member; if it did not, the strict build fails as the skipping build does. -/
theorem strict_policy_fails_at_the_first_skipped_back_reference
    (cat : Catalog) (o : Options) (t : Ty) (v : Option Version) :
    (∀ L, freshList cat { o with cyclePolicy := .error } t v = .ok L ↔
      freshList cat { o with cyclePolicy := .skip } t v = .ok L ∧
        freshWarnings cat { o with cyclePolicy := .skip } t v = []) ∧
    (freshWarnings cat { o with cyclePolicy := .skip } t v = [] →
      freshList cat { o with cyclePolicy := .error } t v =
        freshList cat { o with cyclePolicy := .skip } t v) ∧
    ∀ w rest, freshWarnings cat { o with cyclePolicy := .skip } t v = w :: rest →
      ∃ member target, w = backReferenceWarning member target ∧
        freshList cat { o with cyclePolicy := .error } t v =
          .error (.config (.cyclicMember member target)) := by
  have h := freshBuild_parts cat o t v
  simp only [freshWarnings, freshList_eq_answer]
  generalize freshBuild cat { o with cyclePolicy := .skip } t v = r₁ at h ⊢
  generalize freshBuild cat { o with cyclePolicy := .error } t v = r₂ at h ⊢
  cases h with
  | ok hw =>
      refine ⟨fun L => ?_, fun _ => rfl, fun w rest hwr => ?_⟩
      · simp [answer, endState, hw]
      · simp [endState, hw] at hwr
  | error hw =>
      refine ⟨fun L => ?_, fun _ => rfl, fun w rest hwr => ?_⟩
      · simp [answer]
      · simp [endState, hw] at hwr
  | parted hw =>
      rename_i m member target rest
      have hne : (endState r₁).warnings ≠ [] := by simp [hw]
      refine ⟨fun L => ?_, fun hnil => absurd hnil hne, fun w rest' hwr => ?_⟩
      · simp only [answer, reduceCtorEq, false_iff, not_and]
        exact fun _ => hne
      · rw [hw, List.nil_append, List.cons.injEq] at hwr
        exact ⟨member, target, hwr.1.symm, rfl⟩

end Run
end ObjectWire
