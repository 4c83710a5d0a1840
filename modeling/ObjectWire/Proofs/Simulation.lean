import ObjectWire.Serializer
/-!
# Simulations between runs

Several facts about a serializer compare two runs: one computation started on two machines
that differ only in what cannot change an answer, or two computations that should behave
alike. For a relation `R` on machines, two computations *simulate* each other when, started
from any `R`-related machines, both succeed with equal values and end in `R`-related
machines, or both fail with the same error.

A simulation of a whole entry point is assembled the way the entry point is written: along
`bind`, through branches, and through the loops over lists that the engines and the mapping
builder run.

**Results.**
* `Sim.bind`, `Sim.forIn`, `Sim.ite`: simulations compose along the structure of a
  computation.
* `Sim.pure`, `Sim.throw`, `Sim.lift`: steps that do not look at the machine simulate
  themselves under every relation.
-/

namespace ObjectWire

/-- The state a step ends in, whether it succeeds or fails. -/
def endState {ε σ α : Type} : EStateM.Result ε σ α → σ
  | .ok _ s => s
  | .error _ s => s

namespace Run

variable {α β γ : Type} {R : Machine → Machine → Prop}

/-- Outcomes that correspond under `R`: equal values, or the same error, in `R`-related
machines. -/
def Corresponds (R : Machine → Machine → Prop) :
    EStateM.Result Error Machine α → EStateM.Result Error Machine α → Prop
  | .ok a m₁, .ok b m₂ => a = b ∧ R m₁ m₂
  | .error e₁ m₁, .error e₂ m₂ => e₁ = e₂ ∧ R m₁ m₂
  | _, _ => False

/-- From `R`-related machines, `f` and `g` have corresponding outcomes. -/
def Sim (R : Machine → Machine → Prop) (f g : Run α) : Prop :=
  ∀ m₁ m₂, R m₁ m₂ → Corresponds R (f.run m₁) (g.run m₂)

/-! ## The steps that read or extend the session, run on a machine -/

@[simp] theorem session_run
    (m : Machine) :
    Run.session.run m = .ok m.session m := by
  rfl

@[simp] theorem options_run
    (m : Machine) :
    Run.options.run m = .ok m.session.options m := by
  rfl

@[simp] theorem catalog_run
    (m : Machine) :
    Run.catalog.run m = .ok m.session.catalog m := by
  rfl

@[simp] theorem log_run
    (m : Machine) (level : Level) (message : String) :
    (Run.log level message).run m =
      .ok () { m with session := { m.session with logs := m.session.logs.push ⟨level, message⟩ } } := by
  rfl

@[simp] theorem modifySession_run
    (m : Machine) (f : Session → Session) :
    (Run.modifySession f).run m = .ok () { m with session := f m.session } := by
  rfl

@[simp] theorem lift_ok_run
    (m : Machine) (a : α) :
    (Run.lift (.ok a : Except Error α)).run m = .ok a m := by
  rfl

@[simp] theorem lift_error_run
    (m : Machine) (e : Error) :
    (Run.lift (.error e : Except Error α)).run m = .error e m := by
  rfl

@[simp] theorem throw_run
    (m : Machine) (e : Error) :
    (throw e : Run α).run m = .error e m := by
  rfl

@[simp] theorem map_run
    {β : Type} (f : α → β) (x : Run α) (m : Machine) :
    (f <$> x).run m = match x.run m with
      | .ok a m' => .ok (f a) m'
      | .error e m' => .error e m' := by
  unfold EStateM.run
  show EStateM.map f x m = _
  unfold EStateM.map
  cases x m <;> rfl

@[simp] theorem lift_ok_bind
    (a : α) (k : α → Run β) :
    (Run.lift (.ok a) >>= k) = k a :=
  rfl

theorem lift_error_eq
    (e : Error) :
    Run.lift (.error e : Except Error α) = throw e :=
  rfl

theorem run_bind_ok
    {x : Run α} {f : α → Run β} {m m' : Machine} {b : β} (h : (x >>= f).run m = .ok b m') :
    ∃ a m₁, x.run m = .ok a m₁ ∧ (f a).run m₁ = .ok b m' := by
  rw [EStateM.run_bind] at h
  cases hx : x.run m with
  | ok a m₁ =>
      rw [hx] at h
      exact ⟨a, m₁, rfl, h⟩
  | error e m₁ =>
      rw [hx] at h
      cases h

/-! ## Simulations -/

theorem Corresponds.ok_iff
    {a b : α} {m₁ m₂ : Machine} :
    Corresponds R (.ok a m₁) (.ok b m₂) ↔ a = b ∧ R m₁ m₂ := by
  rfl

theorem Corresponds.error_left
    {e : Error} {m₁ : Machine} {r : EStateM.Result Error Machine α}
    (h : Corresponds R (.error e m₁) r) :
    ∃ m₂, r = .error e m₂ ∧ R m₁ m₂ := by
  cases r with
  | ok b m₂ => exact h.elim
  | error e₂ m₂ =>
      obtain ⟨rfl, hR⟩ := h
      exact ⟨m₂, rfl, hR⟩

theorem Corresponds.ok_left
    {a : α} {m₁ : Machine} {r : EStateM.Result Error Machine α}
    (h : Corresponds R (.ok a m₁) r) :
    ∃ m₂, r = .ok a m₂ ∧ R m₁ m₂ := by
  cases r with
  | ok b m₂ =>
      obtain ⟨rfl, hR⟩ := h
      exact ⟨m₂, rfl, hR⟩
  | error e₂ m₂ => exact h.elim

theorem Corresponds.with_left
    {P : Machine → Prop} {r₁ r₂ : EStateM.Result Error Machine α}
    (h : Corresponds R r₁ r₂) (hp : P (endState r₁)) :
    Corresponds (fun m₁ m₂ => R m₁ m₂ ∧ P m₁) r₁ r₂ := by
  cases r₁ with
  | ok a m₁ =>
      obtain ⟨m₂, rfl, hR⟩ := h.ok_left
      exact ⟨rfl, hR, hp⟩
  | error e m₁ =>
      obtain ⟨m₂, rfl, hR⟩ := h.error_left
      exact ⟨rfl, hR, hp⟩

theorem Corresponds.endState
    {r₁ r₂ : EStateM.Result Error Machine α} (h : Corresponds R r₁ r₂) :
    R (endState r₁) (endState r₂) := by
  cases r₁ with
  | ok a m₁ =>
      obtain ⟨m₂, rfl, hm⟩ := h.ok_left
      exact hm
  | error e m₁ =>
      obtain ⟨m₂, rfl, hm⟩ := h.error_left
      exact hm

theorem Corresponds.mono
    {R' : Machine → Machine → Prop} (hR : ∀ {m₁ m₂}, R m₁ m₂ → R' m₁ m₂)
    {r₁ r₂ : EStateM.Result Error Machine α} (h : Corresponds R r₁ r₂) :
    Corresponds R' r₁ r₂ := by
  cases r₁ with
  | ok a m₁ =>
      obtain ⟨m₂, rfl, hm⟩ := h.ok_left
      exact ⟨rfl, hR hm⟩
  | error e m₁ =>
      obtain ⟨m₂, rfl, hm⟩ := h.error_left
      exact ⟨rfl, hR hm⟩

theorem Corresponds.symm
    (hsymm : ∀ {m₁ m₂}, R m₁ m₂ → R m₂ m₁) {r₁ r₂ : EStateM.Result Error Machine α}
    (h : Corresponds R r₁ r₂) :
    Corresponds R r₂ r₁ := by
  cases r₁ with
  | ok a m₁ =>
      obtain ⟨m₂, rfl, hm⟩ := h.ok_left
      exact ⟨rfl, hsymm hm⟩
  | error e m₁ =>
      obtain ⟨m₂, rfl, hm⟩ := h.error_left
      exact ⟨rfl, hsymm hm⟩

theorem Sim.symm
    (hsymm : ∀ {m₁ m₂}, R m₁ m₂ → R m₂ m₁) {f g : Run α} (h : Sim R f g) :
    Sim R g f :=
  fun m₁ m₂ hm => (h m₂ m₁ (hsymm hm)).symm hsymm

theorem Sim.pure
    (a : α) :
    Sim R (Pure.pure a) (Pure.pure a) := by
  intro m₁ m₂ h
  exact ⟨rfl, h⟩

theorem Sim.throw
    (e : Error) :
    Sim R (MonadExcept.throw e : Run α) (MonadExcept.throw e) := by
  intro m₁ m₂ h
  exact ⟨rfl, h⟩

/-- Simulations compose along `bind`, the continuations compared only at the values the first
step returns from machines that `R` relates. -/
theorem Sim.bind_of
    {Q : α → Prop} {f g : Run α} {k l : α → Run β} (hf : Sim R f g)
    (hQ : ∀ m₁ m₂ a m₁', R m₁ m₂ → f.run m₁ = .ok a m₁' → Q a)
    (hk : ∀ a, Q a → Sim R (k a) (l a)) :
    Sim R (f >>= k) (g >>= l) := by
  intro m₁ m₂ h
  have hc := hf m₁ m₂ h
  simp only [EStateM.run_bind]
  cases h₁ : f.run m₁ with
  | ok a m₁' =>
      rw [h₁] at hc
      obtain ⟨m₂', h₂, hR⟩ := hc.ok_left
      rw [h₂]
      exact hk a (hQ m₁ m₂ a m₁' h h₁) m₁' m₂' hR
  | error e m₁' =>
      rw [h₁] at hc
      obtain ⟨m₂', h₂, hR⟩ := hc.error_left
      rw [h₂]
      exact ⟨rfl, hR⟩

theorem Sim.bind
    {f g : Run α} {k l : α → Run β}
    (hf : Sim R f g) (hk : ∀ a, Sim R (k a) (l a)) :
    Sim R (f >>= k) (g >>= l) :=
  Sim.bind_of (Q := fun _ => True) hf (fun _ _ _ _ _ _ => trivial) fun a _ => hk a

theorem Sim.throw_bind
    (e : Error) {k : α → Run β} {l : γ → Run β} :
    Sim R (MonadExcept.throw e >>= k) (MonadExcept.throw e >>= l) := by
  intro m₁ m₂ h
  exact ⟨rfl, h⟩

theorem Sim.ite
    {c : Prop} [Decidable c] {f f' g g' : Run α}
    (hf : Sim R f f') (hg : Sim R g g') :
    Sim R (if c then f else g) (if c then f' else g') := by
  by_cases hc : c
  · simpa only [if_pos hc] using hf
  · simpa only [if_neg hc] using hg

theorem Sim.const_bind_left
    {f : Run α} {a : α} (hf : ∀ m₁ m₂, R m₁ m₂ → f.run m₁ = .ok a m₁)
    {k : α → Run β} {g : Run β} (h : Sim R (k a) g) :
    Sim R (f >>= k) g := by
  intro m₁ m₂ hm
  rw [EStateM.run_bind, hf m₁ m₂ hm]
  exact h m₁ m₂ hm

theorem Sim.const_bind_right
    {g : Run α} {a : α} (hg : ∀ m₁ m₂, R m₁ m₂ → g.run m₂ = .ok a m₂)
    {f : Run β} {k : α → Run β} (h : Sim R f (k a)) :
    Sim R f (g >>= k) := by
  intro m₁ m₂ hm
  rw [EStateM.run_bind, hg m₁ m₂ hm]
  exact h m₁ m₂ hm

theorem Sim.lift
    (e : Except Error α) :
    Sim R (Run.lift e) (Run.lift e) := by
  cases e with
  | ok a => exact Sim.pure a
  | error err => exact Sim.throw err

theorem Sim.forIn_of_mem
    {xs : List γ} {f g : γ → β → Run (ForInStep β)}
    (h : ∀ x ∈ xs, ∀ b, Sim R (f x b) (g x b)) (init : β) :
    Sim R (ForIn.forIn xs init f) (ForIn.forIn xs init g) := by
  induction xs generalizing init with
  | nil => exact Sim.pure init
  | cons x xs ih =>
      simp only [List.forIn_cons]
      refine Sim.bind (h x (List.mem_cons_self ..) init) fun step => ?_
      cases step with
      | done b => exact Sim.pure b
      | yield b => exact ih (fun y hy => h y (List.mem_cons_of_mem x hy)) b

theorem Sim.forIn
    {xs : List γ} {f g : γ → β → Run (ForInStep β)}
    (h : ∀ x b, Sim R (f x b) (g x b)) (init : β) :
    Sim R (ForIn.forIn xs init f) (ForIn.forIn xs init g) :=
  Sim.forIn_of_mem (fun x _ => h x) init

end Run
end ObjectWire
