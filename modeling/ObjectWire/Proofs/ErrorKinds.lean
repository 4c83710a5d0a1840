import ObjectWire.Proofs.NestedChecks
/-!
# The errors a run can end with

`Keeps S E f Q` says that from every machine whose session is in `S`, a run of `f` fails
only with an error in `E`, and a success returns a value in `Q` and leaves the session in `S`.
It is proved along the structure of a computation, one rule per combinator and per kind of
step: a step on the writer or the reader leaves the session alone and fails as the writing or
reading step does, a step on the session keeps `S` when `S` survives refreshing.

For the sink the errors are few: a full sink, a refused value, a count too large
(`Emit.FailsWith`).

**Results.**
* `Keeps.pure`, `Keeps.bind`, `Keeps.ite`, `Keeps.forIn`: the combinators.
* `Keeps.lift`, `Keeps.emit`, `Keeps.scratch`, `Keeps.log`: the steps.
* `Emit.FailsWith.string`, `Emit.FailsWith.bytes`, ...: what each writing step fails with.
-/

namespace ObjectWire

/-! ## Writing steps -/

/-- A writing step that fails only with errors in `E`. -/
def Emit.FailsWith {α : Type} (E : Error → Prop) (e : Emit α) : Prop :=
  ∀ w err w', e.run w = .error err w' → E err

namespace Emit.FailsWith

variable {α β : Type} {E : Error → Prop}

theorem pure
    (a : α) :
    FailsWith E (Pure.pure a : Emit α) :=
  fun _ _ _ h => nomatch h

theorem bind
    {e : Emit α} {k : α → Emit β} (he : FailsWith E e) (hk : ∀ a, FailsWith E (k a)) :
    FailsWith E (e >>= k) := by
  intro w err w' h
  rw [EStateM.run_bind] at h
  cases hr : e.run w with
  | ok a w₁ =>
      rw [hr] at h
      exact hk a w₁ err w' h
  | error err₁ w₁ =>
      rw [hr] at h
      cases h
      exact he w _ _ hr

theorem get_bind
    {k : Writer → Emit α} (hk : ∀ w, FailsWith E (k w)) :
    FailsWith E (get >>= k) :=
  fun w => hk w w

theorem offer
    (bs : List UInt8) {fault : Error} (h : E fault) :
    FailsWith E (Emit.offer bs fault) := by
  intro w err w' hrun
  rw [Emit.offer_run] at hrun
  split at hrun
  · cases hrun
  · cases hrun
    exact h

/-- The writing steps fail with a full sink, a refused value or a count too large. -/
structure Sink (E : Error → Prop) : Prop where
  full : E (.io .sinkFull)
  refused : E (.codec .sinkRefused)
  overflow : ∀ n, E (.data (.lengthOverflow n))

variable (hE : Sink E)
include hE

theorem raw
    (bs : List UInt8) :
    FailsWith E (Emit.raw bs) :=
  offer bs hE.full

theorem value
    (bs : List UInt8) :
    FailsWith E (Emit.value bs) :=
  offer bs hE.refused

theorem count
    (n : Nat) :
    FailsWith E (Emit.count n) := by
  unfold Emit.count
  split
  · exact value hE _
  · exact fun _ _ _ h => by
      cases h
      exact hE.overflow n

theorem bytes
    (bs : List UInt8) :
    FailsWith E (Emit.bytes bs) :=
  bind (count hE _) fun _ => raw hE bs

theorem string
    (s : String) :
    FailsWith E (Emit.string s) :=
  get_bind fun _ => bytes hE _

end Emit.FailsWith

namespace Run

variable {α β γ : Type} {S : Session → Prop} {E : Error → Prop}

/-! ## Runs that keep a machine invariant -/

/-- A result that is a failure with an error in `E`, or a value in `Q` on a machine in `I`. -/
def Lands (I : Machine → Prop) (E : Error → Prop) (Q : α → Prop) :
    EStateM.Result Error Machine α → Prop
  | .ok a m' => Q a ∧ I m'
  | .error e _ => E e

/-- From every machine in `I`, `f` fails with an error in `E`, or returns a value in `Q` on a
machine in `I`. -/
def Maintains (I : Machine → Prop) (E : Error → Prop) (f : Run α) (Q : α → Prop) : Prop :=
  ∀ m, I m → Lands I E Q (f.run m)

namespace Maintains

variable {I : Machine → Prop}

theorem pure
    (a : α) {Q : α → Prop} (h : Q a) :
    Maintains I E (Pure.pure a : Run α) Q :=
  fun _ hm => ⟨h, hm⟩

theorem throw
    {e : Error} {Q : α → Prop} (h : E e) :
    Maintains I E (MonadExcept.throw e : Run α) Q :=
  fun _ _ => h

theorem bind
    {f : Run α} {k : α → Run β} {P : α → Prop} {Q : β → Prop} (hf : Maintains I E f P)
    (hk : ∀ a, P a → Maintains I E (k a) Q) :
    Maintains I E (f >>= k) Q := by
  intro m hm
  have h₁ := hf m hm
  rw [EStateM.run_bind]
  cases hr : f.run m with
  | ok a m₁ =>
      rw [hr] at h₁
      exact hk a h₁.1 m₁ h₁.2
  | error e m₁ =>
      rw [hr] at h₁
      exact h₁

theorem imp
    {f : Run α} {P Q : α → Prop} (h : Maintains I E f P) (hPQ : ∀ a, P a → Q a) :
    Maintains I E f Q := by
  intro m hm
  have h₁ := h m hm
  cases hr : f.run m with
  | ok a m₁ =>
      rw [hr] at h₁
      exact ⟨hPQ a h₁.1, h₁.2⟩
  | error e m₁ =>
      rw [hr] at h₁
      exact h₁

theorem throw_bind
    {e : Error} {k : α → Run β} {Q : β → Prop} (h : E e) :
    Maintains I E (MonadExcept.throw e >>= k) Q :=
  bind (P := fun _ => False) (throw h) fun _ h => h.elim

theorem ite
    {c : Prop} [Decidable c] {f g : Run α} {Q : α → Prop} (hf : c → Maintains I E f Q)
    (hg : ¬c → Maintains I E g Q) :
    Maintains I E (if c then f else g) Q := by
  by_cases hc : c
  · simpa only [if_pos hc] using hf hc
  · simpa only [if_neg hc] using hg hc

theorem forIn
    {xs : List γ} {f : γ → β → Run (ForInStep β)}
    (h : ∀ x ∈ xs, ∀ b, Maintains I E (f x b) fun _ => True) (init : β) :
    Maintains I E (ForIn.forIn xs init f) fun _ => True := by
  induction xs generalizing init with
  | nil => exact pure _ trivial
  | cons x xs ih =>
      simp only [List.forIn_cons]
      refine bind (h x (List.mem_cons_self ..) init) fun step _ => ?_
      cases step with
      | done b => exact pure _ trivial
      | yield b => exact ih (fun y hy => h y (List.mem_cons_of_mem x hy)) b

theorem get_bind
    {k : Machine → Run α} {Q : α → Prop} (hk : ∀ m, I m → Maintains I E (k m) Q) :
    Maintains I E (get >>= k) Q :=
  fun m hm => hk m hm m hm

end Maintains

/-! ## Runs that keep a session invariant -/

/-- A result that is a failure with an error in `E`, or a value in `Q` with a session in
`S`. -/
def Within (S : Session → Prop) (E : Error → Prop) (Q : α → Prop) :
    EStateM.Result Error Machine α → Prop
  | .ok a m' => Q a ∧ S m'.session
  | .error e _ => E e

/-- From every machine whose session is in `S`, `f` fails with an error in `E`, or returns a
value in `Q` and leaves the session in `S`. -/
def Keeps (S : Session → Prop) (E : Error → Prop) (f : Run α) (Q : α → Prop) : Prop :=
  ∀ m, S m.session → Within S E Q (f.run m)

namespace Keeps

theorem pure
    (a : α) {Q : α → Prop} (h : Q a) :
    Keeps S E (Pure.pure a : Run α) Q :=
  fun _ hm => ⟨h, hm⟩

theorem throw
    {e : Error} {Q : α → Prop} (h : E e) :
    Keeps S E (MonadExcept.throw e : Run α) Q :=
  fun _ _ => h

theorem bind
    {f : Run α} {k : α → Run β} {P : α → Prop} {Q : β → Prop} (hf : Keeps S E f P)
    (hk : ∀ a, P a → Keeps S E (k a) Q) :
    Keeps S E (f >>= k) Q := by
  intro m hm
  have h₁ := hf m hm
  rw [EStateM.run_bind]
  cases hr : f.run m with
  | ok a m₁ =>
      rw [hr] at h₁
      exact hk a h₁.1 m₁ h₁.2
  | error e m₁ =>
      rw [hr] at h₁
      exact h₁

theorem imp
    {f : Run α} {P Q : α → Prop} (h : Keeps S E f P) (hPQ : ∀ a, P a → Q a) :
    Keeps S E f Q := by
  intro m hm
  have h₁ := h m hm
  cases hr : f.run m with
  | ok a m₁ =>
      rw [hr] at h₁
      exact ⟨hPQ a h₁.1, h₁.2⟩
  | error e m₁ =>
      rw [hr] at h₁
      exact h₁

theorem throw_bind
    {e : Error} {k : α → Run β} {Q : β → Prop} (h : E e) :
    Keeps S E (MonadExcept.throw e >>= k) Q :=
  bind (P := fun _ => False) (throw h) fun _ h => h.elim

theorem ite
    {c : Prop} [Decidable c] {f g : Run α} {Q : α → Prop} (hf : c → Keeps S E f Q)
    (hg : ¬c → Keeps S E g Q) :
    Keeps S E (if c then f else g) Q := by
  by_cases hc : c
  · simpa only [if_pos hc] using hf hc
  · simpa only [if_neg hc] using hg hc

theorem forIn
    {xs : List γ} {f : γ → β → Run (ForInStep β)}
    (h : ∀ x ∈ xs, ∀ b, Keeps S E (f x b) fun _ => True) (init : β) :
    Keeps S E (ForIn.forIn xs init f) fun _ => True := by
  induction xs generalizing init with
  | nil => exact pure _ trivial
  | cons x xs ih =>
      simp only [List.forIn_cons]
      refine bind (h x (List.mem_cons_self ..) init) fun step _ => ?_
      cases step with
      | done b => exact pure _ trivial
      | yield b => exact ih (fun y hy => h y (List.mem_cons_of_mem x hy)) b

theorem lift
    {x : Except Error α} (h : ∀ err, x = .error err → E err) :
    Keeps S E (Run.lift x) fun a => x = .ok a := by
  cases x with
  | ok a => exact pure a rfl
  | error err => exact throw (h err rfl)

theorem get_bind
    {k : Machine → Run α} {Q : α → Prop} (hk : ∀ m, S m.session → Keeps S E (k m) Q) :
    Keeps S E (get >>= k) Q :=
  fun m hm => hk m hm m hm

theorem session_bind
    {k : Session → Run α} {Q : α → Prop} (hk : ∀ s, S s → Keeps S E (k s) Q) :
    Keeps S E (Run.session >>= k) Q :=
  fun m hm => hk m.session hm m hm

theorem emit
    {e : Emit α} (he : Emit.FailsWith E e) :
    Keeps S E (Run.emit e) fun _ => True := by
  intro m hm
  show Within S E _ (Run.emit e m)
  unfold Run.emit
  cases hr : e m.writer with
  | ok a w' => exact ⟨trivial, hm⟩
  | error err w' => exact he m.writer err w' hr

/-- Scratch space runs its body on the same session. -/
theorem scratch
    {body : Run Unit} (h : Keeps S E body fun _ => True) :
    Keeps S E (Run.scratch body) fun _ => True := by
  intro m hm
  have h₁ := h { m with writer := Writer.new m.writer.encoding } hm
  show Within S E _ (Run.scratch body m)
  unfold Run.scratch
  dsimp only
  split
  · next m' hr =>
      have hr' : body.run { m with writer := Writer.new m.writer.encoding } = .ok () m' := hr
      rw [hr'] at h₁
      exact ⟨trivial, h₁.2⟩
  · next err m' hr =>
      have hr' : body.run { m with writer := Writer.new m.writer.encoding } = .error err m' := hr
      rw [hr'] at h₁
      exact h₁

theorem log
    (hS : ∀ {s s'}, S s → Session.Refresh s s' → S s') (level : Level) (message : String) :
    Keeps S E (Run.log level message) fun _ => True := by
  intro m hm
  rw [log_run]
  exact ⟨trivial, hS hm (Session.refresh_logs _ _)⟩

theorem answer_error
    {f : Run α} {Q : α → Prop} (h : Keeps S E f Q) {m : Machine} (hm : S m.session) {e : Error}
    (he : answer (f.run m) = .error e) :
    E e := by
  have h₁ := h m hm
  cases hr : f.run m with
  | ok a m' =>
      rw [hr] at he
      cases he
  | error e' m' =>
      rw [hr] at he h₁
      cases he
      exact h₁

theorem answer_eq_error
    {f : Run α} {e : Error} (h : Keeps S (· = e) f fun _ => False) {m : Machine}
    (hm : S m.session) :
    answer (f.run m) = .error e := by
  have h₁ := h m hm
  cases hr : f.run m with
  | ok a m' =>
      rw [hr] at h₁
      exact h₁.1.elim
  | error e' m' =>
      rw [hr] at h₁
      rw [show e' = e from h₁]
      rfl

end Keeps
end Run
end ObjectWire
