import ObjectWire.Proofs.BuildAgreement
/-!
# Relations between engine runs

Reading and writing are compared by simulation, under relations between machines that
differ in what they know about the sessions. What such a relation must grant is said once,
in `EngineRel`: it sees sessions only through agreement, related machines have the same
writer and the same reader and stay related when both are replaced alike, and mapping lists
are answered alike. Machine agreement is one such relation; others add facts about the
sessions that agreement keeps.

Converters are compared up to the engines of their object converters (`Converter.Alike`):
a converter is alike itself with equal engines, and the converters that two roots resolve
with different engines are alike with any engines.

**Results.**
* `Converter.Alike`: converters of one shape, with related object engines.
* `EngineRel`: what a simulation of the engines needs from its relation, with
  `Machine.agree_engineRel` and the steps on the streams (`take_sim`, `emit_sim`,
  `scratch_sim`).
-/

namespace ObjectWire

/-- Converters of the same shape whose object converters' engines are related by `E`. -/
inductive Converter.Alike (E : Engine → Engine → Prop) : Converter → Converter → Prop
  | primitive (s : Scalar) : Alike E (.primitive s) (.primitive s)
  | string : Alike E .string .string
  | array : Alike E .array .array
  | custom (c : CustomConverter) : Alike E (.custom c) (.custom c)
  | list (t e : Ty) {c₁ c₂ : Converter} : Alike E c₁ c₂ → Alike E (.list t e c₁) (.list t e c₂)
  | dictionary (t k v : Ty) (sorted : Bool) {k₁ k₂ v₁ v₂ : Converter} :
      Alike E k₁ k₂ → Alike E v₁ v₂ →
        Alike E (.dictionary t k v sorted k₁ v₁) (.dictionary t k v sorted k₂ v₂)
  | pair (t k v : Ty) {k₁ k₂ v₁ v₂ : Converter} :
      Alike E k₁ k₂ → Alike E v₁ v₂ → Alike E (.pair t k v k₁ v₁) (.pair t k v k₂ v₂)
  | enum (t : Ty) (variants : List (String × String)) :
      Alike E (.enum t variants) (.enum t variants)
  | nullable (t i : Ty) (innerNullable : Bool) {c₁ c₂ : Converter} :
      Alike E c₁ c₂ → Alike E (.nullable t i c₁ innerNullable) (.nullable t i c₂ innerNullable)
  | pointer (t i : Ty) {c₁ c₂ : Converter} :
      Alike E c₁ c₂ → Alike E (.pointer t i c₁) (.pointer t i c₂)
  | object (t : Ty) {e₁ e₂ : Engine} : E e₁ e₂ → Alike E (.object t e₁) (.object t e₂)

namespace Converter.Alike

variable {E : Engine → Engine → Prop} {c₁ c₂ : Converter}

theorem refl :
    ∀ c : Converter, Alike Eq c c
  | .primitive s => .primitive s
  | .string => .string
  | .array => .array
  | .custom c => .custom c
  | .list t e c => .list t e (refl c)
  | .dictionary t k v sorted kc vc => .dictionary t k v sorted (refl kc) (refl vc)
  | .pair t k v kc vc => .pair t k v (refl kc) (refl vc)
  | .enum t variants => .enum t variants
  | .nullable t i c n => .nullable t i n (refl c)
  | .pointer t i c => .pointer t i (refl c)
  | .object t _ => .object t rfl

theorem mono
    {E' : Engine → Engine → Prop} (hE : ∀ a b, E a b → E' a b) (h : Alike E c₁ c₂) :
    Alike E' c₁ c₂ := by
  induction h with
  | primitive s => exact .primitive s
  | string => exact .string
  | array => exact .array
  | custom c => exact .custom c
  | list t e _ ih => exact .list t e ih
  | dictionary t k v sorted _ _ ihk ihv => exact .dictionary t k v sorted ihk ihv
  | pair t k v _ _ ihk ihv => exact .pair t k v ihk ihv
  | enum t variants => exact .enum t variants
  | nullable t i n _ ih => exact .nullable t i n ih
  | pointer t i _ ih => exact .pointer t i ih
  | object t he => exact .object t (hE _ _ he)

theorem target_eq
    (h : Alike E c₁ c₂) :
    c₁.target = c₂.target := by
  cases h <;> rfl

theorem handlesNull_eq
    (h : Alike E c₁ c₂) :
    c₁.handlesNull = c₂.handlesNull := by
  induction h with
  | pointer t i _ ih => exact ih
  | _ => rfl

theorem nestedObjects_eq
    (h : Alike E c₁ c₂) :
    c₁.nestedObjects = c₂.nestedObjects := by
  induction h with
  | list t e _ ih => exact ih
  | dictionary t k v sorted _ _ ihk ihv => simp only [nestedObjects, ihk, ihv]
  | pair t k v _ _ ihk ihv => simp only [nestedObjects, ihk, ihv]
  | nullable t i n _ ih => exact ih
  | pointer t i _ ih => exact ih
  | _ => rfl

end Converter.Alike

namespace Run

variable {α β : Type} {R : Machine → Machine → Prop}

/-- What a simulation of the engines needs from its relation: sessions seen through what
they answer, the same streams on both sides (replaced alike, related still), and mapping
lists answered alike, whatever each side has cached. -/
structure EngineRel (R : Machine → Machine → Prop) : Prop extends ViewRel R where
  writer_eq : ∀ {m₁ m₂}, R m₁ m₂ → m₁.writer = m₂.writer
  reader_eq : ∀ {m₁ m₂}, R m₁ m₂ → m₁.reader = m₂.reader
  setWriter : ∀ {m₁ m₂} (w : Writer), R m₁ m₂ → R { m₁ with writer := w } { m₂ with writer := w }
  setReader : ∀ {m₁ m₂} (r : Reader), R m₁ m₂ → R { m₁ with reader := r } { m₂ with reader := r }
  mappingList : ∀ t v, Sim R (Run.mappingList t v) (Run.mappingList t v)

theorem Machine.agree_engineRel :
    EngineRel Machine.Agree where
  toViewRel := Machine.agree_cacheRel.toSessionRel.toViewRel
  writer_eq h := h.2.1
  reader_eq h := h.2.2
  setWriter _ h := ⟨h.1, rfl, h.2.2⟩
  setReader _ h := ⟨h.1, h.2.1, rfl⟩
  mappingList := mappingList_sim Machine.agree_cacheRel

theorem Sim.get_bind
    {k l : Machine → Run α} (h : ∀ m₁ m₂, R m₁ m₂ → Sim R (k m₁) (l m₂)) :
    Sim R (get >>= k) (get >>= l) := by
  intro m₁ m₂ hm
  exact h m₁ m₂ hm m₁ m₂ hm

section Streams

variable (hR : EngineRel R)
include hR

theorem take_sim
    (r : Take α) :
    Sim R (take r) (take r) := by
  intro m₁ m₂ h
  show Corresponds _ (take r m₁) (take r m₂)
  unfold take
  rw [hR.reader_eq h]
  cases r m₂.reader with
  | ok a r' => exact ⟨rfl, hR.setReader r' h⟩
  | error e r' => exact ⟨rfl, hR.setReader r' h⟩

theorem emit_sim
    (e : Emit α) :
    Sim R (emit e) (emit e) := by
  intro m₁ m₂ h
  show Corresponds _ (emit e m₁) (emit e m₂)
  unfold emit
  rw [hR.writer_eq h]
  cases e m₂.writer with
  | ok a w' => exact ⟨rfl, hR.setWriter w' h⟩
  | error err w' => exact ⟨rfl, hR.setWriter w' h⟩

/-- A computation written apart simulates another when the two bodies do: both start from
the same fresh sink and give back the machines' own. -/
theorem scratch_sim
    {f g : Run Unit} (h : Sim R f g) :
    Sim R (scratch f) (scratch g) := by
  intro m₁ m₂ hm
  have hw := hR.writer_eq hm
  have hc : Corresponds R (f { m₁ with writer := Writer.new m₁.writer.encoding })
      (g { m₂ with writer := Writer.new m₁.writer.encoding }) :=
    h _ _ (hR.setWriter _ hm)
  show Corresponds _ (scratch f m₁) (scratch g m₂)
  unfold scratch
  dsimp only
  rw [← hw]
  generalize f { m₁ with writer := Writer.new m₁.writer.encoding } = r₁ at hc ⊢
  generalize g { m₂ with writer := Writer.new m₁.writer.encoding } = r₂ at hc ⊢
  cases r₁ with
  | ok u m₁' =>
      obtain ⟨m₂', rfl, hR'⟩ := hc.ok_left
      exact ⟨by rw [hR.writer_eq hR'], hR.setWriter _ hR'⟩
  | error e m₁' =>
      obtain ⟨m₂', rfl, hR'⟩ := hc.error_left
      exact ⟨rfl, hR.setWriter _ hR'⟩

end Streams

end Run
end ObjectWire
