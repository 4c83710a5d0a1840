import ObjectWire.Proofs.ScalarRoundTrip
import ObjectWire.Proofs.StreamVersion
/-!
# Reading back what was written

The codec law of a converter: whatever a write appends, a read started where those bytes
stand, in the writer's encoding, gives the value back and stops just after them, whatever
follows. `ReadsBack w r v` states it for a writing step `w`, a reading step `r` and the value
`v`; it asks nothing of a write that fails.

Laws compose the way writers and readers are written: a write followed by another reads back
by the reads in the same order (`ReadsBack.bind`). The primitive laws are a flag byte, a
string in either encoding, and the body of a scalar.

**Results.**
* `ReadsBack.bind`, `ReadsBack.map`, `ReadsBack.pure`: composition.
* `ReadsBack.bool`, `ReadsBack.string`: flags and strings read back.
* `ReadsBack.primitive`: a scalar of its type reads back through the primitive converter.
-/

namespace ObjectWire

/-! ## Accepted writes append -/

theorem Writer.offer_accepted
    {w : Writer} {bs : List UInt8} (h : (w.offer bs).2 = true) :
    (w.offer bs).1.bytes = w.bytes ++ bs ∧ (w.offer bs).1.encoding = w.encoding := by
  unfold Writer.offer at *
  cases hroom : w.room with
  | none => simp [Writer.bytes]
  | some r =>
      simp only [hroom] at h ⊢
      by_cases hfit : bs.length ≤ r
      · simp [hfit, Writer.bytes]
      · simp [hfit] at h

theorem Emit.offer_ok_inv
    {bs : List UInt8} {fault : Error} {w w' : Writer} (h : (Emit.offer bs fault).run w = .ok () w') :
    w'.bytes = w.bytes ++ bs ∧ w'.encoding = w.encoding := by
  rw [Emit.offer_run] at h
  split at h
  · next hok =>
      cases h
      exact Writer.offer_accepted hok
  · cases h

theorem Emit.bind_ok_inv
    {α β : Type} {e : Emit α} {k : α → Emit β} {w w' : Writer} {b : β}
    (h : (e >>= k).run w = .ok b w') :
    ∃ a w₁, e.run w = .ok a w₁ ∧ (k a).run w₁ = .ok b w' := by
  rw [EStateM.run_bind] at h
  cases he : e.run w with
  | ok a w₁ =>
      rw [he] at h
      exact ⟨a, w₁, rfl, h⟩
  | error err w₁ =>
      rw [he] at h
      cases h

theorem Emit.bool_ok_inv
    {b : Bool} {w w' : Writer} (h : (Emit.bool b).run w = .ok () w') :
    w'.bytes = w.bytes ++ [if b then 1 else 0] ∧ w'.encoding = w.encoding :=
  Emit.offer_ok_inv h

/-- A string that was written appends its count and its payload in the writer's encoding, and
its payload fits a count. -/
theorem Emit.string_ok_inv
    {s : String} {w w' : Writer} (h : (Emit.string s).run w = .ok () w') :
    (w.encoding.encode s).length ≤ maxCount ∧
      w'.bytes = w.bytes ++ (countBytes (w.encoding.encode s).length ++ w.encoding.encode s) ∧
      w'.encoding = w.encoding := by
  simp only [Emit.string, EStateM.run_bind, EStateM.run_get] at h
  obtain ⟨_, w₁, hcount, hraw⟩ := Emit.bind_ok_inv h
  unfold Emit.count at hcount
  split at hcount
  · next hfit =>
      obtain ⟨hb₁, he₁⟩ := Emit.offer_ok_inv hcount
      obtain ⟨hb₂, he₂⟩ := Emit.offer_ok_inv hraw
      refine ⟨hfit, ?_, he₂.trans he₁⟩
      rw [hb₂, hb₁, List.append_assoc]
      rfl
  · cases hcount

namespace Run

theorem emit_ok_inv
    {α : Type} {e : Emit α} {m m' : Machine} {a : α} (h : (emit e).run m = .ok a m') :
    ∃ w', e.run m.writer = .ok a w' ∧ m' = { m with writer := w' } := by
  change emit e m = _ at h
  unfold emit at h
  split at h
  · next a' w' heq =>
      cases h
      exact ⟨w', heq, rfl⟩
  · cases h

/-! ## The codec law -/

/-- Whatever `w` appends when it succeeds, `r`, started where those bytes stand in the writer's
encoding, reads as `v`, moving exactly past them and leaving the input and its encoding as
they were. -/
def ReadsBack {α : Type} (w : Run Unit) (r : Run α) (v : α) : Prop :=
  ∀ m m', w.run m = .ok () m' →
    ∃ b, m'.writer.bytes = m.writer.bytes ++ b ∧ m'.writer.encoding = m.writer.encoding ∧
      ∀ m₂ rest, m₂.reader.encoding = m.writer.encoding →
        m₂.reader.input.toList.drop m₂.reader.pos = b ++ rest →
        ∃ m₂', r.run m₂ = .ok v m₂' ∧ m₂'.reader.input = m₂.reader.input ∧
          m₂'.reader.encoding = m₂.reader.encoding ∧ m₂'.reader.pos = m₂.reader.pos + b.length

namespace ReadsBack

variable {α β : Type}

theorem pure
    (v : α) :
    ReadsBack (Pure.pure ()) (Pure.pure v : Run α) v := by
  intro m m' h
  cases h
  refine ⟨[], by simp, rfl, fun m₂ rest _ _ => ⟨m₂, rfl, rfl, rfl, by simp⟩⟩

/-- A write followed by another reads back by the first read, then the read that the first
value selects. -/
theorem bind
    {w₁ w₂ : Run Unit} {r₁ : Run α} {k : α → Run β} {a : α} {v : β}
    (h₁ : ReadsBack w₁ r₁ a) (h₂ : ReadsBack w₂ (k a) v) :
    ReadsBack (w₁ >>= fun _ => w₂) (r₁ >>= k) v := by
  intro m m' hw
  obtain ⟨u, m₁, hw₁, hw₂⟩ := run_bind_ok hw
  obtain ⟨b₁, hbytes₁, henc₁, hread₁⟩ := h₁ m m₁ hw₁
  obtain ⟨b₂, hbytes₂, henc₂, hread₂⟩ := h₂ m₁ m' hw₂
  refine ⟨b₁ ++ b₂, by rw [hbytes₂, hbytes₁, List.append_assoc], henc₂.trans henc₁, ?_⟩
  intro m₂ rest henc hdrop
  obtain ⟨m₂₁, hr₁, hin₁, hence₁, hpos₁⟩ := hread₁ m₂ (b₂ ++ rest) henc
    (by rw [hdrop, List.append_assoc])
  have hdrop₁ : m₂₁.reader.input.toList.drop m₂₁.reader.pos = b₂ ++ rest := by
    rw [hin₁, hpos₁]
    exact Reader.drop_after (by rw [hdrop, List.append_assoc])
  obtain ⟨m₂', hr₂, hin₂, hence₂, hpos₂⟩ := hread₂ m₂₁ rest
    (by rw [hence₁, henc, henc₁]) hdrop₁
  refine ⟨m₂', ?_, hin₂.trans hin₁, hence₂.trans hence₁, ?_⟩
  · rw [EStateM.run_bind, hr₁]
    exact hr₂
  · rw [hpos₂, hpos₁, List.length_append, Nat.add_assoc]

theorem map
    {w : Run Unit} {r : Run α} {v : α} (f : α → β) (h : ReadsBack w r v) :
    ReadsBack w (f <$> r) (f v) := by
  intro m m' hw
  obtain ⟨b, hbytes, henc, hread⟩ := h m m' hw
  refine ⟨b, hbytes, henc, fun m₂ rest henc₂ hdrop => ?_⟩
  obtain ⟨m₂', hr, hin, hence, hpos⟩ := hread m₂ rest henc₂ hdrop
  exact ⟨m₂', by rw [map_run, hr], hin, hence, hpos⟩

theorem bool
    (x : Bool) :
    ReadsBack (emit (Emit.bool x)) (take Take.bool) x := by
  intro m m' hw
  obtain ⟨w', hrun, rfl⟩ := emit_ok_inv hw
  obtain ⟨hbytes, henc⟩ := Emit.bool_ok_inv hrun
  refine ⟨[if x then 1 else 0], hbytes, henc, fun m₂ rest _ hdrop => ?_⟩
  exact ⟨_, take_run_ok (Take.bool_run_of hdrop), rfl, rfl, rfl⟩

theorem string
    (s : String) :
    ReadsBack (emit (Emit.string s)) (take Take.string) s := by
  intro m m' hw
  obtain ⟨w', hrun, rfl⟩ := emit_ok_inv hw
  obtain ⟨hfit, hbytes, henc⟩ := Emit.string_ok_inv hrun
  refine ⟨_, hbytes, henc, fun m₂ rest henc₂ hdrop => ?_⟩
  have hdec : m₂.reader.encoding.decode (m.writer.encoding.encode s) = .ok s := by
    rw [henc₂]
    exact TextEncoding.decode_encode _ s
  rw [List.append_assoc] at hdrop
  refine ⟨_, take_run_ok (Take.string_run_of hfit hdrop hdec), rfl, rfl, ?_⟩
  simp [countBytes, Nat.add_assoc]

theorem primitive
    (ow : ObjectWriter) (orr : ObjectReader) (ctx : Ctx) {s : Scalar} {v : Value}
    (hv : s.holds v = true) :
    ReadsBack (writeBody ow (.primitive s) (.scalar s) ⟨.scalar s, v⟩ ctx)
      (readBody orr (.primitive s) (.scalar s) ctx) v := by
  intro m m' hw
  simp [writeBody] at hw
  obtain ⟨w', hrun, rfl⟩ := emit_ok_inv hw
  obtain ⟨hbytes, henc⟩ := Emit.offer_ok_inv hrun
  exact ⟨_, hbytes, henc, fun m₂ rest _ hdrop =>
    ⟨_, take_run_ok (Scalar.read_run_encode s hv hdrop), rfl, rfl, rfl⟩⟩

end ReadsBack

end Run
end ObjectWire
