import ObjectWire.Proofs.TextRoundTrip
import ObjectWire.Engine.Context
/-!
# Scalars read back as written

A value of a scalar type is written through the value codec and read back whole: integers
little-endian in their width (signed ones in two's complement, which reads back inside the
signed range), floats by their bit patterns, booleans as 0 or 1, and characters as their UTF-8
octets, whose lead octet announces how many follow. A `u32` written as decimal text parses back
to itself.

**Results.**
* `Scalar.read_run_encode`: reading where a value's bytes stand gives the value and moves past
  them.
* `parseU32?_toString`: a `u32` in decimal parses back, and a larger number is refused.
-/

namespace ObjectWire

/-! ## Numbers in their width -/

theorem Binary32.ofBytes_toBytes
    (x : Binary32) :
    (⟨(leValue (leBytes 4 x.toNat)).toUInt32⟩ : Binary32) = x := by
  have hlt : x.toNat < 2 ^ (8 * 4) := x.bits.toNat_lt
  rw [leValue_leBytes, Nat.mod_eq_of_lt hlt]
  simp [Binary32.toNat, Nat.toUInt32]

/-- A number of the signed range, written in two's complement, reads back as itself. -/
theorem signedValue_twosComplement
    {w : Nat} (hw : 0 < w) {i : Int}
    (hlo : -((Nat.pow 2 (8 * w - 1) : Nat) : Int) ≤ i) (hhi : i < ((Nat.pow 2 (8 * w - 1) : Nat) : Int)) :
    signedValue w (leBytes w (twosComplement w i)) = i := by
  have hpow : Nat.pow 2 (8 * w) = 2 * Nat.pow 2 (8 * w - 1) := by
    show 2 ^ (8 * w) = 2 * 2 ^ (8 * w - 1)
    rw [show 8 * w = (8 * w - 1) + 1 by omega, Nat.pow_succ, Nat.mul_comm]
    rfl
  generalize hP : Nat.pow 2 (8 * w - 1) = P at hlo hhi hpow
  have hP₀ : 0 < P := hP ▸ Nat.two_pow_pos _
  obtain ⟨t, ht, hres⟩ : ∃ t : Nat, twosComplement w i = t ∧ (t : Int) = if 0 ≤ i then i else i + 2 * P := by
    refine ⟨_, rfl, ?_⟩
    simp only [twosComplement, hpow]
    split
    · rw [Int.emod_eq_of_lt (by assumption) (by push_cast; omega)]
      omega
    · rw [← Int.add_emod_right i, Int.emod_eq_of_lt (by push_cast; omega) (by push_cast; omega)]
      push_cast
      omega
  have hmod : t % 2 ^ (8 * w) = t := by
    apply Nat.mod_eq_of_lt
    show t < Nat.pow 2 (8 * w)
    rw [hpow]
    split at hres <;> omega
  simp only [signedValue, ht, leValue_leBytes, hmod, hP]
  split <;> split at hres <;> push_cast [hpow] <;> omega

/-! ## Reading a scalar where its bytes stand -/

section Reading

variable {r : Reader} {rest : List UInt8}

theorem Take.unsigned_run_of
    {w n : Nat} (hn : n < 2 ^ (8 * w)) (h : r.input.toList.drop r.pos = leBytes w n ++ rest) :
    (do pure (Value.nat (leValue (← Take.exact w))) : Take Value).run r =
      .ok (.nat n) { r with pos := r.pos + w } := by
  have hexact := Take.exact_run_of h
  rw [length_leBytes] at hexact
  simp only [EStateM.run_bind, hexact, leValue_leBytes, Nat.mod_eq_of_lt hn]
  rfl

theorem Take.signed_run_of
    {w : Nat} (hw : 0 < w) {i : Int}
    (hlo : -((Nat.pow 2 (8 * w - 1) : Nat) : Int) ≤ i) (hhi : i < ((Nat.pow 2 (8 * w - 1) : Nat) : Int))
    (h : r.input.toList.drop r.pos = leBytes w (twosComplement w i) ++ rest) :
    (do pure (Value.int (signedValue w (← Take.exact w))) : Take Value).run r =
      .ok (.int i) { r with pos := r.pos + w } := by
  have hexact := Take.exact_run_of h
  rw [length_leBytes] at hexact
  simp only [EStateM.run_bind, hexact, signedValue_twosComplement hw hlo hhi]
  rfl

/-- The lead octet of a character announces how many octets it takes. -/
theorem Utf8.encodeChar_lead
    (c : Char) :
    ∃ b tail, Utf8.encodeChar c = b :: tail ∧ Utf8.width b = tail.length + 1 := by
  have hvalid := Char.toNat_valid c
  generalize hn : c.toNat = n at hvalid
  by_cases h₁ : n < 0x80
  · refine ⟨n.toUInt8, [], by simp [Utf8.encodeChar, hn, h₁], Utf8.width_of_le ?_⟩
    rw [toUInt8_toNat_of_lt (by omega)]
    omega
  by_cases h₂ : n < 0x800
  · refine ⟨(0xC0 + n / 64).toUInt8, [(0x80 + n % 64).toUInt8],
      by simp [Utf8.encodeChar, hn, h₁, h₂], Utf8.width_of_two ?_ ?_⟩ <;>
      rw [toUInt8_toNat_of_lt (by omega)] <;> omega
  by_cases h₃ : n < 0x10000
  · refine ⟨(0xE0 + n / 4096).toUInt8, [(0x80 + n / 64 % 64).toUInt8, (0x80 + n % 64).toUInt8],
      by simp [Utf8.encodeChar, hn, h₁, h₂, h₃], Utf8.width_of_three ?_ ?_⟩ <;>
      rw [toUInt8_toNat_of_lt (by omega)] <;> omega
  · refine ⟨(0xF0 + n / 262144).toUInt8,
      [(0x80 + n / 4096 % 64).toUInt8, (0x80 + n / 64 % 64).toUInt8, (0x80 + n % 64).toUInt8],
      by simp [Utf8.encodeChar, hn, h₁, h₂, h₃], Utf8.width_of_four ?_ ?_⟩ <;>
      rw [toUInt8_toNat_of_lt (by omega)] <;> omega

theorem Utf8.decode_encodeChar
    (c : Char) :
    Utf8.decode (Utf8.encodeChar c) = .ok (String.ofList [c]) := by
  have h := Utf8.decodeFrom_encodeChar_append c 0 []
  rw [List.append_nil] at h
  simp [Utf8.decode, h, Utf8.decodeFrom, Except.map]

/-- A character is read back from its octets: the lead octet gives the width, and the whole
sequence decodes to the character. -/
theorem Scalar.readChar_run_of
    {c : Char} (h : r.input.toList.drop r.pos = Utf8.encodeChar c ++ rest) :
    Scalar.readChar.run r = .ok (.char c) { r with pos := r.pos + (Utf8.encodeChar c).length } := by
  obtain ⟨b, tail, henc, hw⟩ := Utf8.encodeChar_lead c
  have hdec := Utf8.decode_encodeChar c
  rw [henc] at h hdec ⊢
  have h₁ : r.input.toList.drop r.pos = [b] ++ (tail ++ rest) := h
  have hfirst := Take.exact_run_of h₁
  have hafter := Reader.drop_after h₁
  have hrest := Take.exact_run_of (r := { r with pos := r.pos + [b].length }) hafter
  simp only [List.length_singleton] at hfirst hrest
  cases tail with
  | nil =>
      have hone : Char.ofNat b.toNat = c := by
        simp only [Utf8.decode, Utf8.decodeFrom, hw] at hdec
        simpa [Except.map] using hdec
      simp [Scalar.readChar, EStateM.run_bind, hfirst, hw, hone]
  | cons x xs =>
      have hw' : Utf8.width b = xs.length + 2 := by simpa using hw
      have hrest' : (Take.exact (xs.length + 1)).run { r with pos := r.pos + 1 } =
          .ok (x :: xs) { r with pos := r.pos + 1 + (xs.length + 1) } := by simpa using hrest
      simp only [Scalar.readChar, EStateM.run_bind, hfirst, List.headD_cons, hw']
      rw [if_neg (by omega), if_neg (by omega), show xs.length + 2 - 1 = xs.length + 1 by omega,
        EStateM.run_bind, hrest']
      simp [hdec, Nat.add_assoc]
      omega

theorem Scalar.unsigned_codec
    {s : Scalar} {w : Nat} (hs : s.isUnsigned = true) (hw : s.intWidth? = some w) :
    s.read = (do pure (Value.nat (leValue (← Take.exact w)))) ∧
      ∀ n, s.encode (.nat n) = leBytes w n := by
  cases s <;> simp_all [Scalar.read, Scalar.encode, Scalar.isUnsigned, Scalar.isSigned, Scalar.intWidth?]

theorem Scalar.signed_codec
    {s : Scalar} {w : Nat} (hs : s.isSigned = true) (hw : s.intWidth? = some w) :
    s.read = (do pure (Value.int (signedValue w (← Take.exact w)))) ∧
      ∀ i, s.encode (.int i) = leBytes w (twosComplement w i) := by
  cases s <;> simp_all [Scalar.read, Scalar.encode, Scalar.isSigned, Scalar.intWidth?]

theorem Scalar.intWidth_pos
    {s : Scalar} {w : Nat} (hw : s.intWidth? = some w) :
    0 < w := by
  cases s <;> simp [Scalar.intWidth?] at hw <;> omega

/-- A value of a scalar type is read back from its bytes, and the reader moves past them. -/
theorem Scalar.read_run_encode
    (s : Scalar) {v : Value} (hv : s.holds v = true)
    (h : r.input.toList.drop r.pos = s.encode v ++ rest) :
    s.read.run r = .ok v { r with pos := r.pos + (s.encode v).length } := by
  cases v with
  | nat n =>
      obtain ⟨hs, w, hw, hn⟩ : s.isUnsigned = true ∧ ∃ w, s.intWidth? = some w ∧ n < 2 ^ (8 * w) := by
        cases s <;> simp_all [Scalar.holds, Scalar.isUnsigned, Scalar.intWidth?]
      obtain ⟨hread, henc⟩ := Scalar.unsigned_codec hs hw
      rw [henc] at h ⊢
      rw [hread, length_leBytes]
      exact Take.unsigned_run_of hn h
  | int i =>
      obtain ⟨hs, w, hw, hlo, hhi⟩ : s.isSigned = true ∧ ∃ w, s.intWidth? = some w ∧
          -((Nat.pow 2 (8 * w - 1) : Nat) : Int) ≤ i ∧ i < ((Nat.pow 2 (8 * w - 1) : Nat) : Int) := by
        cases s <;> simp_all [Scalar.holds, Scalar.isSigned, Scalar.intWidth?]
      obtain ⟨hread, henc⟩ := Scalar.signed_codec hs hw
      rw [henc] at h ⊢
      rw [hread, length_leBytes]
      exact Take.signed_run_of (Scalar.intWidth_pos hw) hlo hhi h
  | bool b =>
      cases s <;> simp [Scalar.holds] at hv
      have hb := Take.bool_run_of h
      simp only [Scalar.read, Scalar.encode, EStateM.run_bind, hb, List.length_singleton]
      rfl
  | f32 x =>
      cases s <;> simp [Scalar.holds] at hv
      have hexact := Take.exact_run_of h
      simp only [Scalar.encode, length_leBytes] at hexact ⊢
      simp only [Scalar.read, EStateM.run_bind, hexact, Binary32.ofBytes_toBytes]
      rfl
  | f64 x =>
      cases s <;> simp [Scalar.holds] at hv
      have hf := Take.f64_run_of h
      have hlen : x.toBytes.length = 8 := by simp [Binary64.toBytes_eq]
      simp only [Scalar.read, Scalar.encode, EStateM.run_bind, hf, hlen]
      rfl
  | char c =>
      cases s <;> simp [Scalar.holds] at hv
      exact Scalar.readChar_run_of h
  | _ => cases s <;> simp [Scalar.holds] at hv

end Reading

/-! ## Decimal text -/

theorem Notation.digitsValue_eq
    (cs : List Char) :
    Notation.digitsValue cs = Nat.ofDigitChars 10 cs 0 := by
  simp only [Notation.digitsValue, Nat.ofDigitChars_eq_foldl, Nat.mul_comm _ 10]
  rfl

/-- A number written as decimal text parses back to itself when it fits a `u32`, and is refused
when it does not. -/
theorem parseU32?_toString
    (n : Nat) :
    parseU32? (toString n) = if n < Nat.pow 2 32 then some n else none := by
  have hlist : (toString n).toList = Nat.toDigits 10 n := by
    rw [Nat.toString_eq_repr, Nat.toList_repr]
  have hdigit : ∀ c ∈ Nat.toDigits 10 n, c.isDigit = true :=
    fun _ hc => Nat.isDigit_of_mem_toDigits (by decide) (by decide) hc
  obtain ⟨d, ds, hds⟩ : ∃ d ds, Nat.toDigits 10 n = d :: ds := by
    cases hd : Nat.toDigits 10 n with
    | nil => exact absurd hd Nat.toDigits_ne_nil
    | cons d ds => exact ⟨d, ds, rfl⟩
  have hplus : d ≠ '+' := by
    intro hd
    have := hdigit d (by simp [hds])
    simp [hd] at this
  have hvalue : Notation.digitsValue (d :: ds) = n := by
    rw [Notation.digitsValue_eq, ← hds, Nat.ofDigitChars_ten_toDigits]
  have hall : (d :: ds).all Char.isDigit = true := by
    rw [List.all_eq_true]
    intro c hc
    exact hdigit c (hds ▸ hc)
  simp only [parseU32?, hlist, hds]
  split
  · next r heq => cases heq; exact absurd rfl hplus
  · simp [hall, hvalue]

end ObjectWire
