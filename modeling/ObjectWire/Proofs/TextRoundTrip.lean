import ObjectWire.Proofs.WireCodec
/-!
# Every text reads back in both encodings

A character is valid when it lies below U+D800, or between U+E000 and U+10FFFF. That is what
keeps each octet of its UTF-8 form, and each unit of its UTF-16 form, inside the ranges the
decoders check: the lead octet announces exactly the width the encoder chose, the second octet
after `E0`, `ED`, `F0` and `F4` stays in its narrowed range, and a character above U+FFFF
becomes one high and one low surrogate. So the octets (or units) of one character decode to
that character whatever follows them, and a payload decodes to the text it was written from.

**Results.**
* `Utf8.decodeFrom_encodeChar_append`: one character's octets decode to it, then decoding
  goes on.
* `Utf16.decodeUnits_units_append`: likewise for its UTF-16 units.
* `TextEncoding.decode_encode`: every text reads back in either encoding.
-/

namespace ObjectWire

theorem toUInt8_toNat_of_lt
    {k : Nat} (h : k < 256) :
    (k.toUInt8).toNat = k :=
  UInt8.toNat_ofNat_of_lt' h

theorem Char.toNat_valid
    (c : Char) :
    c.toNat < 0xD800 ∨ (0xDFFF < c.toNat ∧ c.toNat < 0x110000) :=
  c.valid

namespace Utf8

theorem width_of_le
    {b : UInt8} (h : b.toNat ≤ 0x7F) :
    width b = 1 := by
  simp [width, UInt8.le_iff_toNat_le, h]

theorem width_of_two
    {b : UInt8} (h₁ : 0xC2 ≤ b.toNat) (h₂ : b.toNat ≤ 0xDF) :
    width b = 2 := by
  have h₀ : ¬ b.toNat ≤ 0x7F := by omega
  simp [width, UInt8.le_iff_toNat_le, h₀, h₁, h₂]

theorem width_of_three
    {b : UInt8} (h₁ : 0xE0 ≤ b.toNat) (h₂ : b.toNat ≤ 0xEF) :
    width b = 3 := by
  have h₀ : ¬ b.toNat ≤ 0x7F := by omega
  have h₃ : ¬ (0xC2 ≤ b.toNat ∧ b.toNat ≤ 0xDF) := by omega
  simp only [width, UInt8.le_iff_toNat_le, UInt8.toNat_ofNat] at h₃ ⊢
  simp [h₀, h₃, h₁, h₂]

theorem width_of_four
    {b : UInt8} (h₁ : 0xF0 ≤ b.toNat) (h₂ : b.toNat ≤ 0xF4) :
    width b = 4 := by
  have h₀ : ¬ b.toNat ≤ 0x7F := by omega
  have h₃ : ¬ (0xC2 ≤ b.toNat ∧ b.toNat ≤ 0xDF) := by omega
  have h₄ : ¬ (0xE0 ≤ b.toNat ∧ b.toNat ≤ 0xEF) := by omega
  simp only [width, UInt8.le_iff_toNat_le, UInt8.toNat_ofNat] at h₃ h₄ ⊢
  simp [h₀, h₃, h₄, h₁, h₂]

theorem isTail_of
    {b : UInt8} (h₁ : 0x80 ≤ b.toNat) (h₂ : b.toNat ≤ 0xBF) :
    isTail b = true := by
  simp [isTail, UInt8.le_iff_toNat_le, h₁, h₂]

end Utf8
end ObjectWire

namespace ObjectWire
namespace Utf8

/-- One character's octets decode to it, whatever follows them. -/
theorem decodeFrom_encodeChar_append
    (c : Char) (done : Nat) (rest : List UInt8) :
    decodeFrom done (encodeChar c ++ rest) =
      (decodeFrom (done + (encodeChar c).length) rest).map (c :: ·) := by
  have hvalid := Char.toNat_valid c
  generalize hn : c.toNat = n at hvalid
  have hc : Char.ofNat n = c := hn ▸ Char.ofNat_toNat c
  by_cases h₁ : n < 0x80
  · have henc : encodeChar c = [n.toUInt8] := by simp [encodeChar, hn, h₁]
    have hb : (n.toUInt8).toNat = n := toUInt8_toNat_of_lt (by omega)
    rw [henc, List.singleton_append, decodeFrom]
    simp only [width_of_le (show (n.toUInt8).toNat ≤ 0x7F by omega), hb, hc]
    simp
  by_cases h₂ : n < 0x800
  · have henc : encodeChar c = [(0xC0 + n / 64).toUInt8, (0x80 + n % 64).toUInt8] := by
      simp [encodeChar, hn, h₁, h₂]
    have hb₀ : ((0xC0 + n / 64).toUInt8).toNat = 0xC0 + n / 64 := toUInt8_toNat_of_lt (by omega)
    have hb₁ : ((0x80 + n % 64).toUInt8).toNat = 0x80 + n % 64 := toUInt8_toNat_of_lt (by omega)
    have hw := width_of_two (b := (0xC0 + n / 64).toUInt8) (by omega) (by omega)
    have ht := isTail_of (b := (0x80 + n % 64).toUInt8) (by omega) (by omega)
    have hcode : codePoint 2 ((0xC0 + n / 64).toUInt8 :: (0x80 + n % 64).toUInt8 :: rest) = n := by
      simp only [codePoint, List.getD_cons_zero, List.getD_cons_succ, hb₀, hb₁]
      omega
    rw [henc, List.cons_append, List.cons_append, List.nil_append, decodeFrom]
    simp only [hw, checkTail, ht, hcode, hc]
    simp
  by_cases h₃ : n < 0x10000
  · have henc : encodeChar c =
        [(0xE0 + n / 4096).toUInt8, (0x80 + n / 64 % 64).toUInt8, (0x80 + n % 64).toUInt8] := by
      simp [encodeChar, hn, h₁, h₂, h₃]
    have hb₀ : ((0xE0 + n / 4096).toUInt8).toNat = 0xE0 + n / 4096 :=
      toUInt8_toNat_of_lt (by omega)
    have hb₁ : ((0x80 + n / 64 % 64).toUInt8).toNat = 0x80 + n / 64 % 64 :=
      toUInt8_toNat_of_lt (by omega)
    have hb₂ : ((0x80 + n % 64).toUInt8).toNat = 0x80 + n % 64 := toUInt8_toNat_of_lt (by omega)
    have hw := width_of_three (b := (0xE0 + n / 4096).toUInt8) (by omega) (by omega)
    have ht := isTail_of (b := (0x80 + n % 64).toUInt8) (by omega) (by omega)
    have hrange : (secondRange (0xE0 + n / 4096).toUInt8).1 ≤ (0x80 + n / 64 % 64).toUInt8 ∧
        (0x80 + n / 64 % 64).toUInt8 ≤ (secondRange (0xE0 + n / 4096).toUInt8).2 := by
      simp only [secondRange, UInt8.le_iff_toNat_le, ← UInt8.toNat_inj, hb₀, hb₁]
      repeat' split
      all_goals simp_all
      all_goals omega
    have hcode : codePoint 3 ((0xE0 + n / 4096).toUInt8 :: (0x80 + n / 64 % 64).toUInt8 ::
        (0x80 + n % 64).toUInt8 :: rest) = n := by
      simp only [codePoint, List.getD_cons_zero, List.getD_cons_succ, hb₀, hb₁, hb₂]
      omega
    rw [henc, List.cons_append, List.cons_append, List.cons_append, List.nil_append, decodeFrom]
    simp only [hw, checkTail, ht, hrange, hcode, hc]
    simp
  · have henc : encodeChar c =
        [(0xF0 + n / 262144).toUInt8, (0x80 + n / 4096 % 64).toUInt8,
          (0x80 + n / 64 % 64).toUInt8, (0x80 + n % 64).toUInt8] := by
      simp [encodeChar, hn, h₁, h₂, h₃]
    have hb₀ : ((0xF0 + n / 262144).toUInt8).toNat = 0xF0 + n / 262144 :=
      toUInt8_toNat_of_lt (by omega)
    have hb₁ : ((0x80 + n / 4096 % 64).toUInt8).toNat = 0x80 + n / 4096 % 64 :=
      toUInt8_toNat_of_lt (by omega)
    have hb₂ : ((0x80 + n / 64 % 64).toUInt8).toNat = 0x80 + n / 64 % 64 :=
      toUInt8_toNat_of_lt (by omega)
    have hb₃ : ((0x80 + n % 64).toUInt8).toNat = 0x80 + n % 64 := toUInt8_toNat_of_lt (by omega)
    have hw := width_of_four (b := (0xF0 + n / 262144).toUInt8) (by omega) (by omega)
    have ht₂ := isTail_of (b := (0x80 + n / 64 % 64).toUInt8) (by omega) (by omega)
    have ht₃ := isTail_of (b := (0x80 + n % 64).toUInt8) (by omega) (by omega)
    have hrange : (secondRange (0xF0 + n / 262144).toUInt8).1 ≤ (0x80 + n / 4096 % 64).toUInt8 ∧
        (0x80 + n / 4096 % 64).toUInt8 ≤ (secondRange (0xF0 + n / 262144).toUInt8).2 := by
      simp only [secondRange, UInt8.le_iff_toNat_le, ← UInt8.toNat_inj, hb₀, hb₁]
      repeat' split
      all_goals simp_all
      all_goals omega
    have hcode : codePoint 4 ((0xF0 + n / 262144).toUInt8 :: (0x80 + n / 4096 % 64).toUInt8 ::
        (0x80 + n / 64 % 64).toUInt8 :: (0x80 + n % 64).toUInt8 :: rest) = n := by
      simp only [codePoint, List.getD_cons_zero, List.getD_cons_succ, hb₀, hb₁, hb₂, hb₃]
      omega
    rw [henc, List.cons_append, List.cons_append, List.cons_append, List.cons_append,
      List.nil_append, decodeFrom]
    simp only [hw, checkTail, ht₂, ht₃, hrange, hcode, hc]
    simp

theorem decodeFrom_flatMap_encodeChar
    (cs : List Char) (done : Nat) :
    decodeFrom done (cs.flatMap encodeChar) = .ok cs := by
  induction cs generalizing done with
  | nil => simp [decodeFrom]
  | cons c cs ih =>
      rw [List.flatMap_cons, decodeFrom_encodeChar_append, ih]
      rfl

theorem decode_encode
    (s : String) :
    decode (encode s) = .ok s := by
  simp [decode, encode, decodeFrom_flatMap_encodeChar, Except.map]

end Utf8

namespace Utf16

theorem units_lt
    (c : Char) :
    ∀ u ∈ units c, u < 0x10000 := by
  have hvalid := Char.toNat_valid c
  intro u hu
  simp only [units] at hu
  split at hu
  · simp only [List.mem_singleton] at hu
    omega
  · simp only [List.mem_cons, List.not_mem_nil, or_false] at hu
    omega

theorem pairUp_unitBytes
    (us : List Nat) (h : ∀ u ∈ us, u < 0x10000) :
    pairUp (us.flatMap fun u => [(u % 256).toUInt8, (u / 256).toUInt8]) = some us := by
  induction us with
  | nil => rfl
  | cons u us ih =>
      have hu : u < 0x10000 := h u (by simp)
      have hlo : ((u % 256).toUInt8).toNat = u % 256 := toUInt8_toNat_of_lt (by omega)
      have hhi : ((u / 256).toUInt8).toNat = u / 256 := toUInt8_toNat_of_lt (by omega)
      have hunit : u / 256 * 256 + u % 256 = u := by omega
      rw [List.flatMap_cons, List.cons_append, List.cons_append, List.nil_append, pairUp,
        ih fun v hv => h v (by simp [hv])]
      simp [hlo, hhi, hunit]

/-- One character's units decode to it, whatever follows them. -/
theorem decodeUnits_units_append
    (c : Char) (us : List Nat) :
    decodeUnits (units c ++ us) = (decodeUnits us).map (c :: ·) := by
  have hvalid := Char.toNat_valid c
  generalize hn : c.toNat = n at hvalid
  have hc : Char.ofNat n = c := hn ▸ Char.ofNat_toNat c
  by_cases h : n < 0x10000
  · have hunits : units c = [n] := by simp [units, hn, h]
    have hhigh : ¬(0xD800 ≤ n ∧ n < 0xDC00) := by omega
    have hlow : ¬(0xDC00 ≤ n ∧ n < 0xE000) := by omega
    rw [hunits, List.singleton_append, decodeUnits.eq_def]
    simp only [hhigh, hlow, if_false, hc]
  · have hunits : units c = [0xD800 + (n - 0x10000) / 1024, 0xDC00 + (n - 0x10000) % 1024] := by
      simp [units, hn, h]
    have hhigh : 0xD800 ≤ 0xD800 + (n - 0x10000) / 1024 ∧ 0xD800 + (n - 0x10000) / 1024 < 0xDC00 := by
      omega
    have hlow : 0xDC00 ≤ 0xDC00 + (n - 0x10000) % 1024 ∧ 0xDC00 + (n - 0x10000) % 1024 < 0xE000 := by
      omega
    have hjoin : 0x10000 + (0xD800 + (n - 0x10000) / 1024 - 0xD800) * 1024 +
        (0xDC00 + (n - 0x10000) % 1024 - 0xDC00) = n := by
      omega
    rw [hunits, List.cons_append, List.cons_append, List.nil_append, decodeUnits.eq_def]
    simp only [hhigh, hlow, and_self, if_true, hjoin, hc]

theorem decodeUnits_flatMap_units
    (cs : List Char) :
    decodeUnits (cs.flatMap units) = .ok cs := by
  induction cs with
  | nil => simp [decodeUnits]
  | cons c cs ih =>
      rw [List.flatMap_cons, decodeUnits_units_append, ih]
      rfl

theorem decode_encode
    (s : String) :
    decode (encode s) = .ok s := by
  have hunits : ∀ u ∈ s.toList.flatMap units, u < 0x10000 := by
    intro u hu
    obtain ⟨c, -, hc⟩ := List.mem_flatMap.1 hu
    exact units_lt c u hc
  simp [decode, encode, pairUp_unitBytes _ hunits, decodeUnits_flatMap_units, Except.map]

end Utf16

theorem TextEncoding.decode_encode
    (e : TextEncoding) (s : String) :
    e.decode (e.encode s) = .ok s := by
  cases e with
  | utf8 =>
      simp only [TextEncoding.decode, TextEncoding.encode, Utf8.decode_encode]
      rfl
  | utf16le =>
      simp only [TextEncoding.decode, TextEncoding.encode, Utf16.decode_encode]
      rfl

end ObjectWire
