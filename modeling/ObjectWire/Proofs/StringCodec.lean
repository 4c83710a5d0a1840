import Mathlib.Tactic.SplitIfs
import ObjectWire.Proofs.TextRoundTrip
/-!
# Strings: every text reads back, and only written forms read

A string travels as the byte count of its payload, then the payload in the writer's encoding.
Every text reads back from its written form, whatever follows it. This module proves the
converse: the decoders accept exactly the payloads the encoders write. A payload that decodes
is the encoding of the text it decodes to, so writing that text again reproduces the count
and the payload byte for byte.

For UTF-8 the checks of the lead octet's width and of the second octet's narrowed range after
`E0`, `ED`, `F0` and `F4` leave no overlong form, no surrogate and nothing above U+10FFFF:
the code point a checked sequence spells is a character whose encoding is that very sequence.
For UTF-16 the bytes pair into units below U+10000; a unit outside the surrogates is its own
character, and a high surrogate followed by a low one is the character above U+FFFF whose
units they are. A sequence of units is valid when every surrogate stands in such a pair
(`Utf16.Valid`).

**Results.**
* `Utf8.flatMap_encodeChar_of_decodeFrom`, `Utf16.flatMap_units_of_decodeUnits`: what decodes
  is the encoding of what it decodes to.
* `TextEncoding.decode_eq_ok_iff`: in both encodings, a payload decodes to a text exactly when
  it is that text's encoding.
* `TextEncoding.decode_isOk_iff`: a payload decodes exactly when it is valid.
* `string_codec_is_a_bijection_onto_its_image`: the string codec, from writer to reader.
-/

namespace ObjectWire

theorem Char.toNat_ofNat_of_valid
    {n : Nat} (h : n < 0xD800 ∨ (0xDFFF < n ∧ n < 0x110000)) :
    (Char.ofNat n).toNat = n := by
  unfold Char.ofNat
  rw [dif_pos (by unfold Nat.isValidChar; omega)]
  rfl

theorem toUInt8_eq_of_toNat
    {k : Nat} {b : UInt8} (h : k = b.toNat) :
    k.toUInt8 = b := by
  apply UInt8.toNat_inj.1
  rw [toUInt8_toNat_of_lt (h ▸ b.toNat_lt)]
  exact h

theorem Except.map_eq_ok
    {ε α β : Type} {f : α → β} {x : Except ε α} {y : β} (h : x.map f = .ok y) :
    ∃ a, x = .ok a ∧ y = f a := by
  cases x with
  | error e => cases h
  | ok a =>
      cases h
      exact ⟨a, rfl, rfl⟩

theorem Except.mapError_eq_ok
    {ε ε' α : Type} {f : ε → ε'} {x : Except ε α} {a : α} :
    x.mapError f = .ok a ↔ x = .ok a := by
  cases x <;> simp [Except.mapError]

namespace Utf8

/-! ## The checks of the decoder, as bounds on the octets -/

theorem width_cases
    (b : UInt8) :
    (width b = 1 ∧ b.toNat ≤ 0x7F) ∨ (width b = 2 ∧ 0xC2 ≤ b.toNat ∧ b.toNat ≤ 0xDF) ∨
      (width b = 3 ∧ 0xE0 ≤ b.toNat ∧ b.toNat ≤ 0xEF) ∨
      (width b = 4 ∧ 0xF0 ≤ b.toNat ∧ b.toNat ≤ 0xF4) ∨ width b = 0 := by
  unfold width
  simp only [UInt8.le_iff_toNat_le, UInt8.toNat_ofNat, Nat.reducePow, Nat.reduceMod]
  split_ifs <;> omega

theorem isTail_bounds
    {c : UInt8} (h : isTail c = true) :
    0x80 ≤ c.toNat ∧ c.toNat ≤ 0xBF := by
  simpa [isTail, UInt8.le_iff_toNat_le] using h

theorem secondRange_bounds
    {b c : UInt8} (h : (secondRange b).1 ≤ c ∧ c ≤ (secondRange b).2) :
    0x80 ≤ c.toNat ∧ c.toNat ≤ 0xBF ∧ (b.toNat = 0xE0 → 0xA0 ≤ c.toNat) ∧
      (b.toNat = 0xED → c.toNat ≤ 0x9F) ∧ (b.toNat = 0xF0 → 0x90 ≤ c.toNat) ∧
      (b.toNat = 0xF4 → c.toNat ≤ 0x8F) := by
  unfold secondRange at h
  simp only [UInt8.le_iff_toNat_le, ← UInt8.toNat_inj, UInt8.toNat_ofNat, Nat.reducePow,
    Nat.reduceMod] at h ⊢
  split_ifs at h <;> simp_all <;> omega

theorem checkTail_eq_ok
    {b : UInt8} {w : Nat} {rest : List UInt8} (h : checkTail b w rest = .ok ()) :
    (w = 2 ∧ ∃ c r, rest = c :: r ∧ isTail c = true) ∨
      (w = 3 ∧ ∃ c d r, rest = c :: d :: r ∧
        ((secondRange b).1 ≤ c ∧ c ≤ (secondRange b).2) ∧ isTail d = true) ∨
      (w = 4 ∧ ∃ c d e r, rest = c :: d :: e :: r ∧
        ((secondRange b).1 ≤ c ∧ c ≤ (secondRange b).2) ∧ isTail d = true ∧ isTail e = true) := by
  unfold checkTail at h
  rcases hr : secondRange b with ⟨lo, hi⟩
  simp only [hr] at h ⊢
  split at h
  all_goals
    try split_ifs at h
    all_goals simp_all [and_assoc]

/-! ## A checked sequence is the encoding of the character it spells -/

theorem encodeChar_ofNat_one
    {b : UInt8} (hb : b.toNat ≤ 0x7F) :
    encodeChar (Char.ofNat b.toNat) = [b] := by
  have hchar : (Char.ofNat b.toNat).toNat = b.toNat := Char.toNat_ofNat_of_valid (by omega)
  simp only [encodeChar, hchar, show b.toNat < 0x80 by omega, if_true]
  rw [toUInt8_eq_of_toNat rfl]

theorem encodeChar_ofNat_two
    {b c : UInt8} (hb : 0xC2 ≤ b.toNat ∧ b.toNat ≤ 0xDF) (hc : 0x80 ≤ c.toNat ∧ c.toNat ≤ 0xBF)
    (rest : List UInt8) :
    encodeChar (Char.ofNat (codePoint 2 (b :: c :: rest))) = [b, c] := by
  generalize hn : codePoint 2 (b :: c :: rest) = n
  have hval : n = b.toNat % 32 * 64 + c.toNat % 64 := hn.symm
  have hchar : (Char.ofNat n).toNat = n := Char.toNat_ofNat_of_valid (by omega)
  simp only [encodeChar, hchar, show ¬ n < 0x80 by omega, show n < 0x800 by omega, if_true,
    if_false]
  rw [toUInt8_eq_of_toNat (b := b) (by omega), toUInt8_eq_of_toNat (b := c) (by omega)]

theorem encodeChar_ofNat_three
    {b c d : UInt8} (hb : 0xE0 ≤ b.toNat ∧ b.toNat ≤ 0xEF)
    (hc : 0x80 ≤ c.toNat ∧ c.toNat ≤ 0xBF ∧ (b.toNat = 0xE0 → 0xA0 ≤ c.toNat) ∧
      (b.toNat = 0xED → c.toNat ≤ 0x9F))
    (hd : 0x80 ≤ d.toNat ∧ d.toNat ≤ 0xBF) (rest : List UInt8) :
    encodeChar (Char.ofNat (codePoint 3 (b :: c :: d :: rest))) = [b, c, d] := by
  generalize hn : codePoint 3 (b :: c :: d :: rest) = n
  have hval : n = b.toNat % 16 * 4096 + c.toNat % 64 * 64 + d.toNat % 64 := hn.symm
  have hchar : (Char.ofNat n).toNat = n := Char.toNat_ofNat_of_valid (by omega)
  simp only [encodeChar, hchar, show ¬ n < 0x80 by omega, show ¬ n < 0x800 by omega,
    show n < 0x10000 by omega, if_true, if_false]
  rw [toUInt8_eq_of_toNat (b := b) (by omega), toUInt8_eq_of_toNat (b := c) (by omega),
    toUInt8_eq_of_toNat (b := d) (by omega)]

theorem encodeChar_ofNat_four
    {b c d e : UInt8} (hb : 0xF0 ≤ b.toNat ∧ b.toNat ≤ 0xF4)
    (hc : 0x80 ≤ c.toNat ∧ c.toNat ≤ 0xBF ∧ (b.toNat = 0xF0 → 0x90 ≤ c.toNat) ∧
      (b.toNat = 0xF4 → c.toNat ≤ 0x8F))
    (hd : 0x80 ≤ d.toNat ∧ d.toNat ≤ 0xBF) (he : 0x80 ≤ e.toNat ∧ e.toNat ≤ 0xBF)
    (rest : List UInt8) :
    encodeChar (Char.ofNat (codePoint 4 (b :: c :: d :: e :: rest))) = [b, c, d, e] := by
  generalize hn : codePoint 4 (b :: c :: d :: e :: rest) = n
  have hval : n = b.toNat % 8 * 262144 + c.toNat % 64 * 4096 + d.toNat % 64 * 64 +
      e.toNat % 64 := hn.symm
  have hchar : (Char.ofNat n).toNat = n := Char.toNat_ofNat_of_valid (by omega)
  simp only [encodeChar, hchar, show ¬ n < 0x80 by omega, show ¬ n < 0x800 by omega,
    show ¬ n < 0x10000 by omega, if_false]
  rw [toUInt8_eq_of_toNat (b := b) (by omega), toUInt8_eq_of_toNat (b := c) (by omega),
    toUInt8_eq_of_toNat (b := d) (by omega), toUInt8_eq_of_toNat (b := e) (by omega)]

/-- The octets a lead octet of width `w` and its checked tail take are the encoding of the
character they spell. -/
theorem encodeChar_of_checkTail
    {b : UInt8} {w : Nat} {rest : List UInt8} (hw : w = width b) (h : checkTail b w rest = .ok ()) :
    encodeChar (Char.ofNat (codePoint w (b :: rest))) = b :: rest.take (w - 1) := by
  have hb := width_cases b
  rcases checkTail_eq_ok h with ⟨rfl, c, r, rfl, hc⟩ | ⟨rfl, c, d, r, rfl, hc, hd⟩ |
    ⟨rfl, c, d, e, r, rfl, hc, hd, he⟩
  · rw [encodeChar_ofNat_two (by omega) (isTail_bounds hc)]
    rfl
  · have hc' := secondRange_bounds hc
    rw [encodeChar_ofNat_three (by omega) ⟨hc'.1, hc'.2.1, hc'.2.2.1, hc'.2.2.2.1⟩
      (isTail_bounds hd)]
    rfl
  · have hc' := secondRange_bounds hc
    rw [encodeChar_ofNat_four (by omega) ⟨hc'.1, hc'.2.1, hc'.2.2.2.2.1, hc'.2.2.2.2.2⟩
      (isTail_bounds hd) (isTail_bounds he)]
    rfl

/-- What decodes is the encoding of the characters it decodes to: by induction along the
decoder, each character taking the octets it was decoded from. -/
theorem flatMap_encodeChar_of_decodeFrom
    {done : Nat} {bs : List UInt8} {cs : List Char} (h : decodeFrom done bs = .ok cs) :
    cs.flatMap encodeChar = bs := by
  fun_induction decodeFrom done bs generalizing cs with
  | case1 =>
      cases h
      rfl
  | case2 => cases h
  | case3 done b rest w hw₀ hw₁ =>
      rename_i ih
      obtain ⟨cs', hcs', rfl⟩ := Except.map_eq_ok h
      have hb : b.toNat ≤ 0x7F := by
        have := width_cases b
        omega
      rw [List.flatMap_cons, encodeChar_ofNat_one hb, ih hcs']
      rfl
  | case4 => cases h
  | case5 done b rest w hw₀ hw₁ hok c _ =>
      rename_i ih
      obtain ⟨cs', hcs', rfl⟩ := Except.map_eq_ok h
      rw [List.flatMap_cons, ih hcs',
        show encodeChar c = b :: rest.take (w - 1) from encodeChar_of_checkTail rfl hok,
        List.cons_append, List.take_append_drop]

theorem decode_eq_ok_iff
    {bs : List UInt8} {s : String} :
    decode bs = .ok s ↔ encode s = bs := by
  constructor
  · intro h
    obtain ⟨cs, hcs, rfl⟩ := Except.map_eq_ok h
    simpa [encode] using flatMap_encodeChar_of_decodeFrom hcs
  · rintro rfl
    exact decode_encode s

end Utf8

namespace Utf16

/-- A sequence of 16-bit units is valid UTF-16 when every surrogate stands in a pair: a high
surrogate `D800`..`DBFF` directly followed by a low one `DC00`..`DFFF`. -/
inductive Valid : List Nat → Prop
  | nil : Valid []
  | single {u rest} : (u < 0xD800 ∨ (0xE000 ≤ u ∧ u < 0x10000)) → Valid rest →
      Valid (u :: rest)
  | pair {hi lo rest} : 0xD800 ≤ hi ∧ hi < 0xDC00 → 0xDC00 ≤ lo ∧ lo < 0xE000 → Valid rest →
      Valid (hi :: lo :: rest)

/-! ## Bytes and units -/

/-- Bytes that pair up are the units they pair into, each written low byte first, and every
unit fits in sixteen bits. -/
theorem pairUp_eq_some
    {bs : List UInt8} {us : List Nat} (h : pairUp bs = some us) :
    us.flatMap (fun u => [(u % 256).toUInt8, (u / 256).toUInt8]) = bs ∧ ∀ u ∈ us, u < 0x10000 := by
  fun_induction pairUp bs generalizing us with
  | case1 =>
      cases h
      exact ⟨rfl, by simp⟩
  | case2 => cases h
  | case3 lo hi rest =>
      rename_i ih
      obtain ⟨us', hus', rfl⟩ := Option.map_eq_some_iff.1 h
      obtain ⟨hbytes, hlt⟩ := ih hus'
      have hlo := lo.toNat_lt
      have hhi := hi.toNat_lt
      have hunit : hi.toNat * 256 + lo.toNat < 0x10000 := by omega
      refine ⟨?_, ?_⟩
      · rw [List.flatMap_cons, hbytes, toUInt8_eq_of_toNat (b := lo) (by omega),
          toUInt8_eq_of_toNat (b := hi) (by omega)]
        rfl
      · rintro u (_ | ⟨_, hu⟩)
        · exact hunit
        · exact hlt u hu

theorem pairUp_isSome_iff
    (bs : List UInt8) :
    (pairUp bs).isSome ↔ bs.length % 2 = 0 := by
  fun_induction pairUp bs with
  | case1 => simp
  | case2 => simp
  | case3 lo hi rest ih =>
      simp only [Option.isSome_map, ih, List.length_cons]
      omega

/-! ## Units and characters -/

theorem units_ofNat_single
    {u : Nat} (h : u < 0xD800 ∨ (0xE000 ≤ u ∧ u < 0x10000)) :
    units (Char.ofNat u) = [u] := by
  have hchar : (Char.ofNat u).toNat = u := Char.toNat_ofNat_of_valid (by omega)
  simp only [units, hchar, show u < 0x10000 by omega, if_true]

theorem units_ofNat_pair
    {hi lo : Nat} (hhi : 0xD800 ≤ hi ∧ hi < 0xDC00) (hlo : 0xDC00 ≤ lo ∧ lo < 0xE000) :
    units (Char.ofNat (0x10000 + (hi - 0xD800) * 1024 + (lo - 0xDC00))) = [hi, lo] := by
  generalize hn : 0x10000 + (hi - 0xD800) * 1024 + (lo - 0xDC00) = n
  have hchar : (Char.ofNat n).toNat = n := Char.toNat_ofNat_of_valid (by omega)
  have hhigh : 0xD800 + (n - 0x10000) / 1024 = hi := by omega
  have hlow : 0xDC00 + (n - 0x10000) % 1024 = lo := by omega
  simp only [units, hchar, show ¬ n < 0x10000 by omega, if_false, hhigh, hlow]

/-- What decodes is the units of the characters it decodes to: by induction along the decoder,
each character taking the one or two units it was decoded from. -/
theorem flatMap_units_of_decodeUnits
    {us : List Nat} {cs : List Char} (hus : ∀ u ∈ us, u < 0x10000) (h : decodeUnits us = .ok cs) :
    cs.flatMap units = us := by
  fun_induction decodeUnits us generalizing cs with
  | case1 =>
      cases h
      rfl
  | case2 hi hhi lo rest hlo =>
      rename_i ih
      obtain ⟨cs', hcs', rfl⟩ := Except.map_eq_ok h
      rw [List.flatMap_cons, units_ofNat_pair hhi hlo,
        ih (fun u hu => hus u (by simp [hu])) hcs']
      rfl
  | case3 => cases h
  | case4 => cases h
  | case5 => cases h
  | case6 u rest hhigh hlow =>
      rename_i ih
      obtain ⟨cs', hcs', rfl⟩ := Except.map_eq_ok h
      have hu : u < 0x10000 := hus u (by simp)
      rw [List.flatMap_cons, units_ofNat_single (by omega),
        ih (fun v hv => hus v (by simp [hv])) hcs']
      rfl

/-- Units of sixteen bits decode exactly when they are valid. -/
theorem decodeUnits_isOk_iff
    {us : List Nat} (hus : ∀ u ∈ us, u < 0x10000) :
    (∃ cs, decodeUnits us = .ok cs) ↔ Valid us := by
  constructor
  · rintro ⟨cs, h⟩
    fun_induction decodeUnits us generalizing cs with
    | case1 => exact .nil
    | case2 hi hhi lo rest hlo =>
        rename_i ih
        obtain ⟨cs', hcs', -⟩ := Except.map_eq_ok h
        exact .pair hhi hlo (ih (fun u hu => hus u (by simp [hu])) cs' hcs')
    | case3 => cases h
    | case4 => cases h
    | case5 => cases h
    | case6 u rest hhigh hlow =>
        rename_i ih
        obtain ⟨cs', hcs', -⟩ := Except.map_eq_ok h
        have hu : u < 0x10000 := hus u (by simp)
        exact .single (by omega) (ih (fun v hv => hus v (by simp [hv])) cs' hcs')
  · intro h
    induction h with
    | nil => exact ⟨[], rfl⟩
    | @single u rest hu _ ih =>
        obtain ⟨cs, hcs⟩ := ih fun v hv => hus v (by simp [hv])
        have hhigh : ¬(0xD800 ≤ u ∧ u < 0xDC00) := by omega
        have hlow : ¬(0xDC00 ≤ u ∧ u < 0xE000) := by omega
        refine ⟨Char.ofNat u :: cs, ?_⟩
        rw [decodeUnits.eq_def]
        simp only [hhigh, hlow, if_false, hcs]
        rfl
    | @pair hi lo rest hhi hlo _ ih =>
        obtain ⟨cs, hcs⟩ := ih fun v hv => hus v (by simp [hv])
        refine ⟨Char.ofNat (0x10000 + (hi - 0xD800) * 1024 + (lo - 0xDC00)) :: cs, ?_⟩
        rw [decodeUnits.eq_def]
        simp only [hhi, hlo, and_self, if_true, hcs]
        rfl

/-- A UTF-16 payload decodes to a text exactly when it is that text's encoding. -/
theorem decode_eq_ok_iff
    {bs : List UInt8} {s : String} :
    decode bs = .ok s ↔ encode s = bs := by
  constructor
  · intro h
    unfold decode at h
    cases hp : pairUp bs with
    | none =>
        rw [hp] at h
        cases h
    | some us =>
        rw [hp] at h
        obtain ⟨hbytes, hlt⟩ := pairUp_eq_some hp
        obtain ⟨cs, hcs, rfl⟩ := Except.map_eq_ok h
        rw [encode, String.toList_ofList, flatMap_units_of_decodeUnits hlt hcs, hbytes]
  · rintro rfl
    exact decode_encode s

/-- A UTF-16 payload decodes exactly when it has an even number of bytes and the units they
pair into are valid. -/
theorem decode_isOk_iff
    (bs : List UInt8) :
    (∃ s, decode bs = .ok s) ↔ bs.length % 2 = 0 ∧ ∀ us, pairUp bs = some us → Valid us := by
  unfold decode
  cases hp : pairUp bs with
  | none =>
      have hodd : ¬ bs.length % 2 = 0 := by
        rw [← pairUp_isSome_iff, hp]
        simp
      simp [hodd]
  | some us =>
      have heven : bs.length % 2 = 0 := by
        rw [← pairUp_isSome_iff, hp]
        rfl
      have hvalid := decodeUnits_isOk_iff (pairUp_eq_some hp).2
      constructor
      · rintro ⟨s, h⟩
        obtain ⟨cs, hcs, -⟩ := Except.map_eq_ok h
        exact ⟨heven, fun us' hus' => by cases hus'; exact hvalid.1 ⟨cs, hcs⟩⟩
      · rintro ⟨-, h⟩
        obtain ⟨cs, hcs⟩ := hvalid.2 (h us rfl)
        exact ⟨String.ofList cs, by simp [hcs, Except.map]⟩

end Utf16

/-! ## Both encodings -/

namespace TextEncoding

/-- A payload valid in an encoding: in UTF-8, the encoding of some text; in UTF-16, an even
number of bytes whose units are valid. -/
def Valid : TextEncoding → List UInt8 → Prop
  | .utf8, p => ∃ s, Utf8.encode s = p
  | .utf16le, p => p.length % 2 = 0 ∧ ∀ us, Utf16.pairUp p = some us → Utf16.Valid us

theorem decode_eq_ok_iff
    (e : TextEncoding) {p : List UInt8} {s : String} :
    e.decode p = .ok s ↔ e.encode s = p := by
  cases e with
  | utf8 => exact Except.mapError_eq_ok.trans Utf8.decode_eq_ok_iff
  | utf16le => exact Except.mapError_eq_ok.trans Utf16.decode_eq_ok_iff

theorem decode_isOk_iff
    (e : TextEncoding) (p : List UInt8) :
    (∃ s, e.decode p = .ok s) ↔ e.Valid p := by
  cases e with
  | utf8 =>
      simp only [decode_eq_ok_iff]
      rfl
  | utf16le =>
      simp only [decode, Except.mapError_eq_ok]
      exact Utf16.decode_isOk_iff p

theorem decode_eq_error_of_not_valid
    {e : TextEncoding} {p : List UInt8} (h : ¬ e.Valid p) :
    ∃ msg, e.decode p = .error msg := by
  cases hd : e.decode p with
  | error msg => exact ⟨msg, rfl⟩
  | ok s => exact absurd ((e.decode_isOk_iff p).1 ⟨s, hd⟩) h

end TextEncoding

/-! ## Strings on the wire -/

theorem Emit.string_run_of_overflow
    {w : Writer} {s : String} (h : maxCount < (w.encoding.encode s).length) :
    (Emit.string s).run w = .error (.data (.lengthOverflow (w.encoding.encode s).length)) w := by
  have hcount : ¬ (w.encoding.encode s).length ≤ maxCount := by omega
  simp only [Emit.string, Emit.bytes, Emit.count, EStateM.run_bind, EStateM.run_get, hcount,
    if_false]
  rfl

theorem Take.string_run_counted
    {r : Reader} {p t : List UInt8} (hfit : p.length ≤ maxCount)
    (h : r.input.toList.drop r.pos = countBytes p.length ++ (p ++ t)) :
    Take.string.run r =
      match r.encoding.decode p with
      | .ok s => .ok s { r with pos := r.pos + 4 + p.length }
      | .error msg => .error (.data (.invalidString msg)) { r with pos := r.pos + 4 + p.length } := by
  simp only [Take.string, EStateM.run_bind, Take.bytes_run_of hfit h, Take.get_run]
  cases r.encoding.decode p <;> rfl

/-- The string codec is a bijection between the texts whose payload fits a count and the
valid counted payloads.

* Writing a text on an unlimited sink appends its count and its payload; a payload too long
  for a count is refused and nothing is written.
* Reading what was written, whatever follows it, gives the text back after exactly the count
  and the payload.
* A counted payload reads as a text exactly when it is valid (in UTF-8 it spells a text; in
  UTF-16 it has an even number of bytes whose units pair every surrogate), and then as the
  one text whose encoding it is, after the count and the payload; writing that text
  reproduces the count and the payload. An invalid payload is an invalid string. -/
theorem string_codec_is_a_bijection_onto_its_image
    (e : TextEncoding) :
    (∀ (s : String) (w : Writer), w.encoding = e →
      ((e.encode s).length ≤ maxCount → w.room = none →
        (Emit.string s).run w = .ok () (w.append (countBytes (e.encode s).length ++ e.encode s))) ∧
      (maxCount < (e.encode s).length →
        (Emit.string s).run w = .error (.data (.lengthOverflow (e.encode s).length)) w)) ∧
    (∀ (s : String) (r : Reader) (t : List UInt8), r.encoding = e →
      (e.encode s).length ≤ maxCount →
      r.input.toList.drop r.pos = countBytes (e.encode s).length ++ (e.encode s ++ t) →
      Take.string.run r = .ok s { r with pos := r.pos + 4 + (e.encode s).length }) ∧
    (∀ (p : List UInt8) (r : Reader) (t : List UInt8), r.encoding = e → p.length ≤ maxCount →
      r.input.toList.drop r.pos = countBytes p.length ++ (p ++ t) →
      ((∃ s r', Take.string.run r = .ok s r') ↔ e.Valid p) ∧
      (∀ s r', Take.string.run r = .ok s r' →
        e.encode s = p ∧ r' = { r with pos := r.pos + 4 + p.length } ∧
        ∀ w : Writer, w.encoding = e → w.room = none →
          (Emit.string s).run w = .ok () (w.append (countBytes p.length ++ p))) ∧
      (¬ e.Valid p → ∃ msg,
        Take.string.run r = .error (.data (.invalidString msg)) { r with pos := r.pos + 4 + p.length })) := by
  refine ⟨fun s w hw => ⟨fun hfit hroom => ?_, fun hlong => ?_⟩,
    fun s r t hr hfit h => ?_, fun p r t hr hfit h => ?_⟩
  case refine_1 =>
    subst hw
    exact Emit.string_run hroom hfit
  case refine_2 =>
    subst hw
    exact Emit.string_run_of_overflow hlong
  case refine_3 =>
    rw [Take.string_run_counted hfit h, hr, TextEncoding.decode_encode]
  subst hr
  have hrun := Take.string_run_counted hfit h
  refine ⟨⟨fun ⟨s, r', hs⟩ => ?_, fun hvalid => ?_⟩, fun s r' hs => ?_, fun hinvalid => ?_⟩
  · rw [hrun] at hs
    refine (r.encoding.decode_isOk_iff p).1 ⟨s, ?_⟩
    split at hs
    · next s' hdec =>
        cases hs
        exact hdec
    · cases hs
  · obtain ⟨s, hdec⟩ := (r.encoding.decode_isOk_iff p).2 hvalid
    rw [hrun, hdec]
    exact ⟨s, _, rfl⟩
  · rw [hrun] at hs
    split at hs
    · next s' hdec =>
        cases hs
        have henc := (r.encoding.decode_eq_ok_iff).1 hdec
        refine ⟨henc, rfl, fun w hw hroom => ?_⟩
        subst henc
        rw [← hw] at hfit ⊢
        exact Emit.string_run hroom hfit
    · cases hs
  · obtain ⟨msg, hdec⟩ := TextEncoding.decode_eq_error_of_not_valid hinvalid
    rw [hrun, hdec]
    exact ⟨msg, rfl⟩

/-- U+1F600 travels in UTF-16 as the surrogate pair `D83D DE00`: written as a count of four and
the four bytes, read back from them with a byte after; while the high surrogate alone is
invalid, and reads as an invalid string. -/
theorem grinning_face_travels_in_utf16 :
    (Emit.string "😀").run (Writer.new .utf16le) =
        .ok () ((Writer.new .utf16le).append (countBytes 4 ++ [0x3D, 0xD8, 0x00, 0xDE])) ∧
      Take.string.run (Reader.new (countBytes 4 ++ [0x3D, 0xD8, 0x00, 0xDE] ++ [7]) .utf16le) =
        .ok "😀" { Reader.new (countBytes 4 ++ [0x3D, 0xD8, 0x00, 0xDE] ++ [7]) .utf16le with pos := 8 } ∧
      ¬ TextEncoding.utf16le.Valid [0x3D, 0xD8] ∧
      ∃ msg, Take.string.run (Reader.new (countBytes 2 ++ [0x3D, 0xD8]) .utf16le) =
        .error (.data (.invalidString msg)) { Reader.new (countBytes 2 ++ [0x3D, 0xD8]) .utf16le with pos := 6 } := by
  have henc : TextEncoding.utf16le.encode "😀" = [0x3D, 0xD8, 0x00, 0xDE] := by decide
  have hlone : ¬ TextEncoding.utf16le.Valid [0x3D, 0xD8] := by
    rintro ⟨-, hunits⟩
    cases hunits [0xD83D] rfl with
    | single hu _ => omega
  obtain ⟨hwrite, hread, hcounted⟩ := string_codec_is_a_bijection_onto_its_image .utf16le
  refine ⟨?_, ?_, hlone, ?_⟩
  · have h := (hwrite "😀" (Writer.new .utf16le) rfl).1 (by rw [henc]; decide) rfl
    rwa [henc] at h
  · have h := hread "😀" (Reader.new (countBytes 4 ++ [0x3D, 0xD8, 0x00, 0xDE] ++ [7]) .utf16le) [7]
      rfl (by rw [henc]; decide) (by rw [henc]; simp [Reader.new])
    rwa [henc] at h
  · exact (hcounted [0x3D, 0xD8] (Reader.new (countBytes 2 ++ [0x3D, 0xD8]) .utf16le) [] rfl
      (by decide) (by simp [Reader.new])).2.2 hlone

end ObjectWire
