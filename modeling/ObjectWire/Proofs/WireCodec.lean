import Mathlib.Algebra.Group.Nat.Defs
import ObjectWire.Serializer
/-!
# The primitive codec reads back what it writes

Writing on a sink with no limit appends the encoding of each value; reading from a position
where that encoding stands gives the value back and moves past it. Fixed-width numbers are
little-endian, so their bytes read back modulo the width; a count is a non-negative `i32`;
a string is its count and payload, and reads back whenever the payload decodes to it, which
is the case for plain ASCII text in both encodings.

The stream header is assembled from these: a header written for a version reads back as
declaring that version, the double bit for bit and the comparison by its name.

**Results.**
* `writeHeader_run`: on an unlimited sink a header appends `headerBytes`.
* `readHeader_headerBytes`: reading `headerBytes` finds the version it was written for.
-/

namespace ObjectWire

/-! ## Little-endian numbers -/

theorem leBytes_succ
    (w n : Nat) :
    leBytes (w + 1) n = (n % 256).toUInt8 :: leBytes w (n / 256) := by
  simp only [leBytes, List.range_succ_eq_map, List.map_cons, List.map_map]
  congr 1
  · simp
  · apply List.map_congr_left
    intro i _
    have hpow : Nat.pow 2 (8 * (i + 1)) = 256 * Nat.pow 2 (8 * i) := by
      show 2 ^ (8 * (i + 1)) = 256 * 2 ^ (8 * i)
      rw [Nat.mul_succ, Nat.pow_add, Nat.mul_comm]
    simp only [Function.comp, Nat.succ_eq_add_one, hpow, Nat.div_div_eq_div_mul]

@[simp] theorem length_leBytes
    (w n : Nat) :
    (leBytes w n).length = w := by
  simp [leBytes]

theorem leValue_cons
    (b : UInt8) (bs : List UInt8) :
    leValue (b :: bs) = b.toNat + 256 * leValue bs := by
  rfl

theorem leValue_leBytes
    (w n : Nat) :
    leValue (leBytes w n) = n % 2 ^ (8 * w) := by
  induction w generalizing n with
  | zero => simp [leBytes, leValue, Nat.mod_one]
  | succ w ih =>
      rw [leBytes_succ, leValue_cons, ih]
      have hbyte : ((n % 256).toUInt8).toNat = n % 256 := by
        simp only [Nat.toUInt8, UInt8.toNat_ofNat']
        omega
      have hsplit : n % 2 ^ (8 * (w + 1)) = n % 256 + 256 * (n / 256 % 2 ^ (8 * w)) := by
        rw [show 8 * (w + 1) = 8 + 8 * w by omega, Nat.pow_add]
        exact Nat.mod_mul
      rw [hbyte, hsplit]

theorem Binary64.toBytes_eq
    (x : Binary64) :
    x.toBytes = leBytes 8 x.toNat := by
  rfl

theorem Binary64.ofBytes_toBytes
    (x : Binary64) :
    (⟨(leValue x.toBytes).toUInt64⟩ : Binary64) = x := by
  have hlt : x.toNat < 2 ^ (8 * 8) := x.bits.toNat_lt
  rw [Binary64.toBytes_eq, leValue_leBytes, Nat.mod_eq_of_lt hlt]
  simp [Binary64.toNat, Nat.toUInt64]

/-- The four bytes of a count. -/
def countBytes (n : Nat) : List UInt8 := leBytes 4 (twosComplement 4 n)

/-- A count that fits an `i32` reads back as itself. -/
theorem signedValue_countBytes
    {n : Nat} (h : n ≤ maxCount) :
    signedValue 4 (countBytes n) = n := by
  have hmax : maxCount = 2 ^ 31 - 1 := rfl
  have htwos : twosComplement 4 n = n := by
    simp only [twosComplement]
    have hlt : (n : Int) < (Nat.pow 2 (8 * 4) : Nat) := by
      rw [Nat.pow_eq]
      omega
    rw [Int.emod_eq_of_lt (Int.natCast_nonneg n) hlt]
    simp
  have hmod : n % 2 ^ (8 * 4) = n := Nat.mod_eq_of_lt (by omega)
  have hsmall : n < Nat.pow 2 (8 * 4 - 1) := by
    rw [Nat.pow_eq]
    omega
  simp only [countBytes, signedValue, htwos, leValue_leBytes, hmod]
  exact if_pos hsmall

/-! ## Text payloads of plain ASCII -/

/-- Every character is below 128. -/
def IsAscii (s : String) : Prop := ∀ c ∈ s.toList, c.toNat < 128

instance : DecidablePred IsAscii :=
  fun s => inferInstanceAs (Decidable (∀ c ∈ s.toList, c.toNat < 128))

theorem Utf8.decodeFrom_ascii
    (cs : List Char) (h : ∀ c ∈ cs, c.toNat < 128) (done : Nat) :
    Utf8.decodeFrom done (cs.flatMap Utf8.encodeChar) = .ok cs := by
  induction cs generalizing done with
  | nil => simp [Utf8.decodeFrom]
  | cons c cs ih =>
      have hc : c.toNat < 128 := h c (by simp)
      have hrest : ∀ c ∈ cs, c.toNat < 128 := fun c hc => h c (by simp [hc])
      have henc : Utf8.encodeChar c = [c.toNat.toUInt8] := by
        simp [Utf8.encodeChar, show c.toNat < 0x80 from hc]
      have hbyte : (c.toNat.toUInt8).toNat = c.toNat := by
        simp only [Nat.toUInt8, UInt8.toNat_ofNat']
        omega
      have hwidth : Utf8.width c.toNat.toUInt8 = 1 := by
        have hle : c.toNat.toUInt8 ≤ 0x7F := by
          rw [UInt8.le_iff_toNat_le, hbyte]
          show c.toNat ≤ 127
          omega
        simp [Utf8.width, hle]
      rw [List.flatMap_cons, henc, List.singleton_append, Utf8.decodeFrom]
      simp only [hwidth, ih hrest, hbyte, Char.ofNat_toNat]
      rfl

theorem Utf16.decode_ascii
    (cs : List Char) (h : ∀ c ∈ cs, c.toNat < 128) :
    Utf16.pairUp ((cs.flatMap Utf16.units).flatMap fun u => [(u % 256).toUInt8, (u / 256).toUInt8]) =
      some (cs.map Char.toNat) ∧
    Utf16.decodeUnits (cs.map Char.toNat) = .ok cs := by
  induction cs with
  | nil => exact ⟨rfl, rfl⟩
  | cons c cs ih =>
      have hc : c.toNat < 128 := h c (by simp)
      obtain ⟨hpair, hunits⟩ := ih fun c hc => h c (by simp [hc])
      have hu : Utf16.units c = [c.toNat] := by
        simp [Utf16.units, show c.toNat < 0x10000 by omega]
      have hlo : ((c.toNat % 256).toUInt8).toNat = c.toNat := by
        simp only [Nat.toUInt8, UInt8.toNat_ofNat']
        omega
      have hhi : ((c.toNat / 256).toUInt8).toNat = 0 := by
        simp only [Nat.toUInt8, UInt8.toNat_ofNat']
        omega
      refine ⟨?_, ?_⟩
      · simp only [List.flatMap_cons, hu, List.flatMap_cons, List.cons_append, List.nil_append]
        rw [Utf16.pairUp, hpair, hlo, hhi]
        simp
      · rw [List.map_cons, Utf16.decodeUnits.eq_def]
        have hsur : ¬(0xD800 ≤ c.toNat ∧ c.toNat < 0xDC00) := by omega
        have hlow : ¬(0xDC00 ≤ c.toNat ∧ c.toNat < 0xE000) := by omega
        simp [hsur, hlow, hunits, Char.ofNat_toNat, Except.map]

theorem TextEncoding.decode_encode_of_ascii
    (e : TextEncoding) {s : String} (h : IsAscii s) :
    e.decode (e.encode s) = .ok s := by
  cases e with
  | utf8 =>
      simp [TextEncoding.decode, TextEncoding.encode, Utf8.decode, Utf8.encode,
        Utf8.decodeFrom_ascii s.toList h 0, Except.map]
      rfl
  | utf16le =>
      obtain ⟨hpair, hunits⟩ := Utf16.decode_ascii s.toList h
      simp [TextEncoding.decode, TextEncoding.encode, Utf16.decode, Utf16.encode, hpair, hunits,
        Except.map]
      rfl

theorem Comparison.name_isAscii
    (c : Comparison) :
    IsAscii c.name := by
  cases c <;> simp [IsAscii, Comparison.name]

theorem Comparison.ofName?_name
    (c : Comparison) :
    Comparison.ofName? c.name = some c := by
  cases c <;> rfl

/-! ## Writing on an unlimited sink -/

/-- The writer with `bs` appended to its sink. -/
def Writer.append (w : Writer) (bs : List UInt8) : Writer :=
  { w with out := w.out ++ bs.toArray, written := w.written + bs.length }

@[simp] theorem Writer.bytes_append
    (w : Writer) (bs : List UInt8) :
    (w.append bs).bytes = w.bytes ++ bs := by
  simp [Writer.append, Writer.bytes]

@[simp] theorem Writer.room_append
    (w : Writer) (bs : List UInt8) :
    (w.append bs).room = w.room := by
  rfl

@[simp] theorem Writer.encoding_append
    (w : Writer) (bs : List UInt8) :
    (w.append bs).encoding = w.encoding := by
  rfl

theorem Writer.append_append
    (w : Writer) (a b : List UInt8) :
    (w.append a).append b = w.append (a ++ b) := by
  simp only [Writer.append, Array.append_assoc, List.append_toArray, List.length_append,
    Nat.add_assoc]

theorem Emit.offer_run
    (bs : List UInt8) (fault : Error) (w : Writer) :
    (Emit.offer bs fault).run w =
      if (w.offer bs).2 = true then .ok () (w.offer bs).1 else .error fault (w.offer bs).1 := by
  rcases h : w.offer bs with ⟨w', ok⟩
  simp only [Emit.offer, EStateM.run_bind, EStateM.run_get, h]
  cases ok <;> rfl

section Unlimited

variable {w : Writer} (hroom : w.room = none)
include hroom

theorem Writer.offer_unlimited
    (bs : List UInt8) :
    w.offer bs = (w.append bs, true) := by
  simp [Writer.offer, hroom, Writer.append]

theorem Emit.offer_run_unlimited
    (bs : List UInt8) (fault : Error) :
    (Emit.offer bs fault).run w = .ok () (w.append bs) := by
  rw [Emit.offer_run, Writer.offer_unlimited hroom]
  rfl

theorem Emit.raw_run
    (bs : List UInt8) :
    (Emit.raw bs).run w = .ok () (w.append bs) :=
  Emit.offer_run_unlimited hroom bs _

theorem Emit.bool_run
    (b : Bool) :
    (Emit.bool b).run w = .ok () (w.append [if b then 1 else 0]) :=
  Emit.offer_run_unlimited hroom _ _

theorem Emit.f64_run
    (x : Binary64) :
    (Emit.f64 x).run w = .ok () (w.append x.toBytes) :=
  Emit.offer_run_unlimited hroom _ _

theorem Emit.count_run
    {n : Nat} (h : n ≤ maxCount) :
    (Emit.count n).run w = .ok () (w.append (countBytes n)) := by
  simp only [Emit.count, if_pos h]
  exact Emit.offer_run_unlimited hroom _ _

theorem Emit.bytes_run
    {bs : List UInt8} (h : bs.length ≤ maxCount) :
    (Emit.bytes bs).run w = .ok () (w.append (countBytes bs.length ++ bs)) := by
  simp only [Emit.bytes, EStateM.run_bind, Emit.count_run hroom h]
  rw [Emit.raw_run (by simpa using hroom), Writer.append_append]

theorem Emit.string_run
    {s : String} (h : (w.encoding.encode s).length ≤ maxCount) :
    (Emit.string s).run w =
      .ok () (w.append (countBytes (w.encoding.encode s).length ++ w.encoding.encode s)) :=
  Emit.bytes_run hroom h

end Unlimited

/-- The bytes of a header, for the encoding of its comparison's name. -/
def headerBytes (enc : TextEncoding) : Option Version → List UInt8
  | none => headerMarker ++ [0]
  | some v =>
    headerMarker ++ [1] ++ v.value.toBytes ++
      (countBytes (enc.encode v.comparison.name).length ++ enc.encode v.comparison.name)

theorem Comparison.encode_name_fits
    (c : Comparison) (e : TextEncoding) :
    (e.encode c.name).length ≤ maxCount := by
  cases c <;> cases e <;> decide

theorem writeHeader_run
    {w : Writer} (hroom : w.room = none) (v : Option Version) :
    (writeHeader v).run w = .ok () (w.append (headerBytes w.encoding v)) := by
  cases v with
  | none =>
      simp (disch := simp [hroom]) only [writeHeader, EStateM.run_bind, Emit.raw_run,
        Emit.bool_run]
      simp [Writer.append_append, headerBytes]
  | some v =>
      simp (disch := simp [hroom, Comparison.encode_name_fits]) only [writeHeader,
        EStateM.run_bind, Emit.raw_run, Emit.bool_run, Emit.f64_run, Emit.string_run]
      simp [Writer.append_append, headerBytes]

/-! ## Reading what was written -/

section Reading

variable {r : Reader} {bs rest : List UInt8}

@[simp] theorem Take.get_run
    (r : Reader) :
    (get : Take Reader).run r = .ok r r := by
  rfl

@[simp] theorem Take.pure_run
    {α : Type} (a : α) (r : Reader) :
    (pure a : Take α).run r = .ok a r := by
  rfl

theorem Reader.remaining_eq
    (h : r.input.toList.drop r.pos = rest) :
    r.remaining = rest.length := by
  have hlen := congrArg List.length h
  simp only [List.length_drop, Array.length_toList] at hlen
  exact hlen

theorem Reader.remaining_of
    (h : r.input.toList.drop r.pos = bs ++ rest) :
    r.remaining = bs.length + rest.length := by
  rw [Reader.remaining_eq h, List.length_append]

theorem Reader.drop_after
    (h : r.input.toList.drop r.pos = bs ++ rest) :
    r.input.toList.drop (r.pos + bs.length) = rest := by
  rw [← List.drop_drop, h, List.drop_left]

theorem Take.advance_run_of
    (h : r.input.toList.drop r.pos = bs ++ rest) :
    (Take.advance bs.length).run r = .ok bs { r with pos := r.pos + bs.length } := by
  have hbytes : (r.input.extract r.pos (r.pos + bs.length)).toList = bs := by
    simp [Array.toList_extract, h]
  simp only [Take.advance, EStateM.run_bind, EStateM.run_get, EStateM.run_set, EStateM.run_pure,
    hbytes]

theorem Take.exact_run_of
    (h : r.input.toList.drop r.pos = bs ++ rest) :
    (Take.exact bs.length).run r = .ok bs { r with pos := r.pos + bs.length } := by
  have hrem : ¬ r.remaining < bs.length := by
    rw [Reader.remaining_of h]
    omega
  simp only [Take.exact, EStateM.run_bind]
  simp [hrem]
  exact Take.advance_run_of h

theorem Take.raw_run_of
    (h : r.input.toList.drop r.pos = bs ++ rest) :
    (Take.raw bs.length).run r = .ok bs { r with pos := r.pos + bs.length } := by
  have hrem : ¬ r.remaining < bs.length := by
    rw [Reader.remaining_of h]
    omega
  simp only [Take.raw, EStateM.run_bind]
  simp [hrem]
  exact Take.advance_run_of h

theorem Take.bool_run_of
    {b : Bool} (h : r.input.toList.drop r.pos = [if b then 1 else 0] ++ rest) :
    Take.bool.run r = .ok b { r with pos := r.pos + 1 } := by
  have hexact := Take.exact_run_of h
  rw [List.length_singleton] at hexact
  simp only [Take.bool, EStateM.run_bind, hexact]
  cases b <;> rfl

theorem Take.f64_run_of
    {x : Binary64} (h : r.input.toList.drop r.pos = x.toBytes ++ rest) :
    Take.f64.run r = .ok x { r with pos := r.pos + 8 } := by
  have hlen : x.toBytes.length = 8 := by simp [Binary64.toBytes_eq]
  have hexact := Take.exact_run_of h
  rw [hlen] at hexact
  simp only [Take.f64, EStateM.run_bind, hexact]
  rw [Binary64.ofBytes_toBytes]
  rfl

theorem Take.count_run_of
    {n : Nat} (hfit : n ≤ maxCount) (h : r.input.toList.drop r.pos = countBytes n ++ rest)
    (hroom : n ≤ rest.length) :
    (Take.count 1).run r = .ok n { r with pos := r.pos + 4 } := by
  have hlen : (countBytes n).length = 4 := by simp [countBytes]
  have hexact := Take.exact_run_of h
  have hafter := Reader.drop_after h
  rw [hlen] at hexact hafter
  have hrem : ({ r with pos := r.pos + 4 } : Reader).remaining = rest.length :=
    Reader.remaining_eq hafter
  have hfits : ¬ rest.length < n := by omega
  simp only [Take.count, Take.i32, EStateM.run_bind, hexact, Take.pure_run,
    signedValue_countBytes hfit, Take.get_run, hrem]
  simp [hfits]
  rfl

theorem Take.bytes_run_of
    (hfit : bs.length ≤ maxCount) (h : r.input.toList.drop r.pos = countBytes bs.length ++ (bs ++ rest)) :
    Take.bytes.run r = .ok bs { r with pos := r.pos + 4 + bs.length } := by
  have hlen : (countBytes bs.length).length = 4 := by simp [countBytes]
  have hafter := Reader.drop_after h
  rw [hlen] at hafter
  have hcount := Take.count_run_of hfit h (by simp)
  simp only [Take.bytes, EStateM.run_bind, hcount]
  exact Take.raw_run_of (r := { r with pos := r.pos + 4 }) hafter

theorem Take.string_run_of
    {s : String} (hfit : bs.length ≤ maxCount)
    (h : r.input.toList.drop r.pos = countBytes bs.length ++ (bs ++ rest))
    (hdec : r.encoding.decode bs = .ok s) :
    Take.string.run r = .ok s { r with pos := r.pos + 4 + bs.length } := by
  simp only [Take.string, EStateM.run_bind, Take.bytes_run_of hfit h, Take.get_run, hdec]
  rfl

end Reading

/-- What reading a header written for `v` finds. -/
def HeaderRead.ofVersion : Option Version → HeaderRead
  | none => .undeclared
  | some v => .declared v

/-- The body of a header written for `v` reads back as `v`. -/
theorem readHeaderBody_run
    {r : Reader} {rest : List UInt8} (v : Option Version)
    (h : r.input.toList.drop r.pos = headerBytes r.encoding v ++ rest) :
    readHeaderBody.run r =
      .ok (some v) { r with pos := r.pos + (headerBytes r.encoding v).length } := by
  cases v with
  | none =>
      have h₀ : r.input.toList.drop r.pos = headerMarker ++ ([0] ++ rest) := by
        rw [h]
        rfl
      have hrem : ¬ r.remaining < 4 := by
        rw [Reader.remaining_of h₀]
        simp [headerMarker]
      have hraw := Take.raw_run_of h₀
      have h₁ := Reader.drop_after h₀
      have hbool := Take.bool_run_of (b := false) (r := { r with pos := r.pos + headerMarker.length }) h₁
      rw [show headerMarker.length = 4 from rfl] at hraw hbool
      simp only [readHeaderBody, EStateM.run_bind, Take.get_run]
      simp [hrem, hraw, hbool, headerBytes, Nat.add_assoc]
      rfl
  | some v =>
      obtain ⟨value, c⟩ := v
      have hname := TextEncoding.decode_encode_of_ascii r.encoding (Comparison.name_isAscii c)
      have hfit := Comparison.encode_name_fits c r.encoding
      have h₀ : r.input.toList.drop r.pos = headerMarker ++ ([1] ++ (value.toBytes ++
          (countBytes (r.encoding.encode c.name).length ++ (r.encoding.encode c.name ++ rest)))) := by
        rw [h]
        simp [headerBytes, List.append_assoc]
      have hrem : ¬ r.remaining < 4 := by
        rw [Reader.remaining_of h₀]
        simp [headerMarker]
      have hraw := Take.raw_run_of h₀
      have h₁ := Reader.drop_after h₀
      have hbool := Take.bool_run_of (b := true) (r := { r with pos := r.pos + headerMarker.length }) h₁
      have h₂ := Reader.drop_after (r := { r with pos := r.pos + headerMarker.length }) h₁
      have hf64 := Take.f64_run_of (r := { r with pos := r.pos + headerMarker.length + 1 }) h₂
      have h₃ := Reader.drop_after (r := { r with pos := r.pos + headerMarker.length + 1 }) h₂
      have hlen : value.toBytes.length = 8 := by simp [Binary64.toBytes_eq]
      rw [hlen] at h₃
      have hstr := Take.string_run_of (r := { r with pos := r.pos + headerMarker.length + 1 + 8 })
        hfit h₃ hname
      rw [show headerMarker.length = 4 from rfl] at hraw hbool hf64 hstr
      simp only [readHeaderBody, EStateM.run_bind, Take.get_run]
      simp [hrem, hraw, hbool, hf64, hstr, Comparison.ofName?_name, headerBytes, Nat.add_assoc]
      simp only [hlen, show headerMarker.length = 4 from rfl, countBytes, length_leBytes]
      omega

theorem readHeader_headerBytes
    {r : Reader} {rest : List UInt8} (v : Option Version)
    (h : r.input.toList.drop r.pos = headerBytes r.encoding v ++ rest) :
    readHeader.run r =
      .ok (HeaderRead.ofVersion v) { r with pos := r.pos + (headerBytes r.encoding v).length } := by
  have hbody : readHeaderBody r = _ := readHeaderBody_run v h
  unfold EStateM.run readHeader
  rw [hbody]
  cases v <;> rfl

end ObjectWire
