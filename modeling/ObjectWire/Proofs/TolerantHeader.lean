import ObjectWire.Proofs.ReadingFaults
/-!
# The stream header, read tolerantly

A stream opens with the marker `MCVH` and a presence flag; a declared version follows as
its value (eight bytes) and its comparison's name (a count and a payload in the stream's
text encoding). Reading the header never fails. When the input at the reader's position
holds a whole header, the reader moves past exactly its bytes: a declared version, or none
after the five bytes of the marker and an unset flag. In every other case (too few bytes,
another marker, a flag that is neither 0 nor 1, a value or a name cut short, a payload that
is not text, or a name of no comparison) the reader stays where it was and the stream is
read as data.

Each reading step is inverted once (`Take.exact_run_inv` and the steps built on it): a
step that succeeds stood on the bytes it returns, and moved past exactly them. The header's
cases are then the cases of its body.

**Results.**
* `Take.string_run_inv`: a string read stood on a fitting count and a payload that decodes
  to it.
* `readHeaderBody_declared_inv`, `readHeaderBody_undeclared_inv`: what a header that reads
  stood on.
* `version_header_reads_back_or_rewinds`: a written header reads back as its version, past
  exactly its bytes, whatever follows; and reading any input either finds a whole header
  and moves past it, or finds none and stays put.
-/

namespace ObjectWire

/-! ## Little-endian bytes read back as numbers -/

theorem leValue_lt
    (bs : List UInt8) :
    leValue bs < 2 ^ (8 * bs.length) := by
  induction bs with
  | nil => simp [leValue]
  | cons b bs ih =>
      rw [leValue_cons, List.length_cons, show 8 * (bs.length + 1) = 8 + 8 * bs.length by omega,
        Nat.pow_add]
      have hb := b.toNat_lt
      have : b.toNat + 256 * leValue bs < 256 * (leValue bs + 1) := by omega
      have : 256 * (leValue bs + 1) ≤ 256 * 2 ^ (8 * bs.length) := Nat.mul_le_mul_left _ ih
      simp only [show (2 : Nat) ^ 8 = 256 from rfl]
      omega

theorem leBytes_leValue
    (bs : List UInt8) :
    leBytes bs.length (leValue bs) = bs := by
  induction bs with
  | nil => rfl
  | cons b bs ih =>
      rw [List.length_cons, leBytes_succ, leValue_cons]
      have hb := b.toNat_lt
      have hlow : (b.toNat + 256 * leValue bs) % 256 = b.toNat := by omega
      have hhigh : (b.toNat + 256 * leValue bs) / 256 = leValue bs := by omega
      rw [hlow, hhigh, ih]
      simp

theorem Binary64.toBytes_ofBytes
    {bs : List UInt8} (h : bs.length = 8) :
    (⟨(leValue bs).toUInt64⟩ : Binary64).toBytes = bs := by
  have hlt : leValue bs < 2 ^ 64 := by
    have := leValue_lt bs
    rwa [h] at this
  have hnat : (⟨(leValue bs).toUInt64⟩ : Binary64).toNat = leValue bs := by
    simp only [Binary64.toNat, Nat.toUInt64, UInt64.toNat_ofNat']
    omega
  rw [Binary64.toBytes_eq, hnat, ← h, leBytes_leValue]

/-- Four bytes read as a non-negative `i32` are the bytes of that count, which fits. -/
theorem countBytes_of_signedValue
    {bs : List UInt8} (h : bs.length = 4) (hnn : 0 ≤ signedValue 4 bs) :
    (signedValue 4 bs).toNat ≤ maxCount ∧ countBytes (signedValue 4 bs).toNat = bs := by
  have hlt : leValue bs < 2 ^ 32 := by
    have := leValue_lt bs
    rwa [h] at this
  have hsmall : leValue bs < 2 ^ 31 := by
    refine Nat.lt_of_not_le fun hbig => ?_
    simp only [signedValue, show Nat.pow 2 (8 * 4 - 1) = 2 ^ 31 from rfl,
      if_neg (Nat.not_lt.2 hbig), show Nat.pow 2 (8 * 4) = 2 ^ 32 from rfl] at hnn
    omega
  have hval : signedValue 4 bs = leValue bs := by
    simp only [signedValue, show Nat.pow 2 (8 * 4 - 1) = 2 ^ 31 from rfl, if_pos hsmall]
  have htwos : twosComplement 4 (leValue bs) = leValue bs := by
    simp only [twosComplement, show Nat.pow 2 (8 * 4) = 2 ^ 32 from rfl]
    omega
  refine ⟨?_, ?_⟩
  · rw [hval, Int.toNat_natCast]
    show leValue bs ≤ 2 ^ 31 - 1
    omega
  · rw [hval, Int.toNat_natCast, countBytes, htwos, ← h, leBytes_leValue]

/-! ## What a successful read stood on -/

section Inversion

variable {r r' : Reader}

theorem Take.advance_run_inv
    {n : Nat} {bs : List UInt8} (hn : n ≤ r.remaining) (h : (Take.advance n).run r = .ok bs r') :
    (∃ rest, r.input.toList.drop r.pos = bs ++ rest) ∧ bs.length = n ∧
      r' = { r with pos := r.pos + n } := by
  simp only [Take.advance, EStateM.run_bind, EStateM.run_get, EStateM.run_set,
    EStateM.run_pure] at h
  cases h
  have htake : (r.input.extract r.pos (r.pos + n)).toList = (r.input.toList.drop r.pos).take n := by
    simp [Array.toList_extract]
  refine ⟨⟨(r.input.toList.drop r.pos).drop n, ?_⟩, ?_, rfl⟩
  · rw [htake, List.take_append_drop]
  · rw [htake, List.length_take, List.length_drop, Array.length_toList]
    unfold Reader.remaining at hn
    omega

theorem Take.exact_run_inv
    {n : Nat} {bs : List UInt8} (h : (Take.exact n).run r = .ok bs r') :
    (∃ rest, r.input.toList.drop r.pos = bs ++ rest) ∧ bs.length = n ∧
      r' = { r with pos := r.pos + n } := by
  simp only [Take.exact, EStateM.run_bind, Take.get_run] at h
  by_cases hlt : r.remaining < n
  · simp [hlt] at h
  · rw [if_neg hlt] at h
    exact Take.advance_run_inv (by omega) h

theorem Take.raw_run_inv
    {n : Nat} {bs : List UInt8} (h : (Take.raw n).run r = .ok bs r') :
    (∃ rest, r.input.toList.drop r.pos = bs ++ rest) ∧ bs.length = n ∧
      r' = { r with pos := r.pos + n } := by
  simp only [Take.raw, EStateM.run_bind, Take.get_run] at h
  by_cases hlt : r.remaining < n
  · simp [hlt] at h
  · rw [if_neg hlt] at h
    exact Take.advance_run_inv (by omega) h

/-- A flag read stood on the byte 0 or 1. -/
theorem Take.bool_run_inv
    {b : Bool} (h : Take.bool.run r = .ok b r') :
    (∃ rest, r.input.toList.drop r.pos = [if b then 1 else 0] ++ rest) ∧
      r' = { r with pos := r.pos + 1 } := by
  obtain ⟨bs, r₁, hexact, hk⟩ := Take.run_bind_ok h
  obtain ⟨⟨rest, hrest⟩, hlen, rfl⟩ := Take.exact_run_inv hexact
  obtain ⟨x, rfl⟩ := List.length_eq_one_iff.1 hlen
  by_cases h0 : x = 0
  · subst h0
    cases hk
    exact ⟨⟨rest, hrest⟩, rfl⟩
  · by_cases h1 : x = 1
    · subst h1
      cases hk
      exact ⟨⟨rest, hrest⟩, rfl⟩
    · simp only [h0, h1, if_false] at hk
      cases hk

theorem Take.f64_run_inv
    {x : Binary64} (h : Take.f64.run r = .ok x r') :
    (∃ rest, r.input.toList.drop r.pos = x.toBytes ++ rest) ∧ r' = { r with pos := r.pos + 8 } := by
  obtain ⟨bs, r₁, hexact, hk⟩ := Take.run_bind_ok h
  obtain ⟨hrest, hlen, rfl⟩ := Take.exact_run_inv hexact
  cases hk
  rw [Binary64.toBytes_ofBytes hlen]
  exact ⟨hrest, rfl⟩

/-- A count for items of at least a byte each stood on the bytes of a fitting count, with at
least that many bytes after them. -/
theorem Take.count_run_inv
    {n : Nat} (h : (Take.count 1).run r = .ok n r') :
    n ≤ maxCount ∧ (∃ rest, r.input.toList.drop r.pos = countBytes n ++ rest ∧ n ≤ rest.length) ∧
      r' = { r with pos := r.pos + 4 } := by
  obtain ⟨raw, r₁, hi32, hk⟩ := Take.run_bind_ok h
  obtain ⟨bs, r₂, hexact, hval⟩ := Take.run_bind_ok hi32
  obtain ⟨⟨rest, hrest⟩, hlen, rfl⟩ := Take.exact_run_inv hexact
  cases hval
  obtain ⟨rem, r₃, hget, hk⟩ := Take.run_bind_ok hk
  cases hget
  have hafter : r.input.toList.drop (r.pos + 4) = rest := by
    rw [← hlen]
    exact Reader.drop_after hrest
  have hrem : ({ r with pos := r.pos + 4 } : Reader).remaining = rest.length :=
    Reader.remaining_eq hafter
  dsimp only at hk
  by_cases hneg : signedValue 4 bs < 0
  · simp [hneg] at hk
  · rw [if_neg hneg] at hk
    by_cases hfit : ({ r with pos := r.pos + 4 } : Reader).remaining < (signedValue 4 bs).toNat * 1
    · rw [if_pos hfit] at hk
      cases hk
    · rw [if_neg hfit] at hk
      cases hk
      obtain ⟨hmax, hbytes⟩ := countBytes_of_signedValue hlen (by omega)
      refine ⟨hmax, ⟨rest, by rw [hbytes, hrest], ?_⟩, rfl⟩
      rw [hrem] at hfit
      omega

theorem Take.bytes_run_inv
    {bs : List UInt8} (h : Take.bytes.run r = .ok bs r') :
    bs.length ≤ maxCount ∧ (∃ rest, r.input.toList.drop r.pos = countBytes bs.length ++ (bs ++ rest)) ∧
      r' = { r with pos := r.pos + 4 + bs.length } := by
  obtain ⟨n, r₁, hcount, hraw⟩ := Take.run_bind_ok h
  obtain ⟨hmax, ⟨rest, hrest, -⟩, rfl⟩ := Take.count_run_inv hcount
  obtain ⟨⟨rest', hrest'⟩, hlen, rfl⟩ := Take.raw_run_inv hraw
  have hafter : r.input.toList.drop (r.pos + 4) = rest := by
    have h4 : (countBytes n).length = 4 := by simp [countBytes]
    rw [← h4]
    exact Reader.drop_after hrest
  rw [hafter] at hrest'
  subst hlen
  exact ⟨hmax, ⟨rest', by rw [hrest, hrest']⟩, rfl⟩

/-- A string read stood on a fitting count and a payload that decodes to it. -/
theorem Take.string_run_inv
    {s : String} (h : Take.string.run r = .ok s r') :
    ∃ payload rest, r.input.toList.drop r.pos = countBytes payload.length ++ (payload ++ rest) ∧
      payload.length ≤ maxCount ∧ r.encoding.decode payload = .ok s ∧
      r' = { r with pos := r.pos + 4 + payload.length } := by
  obtain ⟨payload, r₁, hbytes, hk⟩ := Take.run_bind_ok h
  obtain ⟨hmax, ⟨rest, hrest⟩, rfl⟩ := Take.bytes_run_inv hbytes
  obtain ⟨r₂, r₃, hget, hk⟩ := Take.run_bind_ok hk
  cases hget
  dsimp only at hk
  cases hdec : r.encoding.decode payload with
  | error msg =>
      rw [hdec] at hk
      cases hk
  | ok s' =>
      rw [hdec] at hk
      cases hk
      exact ⟨payload, rest, hrest, hmax, hdec, rfl⟩

end Inversion

/-! ## Headers at a reader's position -/

/-- The input at the reader's position opens with a header of `n` bytes that declares `v`:
the marker, a set flag, the value's eight bytes, then a fitting count and a payload that
decodes, in the reader's encoding, to the name of `v`'s comparison. -/
def Reader.Declares (r : Reader) (v : Version) (n : Nat) : Prop :=
  ∃ payload rest, r.input.toList.drop r.pos =
      headerMarker ++ [1] ++ v.value.toBytes ++ countBytes payload.length ++ (payload ++ rest) ∧
    payload.length ≤ maxCount ∧ r.encoding.decode payload = .ok v.comparison.name ∧
    n = 17 + payload.length

/-- The input at the reader's position opens with a header that declares no version: the
marker and an unset flag. -/
def Reader.DeclaresNone (r : Reader) : Prop :=
  ∃ rest, r.input.toList.drop r.pos = headerMarker ++ [0] ++ rest

theorem Comparison.eq_name_of_ofName?
    {s : String} {c : Comparison} (h : Comparison.ofName? s = some c) :
    c.name = s := by
  have hfound := List.find?_some h
  simpa using hfound

section Body

variable {r r' : Reader}

/-- A header body that declares a version stood on a whole header declaring it. -/
theorem readHeaderBody_declared_inv
    {v : Version} (h : readHeaderBody.run r = .ok (some (some v)) r') :
    ∃ n, r.Declares v n ∧ r' = { r with pos := r.pos + n } := by
  unfold readHeaderBody at h
  simp only [EStateM.run_bind, Take.get_run] at h
  by_cases hshort : r.remaining < 4
  · rw [if_pos hshort] at h
    cases h
  rw [if_neg hshort] at h
  obtain ⟨marker, r₁, hraw, h⟩ := Take.run_bind_ok h
  obtain ⟨⟨rest₁, hrest₁⟩, hlen₁, rfl⟩ := Take.raw_run_inv hraw
  by_cases hmark : (marker != headerMarker) = true
  · rw [if_pos hmark] at h
    cases h
  rw [if_neg hmark] at h
  have hmarker : marker = headerMarker := by simpa using hmark
  subst hmarker
  have h₁ := Reader.drop_after hrest₁
  obtain ⟨flag, r₂, hbool, h⟩ := Take.run_bind_ok h
  obtain ⟨⟨rest₂, hrest₂⟩, rfl⟩ := Take.bool_run_inv (r := { r with pos := r.pos + 4 }) hbool
  cases flag
  · cases h
  simp only [Bool.not_true, Bool.false_eq_true, if_false] at h
  obtain ⟨value, r₃, hf64, h⟩ := Take.run_bind_ok h
  obtain ⟨⟨rest₃, hrest₃⟩, rfl⟩ := Take.f64_run_inv hf64
  obtain ⟨name, r₄, hstr, h⟩ := Take.run_bind_ok h
  obtain ⟨payload, rest, hrest, hmax, hdec, rfl⟩ := Take.string_run_inv hstr
  cases hc : Comparison.ofName? name with
  | none =>
      rw [hc] at h
      cases h
  | some c =>
      rw [hc] at h
      cases h
      have hname := Comparison.eq_name_of_ofName? hc
      subst hname
      refine ⟨17 + payload.length, ⟨payload, rest, ?_, hmax, hdec, rfl⟩, ?_⟩
      · have h₂ := Reader.drop_after (r := { r with pos := r.pos + 4 }) hrest₂
        have h₃ := Reader.drop_after (r := { r with pos := r.pos + 4 + 1 }) hrest₃
        have hlen₃ : value.toBytes.length = 8 := by simp [Binary64.toBytes_eq]
        dsimp only at hrest₂ hrest₃ hrest h₂ h₃
        simp only [↓reduceIte, List.length_singleton] at hrest₂ h₂
        rw [hlen₁] at h₁
        rw [hlen₃] at h₃
        have e₁ : rest₁ = [1] ++ rest₂ := by rw [← hrest₂, ← h₁]
        have e₂ : rest₂ = value.toBytes ++ rest₃ := by rw [← hrest₃, ← h₂]
        have e₃ : rest₃ = countBytes payload.length ++ (payload ++ rest) := by rw [← hrest, ← h₃]
        rw [hrest₁, e₁, e₂, e₃]
        simp
      · dsimp only
        congr 1
        omega

/-- A header body that declares no version stood on the marker and an unset flag. -/
theorem readHeaderBody_undeclared_inv
    (h : readHeaderBody.run r = .ok (some none) r') :
    r.DeclaresNone ∧ r' = { r with pos := r.pos + 5 } := by
  unfold readHeaderBody at h
  simp only [EStateM.run_bind, Take.get_run] at h
  by_cases hshort : r.remaining < 4
  · rw [if_pos hshort] at h
    cases h
  rw [if_neg hshort] at h
  obtain ⟨marker, r₁, hraw, h⟩ := Take.run_bind_ok h
  obtain ⟨⟨rest₁, hrest₁⟩, hlen₁, rfl⟩ := Take.raw_run_inv hraw
  by_cases hmark : (marker != headerMarker) = true
  · rw [if_pos hmark] at h
    cases h
  rw [if_neg hmark] at h
  have hmarker : marker = headerMarker := by simpa using hmark
  subst hmarker
  have h₁ := Reader.drop_after hrest₁
  obtain ⟨flag, r₂, hbool, h⟩ := Take.run_bind_ok h
  obtain ⟨⟨rest₂, hrest₂⟩, rfl⟩ := Take.bool_run_inv (r := { r with pos := r.pos + 4 }) hbool
  cases flag
  · cases h
    dsimp only at hrest₂
    simp only [Bool.false_eq_true, ↓reduceIte] at hrest₂
    rw [hlen₁] at h₁
    refine ⟨⟨rest₂, ?_⟩, rfl⟩
    rw [hrest₁, ← h₁, hrest₂]
    simp
  · simp only [Bool.not_true, Bool.false_eq_true, if_false] at h
    obtain ⟨value, r₃, -, h⟩ := Take.run_bind_ok h
    obtain ⟨name, r₄, -, h⟩ := Take.run_bind_ok h
    split at h <;> cases h

/-- A whole header declaring a version reads as declaring it, past exactly its bytes. -/
theorem readHeaderBody_of_declares
    {v : Version} {n : Nat} (h : r.Declares v n) :
    readHeaderBody.run r = .ok (some (some v)) { r with pos := r.pos + n } := by
  obtain ⟨payload, rest, hdrop, hmax, hdec, rfl⟩ := h
  have h₀ : r.input.toList.drop r.pos = headerMarker ++ ([1] ++ (v.value.toBytes ++
      (countBytes payload.length ++ (payload ++ rest)))) := by
    rw [hdrop]
    simp
  have hrem : ¬ r.remaining < 4 := by
    rw [Reader.remaining_of h₀]
    simp [headerMarker]
  have hraw := Take.raw_run_of h₀
  have h₁ := Reader.drop_after h₀
  have hbool := Take.bool_run_of (b := true) (r := { r with pos := r.pos + headerMarker.length }) h₁
  have h₂ := Reader.drop_after (r := { r with pos := r.pos + headerMarker.length }) h₁
  have hf64 := Take.f64_run_of (r := { r with pos := r.pos + headerMarker.length + 1 }) h₂
  have h₃ := Reader.drop_after (r := { r with pos := r.pos + headerMarker.length + 1 }) h₂
  have hlen : v.value.toBytes.length = 8 := by simp [Binary64.toBytes_eq]
  rw [hlen] at h₃
  have hstr := Take.string_run_of (r := { r with pos := r.pos + headerMarker.length + 1 + 8 })
    hmax h₃ hdec
  rw [show headerMarker.length = 4 from rfl] at hraw hbool hf64 hstr
  simp only [readHeaderBody, EStateM.run_bind, Take.get_run]
  simp [hrem, hraw, hbool, hf64, hstr, Comparison.ofName?_name, Nat.add_assoc]

/-- The marker and an unset flag read as a header without a version, five bytes long. -/
theorem readHeaderBody_of_declaresNone
    (h : r.DeclaresNone) :
    readHeaderBody.run r = .ok (some none) { r with pos := r.pos + 5 } := by
  obtain ⟨rest, hdrop⟩ := h
  have h₀ : r.input.toList.drop r.pos = headerMarker ++ ([0] ++ rest) := by
    rw [hdrop]
    simp
  have hrem : ¬ r.remaining < 4 := by
    rw [Reader.remaining_of h₀]
    simp [headerMarker]
  have hraw := Take.raw_run_of h₀
  have h₁ := Reader.drop_after h₀
  have hbool := Take.bool_run_of (b := false) (r := { r with pos := r.pos + headerMarker.length }) h₁
  rw [show headerMarker.length = 4 from rfl] at hraw hbool
  simp only [readHeaderBody, EStateM.run_bind, Take.get_run]
  simp [hrem, hraw, hbool, Nat.add_assoc]

end Body

theorem not_declares_of_readHeaderBody
    (h : ∀ found r', readHeaderBody.run r ≠ .ok (some found) r') :
    (∀ v n, ¬ r.Declares v n) ∧ ¬ r.DeclaresNone :=
  ⟨fun _ _ hv => h _ _ (readHeaderBody_of_declares hv),
    fun hnone => h _ _ (readHeaderBody_of_declaresNone hnone)⟩

/-- Reading a header never fails. A header written for a version, or for none, reads back as
that version (its value bit for bit, its comparison by name) whatever follows it, and the
reader stops where what follows begins. From any position of any input, reading either finds
a whole header declaring a version and moves past exactly its bytes, or finds the marker and
an unset flag and moves past those five bytes, or finds neither and stays where it was. -/
theorem version_header_reads_back_or_rewinds :
    (∀ (h : Option Version) (enc : TextEncoding) (t : List UInt8), ∃ w,
      (writeHeader h).run (Writer.new enc) = .ok () w ∧
      readHeader.run (Reader.new (w.bytes ++ t) enc) =
        .ok (HeaderRead.ofVersion h) { Reader.new (w.bytes ++ t) enc with pos := w.bytes.length }) ∧
    ∀ r : Reader, ∃ found r', readHeader.run r = .ok found r' ∧
      ((∃ v n, found = .declared v ∧ r.Declares v n ∧ r' = { r with pos := r.pos + n }) ∨
       (found = .undeclared ∧ r.DeclaresNone ∧ r' = { r with pos := r.pos + 5 }) ∨
       ((found = .noMarker ∨ ∃ e, found = .unreadable e) ∧ r' = r ∧
          (∀ v n, ¬ r.Declares v n) ∧ ¬ r.DeclaresNone)) := by
  refine ⟨fun h enc t => ?_, fun r => ?_⟩
  · refine ⟨(Writer.new enc).append (headerBytes enc h), writeHeader_run rfl h, ?_⟩
    have hbytes : ((Writer.new enc).append (headerBytes enc h)).bytes = headerBytes enc h := by
      rw [Writer.bytes_append]
      rfl
    rw [hbytes]
    have hdrop : (Reader.new (headerBytes enc h ++ t) enc).input.toList.drop
        (Reader.new (headerBytes enc h ++ t) enc).pos =
        headerBytes (Reader.new (headerBytes enc h ++ t) enc).encoding h ++ t := by
      simp [Reader.new]
    rw [readHeader_headerBytes h hdrop]
    simp [Reader.new]
  · unfold EStateM.run readHeader
    cases hbody : readHeaderBody r with
    | ok found r' =>
        cases found with
        | some found =>
            cases found with
            | some v =>
                obtain ⟨n, hn, rfl⟩ := readHeaderBody_declared_inv hbody
                exact ⟨_, _, rfl, .inl ⟨v, n, rfl, hn, rfl⟩⟩
            | none =>
                obtain ⟨hnone, rfl⟩ := readHeaderBody_undeclared_inv hbody
                exact ⟨_, _, rfl, .inr (.inl ⟨rfl, hnone, rfl⟩)⟩
        | none =>
            have hnot := not_declares_of_readHeaderBody (r := r) fun _ _ hrun => by
              rw [EStateM.run, hbody] at hrun
              cases hrun
            exact ⟨_, _, rfl, .inr (.inr ⟨.inl rfl, rfl, hnot⟩)⟩
    | error e r' =>
        have hnot := not_declares_of_readHeaderBody (r := r) fun _ _ hrun => by
          rw [EStateM.run, hbody] at hrun
          cases hrun
        exact ⟨_, _, rfl, .inr (.inr ⟨.inr ⟨e, rfl⟩, rfl, hnot⟩)⟩

end ObjectWire
