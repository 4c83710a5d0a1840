import ObjectWire.Proofs.ConfigurationErrors
/-!
# What reading can fail with, and how deep it goes

Decoding reads null flags, length prefixes, payloads and enum names from the input, and
stores what it reads through the accessors of the catalog's types. What it can fail with on
its own is therefore short (`Error.isReadFault`): the value codec running out of input or
meeting an invalid boolean or character, a length or a string that does not fit, an unknown
enum name, a value of another type than a converter expects, a custom converter's own
complaint, and an accessor that cannot borrow or find what decoding asks of it. Besides these
only a setter of one of the catalog's types can report an error (`Catalog.SetterFault`).

Decoding never runs out of depth either. The object reader is given one level more than there
are bytes, and every object below the root costs at least the byte of its null flag: a
converter that reaches objects handles null, and a flag is read before every body that is not
read as a direct part of another. So reading is tracked against a budget (`Reads`): from a
machine with at most `r` bytes left, for every `r` below the budget, a run fails with one of
the faults or ends with at most `r` bytes left, and reading a flag lowers the budget by one.
By induction on the depth bound, objects of types that build are read within a budget equal to
the bound (`readObject_reads`); at a bound of zero that budget admits no machine at all.

**Results.**
* `Take.Forward`: the reading steps fail only with read faults and never move back.
* `readValue_reads`, `readBody_reads`: a value is read within one byte more than its body.
* `readObject_reads`: objects of types that build are read within the depth bound, failing
  only with read faults and setter faults.
-/

namespace ObjectWire

/-- The faults of the data: the value codec running out of input or meeting an invalid
boolean or character, a length or string that does not fit, an unknown enum name, a value of
another type than expected, a custom converter's own complaint, and a member or typed accessor
that cannot borrow, read or be found as decoding asks. -/
def Error.isReadFault : Error → Bool
  | .codec (.endOfInput _) | .codec (.invalidBool _) | .codec (.invalidChar _) => true
  | .data (.invalidLength _ _) | .data (.invalidString _) | .data (.unknownEnumName _ _)
  | .data (.typeMismatch _ _) => true
  | .internal (.converter _) | .internal (.memberAccess .borrowMut _)
  | .internal (.typedAccess _ _) | .internal (.noTypedAccessor _ _) => true
  | _ => false

/-! ## Setters of the catalog -/

/-- A member that one of the catalog's object types declares. -/
def Catalog.Declares (cat : Catalog) (info : MemberInfo) : Prop :=
  ∃ sch ∈ cat.objects, info ∈ sch.members

/-- A typed accessor that one of the catalog's object types has. -/
def Catalog.HasTyped (cat : Catalog) (tm : TypedMember) : Prop :=
  ∃ sch ∈ cat.objects, tm ∈ sch.typed

/-- An error that a setter of one of the catalog's object types reports for some owner and
value: the setter of a member, or of a typed accessor. -/
def Catalog.SetterFault (cat : Catalog) (e : Error) : Prop :=
  ∃ s : Setter, ((∃ info, cat.Declares info ∧ info.access.set = some s) ∨
      ∃ tm, cat.HasTyped tm ∧ tm.set = some s) ∧ ∃ owner v, s owner v = .error e

variable {cat : Catalog} {o : Options}

/-- Discovery hands out members that the type's schema declares. -/
theorem discoverMembers_declares
    {t : Ty} {ds : List Descriptor} (h : discoverMembers cat o t = .ok ds) {d : Descriptor}
    (hd : d ∈ ds) :
    cat.Declares d.info := by
  unfold discoverMembers at h
  cases hk : o.memberKind t with
  | error e => simp [hk, bind, Except.bind] at h
  | ok kind =>
      cases t with
      | object p =>
          cases hs : cat.object? p with
          | none => simp [hk, hs, bind, Except.bind, throw, throwThe, MonadExceptOf.throw] at h
          | some s =>
              simp only [hk, hs, bind, Except.bind, pure, Except.pure, Except.ok.injEq] at h
              subst h
              obtain ⟨⟨⟨info, index⟩, discovery⟩, hx, hsome⟩ :=
                List.mem_filterMap.1 ((sortStable_perm _ _).subset hd)
              have hinfo : d.info = info := by
                split at hsome
                · cases hsome
                  rfl
                · cases hsome
              have hmem : info ∈ s.members :=
                List.fst_mem_of_mem_zipIdx (List.mem_filter.1 (List.fst_mem_of_mem_zipIdx hx)).1
              exact ⟨s, List.mem_of_find?_eq_some hs, hinfo ▸ hmem⟩
      | _ => simp [hk, bind, Except.bind, throw, throwThe, MonadExceptOf.throw] at h

theorem freshList_declares
    {t : Ty} {v : Option Version} {l : MappingList} (h : Run.freshList cat o t v = .ok l) :
    ∀ mp ∈ l.mappings, cat.Declares mp.member.info := by
  intro mp hmp
  obtain ⟨m', hrun⟩ := Run.answer_eq_ok h
  obtain ⟨t', ds, hds, hd⟩ :=
    (Run.buildList_members _ cat.fuel t v [t] _ l m' (Session.Agree.refl _) hrun).1 mp hmp
  exact discoverMembers_declares (show discoverMembers cat o t' = .ok ds from hds) hd

theorem compileAccessor_typed
    {typed : List TypedMember} {x : Mapping} {a : Accessor} (h : compileAccessor typed x = .ok a) :
    a.typed ∈ typed := by
  unfold compileAccessor at h
  simp only [bind, Except.bind, pure, Except.pure, throw, throwThe, MonadExceptOf.throw] at h
  repeat' split at h
  all_goals (try cases h)
  exact List.mem_of_getElem? (Option.filter_eq_some_iff.1 ‹_›).1

/-- A compiled layout of an object type uses only typed accessors of that type's schema; any
other type compiles to no accessor. -/
theorem compileLayout_schema
    {t : Ty} {l : MappingList} {acc : List Accessor} (h : compileLayout cat t l = .ok acc) :
    ∀ a ∈ acc, ∃ p sch, t = .object p ∧ cat.object? p = some sch ∧ a.typed ∈ sch.typed := by
  unfold compileLayout at h
  dsimp only at h
  split at h
  · cases h
  · refine mapM_compileAccessor_forall _ (fun x _ a hx => ?_) acc h
    have hmem := compileAccessor_typed hx
    cases t with
    | object p =>
        dsimp only at hmem
        cases hs : cat.object? p with
        | none =>
            rw [hs] at hmem
            cases hmem
        | some sch =>
            rw [hs] at hmem
            exact ⟨p, sch, rfl, hs, hmem⟩
    | _ =>
        dsimp only at hmem
        cases hmem

theorem compileLayout_typed
    {t : Ty} {l : MappingList} {acc : List Accessor} (h : compileLayout cat t l = .ok acc) :
    ∀ a ∈ acc, cat.HasTyped a.typed := by
  intro a ha
  obtain ⟨_, sch, -, hs, hmem⟩ := compileLayout_schema h a ha
  exact ⟨sch, List.mem_of_find?_eq_some hs, hmem⟩

/-- A member's setter fails only as the catalog's setters do. -/
theorem Descriptor.store_setterFault
    {d : Descriptor} (hd : cat.Declares d.info) {owner : Value} {v : Typed} {err : Error}
    (h : d.store owner v = .error err) :
    cat.SetterFault err := by
  unfold Descriptor.store at h
  split at h
  · cases h
  · next s hs =>
      cases hrun : s owner v with
      | ok o' =>
          rw [hrun] at h
          cases h
      | error e' =>
          rw [hrun] at h
          cases h
          exact ⟨s, .inl ⟨d.info, hd, hs⟩, owner, v, hrun⟩

/-! ## Reading steps -/

namespace Take

variable {α β : Type} {E : Error → Prop}

/-- A reading step that fails only with errors in `E`, and on success leaves no more bytes than
it found. -/
structure Forward (E : Error → Prop) (t : Take α) : Prop where
  fails : ∀ r e r', t.run r = .error e r' → E e
  moves : ∀ r a r', t.run r = .ok a r' → r'.remaining ≤ r.remaining

namespace Forward

theorem pure
    (a : α) :
    Forward E (Pure.pure a : Take α) where
  fails _ _ _ h := by cases h
  moves _ _ _ h := by
    cases h
    exact Nat.le_refl _

theorem throw
    {e : Error} (h : E e) :
    Forward E (MonadExcept.throw e : Take α) where
  fails _ _ _ hr := by
    cases hr
    exact h
  moves _ _ _ hr := by cases hr

theorem bind
    {t : Take α} {k : α → Take β} (ht : Forward E t) (hk : ∀ a, Forward E (k a)) :
    Forward E (t >>= k) where
  fails r e r' h := by
    rw [EStateM.run_bind] at h
    cases hr : t.run r with
    | ok a r₁ =>
        rw [hr] at h
        exact (hk a).fails r₁ e r' h
    | error e₁ r₁ =>
        rw [hr] at h
        cases h
        exact ht.fails r _ _ hr
  moves r b r' h := by
    rw [EStateM.run_bind] at h
    cases hr : t.run r with
    | ok a r₁ =>
        rw [hr] at h
        exact ((hk a).moves r₁ b r' h).trans (ht.moves r a r₁ hr)
    | error e₁ r₁ =>
        rw [hr] at h
        cases h

theorem get_bind
    {k : Reader → Take α} (hk : ∀ r, Forward E (k r)) :
    Forward E (get >>= k) where
  fails r := (hk r).fails r
  moves r := (hk r).moves r

theorem ite
    {c : Prop} [Decidable c] {t u : Take α} (ht : c → Forward E t) (hu : ¬c → Forward E u) :
    Forward E (if c then t else u) := by
  by_cases hc : c
  · simpa only [if_pos hc] using ht hc
  · simpa only [if_neg hc] using hu hc

theorem throw_bind
    {e : Error} {k : α → Take β} (h : E e) :
    Forward E (MonadExcept.throw e >>= k) where
  fails _ _ _ hr := by
    cases hr
    exact h
  moves _ _ _ hr := by cases hr

end Forward

theorem advance_forward
    (n : Nat) :
    Forward E (Take.advance n) where
  fails _ _ _ h := by cases h
  moves r _ r' h := by
    cases h
    show r.input.size - (r.pos + n) ≤ r.input.size - r.pos
    omega

theorem run_bind_ok
    {t : Take α} {k : α → Take β} {r r' : Reader} {b : β} (h : (t >>= k).run r = .ok b r') :
    ∃ a r₁, t.run r = .ok a r₁ ∧ (k a).run r₁ = .ok b r' := by
  rw [EStateM.run_bind] at h
  cases ht : t.run r with
  | ok a r₁ =>
      rw [ht] at h
      exact ⟨a, r₁, rfl, h⟩
  | error e r₁ =>
      rw [ht] at h
      cases h

theorem exact_spends
    {n : Nat} {r r' : Reader} {bs : List UInt8} (h : (Take.exact n).run r = .ok bs r') :
    r'.remaining + n ≤ r.remaining := by
  simp only [Take.exact, EStateM.run_bind] at h
  by_cases hlt : r.remaining < n
  · simp [hlt] at h
  · simp [hlt] at h
    have hr' : r' = { r with pos := r.pos + n } := by
      cases h
      rfl
    subst hr'
    unfold Reader.remaining at hlt ⊢
    dsimp only
    omega

theorem bool_spends
    {r r' : Reader} {b : Bool} (h : Take.bool.run r = .ok b r') :
    r'.remaining + 1 ≤ r.remaining := by
  obtain ⟨bs, r₁, hx, hk⟩ := run_bind_ok h
  have hr' : r' = r₁ := by
    repeat' split at hk
    all_goals (cases hk; try rfl)
  rw [hr']
  exact exact_spends hx

theorem count_fits
    {min n : Nat} {r r' : Reader} (h : (Take.count min).run r = .ok n r') :
    n * min ≤ r'.remaining := by
  obtain ⟨raw, r₁, -, h⟩ := run_bind_ok h
  obtain ⟨rem, r₂, hget, h⟩ := run_bind_ok h
  cases hget
  dsimp only at h
  split at h
  · cases h
  · split at h
    · cases h
    · next hfit =>
        cases h
        omega

variable (hE : ∀ e, e.isReadFault = true → E e)
include hE

theorem exact_forward
    (n : Nat) :
    Forward E (Take.exact n) :=
  Forward.get_bind fun _ =>
    Forward.ite (fun _ => Forward.throw_bind (hE _ rfl)) fun _ => advance_forward n

theorem raw_forward
    (n : Nat) :
    Forward E (Take.raw n) :=
  Forward.get_bind fun _ =>
    Forward.ite (fun _ => Forward.throw_bind (hE _ rfl)) fun _ => advance_forward n

theorem bool_forward :
    Forward E Take.bool :=
  Forward.bind (exact_forward hE 1) fun bs => by
    split
    · exact Forward.ite (fun _ => Forward.pure _) fun _ =>
        Forward.ite (fun _ => Forward.pure _) fun _ => Forward.throw (hE _ rfl)
    · exact Forward.pure _

theorem i32_forward :
    Forward E Take.i32 :=
  Forward.bind (exact_forward hE 4) fun _ => Forward.pure _

theorem f64_forward :
    Forward E Take.f64 :=
  Forward.bind (exact_forward hE 8) fun _ => Forward.pure _

theorem count_forward
    (min : Nat) :
    Forward E (Take.count min) :=
  Forward.bind (i32_forward hE) fun _ => Forward.get_bind fun _ =>
    Forward.ite (fun _ => Forward.throw_bind (hE _ rfl)) fun _ =>
      Forward.ite (fun _ => Forward.throw_bind (hE _ rfl)) fun _ => Forward.pure _

theorem bytes_forward :
    Forward E Take.bytes :=
  Forward.bind (count_forward hE 1) fun n => raw_forward hE n

theorem string_forward :
    Forward E Take.string :=
  Forward.bind (bytes_forward hE) fun _ => Forward.get_bind fun _ => by
    split
    · exact Forward.pure _
    · exact Forward.throw (hE _ rfl)

end Take

theorem Scalar.readChar_forward
    {E : Error → Prop} (hE : ∀ e, e.isReadFault = true → E e) :
    Take.Forward E Scalar.readChar := by
  unfold Scalar.readChar
  refine Take.Forward.bind (Take.exact_forward hE 1) fun first => ?_
  refine Take.Forward.ite (fun _ => Take.Forward.throw_bind (hE _ rfl)) fun _ => ?_
  refine Take.Forward.ite (fun _ => Take.Forward.pure _) fun _ => ?_
  refine Take.Forward.bind (Take.exact_forward hE _) fun rest => ?_
  dsimp only
  split
  · split
    · exact Take.Forward.pure _
    · exact Take.Forward.throw (hE _ rfl)
  · exact Take.Forward.throw (hE _ rfl)

theorem Scalar.read_forward
    {E : Error → Prop} (hE : ∀ e, e.isReadFault = true → E e) (s : Scalar) :
    Take.Forward E s.read := by
  unfold Scalar.read
  split
  · exact Take.Forward.bind (Take.bool_forward hE) fun _ => Take.Forward.pure _
  · exact Take.Forward.bind (Take.exact_forward hE 4) fun _ => Take.Forward.pure _
  · exact Take.Forward.bind (Take.f64_forward hE) fun _ => Take.Forward.pure _
  · exact Scalar.readChar_forward hE
  · exact Take.Forward.ite (fun _ => Take.Forward.bind (Take.exact_forward hE _) fun _ =>
      Take.Forward.pure _) fun _ => Take.Forward.bind (Take.exact_forward hE _) fun _ =>
        Take.Forward.pure _

theorem compileAccessor_readFault
    (typed : List TypedMember) (x : Mapping) :
    ∀ err, compileAccessor typed x = .error err → err.isReadFault = true := by
  intro err h
  unfold compileAccessor at h
  simp only [bind, Except.bind, pure, Except.pure, throw, throwThe, MonadExceptOf.throw] at h
  repeat' split at h
  all_goals (cases h <;> rfl)

theorem compileLayout_readFault
    (t : Ty) (l : MappingList) :
    ∀ err, compileLayout cat t l = .error err → err.isReadFault = true := by
  intro err h
  unfold compileLayout at h
  dsimp only at h
  split at h
  · cases h
    rfl
  · exact mapM_compileAccessor_error (compileAccessor_readFault _) _ err h

/-! ## Reading within a budget -/

namespace Run

variable {α β γ : Type} {S : Session → Prop} {E : Error → Prop} {n : Nat}

theorem reader_frame
    {f : Run α} (hsim : ∀ R, CacheRel R → Sim R f f) {m m' : Machine} {a : α}
    (h : f.run m = .ok a m') :
    m'.reader = m.reader := by
  let R : Machine → Machine → Prop := fun m₁ m₂ => Machine.Agree m₁ m₂ ∧ m₁.reader = m.reader
  have hR : CacheRel R :=
    { agree := fun h => h.1.1
      update := fun h h₁ h₂ => ⟨Machine.agree_cacheRel.update h.1 h₁ h₂, h.2⟩
      cache := fun e h => ⟨Machine.agree_cacheRel.cache e h.1, h.2⟩ }
  have hc := hsim R hR m m ⟨⟨Session.Agree.refl _, rfl, rfl⟩, rfl⟩
  rw [h] at hc
  exact hc.2.2

theorem Lands.mono
    {I J : Machine → Prop} {Q : α → Prop} {res : EStateM.Result Error Machine α}
    (h : Lands I E Q res) (hIJ : ∀ m, I m → J m) :
    Lands J E Q res := by
  cases res with
  | ok a m' => exact ⟨h.1, hIJ m' h.2⟩
  | error e m' => exact h

theorem Lands.answer_error
    {I : Machine → Prop} {Q : α → Prop} {res : EStateM.Result Error Machine α}
    (h : Lands I E Q res) {e : Error} (he : answer res = .error e) :
    E e := by
  cases res with
  | ok a m' => cases he
  | error e' m' =>
      cases he
      exact h

/-- A machine whose session is in `S` and whose reader has at most `r` bytes left. -/
def Budget (S : Session → Prop) (r : Nat) (m : Machine) : Prop :=
  S m.session ∧ m.reader.remaining ≤ r

theorem Budget.mono
    {r r' : Nat} {m : Machine} (h : Budget S r m) (hle : r ≤ r') :
    Budget S r' m :=
  ⟨h.1, h.2.trans hle⟩

/-- Reading below a budget of `n` bytes: from every machine whose session is in `S` and with
at most `r < n` bytes left, `f` fails with an error in `E`, or returns a value in `Q` with the
session in `S` and still at most `r` bytes left. -/
def Reads (S : Session → Prop) (E : Error → Prop) (n : Nat) (f : Run α) (Q : α → Prop) : Prop :=
  ∀ r < n, Maintains (Budget S r) E f Q

namespace Reads

theorem pure
    (a : α) {Q : α → Prop} (h : Q a) :
    Reads S E n (Pure.pure a : Run α) Q :=
  fun _ _ => Maintains.pure a h

theorem throw
    {e : Error} {Q : α → Prop} (h : E e) :
    Reads S E n (MonadExcept.throw e : Run α) Q :=
  fun _ _ => Maintains.throw h

theorem bind
    {f : Run α} {k : α → Run β} {P : α → Prop} {Q : β → Prop} (hf : Reads S E n f P)
    (hk : ∀ a, P a → Reads S E n (k a) Q) :
    Reads S E n (f >>= k) Q :=
  fun r hr => Maintains.bind (hf r hr) fun a ha => hk a ha r hr

theorem imp
    {f : Run α} {P Q : α → Prop} (h : Reads S E n f P) (hPQ : ∀ a, P a → Q a) :
    Reads S E n f Q :=
  fun r hr => (h r hr).imp hPQ

theorem throw_bind
    {e : Error} {k : α → Run β} {Q : β → Prop} (h : E e) :
    Reads S E n (MonadExcept.throw e >>= k) Q :=
  fun _ _ => Maintains.throw_bind h

theorem ite
    {c : Prop} [Decidable c] {f g : Run α} {Q : α → Prop} (hf : c → Reads S E n f Q)
    (hg : ¬c → Reads S E n g Q) :
    Reads S E n (if c then f else g) Q :=
  fun r hr => Maintains.ite (fun hc => hf hc r hr) fun hc => hg hc r hr

theorem forIn
    {xs : List γ} {f : γ → β → Run (ForInStep β)}
    (h : ∀ x ∈ xs, ∀ b, Reads S E n (f x b) fun _ => True) (init : β) :
    Reads S E n (ForIn.forIn xs init f) fun _ => True :=
  fun r hr => Maintains.forIn (fun x hx b => h x hx b r hr) init

theorem mono
    {f : Run α} {Q : α → Prop} {n' : Nat} (h : Reads S E n f Q) (hle : n' ≤ n) :
    Reads S E n' f Q :=
  fun r hr => h r (Nat.lt_of_lt_of_le hr hle)

theorem take
    {t : Take α} (h : Take.Forward E t) :
    Reads S E n (Run.take t) fun _ => True := by
  intro r _ m hm
  show Lands _ _ _ (Run.take t m)
  unfold Run.take
  cases ht : t m.reader with
  | ok a r' => exact ⟨trivial, hm.1, (h.moves _ _ _ ht).trans hm.2⟩
  | error e r' => exact h.fails _ _ _ ht

theorem of_keeps
    {f : Run α} {Q : α → Prop} (h : Keeps S E f Q) (hsim : ∀ R, CacheRel R → Sim R f f) :
    Reads S E n f Q := by
  intro r _ m hm
  have h₁ := h m hm.1
  cases hrun : f.run m with
  | ok a m' =>
      rw [hrun] at h₁
      exact ⟨h₁.1, h₁.2, (reader_frame hsim hrun) ▸ hm.2⟩
  | error e m' =>
      rw [hrun] at h₁
      exact h₁

theorem lift
    {x : Except Error α} (h : ∀ err, x = .error err → E err) :
    Reads S E n (Run.lift x) fun a => x = .ok a := by
  cases x with
  | ok a => exact pure a rfl
  | error err => exact throw (h err rfl)

theorem log
    (hS : ∀ {s s'}, S s → Session.Refresh s s' → S s') (level : Level) (message : String) :
    Reads S E n (Run.log level message) fun _ => True := by
  intro r _ m hm
  rw [log_run]
  exact ⟨trivial, hS hm.1 (Session.refresh_logs _ _), hm.2⟩

theorem get_bind
    {k : Machine → Run α} {Q : α → Prop} (hk : ∀ m, S m.session → Reads S E n (k m) Q) :
    Reads S E n (get >>= k) Q :=
  fun r hr m hm => hk m hm.1 r hr m hm

theorem defaultOf
    (t : Ty) :
    Reads S E n (Run.defaultOf t) fun _ => True :=
  fun _ _ _ hm => ⟨trivial, hm⟩

theorem catalog :
    Reads S E n Run.catalog fun _ => True :=
  fun _ _ _ hm => ⟨trivial, hm⟩

theorem zero
    {f : Run α} {Q : α → Prop} :
    Reads S E 0 f Q :=
  fun _ hr => absurd hr (Nat.not_lt_zero _)

end Reads

theorem AnswersFreshly.reads
    {f : Run α} {fresh : Catalog → Options → Except Error α} (h : AnswersFreshly f fresh)
    (hE : ∀ err, fresh cat o = .error err → E err) :
    Reads (Session.FaithfulOver cat o) E n f fun a => fresh cat o = .ok a := by
  intro r _ m hm
  obtain ⟨s, hs, hrun⟩ := h.run hm.1
  show Lands _ _ _ (f.run m)
  rw [hrun]
  cases hfresh : fresh cat o with
  | ok a => exact ⟨rfl, hs, hm.2⟩
  | error err => exact hE err hfresh

/-! ## Null flags -/

theorem readHead_eq
    (c : Converter) (ty : Ty) :
    readHead c ty = if c.target != ty then throw (Error.mismatch c.target.name ty.name)
      else if c.handlesNull then (take Take.bool >>= fun b => pure !b) else pure true := by
  unfold readHead
  by_cases h : (c.target != ty) = true
  · simp only [h, if_true]
    rfl
  · simp only [h]
    rfl

section Flags

variable (hE : ∀ e, e.isReadFault = true → E e)
include hE

/-- Reading a null flag spends a byte of the budget. -/
theorem Reads.take_bool_bind
    {k : Bool → Run β} {Q : β → Prop} (hk : ∀ b, Reads S E n (k b) Q) :
    Reads S E (n + 1) (Run.take Take.bool >>= k) Q := by
  intro r hr m hm
  show Lands _ _ _ ((Run.take Take.bool >>= k).run m)
  rw [EStateM.run_bind]
  cases hb : Take.bool.run m.reader with
  | ok b r₁ =>
      rw [take_run_ok hb]
      have hspent := Take.bool_spends hb
      have hleft := hm.2
      have hm₁ : Budget S (r - 1) { m with reader := r₁ } :=
        ⟨hm.1, show r₁.remaining ≤ r - 1 by omega⟩
      exact (hk b (r - 1) (by omega) _ hm₁).mono fun _ h => h.mono (Nat.sub_le r 1)
  | error e r₁ =>
      have hrun : (Run.take Take.bool).run m = .error e { m with reader := r₁ } := by
        show Run.take Take.bool m = _
        unfold Run.take
        rw [show Take.bool m.reader = .error e r₁ from hb]
      rw [hrun]
      exact (Take.bool_forward hE).fails _ _ _ hb

/-- A head read before `k`: a flag, when the converter has one, spends a byte; without one,
`k` goes on with a value following. -/
theorem Reads.readHead_bind
    {c : Converter} {ty : Ty} {k : Bool → Run β} {Q : β → Prop} (hk : ∀ b, Reads S E n (k b) Q)
    (hplain : c.handlesNull = false → Reads S E (n + 1) (k true) Q) :
    Reads S E (n + 1) (readHead c ty >>= k) Q := by
  rw [readHead_eq]
  by_cases hty : (c.target != ty) = true
  · rw [if_pos hty]
    exact Reads.throw_bind (hE (Error.mismatch _ _) rfl)
  rw [if_neg hty]
  cases hnull : c.handlesNull with
  | true =>
      rw [if_pos rfl, bind_assoc]
      exact Reads.take_bool_bind hE fun b => by
        rw [pure_bind]
        exact hk !b
  | false =>
      rw [if_neg Bool.false_ne_true, pure_bind]
      exact hplain hnull

theorem Reads.readOptional
    {c : Converter} {ty : Ty} {body : Run Value}
    (hbody : ∀ j < n, Reads S E (if c.handlesNull then j else j + 1) body fun _ => True) :
    Reads S E n (readHead c ty >>= fun b => if b then body else Run.defaultOf ty)
      fun _ => True := by
  cases n with
  | zero => exact Reads.zero
  | succ j =>
      have h := hbody j (Nat.lt_succ_self j)
      refine Reads.readHead_bind hE (fun _ => ?_) fun hnull => ?_
      · exact Reads.ite (fun _ => h.mono (by split <;> omega)) fun _ => Reads.defaultOf ty
      · rw [hnull] at h
        exact Reads.ite (fun _ => h) fun hf => absurd rfl hf

/-- A part of a collection read with its flag, then the rest of the collection: as a value
read with its flag. -/
theorem Reads.readPart
    {c : Converter} {ty : Ty} {body : Run Value} {k : Value → Run β} {Q : β → Prop}
    (hbody : ∀ j < n, Reads S E (if c.handlesNull then j else j + 1) body fun _ => True)
    (hk : ∀ v, Reads S E n (k v) Q) :
    Reads S E n (readHead c ty >>= fun b => if b then body >>= k else Run.defaultOf ty >>= k) Q := by
  cases n with
  | zero => exact Reads.zero
  | succ j =>
      have h := hbody j (Nat.lt_succ_self j)
      refine Reads.readHead_bind hE (fun _ => ?_) fun hnull => ?_
      · have hk' : ∀ v, Reads S E j (k v) Q := fun v => (hk v).mono (Nat.le_succ j)
        exact Reads.ite (fun _ => Reads.bind (h.mono (by split <;> omega)) fun v _ => hk' v)
          fun _ => Reads.bind (Reads.defaultOf ty) fun v _ => hk' v
      · rw [hnull] at h
        exact Reads.ite (fun _ => Reads.bind h fun v _ => hk v) fun hf => absurd rfl hf

theorem readCustom_reads
    (c : CustomConverter) :
    Reads S E n (readCustom c) fun _ => True := by
  unfold readCustom
  cases c with
  | bigEndianU16 =>
      exact Reads.bind (Reads.take (Take.raw_forward hE 2)) fun _ _ => Reads.pure _ trivial
  | decimalU32 =>
      refine Reads.bind (Reads.take (Take.string_forward hE)) fun _ _ => ?_
      split
      · exact Reads.pure _ trivial
      · exact Reads.throw (hE (.internal (.converter _)) rfl)
  | wide32 =>
      refine Reads.bind (Reads.take (Take.exact_forward hE 8)) fun _ _ => ?_
      exact Reads.ite (fun _ => Reads.pure _ trivial) fun _ => Reads.throw (hE (.internal (.converter _)) rfl)
  | celsius _ =>
      exact Reads.bind (Reads.take (Take.f64_forward hE)) fun _ _ => Reads.pure _ trivial
  | probe =>
      exact Reads.bind (Reads.take (Take.string_forward hE)) fun _ _ =>
        Reads.bind (Reads.take (Take.exact_forward hE 1)) fun _ _ => Reads.pure _ trivial

end Flags

/-! ## Values within a budget -/

section Values

variable (hE : ∀ e, e.isReadFault = true → E e) {orr : ObjectReader} {ver : Option Version}
  {P : Ty → Prop}
include hE

/-- The body of a value whose converter reaches only types in `P`, with objects of those
types read within a budget of `n`, is read within `n`, or one byte more when the converter
has no flag: by induction on the converter. A part with a flag of its own has its body read
within a smaller budget, and a converter with no flag reaches objects only through parts. -/
theorem readBody_reads
    (c : Converter) :
    ∀ n, (∀ t e, P t → Reads S E n (orr t e ver) fun _ => True) →
      (∀ t ∈ c.nestedObjects, P t) → ∀ ty (ctx : Ctx), ctx.version = ver →
      Reads S E (if c.handlesNull then n else n + 1) (readBody orr c ty ctx) fun _ => True := by
  induction c with
  | primitive s => exact fun _ _ _ _ _ _ => Reads.take (Scalar.read_forward hE s)
  | string =>
      exact fun _ _ _ _ _ _ => Reads.bind (Reads.take (Take.string_forward hE)) fun _ _ =>
        Reads.pure _ trivial
  | array =>
      intro n _ _ ty ctx _
      show Reads S E n (readBody orr .array ty ctx) _
      unfold readBody
      split
      · exact Reads.bind (Reads.take (Take.raw_forward hE _)) fun _ _ => Reads.pure _ trivial
      · exact Reads.bind (Reads.take (Take.bytes_forward hE)) fun _ _ => Reads.pure _ trivial
  | custom c => exact fun _ _ _ _ _ _ => readCustom_reads hE c
  | list t e conv ih =>
      intro n horr hc ty ctx hctx
      show Reads S E n (readBody orr (.list t e conv) ty ctx) _
      unfold readBody
      dsimp only
      refine Reads.bind (Reads.take (Take.count_forward hE 1)) fun count _ => ?_
      refine Reads.bind (Reads.forIn (fun _ _ items => ?_) _) fun _ _ => Reads.pure _ trivial
      exact Reads.readPart hE (fun j hj => ih j (fun t e ht => (horr t e ht).mono hj.le) hc _ _ hctx)
        fun _ => Reads.pure _ trivial
  | dictionary t k vt sorted kc vc ihk ihv =>
      intro n horr hc ty ctx hctx
      have hk : ∀ x ∈ kc.nestedObjects, P x := fun x hx => hc x (List.mem_append_left _ hx)
      have hv : ∀ x ∈ vc.nestedObjects, P x := fun x hx => hc x (List.mem_append_right _ hx)
      show Reads S E n (readBody orr (.dictionary t k vt sorted kc vc) ty ctx) _
      unfold readBody
      dsimp only
      refine Reads.bind (Reads.take (Take.count_forward hE 2)) fun count _ => ?_
      refine Reads.bind (Reads.forIn (fun _ _ items => ?_) _) fun _ _ =>
        Reads.bind Reads.catalog fun _ _ => Reads.pure _ trivial
      refine Reads.readPart hE (fun j hj => ihk j (fun t e ht => (horr t e ht).mono hj.le) hk _ _ hctx)
        fun _ => ?_
      exact Reads.readPart hE (fun j hj => ihv j (fun t e ht => (horr t e ht).mono hj.le) hv _ _ hctx)
        fun _ => Reads.pure _ trivial
  | pair t k vt kc vc ihk ihv =>
      intro n horr hc ty ctx hctx
      have hk : ∀ x ∈ kc.nestedObjects, P x := fun x hx => hc x (List.mem_append_left _ hx)
      have hv : ∀ x ∈ vc.nestedObjects, P x := fun x hx => hc x (List.mem_append_right _ hx)
      have hbelow : ∀ j < n + 1, ∀ t e, P t → Reads S E j (orr t e ver) fun _ => True :=
        fun j hj t e ht => (horr t e ht).mono (Nat.le_of_lt_succ hj)
      show Reads S E (n + 1) (readBody orr (.pair t k vt kc vc) ty ctx) _
      unfold readBody
      dsimp only
      refine Reads.readPart hE (fun j hj => ihk j (hbelow j hj) hk _ _ hctx) fun _ => ?_
      exact Reads.readPart hE (fun j hj => ihv j (hbelow j hj) hv _ _ hctx)
        fun _ => Reads.pure _ trivial
  | enum t variants =>
      intro n _ _ ty ctx _
      show Reads S E (n + 1) (readBody orr (.enum t variants) ty ctx) _
      unfold readBody
      refine Reads.bind (Reads.take (Take.string_forward hE)) fun _ _ => ?_
      split
      · exact Reads.pure _ trivial
      · exact Reads.throw (hE (.data (.unknownEnumName _ _)) rfl)
  | nullable t i conv innerNullable ih =>
      intro n horr hc ty ctx hctx
      show Reads S E n (readBody orr (.nullable t i conv innerNullable) ty ctx) _
      unfold readBody
      dsimp only
      refine Reads.ite (fun _ => ?_) fun _ => ?_
      · rw [← bind_assoc]
        refine Reads.bind (Reads.readOptional hE fun j hj => ?_) fun _ _ => Reads.pure _ trivial
        exact ih j (fun t e ht => (horr t e ht).mono hj.le) hc _ _ hctx
      · refine Reads.bind ((ih n horr hc _ _ hctx).mono ?_) fun _ _ => Reads.pure _ trivial
        split <;> omega
  | pointer t i conv ih => exact fun n horr hc _ ctx hctx => ih n horr hc i ctx hctx
  | object t e =>
      intro n horr hc _ ctx hctx
      show Reads S E n (orr t e ctx.version) _
      rw [hctx]
      exact horr t e (hc t (List.mem_singleton_self t))

theorem readValue_reads
    {c : Converter} (hc : ∀ t ∈ c.nestedObjects, P t) {n : Nat}
    (horr : ∀ t e, P t → Reads S E n (orr t e ver) fun _ => True) (ty : Ty) {ctx : Ctx}
    (hctx : ctx.version = ver) :
    Reads S E (n + 1) (readValue orr c ty ctx) fun _ => True :=
  Reads.readOptional hE fun j hj =>
    readBody_reads hE c j (fun t e ht => (horr t e ht).mono (Nat.le_of_lt_succ hj)) hc ty ctx hctx

end Values

/-! ## Objects within a budget -/

theorem reach_readFault
    (d : Descriptor) (owner : Typed) :
    ∀ err, d.reach owner = .error err → err.isReadFault = true := by
  intro err h
  unfold Descriptor.reach at h
  repeat' split at h
  all_goals (cases h <;> rfl)

section Objects

variable (hE : ∀ e, e.isReadFault = true → E e) (hset : ∀ e, cat.SetterFault e → E e)

include hset in
theorem storeMember_reads
    {d : Descriptor} (hd : cat.Declares d.info) (v : Value) (owner : Typed) :
    Reads (Session.FaithfulOver cat o) E n (storeMember d v owner) fun _ => True := by
  unfold storeMember
  refine Reads.bind (Reads.lift fun err h => hset err (Descriptor.store_setterFault hd h))
    fun r _ => ?_
  cases r with
  | some o' => exact Reads.pure _ trivial
  | none =>
      exact Reads.bind (Reads.log (fun h hs => h.refresh hs) _ _) fun _ _ => Reads.pure _ trivial

include hE

theorem updateAt_reads
    {k : Typed → Run Value} (hk : ∀ x, Reads S E n (k x) fun _ => True) :
    ∀ path root, Reads S E n (updateAt path root k) fun _ => True
  | [], root => hk root
  | hop :: rest, root => by
      unfold updateAt
      refine Reads.bind (Reads.lift fun err h => hE err (reach_readFault hop root err h)) fun _ _ => ?_
      exact Reads.bind (updateAt_reads hk rest _) fun _ _ => Reads.pure _ trivial

theorem compiled_reads
    {ver : Option Version} {t : Ty} (ht : Buildable cat o ver t) :
    Reads (Session.FaithfulOver cat o) E n (compiled t ver) fun acc => ∀ a ∈ acc,
      ReachesBuildable cat o ver a.mapping.converter ∧ cat.Declares a.mapping.member.info ∧
        cat.HasTyped a.typed := by
  refine (Reads.of_keeps (compiled_fresh ht fun l err h => hE err (compileLayout_readFault t l err h))
    fun R hR => compiled_sim hR.toViewRel (mappingList_sim hR) t ver).imp ?_
  rintro acc ⟨l, hl, hacc⟩ a ha
  have hmp := compileLayout_mem hacc a ha
  exact ⟨freshList_reaches_buildable hl _ hmp, freshList_declares hl _ hmp,
    compileLayout_typed hacc a ha⟩

include hset

variable {ver : Option Version} {orr : ObjectReader} {n : Nat}
  (horr : ∀ t e, Buildable cat o ver t →
    Reads (Session.FaithfulOver cat o) E n (orr t e ver) fun _ => True)
include horr

theorem readDynamicInto_reads
    {t : Ty} (ht : Buildable cat o ver t) (target : Typed) :
    Reads (Session.FaithfulOver cat o) E (n + 1) (readDynamicInto orr t target ver)
      fun _ => True := by
  unfold readDynamicInto
  refine Reads.ite (fun _ => ?_) fun _ => Reads.throw_bind (hE (Error.mismatch _ _) rfl)
  refine Reads.bind (Reads.of_keeps (mappingList_keeps ht) fun R hR => mappingList_sim hR t ver)
    fun l hl => ?_
  dsimp only
  refine Reads.bind (Reads.forIn (fun mp hmp _ => ?_) _) fun _ _ => Reads.pure _ trivial
  refine Reads.bind (readValue_reads hE (freshList_reaches_buildable hl mp hmp) horr _ rfl)
    fun v _ => ?_
  exact Reads.bind (updateAt_reads hE (fun x => storeMember_reads hset
    (freshList_declares hl mp hmp) v x) _ _) fun _ _ => Reads.pure _ trivial

/-- The compiled engine reads each accessor's member and stores it through the typed
accessor, or through the members along its cascade path. -/
theorem readLayout_reads
    {accessors : List Accessor}
    (hacc : ∀ a ∈ accessors, ReachesBuildable cat o ver a.mapping.converter)
    (hdecl : ∀ a ∈ accessors, cat.Declares a.mapping.member.info)
    (htyped : ∀ a ∈ accessors, cat.HasTyped a.typed) (target : Value) {ctx : Ctx}
    (hctx : ctx.version = ver) :
    Reads (Session.FaithfulOver cat o) E (n + 1) (readLayout orr accessors target ctx)
      fun _ => True := by
  unfold readLayout
  refine Reads.bind (Reads.forIn (fun a ha cur => ?_) _) fun _ _ => Reads.pure _ trivial
  dsimp only
  refine Reads.bind (readValue_reads hE (hacc a ha) horr _ hctx) fun v _ => ?_
  split
  · split
    · next s hs =>
        refine Reads.bind (Reads.lift fun err h => hset err ?_) fun _ _ => Reads.pure _ trivial
        exact ⟨s, .inr ⟨a.typed, htyped a ha, hs⟩, _, _, h⟩
    · exact Reads.bind (Reads.log (fun h hs => h.refresh hs) _ _) fun _ _ => Reads.pure _ trivial
  · split
    · exact Reads.bind (updateAt_reads hE (fun x => storeMember_reads hset (hdecl a ha) v x) _ _)
        fun _ _ => Reads.pure _ trivial
    · exact Reads.throw_bind (hE (.internal (.typedAccess _ _)) rfl)

end Objects

/-! ## Objects whose mapping list fails -/

section Failing

variable {ver : Option Version} {t : Ty} {err : Error} (hl : freshList cat o t ver = .error err)
  (herr : E err)
include hl herr

theorem mappingList_reads_error :
    Reads (Session.FaithfulOver cat o) E n (mappingList t ver) fun _ => False := by
  refine ((mappingList_answers_freshly t ver).reads fun err' h => ?_).imp fun l hl' => ?_
  · rw [hl] at h
    cases h
    exact herr
  · rw [hl] at hl'
    cases hl'

theorem compiled_reads_error :
    Reads (Session.FaithfulOver cat o) E n (compiled t ver) fun _ => False := by
  unfold compiled
  exact Reads.bind (mappingList_reads_error hl herr) fun _ h => h.elim

theorem readDynamicInto_reads_error
    (hE : ∀ e, e.isReadFault = true → E e) (orr : ObjectReader) (target : Typed) :
    Reads (Session.FaithfulOver cat o) E n (readDynamicInto orr t target ver) fun _ => True := by
  unfold readDynamicInto
  refine Reads.ite (fun _ => ?_) fun _ => Reads.throw_bind (hE (Error.mismatch _ _) rfl)
  exact Reads.bind (mappingList_reads_error hl herr) fun _ h => h.elim

theorem readObject_reads_error
    (hE : ∀ e, e.isReadFault = true → E e) :
    ∀ k e, Reads (Session.FaithfulOver cat o) E k (readObject k t e ver) fun _ => True
  | 0, _ => Reads.zero
  | k + 1, e => by
      rw [readObject]
      cases e with
      | dynamic =>
          exact Reads.bind (Reads.defaultOf t) fun _ _ =>
            readDynamicInto_reads_error hl herr hE _ _
      | compiled => exact Reads.bind (compiled_reads_error hl herr) fun _ h => h.elim

end Failing

/-- Objects of types that build are read within the depth bound, failing only with read
faults and setter faults: by induction on the bound, an object one level up reading each of
its members' values within one byte more than the objects below. At a bound of zero no
machine is within the budget, so running out of depth never happens within it. -/
theorem readObject_reads
    (hE : ∀ e, e.isReadFault = true → E e) (hset : ∀ e, cat.SetterFault e → E e)
    {ver : Option Version} :
    ∀ k t e, Buildable cat o ver t →
      Reads (Session.FaithfulOver cat o) E k (readObject k t e ver) fun _ => True
  | 0, _, _, _ => Reads.zero
  | k + 1, t, e, ht => by
      have hbelow : ∀ t e, Buildable cat o ver t →
          Reads (Session.FaithfulOver cat o) E k (readObject k t e ver) fun _ => True :=
        readObject_reads hE hset k
      rw [readObject]
      cases e with
      | dynamic =>
          exact Reads.bind (Reads.defaultOf t) fun _ _ =>
            readDynamicInto_reads hE hset hbelow ht _
      | compiled =>
          refine Reads.bind (compiled_reads hE ht) fun acc hacc => ?_
          exact Reads.bind (Reads.defaultOf t) fun _ _ =>
            readLayout_reads hE hset hbelow (fun a ha => (hacc a ha).1) (fun a ha => (hacc a ha).2.1)
              (fun a ha => (hacc a ha).2.2) _ rfl

end Run

end ObjectWire
