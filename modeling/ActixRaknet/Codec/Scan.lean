import ActixRaknet.Codec.Reader

/-!
What a successful read says about the bytes.

* `Spells m R`: whenever `m` succeeds, the bytes between its two positions are an image `R a` of
  what it returned, once the bytes it skipped past the end are filled in;
* `Scans m R`: conversely `m` reads every image, and stops behind it;
* `Scans.unique`: no image is a proper prefix of another;
* `Laid`, `Parses`: a result read off fields that lie one behind the other;
* `Keeps`, `Lands`: where the cursor stops; `Needs`: whether a read succeeds, where this depends
  on the length alone.
-/

namespace ActixRaknet

open Fallible

namespace Reader

variable {α β : Type}

/-- The bytes of `bs` from position `i` to position `j`. -/
def between (bs : Bytes) (i j : ℕ) : Bytes := (bs.drop i).take (j - i)

@[simp] lemma between_self (bs : Bytes) (i : ℕ) : between bs i i = [] := by
  rw [between, Nat.sub_self, List.take_zero]

lemma between_append {bs : Bytes} {i j k : ℕ} (hij : i ≤ j) (hjk : j ≤ k) :
    between bs i k = between bs i j ++ between bs j k := by
  have hk : k - i = (j - i) + (k - j) := by omega
  have hj : i + (j - i) = j := by omega
  rw [between, hk, List.take_add, List.drop_drop, hj, between, between]

lemma between_length {bs : Bytes} {i j : ℕ} (hj : j ≤ bs.length) :
    (between bs i j).length = j - i := by
  rw [between, List.length_take, List.length_drop]
  omega

/-- The bytes behind a position, up to the end. -/
lemma between_end (bs : Bytes) (i : ℕ) : between bs i bs.length = bs.drop i := by
  rw [between, List.take_of_length_le (by rw [List.length_drop])]

/-- What `m` returns, its bytes are an image `R` of.  The bytes behind the end of the buffer that
it skipped may be any. -/
def Spells (m : ReadM α) (R : α → Bytes → Prop) : Prop :=
  ∀ r a r', m.run r = .ok (a, r') → r'.buf = r.buf ∧ r.pos ≤ r'.pos
    ∧ ∀ t, r'.pos ≤ (r.buf ++ t).length → R a (between (r.buf ++ t) r.pos r'.pos)

/-- `m` reads exactly the images `R` of its results. -/
structure Scans (m : ReadM α) (R : α → Bytes → Prop) : Prop where
  reads : ∀ {done x rest a}, R a x →
    m.run (facing done (x ++ rest)) = .ok (a, facing (done ++ x) rest)
  spells : Spells m R

/-! ### Rules -/

lemma Spells.imp {m : ReadM α} {R S : α → Bytes → Prop} (h : Spells m R)
    (hRS : ∀ a x, R a x → S a x) : Spells m S := by
  intro r a r' hrun
  obtain ⟨hbuf, hpos, hx⟩ := h r a r' hrun
  exact ⟨hbuf, hpos, fun t ht => hRS _ _ (hx t ht)⟩

lemma Scans.congr {m : ReadM α} {R S : α → Bytes → Prop} (h : Scans m R)
    (hRS : ∀ a x, R a x ↔ S a x) : Scans m S where
  reads := fun hx => h.reads ((hRS _ _).mpr hx)
  spells := h.spells.imp fun a x => (hRS a x).mp

lemma scans_pure (a : α) : Scans (pure a) fun b x => b = a ∧ x = [] where
  reads := by
    rintro done x rest b ⟨rfl, rfl⟩
    rw [StateT.run_pure, List.append_nil, List.nil_append, pure_eq_ok]
  spells := by
    intro r b r' h
    rw [StateT.run_pure, pure_eq_ok, Except.ok.injEq, Prod.mk.injEq] at h
    obtain ⟨rfl, rfl⟩ := h
    exact ⟨rfl, le_rfl, fun t _ => ⟨rfl, between_self _ _⟩⟩

/-- A sequence of two operations reads an image of each, one behind the other. -/
lemma Spells.bind {m : ReadM α} {f : α → ReadM β} {R : α → Bytes → Prop}
    {S : α → β → Bytes → Prop} (h : Spells m R) (h' : ∀ a, Spells (f a) (S a)) :
    Spells (m >>= f) fun b z => ∃ a x y, z = x ++ y ∧ R a x ∧ S a b y := by
  intro r b r' hrun
  rw [StateT.run_bind, bind_eq_ok] at hrun
  obtain ⟨⟨a, r₁⟩, hm, hf⟩ := hrun
  obtain ⟨hbuf₁, hpos₁, hx⟩ := h r a r₁ hm
  obtain ⟨hbuf₂, hpos₂, hy⟩ := h' a r₁ b r' hf
  refine ⟨hbuf₂.trans hbuf₁, hpos₁.trans hpos₂, fun t ht => ?_⟩
  rw [hbuf₁] at hy
  exact ⟨a, _, _, between_append hpos₁ hpos₂, hx t (hpos₂.trans ht), hy t ht⟩

lemma Scans.bind {m : ReadM α} {f : α → ReadM β} {R : α → Bytes → Prop}
    {S : α → β → Bytes → Prop} (h : Scans m R) (h' : ∀ a, Scans (f a) (S a)) :
    Scans (m >>= f) fun b z => ∃ a x y, z = x ++ y ∧ R a x ∧ S a b y where
  reads := by
    rintro done _ rest b ⟨a, x, y, rfl, hx, hy⟩
    rw [StateT.run_bind, List.append_assoc, h.reads hx, ok_bind, (h' a).reads hy,
      List.append_assoc]
  spells := h.spells.bind fun a => (h' a).spells

lemma Scans.map {m : ReadM α} {R : α → Bytes → Prop} (f : α → β) (h : Scans m R) :
    Scans (f <$> m) fun b x => ∃ a, R a x ∧ f a = b where
  reads := by
    rintro done x rest _ ⟨a, hx, rfl⟩
    rw [StateT.run_map, h.reads hx, map_ok]
  spells := by
    intro r b r' hrun
    rw [StateT.run_map, map_eq_ok] at hrun
    obtain ⟨⟨a, r₁⟩, hm, heq⟩ := hrun
    rw [Prod.mk.injEq] at heq
    obtain ⟨rfl, rfl⟩ := heq
    obtain ⟨hbuf, hpos, hx⟩ := h.spells r a r₁ hm
    exact ⟨hbuf, hpos, fun t ht => ⟨a, hx t ht, rfl⟩⟩

/-- An `io::Result` in the middle of a decoder reads nothing. -/
lemma scans_lift (x : Except IoError α) :
    Scans (liftM x : ReadM α) fun a bs => x = .ok a ∧ bs = [] := by
  cases x with
  | ok a =>
      refine (scans_pure a).congr fun b bs => and_congr_left fun _ => ?_
      rw [Except.ok.injEq, eq_comm]
  | error e =>
      refine ⟨?_, ?_⟩
      · rintro done bs rest a ⟨h, -⟩
        cases h
      · rintro r a r' h
        cases h

/-- The bytes of a field that is there when `b` holds; a field that is not there has its initial
value and no bytes. -/
def Field (b : Bool) (R : α → Bytes → Prop) (initial a : α) (x : Bytes) : Prop :=
  if b = true then R a x else a = initial ∧ x = []

/-- The length of a field whose images all have one length. -/
lemma Field.length_eq {b : Bool} {R : α → Bytes → Prop} {z a : α} {x : Bytes} {k : ℕ}
    (h : Field b R z a x) (hR : ∀ a x, R a x → x.length = k) :
    x.length = if b then k else 0 := by
  cases b with
  | false => exact congrArg List.length h.2
  | true => exact hR a x h

lemma Scans.readIf {m : ReadM α} {R : α → Bytes → Prop} (h : Scans m R) (b : Bool) (z : α) :
    Scans (readIf b m z) (Field b R z) := by
  cases b with
  | false => exact scans_pure z
  | true => exact h

/-! ### The operations of the reader -/

lemma scans_readExact (n : ℕ) : Scans (readExact n) fun a x => x = a ∧ x.length = n where
  reads := by
    rintro done x rest _ ⟨rfl, hx⟩
    exact readExact_facing done x rest hx
  spells := by
    intro r a r' h
    simp only [StateT.run, readExact, ite_error_eq_ok, Except.ok.injEq, Prod.mk.injEq] at h
    obtain ⟨hn, rfl, rfl⟩ := h
    refine ⟨rfl, Nat.le_add_right _ _, fun t ht => ?_⟩
    have hseg : between (r.buf ++ t) r.pos (r.pos + n) = (r.buf.drop r.pos).take n := by
      rcases Nat.eq_zero_or_pos n with rfl | hpos
      · rw [Nat.add_zero, between_self, List.take_zero]
      · have hle : r.pos ≤ r.buf.length := by
          rw [List.length_drop] at hn
          omega
        rw [between, Nat.add_sub_cancel_left, List.drop_append_of_le_length hle,
          List.take_append_of_le_length hn]
    exact ⟨hseg, by rw [between_length ht, Nat.add_sub_cancel_left]⟩

/-- The `w` bytes of a field whose value `f` makes of their number. -/
def Word (f : ℕ → α) (w : ℕ) (e : Endian) (a : α) (x : Bytes) : Prop :=
  x.length = w ∧ f (e.toNat x) = a

/-- The `w` bytes of a number. -/
def Number (e : Endian) (w n : ℕ) (x : Bytes) : Prop := x.length = w ∧ e.toNat x = n

lemma scans_readNat (w : ℕ) (e : Endian) : Scans (readNat w e) (Number e w) :=
  ((scans_readExact w).map e.toNat).congr fun n x => by
    constructor
    · rintro ⟨_, ⟨rfl, hx⟩, rfl⟩
      exact ⟨hx, rfl⟩
    · rintro ⟨hx, rfl⟩
      exact ⟨x, ⟨rfl, hx⟩, rfl⟩

lemma scans_word (f : ℕ → α) (w : ℕ) (e : Endian) : Scans (f <$> readNat w e) (Word f w e) :=
  ((scans_readNat w e).map f).congr fun a x => by
    constructor
    · rintro ⟨_, ⟨hx, rfl⟩, rfl⟩
      exact ⟨hx, rfl⟩
    · rintro ⟨hx, rfl⟩
      exact ⟨_, ⟨hx, rfl⟩, rfl⟩

lemma scans_readU8 : Scans readU8 fun a x => x = [a] where
  reads := by
    rintro done _ rest a rfl
    exact readU8_facing done rest a
  spells := (scans_word UInt8.ofNat 1 .big).spells.imp <| by
    rintro a x ⟨hlen, rfl⟩
    obtain ⟨b, rfl⟩ := List.length_eq_one_iff.mp hlen
    simp [Endian.toNat, ByteOrder.ofBe, ByteOrder.ofLe]

lemma scans_readU16 (e : Endian) : Scans (readU16 e) (Word UInt16.ofNat 2 e) := scans_word _ 2 e

lemma scans_readU24 (e : Endian) : Scans (readU24 e) (Number e 3) := scans_readNat 3 e

lemma scans_readU32 (e : Endian) : Scans (readU32 e) (Word UInt32.ofNat 4 e) := scans_word _ 4 e

lemma scans_readU64 (e : Endian) : Scans (readU64 e) (Word UInt64.ofNat 8 e) := scans_word _ 8 e

lemma scans_readI64 (e : Endian) :
    Scans (readI64 e) (Word (fun n => (UInt64.ofNat n).toInt64) 8 e) :=
  ((scans_readU64 e).map UInt64.toInt64).congr fun a x => by
    constructor
    · rintro ⟨_, ⟨hx, rfl⟩, rfl⟩
      exact ⟨hx, rfl⟩
    · rintro ⟨hx, rfl⟩
      exact ⟨_, ⟨hx, rfl⟩, rfl⟩

/-- `next` takes bytes of any value. -/
lemma scans_next (n : ℕ) : Scans (next n) fun _ x => x.length = n where
  reads := fun hx => next_facing _ _ _ hx
  spells := by
    intro r a r' h
    simp only [next, StateT.run_modify, pure_eq_ok, Except.ok.injEq, Prod.mk.injEq] at h
    obtain ⟨-, rfl⟩ := h
    refine ⟨rfl, Nat.le_add_right _ _, fun t ht => ?_⟩
    exact (between_length ht).trans (Nat.add_sub_cancel_left _ _)

/-! ### Fields one behind the other -/

/-- The bytes of a list of fields, one behind the other. -/
inductive Laid : List (Bytes → Prop) → Bytes → Prop
  | nil : Laid [] []
  | cons {F : Bytes → Prop} {Fs : List (Bytes → Prop)} {x y : Bytes} (hx : F x)
      (hy : Laid Fs y) : Laid (F :: Fs) (x ++ y)

lemma Laid.imp {Fs Gs : List (Bytes → Prop)} {x : Bytes} (h : Laid Fs x)
    (hFG : List.Forall₂ (fun F G => ∀ x, F x → G x) Fs Gs) : Laid Gs x := by
  induction hFG generalizing x with
  | nil => exact h
  | cons hF _ ih =>
      cases h with
      | cons hx hy => exact Laid.cons (hF _ hx) (ih hy)

lemma Laid.append {Fs Gs : List (Bytes → Prop)} {x y : Bytes} (h : Laid Fs x) (h' : Laid Gs y) :
    Laid (Fs ++ Gs) (x ++ y) := by
  induction h with
  | nil => exact h'
  | cons hx _ ih => exact (List.append_assoc _ _ _).symm ▸ Laid.cons hx ih

lemma Laid.split {Fs Gs : List (Bytes → Prop)} {x : Bytes} (h : Laid (Fs ++ Gs) x) :
    ∃ y z, x = y ++ z ∧ Laid Fs y ∧ Laid Gs z := by
  induction Fs generalizing x with
  | nil => exact ⟨[], x, rfl, .nil, h⟩
  | cons F Fs ih =>
      cases h with
      | cons hx hy =>
          rename_i x y
          obtain ⟨y, z, rfl, hFs, hGs⟩ := ih hy
          exact ⟨x ++ y, z, (List.append_assoc _ _ _).symm, .cons hx hFs, hGs⟩

/-- `m` reads its result off the bytes of some fields, `S a Fs`, one behind the other. -/
def Parses (m : ReadM α) (S : α → List (Bytes → Prop) → Prop) : Prop :=
  Spells m fun a x => ∃ Fs, S a Fs ∧ Laid Fs x

lemma parses_pure (a : α) : Parses (pure a) fun b Fs => b = a ∧ Fs = [] :=
  (scans_pure a).spells.imp <| by
    rintro b _ ⟨rfl, rfl⟩
    exact ⟨[], ⟨rfl, rfl⟩, Laid.nil⟩

/-- A field goes before those of the rest of a reader. -/
lemma Spells.field {m : ReadM α} {f : α → ReadM β} {R : α → Bytes → Prop}
    {S : α → β → List (Bytes → Prop) → Prop} (h : Spells m R) (h' : ∀ a, Parses (f a) (S a)) :
    Parses (m >>= f) fun b Fs => ∃ a Gs, Fs = R a :: Gs ∧ S a b Gs :=
  (h.bind h').imp <| by
    rintro b _ ⟨a, x, y, rfl, hx, Gs, hS, hy⟩
    exact ⟨_, ⟨a, Gs, rfl, hS⟩, Laid.cons hx hy⟩

lemma Scans.field_map {m : ReadM α} {R : α → Bytes → Prop} (f : α → β) (h : Scans m R) :
    Parses (f <$> m) fun b Fs => ∃ a, b = f a ∧ Fs = [R a] :=
  (h.map f).spells.imp <| by
    rintro _ x ⟨a, hx, rfl⟩
    exact ⟨_, ⟨a, rfl, rfl⟩, List.append_nil x ▸ Laid.cons hx Laid.nil⟩

/-- The fields of two readers, one behind the other. -/
lemma Parses.bind {m : ReadM α} {f : α → ReadM β} {S : α → List (Bytes → Prop) → Prop}
    {S' : α → β → List (Bytes → Prop) → Prop} (h : Parses m S) (h' : ∀ a, Parses (f a) (S' a)) :
    Parses (m >>= f) fun b Fs => ∃ a Gs Hs, Fs = Gs ++ Hs ∧ S a Gs ∧ S' a b Hs :=
  (Spells.bind h h').imp <| by
    rintro b _ ⟨a, x, y, rfl, ⟨Gs, hS, hx⟩, Hs, hS', hy⟩
    exact ⟨_, ⟨a, Gs, Hs, rfl, hS, hS'⟩, hx.append hy⟩

lemma Parses.map {m : ReadM α} {S : α → List (Bytes → Prop) → Prop} (f : α → β)
    (h : Parses m S) : Parses (f <$> m) fun b Fs => ∃ a, b = f a ∧ S a Fs := by
  intro r b r' hrun
  rw [StateT.run_map, map_eq_ok] at hrun
  obtain ⟨⟨a, r₁⟩, hm, heq⟩ := hrun
  obtain ⟨rfl, rfl⟩ := Prod.mk.inj heq
  obtain ⟨hbuf, hpos, hx⟩ := h r a r₁ hm
  refine ⟨hbuf, hpos, fun t ht => ?_⟩
  obtain ⟨Fs, hS, hlaid⟩ := hx t ht
  exact ⟨Fs, ⟨a, rfl, hS⟩, hlaid⟩

lemma parses_lift {x : Except IoError α} {f : α → ReadM β}
    {S : α → β → List (Bytes → Prop) → Prop} (h : ∀ a, Parses (f a) (S a)) :
    Parses ((liftM x : ReadM α) >>= f) fun b Fs => ∃ a, x = .ok a ∧ S a b Fs :=
  ((scans_lift x).spells.bind h).imp <| by
    rintro b _ ⟨a, _, y, rfl, ⟨hx, rfl⟩, Fs, hS, hy⟩
    exact ⟨Fs, ⟨a, hx, hS⟩, hy⟩

lemma parses_ite {c : Prop} [Decidable c] {m m' : ReadM α}
    {S S' : α → List (Bytes → Prop) → Prop} (h : Parses m S) (h' : Parses m' S') :
    Parses (if c then m else m') fun a Fs => c ∧ S a Fs ∨ ¬c ∧ S' a Fs := by
  by_cases hc : c
  · rw [if_pos hc]
    exact h.imp fun _ _ ⟨Fs, hS, hx⟩ => ⟨Fs, Or.inl ⟨hc, hS⟩, hx⟩
  · rw [if_neg hc]
    exact h'.imp fun _ _ ⟨Fs, hS, hx⟩ => ⟨Fs, Or.inr ⟨hc, hS⟩, hx⟩

/-! ### Reads that stop inside the bytes -/

/-- The cursor is not past the end. -/
def Inside (r : Reader) : Prop := r.pos ≤ r.buf.length

/-- `m` leaves a cursor that is not past the end where it is not past the end. -/
def Keeps (m : ReadM α) : Prop := ∀ r a r', m.run r = .ok (a, r') → r.Inside → r'.Inside

/-- `m` succeeds only with a cursor that is not past the end. -/
def Lands (m : ReadM α) : Prop := ∀ r a r', m.run r = .ok (a, r') → r'.Inside

lemma Lands.keeps {m : ReadM α} (h : Lands m) : Keeps m := fun r a r' hrun _ => h r a r' hrun

lemma keeps_pure (a : α) : Keeps (pure a : ReadM α) := by
  intro r b r' h hr
  rw [StateT.run_pure, pure_eq_ok, Except.ok.injEq, Prod.mk.injEq] at h
  exact h.2 ▸ hr

lemma keeps_lift (x : Except IoError α) : Keeps (liftM x : ReadM α) := by
  cases x with
  | ok a => exact keeps_pure a
  | error e =>
      rintro r a r' h
      cases h

lemma Lands.bind {m : ReadM α} {f : α → ReadM β} (h : Lands m) (h' : ∀ a, Keeps (f a)) :
    Lands (m >>= f) := by
  intro r b r' hrun
  rw [StateT.run_bind, bind_eq_ok] at hrun
  obtain ⟨⟨a, r₁⟩, hm, hf⟩ := hrun
  exact h' a r₁ b r' hf (h r a r₁ hm)

lemma Keeps.bind {m : ReadM α} {f : α → ReadM β} (h : Keeps m) (h' : ∀ a, Keeps (f a)) :
    Keeps (m >>= f) := by
  intro r b r' hrun hr
  rw [StateT.run_bind, bind_eq_ok] at hrun
  obtain ⟨⟨a, r₁⟩, hm, hf⟩ := hrun
  exact h' a r₁ b r' hf (h r a r₁ hm hr)

lemma Keeps.map {m : ReadM α} (f : α → β) (h : Keeps m) : Keeps (f <$> m) := by
  intro r b r' hrun hr
  rw [StateT.run_map, map_eq_ok] at hrun
  obtain ⟨⟨a, r₁⟩, hm, heq⟩ := hrun
  rw [Prod.mk.injEq] at heq
  exact heq.2 ▸ h r a r₁ hm hr

lemma Lands.bind_right {m : ReadM α} {f : α → ReadM β} (h : ∀ a, Lands (f a)) :
    Lands (m >>= f) := by
  intro r b r' hrun
  rw [StateT.run_bind, bind_eq_ok] at hrun
  obtain ⟨⟨a, r₁⟩, -, hf⟩ := hrun
  exact h a r₁ b r' hf

lemma Lands.map {m : ReadM α} (f : α → β) (h : Lands m) : Lands (f <$> m) := by
  intro r b r' hrun
  rw [StateT.run_map, map_eq_ok] at hrun
  obtain ⟨⟨a, r₁⟩, hm, heq⟩ := hrun
  rw [Prod.mk.injEq] at heq
  exact heq.2 ▸ h r a r₁ hm

lemma Keeps.readIf {m : ReadM α} (h : Keeps m) (b : Bool) (z : α) : Keeps (readIf b m z) := by
  cases b with
  | false => exact keeps_pure z
  | true => exact h

/-- A read of no bytes does not look at the buffer. -/
lemma eq_of_readExact_zero {r r' : Reader} {a : Bytes}
    (h : (readExact 0).run r = .ok (a, r')) : a = [] ∧ r' = r := by
  simp only [StateT.run, readExact, ite_error_eq_ok, Except.ok.injEq, Prod.mk.injEq] at h
  exact ⟨h.2.1.symm, h.2.2.symm⟩

lemma lands_readExact {n : ℕ} (hn : 0 < n) : Lands (readExact n) := by
  intro r a r' h
  simp only [StateT.run, readExact, ite_error_eq_ok, Except.ok.injEq, Prod.mk.injEq,
    List.length_drop] at h
  obtain ⟨hle, -, rfl⟩ := h
  simp only [Inside]
  omega

lemma keeps_readExact (n : ℕ) : Keeps (readExact n) := by
  rcases Nat.eq_zero_or_pos n with rfl | hn
  · intro r a r' h hr
    exact (eq_of_readExact_zero h).2 ▸ hr
  · exact (lands_readExact hn).keeps

lemma lands_readNat {w : ℕ} (hw : 0 < w) (e : Endian) : Lands (readNat w e) :=
  (lands_readExact hw).map _

lemma lands_readU8 : Lands readU8 := (lands_readNat Nat.one_pos .big).map _

lemma lands_readU16 (e : Endian) : Lands (readU16 e) := (lands_readNat Nat.two_pos e).map _

lemma lands_readU24 (e : Endian) : Lands (readU24 e) := lands_readNat (Nat.succ_pos 2) e

lemma lands_readU32 (e : Endian) : Lands (readU32 e) := (lands_readNat (Nat.succ_pos 3) e).map _

lemma lands_readU64 (e : Endian) : Lands (readU64 e) := (lands_readNat (Nat.succ_pos 7) e).map _

lemma lands_readI64 (e : Endian) : Lands (readI64 e) := (lands_readU64 e).map _

/-- What a reader that stays inside the payload returns lies at the front of the payload. -/
lemma Parses.own {m : ReadM α} {S : α → List (Bytes → Prop) → Prop} (h : Parses m S)
    {payload : Bytes} {a : α} {r : Reader} (hrun : m.run (new payload) = .ok (a, r))
    (hin : r.Inside) : ∃ Fs x rest, payload = x ++ rest ∧ S a Fs ∧ Laid Fs x := by
  obtain ⟨hbuf, -, hx⟩ := h _ _ _ hrun
  have hlen : r.pos ≤ (payload ++ []).length := by
    rw [List.append_nil]
    exact hin.trans (congrArg List.length hbuf).le
  obtain ⟨Fs, hS, hlaid⟩ := hx [] hlen
  refine ⟨Fs, _, payload.drop r.pos, ?_, hS, hlaid⟩
  change payload = between (payload ++ []) 0 r.pos ++ _
  rw [between, List.append_nil, List.drop_zero, Nat.sub_zero, List.take_append_drop]

/-! ### Reads whose success depends on the length alone -/

/-- `m` succeeds exactly where `k` bytes are left; its result satisfies `Q` and the cursor moves
on by `j`, over bytes that need not be there. -/
def Needs (m : ReadM α) (k j : ℕ) (Q : α → Prop) : Prop :=
  ∀ r, (r.pos + k ≤ r.buf.length → ∃ a, Q a ∧ m.run r = .ok (a, { r with pos := r.pos + j }))
    ∧ (r.buf.length < r.pos + k → ∃ e, m.run r = .error e)

lemma needs_readExact {n : ℕ} (hn : 0 < n) :
    Needs (readExact n) n n fun a => a.length = n := by
  refine fun r => ⟨fun hlen => ?_, fun hlen => ⟨.unexpectedEof, if_neg ?_⟩⟩
  · obtain ⟨xs, hxs, hrun⟩ := readExact_of_le hlen
    exact ⟨xs, hxs, hrun⟩
  · rw [List.length_drop]
    omega

lemma Needs.map {m : ReadM α} {k j : ℕ} {Q : α → Prop} (f : α → β) (h : Needs m k j Q) :
    Needs (f <$> m) k j fun _ => True := by
  refine fun r => ⟨fun hlen => ?_, fun hlen => ?_⟩
  · obtain ⟨a, -, hrun⟩ := (h r).1 hlen
    exact ⟨f a, trivial, by rw [StateT.run_map, hrun, map_ok]⟩
  · obtain ⟨e, hrun⟩ := (h r).2 hlen
    exact ⟨e, by rw [StateT.run_map, hrun]; rfl⟩

lemma Needs.bind {m : ReadM α} {f : α → ReadM β} {k j k' j' : ℕ} {Q : α → Prop} {Q' : β → Prop}
    (h : Needs m k j Q) (hkj : k ≤ j) (h' : ∀ a, Q a → Needs (f a) k' j' Q') :
    Needs (m >>= f) (j + k') (j + j') Q' := by
  refine fun r => ⟨fun hlen => ?_, fun hlen => ?_⟩
  · obtain ⟨a, ha, hrun⟩ := (h r).1 (by omega)
    obtain ⟨b, hb, hrun'⟩ := (h' a ha { r with pos := r.pos + j }).1 (by simp only; omega)
    exact ⟨b, hb, by rw [StateT.run_bind, hrun, ok_bind, hrun', Nat.add_assoc]⟩
  · rcases Nat.lt_or_ge r.buf.length (r.pos + k) with hshort | hlong
    · obtain ⟨e, hrun⟩ := (h r).2 hshort
      exact ⟨e, by rw [StateT.run_bind, hrun, error_bind]⟩
    · obtain ⟨a, ha, hrun⟩ := (h r).1 hlong
      obtain ⟨e, hrun'⟩ := (h' a ha { r with pos := r.pos + j }).2 (by simp only; omega)
      exact ⟨e, by rw [StateT.run_bind, hrun, ok_bind, hrun']⟩

lemma Needs.next {f : Unit → ReadM β} {n k j : ℕ} {Q : β → Prop} (h : ∀ u, Needs (f u) k j Q) :
    Needs (next n >>= f) (n + k) (n + j) Q := by
  intro r
  have hrun : (Reader.next n >>= f).run r = (f ()).run { r with pos := r.pos + n } := rfl
  have hf := h () { r with pos := r.pos + n }
  simp only [Nat.add_assoc] at hf
  exact ⟨fun hlen => hrun ▸ hf.1 hlen, fun hlen => hrun ▸ hf.2 hlen⟩

/-- What follows a read and always succeeds needs no bytes of its own. -/
lemma Needs.bind_moves {m : ReadM α} {f : α → ReadM β} {k j j' : ℕ} {Q : α → Prop}
    (h : Needs m k j Q)
    (h' : ∀ a, Q a → ∀ r, ∃ b, (f a).run r = .ok (b, { r with pos := r.pos + j' })) :
    Needs (m >>= f) k (j + j') fun _ => True := by
  refine fun r => ⟨fun hlen => ?_, fun hlen => ?_⟩
  · obtain ⟨a, ha, hrun⟩ := (h r).1 hlen
    obtain ⟨b, hrun'⟩ := h' a ha { r with pos := r.pos + j }
    exact ⟨b, trivial, by rw [StateT.run_bind, hrun, ok_bind, hrun', Nat.add_assoc]⟩
  · obtain ⟨e, hrun⟩ := (h r).2 hlen
    exact ⟨e, by rw [StateT.run_bind, hrun, error_bind]⟩

lemma Needs.bind_pure {m : ReadM α} {k j : ℕ} {Q : α → Prop} (h : Needs m k j Q) (f : α → β) :
    Needs (m >>= fun a => pure (f a)) k j fun _ => True := by
  have hpure : ∀ a, Q a → ∀ r,
      ∃ b, (pure (f a) : ReadM β).run r = .ok (b, { r with pos := r.pos + 0 }) :=
    fun a _ r => ⟨f a, rfl⟩
  exact h.bind_moves hpure

/-- When a cursor that `m` leaves has `n` bytes behind it. -/
lemma Needs.add_le_iff {m : ReadM α} {k j : ℕ} {Q : α → Prop} (h : Needs m k j Q) (r : Reader)
    (n : ℕ) : (∀ a cursor, m.run r = .ok (a, cursor) → cursor.pos + n ≤ r.buf.length)
      ↔ r.buf.length < r.pos + k ∨ r.pos + j + n ≤ r.buf.length := by
  rcases Nat.lt_or_ge r.buf.length (r.pos + k) with hshort | hlong
  · obtain ⟨e, hrun⟩ := (h r).2 hshort
    refine iff_of_true (fun a cursor hok => ?_) (Or.inl hshort)
    cases hrun.symm.trans hok
  · obtain ⟨a, -, hrun⟩ := (h r).1 hlong
    rw [or_iff_right (not_lt.mpr hlong)]
    refine ⟨fun hall => hall a _ hrun, fun hle a' cursor hok => ?_⟩
    cases hrun.symm.trans hok
    exact hle

lemma needs_readNat {w : ℕ} (hw : 0 < w) (e : Endian) :
    Needs (readNat w e) w w fun _ => True := (needs_readExact hw).map _

lemma needs_readU8 : Needs readU8 1 1 fun _ => True := (needs_readNat Nat.one_pos .big).map _

lemma needs_readU16 (e : Endian) : Needs (readU16 e) 2 2 fun _ => True :=
  (needs_readNat Nat.two_pos e).map _

/-! ### Images -/

/-- No image is a proper prefix of another: bytes that start with two images start with one. -/
lemma Scans.unique {m : ReadM α} {R : α → Bytes → Prop} (h : Scans m R) {a b : α}
    {x y s t : Bytes} (hx : R a x) (hy : R b y) (heq : x ++ s = y ++ t) : a = b ∧ x = y := by
  have hb : m.run (facing [] (x ++ s)) = .ok (b, facing ([] ++ y) t) := heq ▸ h.reads hy
  rw [h.reads hx, Except.ok.injEq, Prod.mk.injEq] at hb
  obtain ⟨rfl, hr⟩ := hb
  have hlen : x.length = y.length := congrArg Reader.pos hr
  exact ⟨rfl, (List.append_inj heq hlen).1⟩

end Reader

end ActixRaknet
