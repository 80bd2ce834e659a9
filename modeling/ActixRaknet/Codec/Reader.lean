import ActixRaknet.Basic
import ActixRaknet.Library.ByteOrder

/-!
`reader.rs`: the cursor the decoders read from.

* `Reader`, `ReadM`: the cursor, and the reading operations, which fail with an `IoError`;
* `Reader.facing`: a reader that has consumed `done` and faces `rest`, the form every decoding
  lemma is stated in: `readExact_facing` and the lemmas after it say what each operation reads
  and what it then faces;
* `readNat_lt`: a number that was read fits its width, whatever the input.
-/

namespace ActixRaknet

open Fallible ByteOrder

/-- `std::io::Error`, as far as the decoders produce it. -/
inductive IoError
  /-- The bytes end inside the field that is read. -/
  | unexpectedEof
  /-- `ErrorKind::Other` with the message of a `FromUtf8Error`. -/
  | invalidUtf8
  /-- `ErrorKind::Other` with its message. -/
  | other (msg : String)
  deriving DecidableEq, Repr

/-- `Endian`: the byte order of a field. -/
inductive Endian
  | big
  | little
  deriving DecidableEq, Repr

/-- The `w` bytes of `n` in the given byte order. -/
def Endian.toBytes : Endian → ℕ → ℕ → Bytes
  | .big => beBytes
  | .little => leBytes

/-- The number a byte string denotes in the given byte order. -/
def Endian.toNat : Endian → Bytes → ℕ
  | .big => ofBe
  | .little => ofLe

@[simp] lemma Endian.toBytes_length (e : Endian) (w n : ℕ) : (e.toBytes w n).length = w := by
  cases e
  · exact beBytes_length w n
  · exact leBytes_length w n

lemma Endian.toNat_toBytes (e : Endian) {w n : ℕ} (h : n < 256 ^ w) :
    e.toNat (e.toBytes w n) = n := by
  cases e
  · exact ofBe_beBytes_of_lt h
  · exact ofLe_leBytes_of_lt h

lemma Endian.toNat_lt (e : Endian) (bs : Bytes) : e.toNat bs < 256 ^ bs.length := by
  cases e
  · exact ofBe_lt bs
  · exact ofLe_lt bs

/-- `Reader`: a byte string and the position of the next byte to read.  The position may pass the
end of the bytes, since `next` does not look at them. -/
structure Reader where
  buf : Bytes
  pos : ℕ
  deriving DecidableEq, Repr

/-- A reading operation: it moves the cursor or fails. -/
abbrev ReadM (α : Type) := StateT Reader (Except IoError) α

namespace Reader

/-- `Reader::new`. -/
def new (buf : Bytes) : Reader := ⟨buf, 0⟩

/-- `Reader::read`, the `read_exact` of a buffer of `n` bytes. -/
def readExact (n : ℕ) : ReadM Bytes := fun r =>
  if n ≤ (r.buf.drop r.pos).length then
    .ok ((r.buf.drop r.pos).take n, { r with pos := r.pos + n })
  else .error .unexpectedEof

/-- The number in the next `w` bytes. -/
def readNat (w : ℕ) (n : Endian) : ReadM ℕ := n.toNat <$> readExact w

/-- `Reader::read_u8`. -/
def readU8 : ReadM UInt8 := UInt8.ofNat <$> readNat 1 .big

/-- `Reader::read_u16`. -/
def readU16 (n : Endian) : ReadM UInt16 := UInt16.ofNat <$> readNat 2 n

/-- `Reader::read_u24`. -/
def readU24 (n : Endian) : ReadM ℕ := readNat 3 n

/-- `Reader::read_u32`. -/
def readU32 (n : Endian) : ReadM UInt32 := UInt32.ofNat <$> readNat 4 n

/-- `Reader::read_u64`. -/
def readU64 (n : Endian) : ReadM UInt64 := UInt64.ofNat <$> readNat 8 n

/-- `Reader::read_i64`: the same eight bytes in two's complement. -/
def readI64 (n : Endian) : ReadM Int64 := UInt64.toInt64 <$> readU64 n

/-- `Reader::next`: skip `n` bytes, whether or not they are there. -/
def next (n : ℕ) : ReadM Unit := modify fun r => { r with pos := r.pos + n }

/-- An `if` around a read: a field that is not there keeps its initial value. -/
def readIf {α : Type} (b : Bool) (m : ReadM α) (initial : α) : ReadM α :=
  if b = true then m else pure initial

/-! ### What an operation reads -/

/-- A reader that has consumed `done` and faces `rest`. -/
def facing (done rest : Bytes) : Reader := ⟨done ++ rest, done.length⟩

@[simp] lemma facing_nil_eq_new (buf : Bytes) : facing [] buf = new buf := rfl

@[simp] lemma facing_pos (done rest : Bytes) : (facing done rest).pos = done.length := rfl

@[simp] lemma facing_buf (done rest : Bytes) : (facing done rest).buf = done ++ rest := rfl

lemma readExact_facing (done xs rest : Bytes) {n : ℕ} (h : xs.length = n) :
    (readExact n).run (facing done (xs ++ rest)) = .ok (xs, facing (done ++ xs) rest) := by
  subst h
  have hdrop : (done ++ (xs ++ rest)).drop done.length = xs ++ rest := List.drop_left
  simp [StateT.run, readExact, facing, hdrop]

lemma readNat_facing (done rest : Bytes) (e : Endian) {w n : ℕ} (h : n < 256 ^ w) :
    (readNat w e).run (facing done (e.toBytes w n ++ rest))
      = .ok (n, facing (done ++ e.toBytes w n) rest) := by
  rw [readNat, StateT.run_map, readExact_facing _ _ _ (e.toBytes_length w n), map_ok,
    e.toNat_toBytes h]

@[simp] lemma readU8_facing (done rest : Bytes) (b : UInt8) :
    readU8.run (facing done (b :: rest)) = .ok (b, facing (done ++ [b]) rest) := by
  have h := readExact_facing done [b] rest (n := 1) rfl
  rw [List.singleton_append] at h
  rw [readU8, readNat, StateT.run_map, StateT.run_map, h, map_ok, map_ok]
  simp [Endian.toNat, ofBe, ofLe]

@[simp] lemma readU16_facing (done rest : Bytes) (e : Endian) (v : UInt16) :
    (readU16 e).run (facing done (e.toBytes 2 v.toNat ++ rest))
      = .ok (v, facing (done ++ e.toBytes 2 v.toNat) rest) := by
  rw [readU16, StateT.run_map, readNat_facing _ _ _ v.toNat_lt, map_ok, UInt16.ofNat_toNat]

@[simp] lemma readU24_facing (done rest : Bytes) (e : Endian) {v : ℕ} (h : v < 2 ^ 24) :
    (readU24 e).run (facing done (e.toBytes 3 v ++ rest))
      = .ok (v, facing (done ++ e.toBytes 3 v) rest) :=
  readNat_facing done rest e h

@[simp] lemma readU32_facing (done rest : Bytes) (e : Endian) (v : UInt32) :
    (readU32 e).run (facing done (e.toBytes 4 v.toNat ++ rest))
      = .ok (v, facing (done ++ e.toBytes 4 v.toNat) rest) := by
  rw [readU32, StateT.run_map, readNat_facing _ _ _ v.toNat_lt, map_ok, UInt32.ofNat_toNat]

@[simp] lemma readU64_facing (done rest : Bytes) (e : Endian) (v : UInt64) :
    (readU64 e).run (facing done (e.toBytes 8 v.toNat ++ rest))
      = .ok (v, facing (done ++ e.toBytes 8 v.toNat) rest) := by
  rw [readU64, StateT.run_map, readNat_facing _ _ _ v.toNat_lt, map_ok, UInt64.ofNat_toNat]

@[simp] lemma readI64_facing (done rest : Bytes) (e : Endian) (v : Int64) :
    (readI64 e).run (facing done (e.toBytes 8 v.toUInt64.toNat ++ rest))
      = .ok (v, facing (done ++ e.toBytes 8 v.toUInt64.toNat) rest) := by
  rw [readI64, StateT.run_map, readU64_facing, map_ok, Int64.toInt64_toUInt64]

lemma next_facing (done xs rest : Bytes) {n : ℕ} (h : xs.length = n) :
    (next n).run (facing done (xs ++ rest)) = .ok ((), facing (done ++ xs) rest) := by
  subst h
  simp [next, facing]

/-- An optional field is read back from its optional bytes. -/
lemma readIf_facing {α : Type} {m : ReadM α} {v z : α} {bs : Bytes} (b : Bool)
    (done rest : Bytes)
    (h : m.run (facing done (bs ++ rest)) = .ok (v, facing (done ++ bs) rest)) :
    (readIf b m z).run (facing done ((if b = true then bs else []) ++ rest))
      = .ok (if b = true then v else z,
          facing (done ++ if b = true then bs else []) rest) := by
  cases b with
  | false => simp [readIf]
  | true => simpa [readIf] using h

/-! ### Reads that have their bytes -/

/-- `m` takes `k` bytes off every reader that still has them, whatever they are. -/
def Takes {α : Type} (m : ReadM α) (k : ℕ) : Prop :=
  ∀ r, r.pos + k ≤ r.buf.length → ∃ a, m.run r = .ok (a, { r with pos := r.pos + k })

lemma takes_pure {α : Type} (a : α) : Takes (pure a : ReadM α) 0 := by
  intro r _
  exact ⟨a, rfl⟩

lemma Takes.bind {α β : Type} {m : ReadM α} {f : α → ReadM β} {j k : ℕ} (h : Takes m j)
    (h' : ∀ a, Takes (f a) k) : Takes (m >>= f) (j + k) := by
  intro r hr
  obtain ⟨a, ha⟩ := h r (by omega)
  obtain ⟨b, hb⟩ := h' a { r with pos := r.pos + j } (by simp only; omega)
  refine ⟨b, ?_⟩
  rw [StateT.run_bind, ha, ok_bind, hb, Nat.add_assoc]

lemma Takes.map {α β : Type} {m : ReadM α} {k : ℕ} (f : α → β) (h : Takes m k) :
    Takes (f <$> m) k := by
  intro r hr
  obtain ⟨a, ha⟩ := h r hr
  exact ⟨f a, by rw [StateT.run_map, ha, map_ok]⟩

/-- The bytes `read_exact` takes. -/
lemma readExact_of_le {r : Reader} {n : ℕ} (h : r.pos + n ≤ r.buf.length) :
    ∃ xs, xs.length = n ∧ (readExact n).run r = .ok (xs, { r with pos := r.pos + n }) := by
  have hn : n ≤ (r.buf.drop r.pos).length := by
    rw [List.length_drop]
    omega
  exact ⟨(r.buf.drop r.pos).take n, by rw [List.length_take, Nat.min_eq_left hn], if_pos hn⟩

/-- A number is not read off a reader that is too short. -/
lemma readNat_eof {r : Reader} {w : ℕ} (n : Endian) (h : r.buf.length - r.pos < w) :
    (readNat w n).run r = .error .unexpectedEof := by
  have hread : (readExact w).run r = .error .unexpectedEof := by
    refine if_neg ?_
    rw [List.length_drop]
    omega
  rw [readNat, StateT.run_map, hread]
  rfl

lemma readU8_eof {r : Reader} (h : r.buf.length < r.pos + 1) :
    readU8.run r = .error .unexpectedEof := by
  rw [readU8, StateT.run_map, readNat_eof .big (by omega)]
  rfl

lemma readU64_eof {r : Reader} (n : Endian) (h : r.buf.length < r.pos + 8) :
    (readU64 n).run r = .error .unexpectedEof := by
  rw [readU64, StateT.run_map, readNat_eof n (by omega)]
  rfl

lemma takes_readU16 (n : Endian) : Takes (readU16 n) 2 := by
  have h : Takes (readExact 2) 2 := by
    intro r hr
    obtain ⟨xs, -, hxs⟩ := readExact_of_le hr
    exact ⟨xs, hxs⟩
  exact (h.map _).map _

/-! ### Bounds on what is read -/

/-- Whenever `m` succeeds it has moved the cursor by at least `k` bytes. -/
def Advances {α : Type} (m : ReadM α) (k : ℕ) : Prop :=
  ∀ r a r', m.run r = .ok (a, r') → r.pos + k ≤ r'.pos

lemma advances_pure {α : Type} (a : α) : Advances (pure a : ReadM α) 0 := by
  intro r b r' h
  simp only [StateT.run_pure, pure_eq_ok, Except.ok.injEq, Prod.mk.injEq] at h
  rw [h.2, Nat.add_zero]

lemma Advances.bind {α β : Type} {m : ReadM α} {f : α → ReadM β} {j k : ℕ} (h : Advances m j)
    (h' : ∀ a, Advances (f a) k) : Advances (m >>= f) (j + k) := by
  intro r b r' hrun
  rw [StateT.run_bind, bind_eq_ok] at hrun
  obtain ⟨⟨a, r₁⟩, hm, hf⟩ := hrun
  have h₁ := h r a r₁ hm
  have h₂ := h' a r₁ b r' hf
  omega

lemma Advances.map {α β : Type} {m : ReadM α} {k : ℕ} (f : α → β) (h : Advances m k) :
    Advances (f <$> m) k := by
  intro r b r' hrun
  rw [StateT.run_map, map_eq_ok] at hrun
  obtain ⟨⟨a, r₁⟩, hm, heq⟩ := hrun
  rw [Prod.mk.injEq] at heq
  exact heq.2 ▸ h r a r₁ hm

lemma Advances.mono {α : Type} {m : ReadM α} {j k : ℕ} (h : Advances m k) (hjk : j ≤ k) :
    Advances m j :=
  fun r a r' hrun => (Nat.add_le_add_left hjk r.pos).trans (h r a r' hrun)

lemma Advances.readIf {α : Type} {m : ReadM α} {k : ℕ} (b : Bool) (z : α) (h : Advances m k) :
    Advances (readIf b m z) 0 := by
  cases b with
  | false => exact advances_pure z
  | true => exact h.mono (Nat.zero_le k)

/-- An `io::Result` in the middle of a decoder does not touch the cursor. -/
lemma advances_lift {α : Type} (x : Except IoError α) : Advances (liftM x : ReadM α) 0 := by
  intro r a r' h
  rw [StateT.run_monadLift, bind_eq_ok] at h
  obtain ⟨b, -, h⟩ := h
  simp only [pure_eq_ok, Except.ok.injEq, Prod.mk.injEq] at h
  rw [h.2, Nat.add_zero]

lemma advances_readExact (n : ℕ) : Advances (readExact n) n := by
  intro r bs r' h
  simp only [StateT.run, readExact, ite_error_eq_ok, Except.ok.injEq, Prod.mk.injEq] at h
  exact h.2.2 ▸ le_rfl

lemma advances_readNat (w : ℕ) (n : Endian) : Advances (readNat w n) w :=
  (advances_readExact w).map _

lemma advances_readU8 : Advances readU8 1 := (advances_readNat 1 .big).map _

lemma advances_readU16 (n : Endian) : Advances (readU16 n) 2 := (advances_readNat 2 n).map _

lemma advances_readU24 (n : Endian) : Advances (readU24 n) 3 := advances_readNat 3 n

lemma advances_readU32 (n : Endian) : Advances (readU32 n) 4 := (advances_readNat 4 n).map _

lemma advances_next (n : ℕ) : Advances (next n) n := by
  intro r a r' h
  simp only [next, StateT.run_modify, pure_eq_ok, Except.ok.injEq, Prod.mk.injEq] at h
  exact h.2 ▸ le_rfl

lemma readNat_lt {r r' : Reader} {w v : ℕ} {e : Endian}
    (h : (readNat w e).run r = .ok (v, r')) : v < 256 ^ w := by
  rw [readNat, StateT.run_map, map_eq_ok] at h
  obtain ⟨⟨bs, r₁⟩, hread, heq⟩ := h
  simp only [StateT.run, readExact, ite_error_eq_ok, Except.ok.injEq, Prod.mk.injEq] at hread heq
  obtain ⟨hlen, rfl, rfl⟩ := hread
  have hv := e.toNat_lt ((r.buf.drop r.pos).take w)
  rw [List.length_take, Nat.min_eq_left hlen, heq.1] at hv
  exact hv

lemma readU24_lt {r r' : Reader} {v : ℕ} {e : Endian}
    (h : (readU24 e).run r = .ok (v, r')) : v < 2 ^ 24 :=
  readNat_lt h

end Reader

end ActixRaknet
