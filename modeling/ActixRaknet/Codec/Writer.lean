import ActixRaknet.Codec.Reader

/-!
`writer.rs`: the writer the encoders append with.

* `WriteM`: a writing operation, which appends to a byte string or panics;
* `Writes m v`: whatever was written before, `m` appends exactly the bytes `v`.  Every encoder is
  specified by the layout it writes in this sense, and layouts compose by `Writes.bind`;
* `Adds m k`: if `m` does not panic, it appends `k` bytes;
* `Appends m`: if `m` does not panic, it keeps what was written before;
* `Requires m P`, `Completes m`, `Asserts m`: `m` panics unless `P` holds, `m` does not panic, `m`
  panics for an assertion only.
-/

namespace ActixRaknet

open Fallible

/-- A writing operation: it appends to the bytes written so far or panics. -/
abbrev WriteM (α : Type) := StateT Bytes (Except Panic) α

namespace Writer

/-- `Writer::write`. -/
def write (v : Bytes) : WriteM Unit := modify fun inner => inner ++ v

/-- `Writer::write_u8`. -/
def writeU8 (v : UInt8) : WriteM Unit := write [v]

/-- `Writer::write_u16`. -/
def writeU16 (v : UInt16) (n : Endian) : WriteM Unit := write (n.toBytes 2 v.toNat)

/-- `Writer::write_u24`: `byteorder` asserts that the value fits three bytes. -/
def writeU24 (v : ℕ) (n : Endian) : WriteM Unit :=
  if v < 2 ^ 24 then write (n.toBytes 3 v) else throw .assertion

/-- `Writer::write_u32`. -/
def writeU32 (v : UInt32) (n : Endian) : WriteM Unit := write (n.toBytes 4 v.toNat)

/-- `Writer::write_u64`. -/
def writeU64 (v : UInt64) (n : Endian) : WriteM Unit := write (n.toBytes 8 v.toNat)

/-- `Writer::write_i64`: the eight bytes of the two's complement. -/
def writeI64 (v : Int64) (n : Endian) : WriteM Unit := writeU64 v.toUInt64 n

/-- `Writer::pos`: the number of bytes written so far. -/
def pos : WriteM ℕ := List.length <$> get

/-- An `if` without `else` around a write. -/
def writeIf (b : Bool) (m : WriteM Unit) : WriteM Unit := if b = true then m else pure ()

end Writer

/-! ### What an operation writes -/

/-- `m` appends exactly the bytes `v`, whatever was written before. -/
def Writes (m : WriteM Unit) (v : Bytes) : Prop :=
  ∀ inner, m.run inner = .ok ((), inner ++ v)

/-- An operation that writes nothing. -/
lemma writes_pure : Writes (pure ()) [] := fun inner => by simp

/-- Layouts compose. -/
lemma Writes.bind {m m' : WriteM Unit} {v v' : Bytes} (h : Writes m v) (h' : Writes m' v') :
    Writes (m >>= fun _ => m') (v ++ v') := fun inner => by
  rw [StateT.run_bind, h inner, ok_bind, h' (inner ++ v), List.append_assoc]

/-- An optional part of a layout. -/
lemma writes_writeIf {m : WriteM Unit} {v : Bytes} (b : Bool) (h : b = true → Writes m v) :
    Writes (Writer.writeIf b m) (if b then v else []) := by
  cases b with
  | false => exact writes_pure
  | true => exact h rfl

/-- A list of items, each with its own layout. -/
lemma Writes.forM {α : Type} {f : α → WriteM Unit} {layout : α → Bytes} {xs : List α}
    (h : ∀ x ∈ xs, Writes (f x) (layout x)) : Writes (xs.forM f) (xs.flatMap layout) := by
  induction xs with
  | nil => exact writes_pure
  | cons x xs ih =>
      rw [List.flatMap_cons]
      exact (h x List.mem_cons_self).bind (ih fun y hy => h y (List.mem_cons_of_mem _ hy))

namespace Writer

lemma writes_write (v : Bytes) : Writes (write v) v := fun inner => by simp [write]

lemma writes_writeU8 (v : UInt8) : Writes (writeU8 v) [v] := writes_write _

lemma writes_writeU16 (v : UInt16) (n : Endian) : Writes (writeU16 v n) (n.toBytes 2 v.toNat) :=
  writes_write _

lemma writes_writeU24 {v : ℕ} (n : Endian) (h : v < 2 ^ 24) :
    Writes (writeU24 v n) (n.toBytes 3 v) := by
  rw [writeU24, if_pos h]
  exact writes_write _

lemma writes_writeU32 (v : UInt32) (n : Endian) : Writes (writeU32 v n) (n.toBytes 4 v.toNat) :=
  writes_write _

lemma writes_writeU64 (v : UInt64) (n : Endian) : Writes (writeU64 v n) (n.toBytes 8 v.toNat) :=
  writes_write _

lemma writes_writeI64 (v : Int64) (n : Endian) :
    Writes (writeI64 v n) (n.toBytes 8 v.toUInt64.toNat) :=
  writes_write _

end Writer

/-! ### How much is written -/

/-- Whenever `m` does not panic, it appends `k` bytes. -/
def Adds (m : WriteM Unit) (k : ℕ) : Prop :=
  ∀ inner inner', m.run inner = .ok ((), inner') → inner'.length = inner.length + k

lemma Writes.adds {m : WriteM Unit} {v : Bytes} (h : Writes m v) : Adds m v.length := by
  intro inner inner' hm
  rw [h inner, Except.ok.injEq, Prod.mk.injEq] at hm
  rw [← hm.2, List.length_append]

lemma Adds.bind {m m' : WriteM Unit} {j k : ℕ} (h : Adds m j) (h' : Adds m' k) :
    Adds (m >>= fun _ => m') (j + k) := by
  intro inner inner' hm
  rw [StateT.run_bind, bind_eq_ok] at hm
  obtain ⟨⟨_, mid⟩, hmid, hrest⟩ := hm
  rw [h' mid inner' hrest, h inner mid hmid, Nat.add_assoc]

lemma adds_writeIf {m : WriteM Unit} {k : ℕ} (b : Bool) (h : Adds m k) :
    Adds (Writer.writeIf b m) (if b = true then k else 0) := by
  cases b with
  | false => exact writes_pure.adds
  | true => exact h

lemma Adds.forM {α : Type} {f : α → WriteM Unit} {size : α → ℕ} (h : ∀ x, Adds (f x) (size x))
    (xs : List α) : Adds (xs.forM f) (xs.map size).sum := by
  induction xs with
  | nil => exact writes_pure.adds
  | cons x xs ih =>
      rw [List.map_cons, List.sum_cons]
      exact (h x).bind ih

lemma Writer.adds_writeU24 (v : ℕ) (n : Endian) : Adds (Writer.writeU24 v n) 3 := by
  by_cases hv : v < 2 ^ 24
  · have h := (Writer.writes_writeU24 n hv).adds
    rwa [Endian.toBytes_length] at h
  · intro inner inner' hm
    rw [Writer.writeU24, if_neg hv] at hm
    cases hm

/-! ### What was written before -/

/-- Whenever `m` does not panic, what was written before is still there, in front. -/
def Appends {α : Type} (m : WriteM α) : Prop :=
  ∀ inner r, m.run inner = .ok r → inner <+: r.2

lemma Writes.appends {m : WriteM Unit} {v : Bytes} (h : Writes m v) : Appends m := by
  intro inner r hm
  obtain rfl := Except.ok.inj ((h inner).symm.trans hm)
  exact List.prefix_append inner v

lemma Appends.bind {α β : Type} {m : WriteM α} {f : α → WriteM β} (h : Appends m)
    (hf : ∀ a, Appends (f a)) : Appends (m >>= f) := by
  intro inner r hm
  rw [StateT.run_bind, bind_eq_ok] at hm
  obtain ⟨⟨a, mid⟩, hmid, hrest⟩ := hm
  exact (h inner _ hmid).trans (hf a mid r hrest)

lemma appends_writeIf {m : WriteM Unit} (b : Bool) (h : Appends m) :
    Appends (Writer.writeIf b m) := by
  cases b with
  | false => exact writes_pure.appends
  | true => exact h

lemma Appends.forM {α : Type} {f : α → WriteM Unit} (h : ∀ x, Appends (f x)) (xs : List α) :
    Appends (xs.forM f) := by
  induction xs with
  | nil => exact writes_pure.appends
  | cons x xs ih => exact (h x).bind fun _ => ih

lemma Writer.appends_writeU24 (v : ℕ) (n : Endian) : Appends (Writer.writeU24 v n) := by
  by_cases hv : v < 2 ^ 24
  · exact (Writer.writes_writeU24 n hv).appends
  · intro inner r hm
    rw [Writer.writeU24, if_neg hv] at hm
    cases hm

lemma Writer.appends_pos : Appends Writer.pos := by
  intro inner r hm
  obtain rfl := Except.ok.inj hm
  exact List.prefix_rfl

/-- An operation that does not write. -/
lemma appends_liftM {α : Type} (x : Except Panic α) : Appends (liftM x : WriteM α) := by
  intro inner r hm
  cases x with
  | error e => cases hm
  | ok a =>
      obtain rfl := Except.ok.inj hm
      exact List.prefix_rfl

/-! ### What must hold for an operation not to panic -/

/-- `m` panics unless `P` holds. -/
def Requires (m : WriteM Unit) (P : Prop) : Prop := ∀ inner r, m.run inner = .ok r → P

lemma requires_true (m : WriteM Unit) : Requires m True := fun _ _ _ => trivial

lemma Requires.bind {m m' : WriteM Unit} {P P' : Prop} (h : Requires m P) (h' : Requires m' P') :
    Requires (m >>= fun _ => m') (P ∧ P') := by
  intro inner r hm
  rw [StateT.run_bind, bind_eq_ok] at hm
  obtain ⟨⟨_, mid⟩, hmid, hrest⟩ := hm
  exact ⟨h inner _ hmid, h' mid r hrest⟩

lemma requires_writeIf {m : WriteM Unit} {P : Prop} (b : Bool) (h : Requires m P) :
    Requires (Writer.writeIf b m) (b = true → P) := by
  intro inner r hm hb
  rw [Writer.writeIf, if_pos hb] at hm
  exact h inner r hm

lemma Requires.forM {α : Type} {f : α → WriteM Unit} {P : α → Prop}
    (h : ∀ x, Requires (f x) (P x)) (xs : List α) : Requires (xs.forM f) (∀ x ∈ xs, P x) := by
  induction xs with
  | nil => exact fun _ _ _ x hx => absurd hx List.not_mem_nil
  | cons x xs ih =>
      intro inner r hm
      exact List.forall_mem_cons.mpr (((h x).bind ih) inner r hm)

lemma Writer.requires_writeU24 (v : ℕ) (n : Endian) :
    Requires (Writer.writeU24 v n) (v < 2 ^ 24) := by
  intro inner r hm
  by_contra hv
  rw [Writer.writeU24, if_neg hv] at hm
  cases hm

/-! ### Operations that do not panic -/

/-- `m` does not panic, whatever was written before. -/
def Completes (m : WriteM Unit) : Prop := ∀ inner, ∃ inner', m.run inner = .ok ((), inner')

lemma Writes.completes {m : WriteM Unit} {v : Bytes} (h : Writes m v) : Completes m :=
  fun inner => ⟨inner ++ v, h inner⟩

lemma Completes.bind {m m' : WriteM Unit} (h : Completes m) (h' : Completes m') :
    Completes (m >>= fun _ => m') := by
  intro inner
  obtain ⟨mid, hmid⟩ := h inner
  obtain ⟨inner', hrest⟩ := h' mid
  exact ⟨inner', by rw [StateT.run_bind, hmid, ok_bind, hrest]⟩

lemma completes_writeIf {m : WriteM Unit} (b : Bool) (h : b = true → Completes m) :
    Completes (Writer.writeIf b m) := by
  cases b with
  | false => exact writes_pure.completes
  | true => exact h rfl

lemma Completes.forM {α : Type} {f : α → WriteM Unit} {xs : List α}
    (h : ∀ x ∈ xs, Completes (f x)) : Completes (xs.forM f) := by
  induction xs with
  | nil => exact writes_pure.completes
  | cons x xs ih =>
      exact (h x List.mem_cons_self).bind (ih fun y hy => h y (List.mem_cons_of_mem _ hy))

/-! ### Operations that panic for an assertion only -/

/-- If `m` panics, an assertion has failed. -/
def Asserts (m : WriteM Unit) : Prop := ∀ inner e, m.run inner = .error e → e = .assertion

lemma Completes.asserts {m : WriteM Unit} (h : Completes m) : Asserts m := by
  intro inner e he
  obtain ⟨inner', hok⟩ := h inner
  cases hok.symm.trans he

lemma Asserts.bind {m m' : WriteM Unit} (h : Asserts m) (h' : Asserts m') :
    Asserts (m >>= fun _ => m') := by
  intro inner e he
  rw [StateT.run_bind, bind_eq_error] at he
  rcases he with he | ⟨⟨_, mid⟩, -, he⟩
  · exact h inner e he
  · exact h' mid e he

lemma asserts_writeIf {m : WriteM Unit} (b : Bool) (h : Asserts m) :
    Asserts (Writer.writeIf b m) := by
  cases b with
  | false => exact writes_pure.completes.asserts
  | true => exact h

lemma Asserts.forM {α : Type} {f : α → WriteM Unit} (h : ∀ x, Asserts (f x)) (xs : List α) :
    Asserts (xs.forM f) := by
  induction xs with
  | nil => exact writes_pure.completes.asserts
  | cons x xs ih => exact (h x).bind ih

lemma Writer.asserts_writeU24 (v : ℕ) (n : Endian) : Asserts (Writer.writeU24 v n) := by
  intro inner e he
  rw [Writer.writeU24] at he
  split_ifs at he
  · cases he
  · exact (Except.error.inj he).symm

end ActixRaknet
