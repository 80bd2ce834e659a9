import ActixRaknet.Packets.Basic
import ActixRaknet.Library.Ranges

/-!
`packets/ack.rs` and `packets/nack.rs`.  The two packets differ in their id only, so both are a
`SequenceRecord`: one record that is a single number or a range of numbers.

* `SequenceRecord.read_new`: a record made of three-byte numbers is read back as it was written;
* `encode_ack`, `decode_ack`, `Ack.getAll_new` and their counterparts for `Nack`: the numbers the
  peer iterates over are those of the range the packet was made of.
-/

namespace ActixRaknet

open Fallible Reader Writer

/-- The fields shared by `Ack` and `Nack`. -/
structure SequenceRecord where
  recordCount : UInt16
  maxEqualsMin : Bool
  sequences : ℕ × ℕ
  deriving DecidableEq, Repr

namespace SequenceRecord

/-- `new`: a single number if both ends are equal. -/
def new (sequences : ℕ × ℕ) : SequenceRecord :=
  if sequences.1 = sequences.2 then ⟨1, true, sequences⟩ else ⟨1, false, sequences⟩

/-- `get_all`: the numbers from the first to the second, both included. -/
def getAll (p : SequenceRecord) : Except Panic (List ℕ) := do
  let stop ← u32Add p.sequences.2 1
  return List.range' p.sequences.1 (stop - p.sequences.1)

/-- `write`. -/
def write (p : SequenceRecord) : WriteM Unit := do
  writeU16 p.recordCount .big
  writeU8 (if p.maxEqualsMin then 1 else 0)
  writeU24 p.sequences.1 .little
  writeIf (!p.maxEqualsMin) (writeU24 p.sequences.2 .little)

/-- `read`: the first record only, whatever the record count says. -/
def read : ReadM SequenceRecord := do
  let recordCount ← readU16 .big
  let flag ← readU8
  let maxEqualsMin := decide (flag ≠ 0)
  let sequence ← readU24 .little
  let sequenceMax ← readIf (!maxEqualsMin) (readU24 .little) sequence
  return ⟨recordCount, maxEqualsMin, (sequence, sequenceMax)⟩

/-- The bytes of a record. -/
def layout (p : SequenceRecord) : Bytes :=
  Endian.big.toBytes 2 p.recordCount.toNat
    ++ ([if p.maxEqualsMin then 1 else 0]
    ++ (Endian.little.toBytes 3 p.sequences.1
    ++ (if !p.maxEqualsMin then Endian.little.toBytes 3 p.sequences.2 else [])))

lemma writes_write {p : SequenceRecord} (h₁ : p.sequences.1 < 2 ^ 24)
    (h₂ : p.sequences.2 < 2 ^ 24) : Writes p.write p.layout :=
  (writes_writeU16 _ _).bind <| (writes_writeU8 _).bind <| (writes_writeU24 _ h₁).bind <|
    writes_writeIf _ fun _ => writes_writeU24 _ h₂

/-- A record is read back up to its second number, which a single number does not carry. -/
lemma read_facing {p : SequenceRecord} (h₁ : p.sequences.1 < 2 ^ 24)
    (h₂ : p.sequences.2 < 2 ^ 24) (done rest : Bytes) :
    read.run (facing done (p.layout ++ rest))
      = .ok ({ p with sequences := (p.sequences.1,
                if !p.maxEqualsMin then p.sequences.2 else p.sequences.1) },
          facing (done ++ p.layout) rest) := by
  have hflag : decide ((if p.maxEqualsMin then (1 : UInt8) else 0) ≠ 0) = p.maxEqualsMin := by
    cases p.maxEqualsMin <;> decide
  simp only [read, layout, List.append_assoc, List.cons_append, List.nil_append, StateT.run_bind,
    readU16_facing, ok_bind, readU8_facing, hflag, readU24_facing _ _ _ h₁,
    readIf_facing _ _ _ (readU24_facing _ _ _ h₂), StateT.run_pure, pure_eq_ok]

lemma sequences_new (s : ℕ × ℕ) : (new s).sequences = s := by
  rw [new]
  split_ifs <;> rfl

lemma writes_new {s : ℕ × ℕ} (h₁ : s.1 < 2 ^ 24) (h₂ : s.2 < 2 ^ 24) :
    Writes (new s).write (new s).layout :=
  writes_write (by rwa [sequences_new]) (by rwa [sequences_new])

/-- A record made by `new` is read back as it was written. -/
lemma read_new {s : ℕ × ℕ} (h₁ : s.1 < 2 ^ 24) (h₂ : s.2 < 2 ^ 24) :
    read.run (facing [] (new s).layout) = .ok (new s, facing (new s).layout []) := by
  have h := read_facing (p := new s) (by rwa [sequences_new]) (by rwa [sequences_new]) [] []
  rw [List.append_nil, List.nil_append] at h
  rw [h]
  by_cases hs : s.1 = s.2
  · simp only [new, if_pos hs, Bool.not_true, Bool.false_eq_true, if_false]
    rw [show (s.1, s.1) = s from Prod.ext rfl hs]
  · simp only [new, if_neg hs, Bool.not_false, if_true]

lemma getAll_new {s : ℕ × ℕ} (h : s.2 < 2 ^ 24) :
    (new s).getAll = .ok (Ranges.numbers s) := by
  rw [getAll, sequences_new, u32Add_of_lt (by omega), ok_bind, pure_eq_ok, Ranges.numbers]

end SequenceRecord

/-- `Ack`. -/
structure Ack where
  record : SequenceRecord
  deriving DecidableEq, Repr

/-- `Nack`. -/
structure Nack where
  record : SequenceRecord
  deriving DecidableEq, Repr

/-- `Ack::new`. -/
def Ack.new (sequences : ℕ × ℕ) : Ack := ⟨.new sequences⟩

/-- `Ack::get_all`. -/
def Ack.getAll (ack : Ack) : Except Panic (List ℕ) := ack.record.getAll

instance : Packet Ack where
  ID := 0xc0
  read := readWith (Ack.mk <$> SequenceRecord.read)
  write ack := ack.record.write

/-- `Nack::new`. -/
def Nack.new (sequences : ℕ × ℕ) : Nack := ⟨.new sequences⟩

/-- `Nack::get_all`. -/
def Nack.getAll (nack : Nack) : Except Panic (List ℕ) := nack.record.getAll

instance : Packet Nack where
  ID := 0xa0
  read := readWith (Nack.mk <$> SequenceRecord.read)
  write nack := nack.record.write

/-- The datagram that acknowledges the range `s`. -/
def Ack.datagram (s : ℕ × ℕ) : Bytes := 0xc0 :: (SequenceRecord.new s).layout

/-- The datagram that reports the range `s` missing. -/
def Nack.datagram (s : ℕ × ℕ) : Bytes := 0xa0 :: (SequenceRecord.new s).layout

lemma SequenceRecord.adds_write (p : SequenceRecord) :
    Adds p.write (if p.maxEqualsMin then 6 else 9) := by
  have h := (writes_writeU16 p.recordCount .big).adds.bind <|
    (writes_writeU8 (if p.maxEqualsMin then 1 else 0)).adds.bind <|
    (adds_writeU24 p.sequences.1 .little).bind <|
    adds_writeIf (!p.maxEqualsMin) (adds_writeU24 p.sequences.2 .little)
  refine (congrArg (Adds p.write) ?_).mp h
  cases p.maxEqualsMin <;> rfl

/-- An encoding with a record in it takes at most ten bytes. -/
lemma length_of_encode_record {P : Type} [Packet P] {packet : P} {record : SequenceRecord}
    (hwrite : Packet.write packet = record.write) {bytes : Bytes}
    (h : encode packet = .ok bytes) : bytes.length ≤ 10 := by
  obtain ⟨⟨_, inner⟩, hrun, rfl⟩ := map_eq_ok.mp h
  rw [hwrite] at hrun
  have hadds := ((writes_writeU8 (Packet.ID P)).adds.bind record.adds_write) [] inner hrun
  rw [hadds, List.length_nil, List.length_singleton]
  split_ifs <;> omega

/-- A record that is encoded has two three-byte numbers. -/
lemma lt_of_encode_record {P : Type} [Packet P] {p : P} {s : ℕ × ℕ}
    (hwrite : Packet.write p = (SequenceRecord.new s).write) {bytes : Bytes}
    (h : encode p = .ok bytes) : s.1 < 2 ^ 24 ∧ s.2 < 2 ^ 24 := by
  obtain ⟨r, hrun, -⟩ := map_eq_ok.mp h
  rw [hwrite] at hrun
  obtain ⟨-, -, -, hfirst, hsecond⟩ := ((requires_true (writeU8 (Packet.ID P))).bind <|
    (requires_true (writeU16 (SequenceRecord.new s).recordCount .big)).bind <|
    (requires_true (writeU8 (if (SequenceRecord.new s).maxEqualsMin then 1 else 0))).bind <|
    (requires_writeU24 (SequenceRecord.new s).sequences.1 .little).bind <|
    requires_writeIf (!(SequenceRecord.new s).maxEqualsMin)
      (requires_writeU24 (SequenceRecord.new s).sequences.2 .little)) [] r hrun
  rw [SequenceRecord.sequences_new] at hfirst hsecond
  by_cases hs : s.1 = s.2
  · exact ⟨hfirst, hs ▸ hfirst⟩
  · exact ⟨hfirst, hsecond (by rw [SequenceRecord.new, if_neg hs]; rfl)⟩

section RoundTrip

variable {s : ℕ × ℕ} (h₁ : s.1 < 2 ^ 24) (h₂ : s.2 < 2 ^ 24)

include h₁ h₂

lemma encode_ack : encode (Ack.new s) = .ok (Ack.datagram s) :=
  encode_eq (SequenceRecord.writes_new h₁ h₂)

lemma encode_nack : encode (Nack.new s) = .ok (Nack.datagram s) :=
  encode_eq (SequenceRecord.writes_new h₁ h₂)

lemma decode_ack : decode Ack (Ack.datagram s) = .ok (.ok (Ack.new s)) :=
  readWith_eq (by rw [StateT.run_map, SequenceRecord.read_new h₁ h₂, map_ok, Ack.new])

lemma decode_nack : decode Nack (Nack.datagram s) = .ok (.ok (Nack.new s)) :=
  readWith_eq (by rw [StateT.run_map, SequenceRecord.read_new h₁ h₂, map_ok, Nack.new])

end RoundTrip

lemma Ack.getAll_new {s : ℕ × ℕ} (h : s.2 < 2 ^ 24) :
    (Ack.new s).getAll = .ok (Ranges.numbers s) :=
  SequenceRecord.getAll_new h

lemma Nack.getAll_new {s : ℕ × ℕ} (h : s.2 < 2 ^ 24) :
    (Nack.new s).getAll = .ok (Ranges.numbers s) :=
  SequenceRecord.getAll_new h

end ActixRaknet
