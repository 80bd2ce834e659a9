import ActixRaknet.Packets.Basic

/-!
`packets/frame.rs` and `packets/frame_set.rs`: frames, frame sets and their codec.

* `Frame.layout`: the bytes of a frame, `Frame.writes_encode` and `Frame.decode_facing`: the
  encoder writes them and the decoder reads them back as `Frame.carried`, the frame reduced to
  the fields its reliability and its split bit carry;
* `Frame.layout_length`: `Frame::length` counts the bytes of the layout;
* `FrameSet.decode_layout`, `FrameSet.frameSet_roundTrip`: the round trip of a frame set of any
  number of frames;
* `FrameSet.lt_of_decode`: what the numbers of a decoded frame set are bounded by, whatever the
  input.
-/

namespace ActixRaknet

open Fallible Reader Writer

def SPLIT_FLAG : UInt8 := 0x10

/-- `Frame`. -/
structure Frame where
  reliability : Reliability
  messageIndex : ℕ
  sequenceIndex : ℕ
  orderIndex : ℕ
  split : Bool
  splitCount : UInt32
  splitIndex : UInt32
  splitId : UInt16
  data : Bytes
  deriving DecidableEq, Repr

namespace Frame

/-- `Frame::new`. -/
def new (reliability : Reliability) (data : Bytes) : Frame where
  reliability := reliability
  messageIndex := 0
  sequenceIndex := 0
  orderIndex := 0
  split := false
  splitCount := 0
  splitIndex := 0
  splitId := 0
  data := data

/-- `Frame::length`. -/
def length (f : Frame) : ℕ :=
  1 + 2
    + (if f.reliability.isReliable then 3 else 0)
    + (if f.reliability.sequenced then 3 else 0)
    + (if f.reliability.sequencedOrOrdered then 4 else 0)
    + (if f.split then 10 else 0)
    + f.data.length

/-- The header byte: the reliability in the top three bits and the split flag. -/
def headerByte (reliability : Reliability) (split : Bool) : UInt8 :=
  if split then (reliability.toByte <<< 5) ||| SPLIT_FLAG else reliability.toByte <<< 5

/-- `Frame::encode`. -/
def encode (f : Frame) : WriteM Unit := do
  writeU8 (headerByte f.reliability f.split)
  writeU16 (UInt16.ofNat (f.data.length * 8)) .big
  writeIf f.reliability.isReliable (writeU24 f.messageIndex .little)
  writeIf f.reliability.sequenced (writeU24 f.sequenceIndex .little)
  writeIf f.reliability.sequencedOrOrdered do
    writeU24 f.orderIndex .little
    writeU8 0
  writeIf f.split do
    writeU32 f.splitCount .big
    writeU16 f.splitId .big
    writeU32 f.splitIndex .big
  write f.data

/-- The order index and, skipped, the order channel. -/
def readOrder : ReadM ℕ := do
  let orderIndex ← readU24 .little
  next 1
  return orderIndex

/-- The split header: count, id and index. -/
def readSplit : ReadM (UInt32 × UInt16 × UInt32) := do
  let splitCount ← readU32 .big
  let splitId ← readU16 .big
  let splitIndex ← readU32 .big
  return (splitCount, splitId, splitIndex)

/-- `Frame::decode`. -/
def decode : ReadM Frame := do
  let header ← readU8
  let split := decide (header &&& SPLIT_FLAG ≠ 0)
  let reliability ← Reliability.new ((header &&& 224) >>> 5)
  let packetLength ← readU16 .big
  let packetLength := packetLength >>> 3
  let messageIndex ← readIf reliability.isReliable (readU24 .little) 0
  let sequenceIndex ← readIf reliability.sequenced (readU24 .little) 0
  let orderIndex ← readIf reliability.sequencedOrOrdered readOrder 0
  let (splitCount, splitId, splitIndex) ← readIf split readSplit (0, 0, 0)
  let data ← readExact packetLength.toNat
  return { reliability, messageIndex, sequenceIndex, orderIndex, split, splitCount, splitIndex,
           splitId, data }

/-! ### The layout of a frame -/

/-- What the writer needs of a frame: three-byte indices and a body whose length in bits fits
sixteen bits. -/
structure Encodable (f : Frame) : Prop where
  messageIndex_lt : f.messageIndex < 2 ^ 24
  sequenceIndex_lt : f.sequenceIndex < 2 ^ 24
  orderIndex_lt : f.orderIndex < 2 ^ 24
  data_le : f.data.length ≤ 8191

/-- The order index with the order channel after it. -/
def orderLayout (f : Frame) : Bytes := Endian.little.toBytes 3 f.orderIndex ++ [0]

/-- The split header. -/
def splitLayout (f : Frame) : Bytes :=
  Endian.big.toBytes 4 f.splitCount.toNat
    ++ (Endian.big.toBytes 2 f.splitId.toNat ++ Endian.big.toBytes 4 f.splitIndex.toNat)

/-- The bytes of a frame. -/
def layout (f : Frame) : Bytes :=
  [headerByte f.reliability f.split]
    ++ (Endian.big.toBytes 2 (UInt16.ofNat (f.data.length * 8)).toNat
    ++ ((if f.reliability.isReliable then Endian.little.toBytes 3 f.messageIndex else [])
    ++ ((if f.reliability.sequenced then Endian.little.toBytes 3 f.sequenceIndex else [])
    ++ ((if f.reliability.sequencedOrOrdered then f.orderLayout else [])
    ++ ((if f.split then f.splitLayout else [])
    ++ f.data)))))

/-- The fields that the reliability and the split bit of a frame carry; the others are zero. -/
def carried (f : Frame) : Frame where
  reliability := f.reliability
  messageIndex := if f.reliability.isReliable then f.messageIndex else 0
  sequenceIndex := if f.reliability.sequenced then f.sequenceIndex else 0
  orderIndex := if f.reliability.sequencedOrOrdered then f.orderIndex else 0
  split := f.split
  splitCount := if f.split then f.splitCount else 0
  splitIndex := if f.split then f.splitIndex else 0
  splitId := if f.split then f.splitId else 0
  data := f.data

/-- The encoder writes the layout. -/
lemma writes_encode {f : Frame} (h : f.Encodable) : Writes f.encode f.layout :=
  (writes_writeU8 _).bind <| (writes_writeU16 _ _).bind <|
    (writes_writeIf _ fun _ => writes_writeU24 _ h.messageIndex_lt).bind <|
    (writes_writeIf _ fun _ => writes_writeU24 _ h.sequenceIndex_lt).bind <|
    (writes_writeIf _ fun _ => (writes_writeU24 _ h.orderIndex_lt).bind (writes_writeU8 0)).bind <|
    (writes_writeIf _ fun _ => (writes_writeU32 _ _).bind <|
      (writes_writeU16 _ _).bind (writes_writeU32 _ _)).bind (writes_write _)

/-- `Frame::length` is the number of bytes of the layout. -/
lemma layout_length (f : Frame) : f.layout.length = f.length := by
  simp only [layout, orderLayout, splitLayout, length, List.length_append, List.length_singleton,
    Endian.toBytes_length, apply_ite List.length, List.length_nil, Nat.reduceAdd]
  omega

lemma appends_encode (f : Frame) : Appends f.encode := by
  refine (writes_writeU8 (headerByte f.reliability f.split)).appends.bind fun _ => ?_
  refine (writes_writeU16 (UInt16.ofNat (f.data.length * 8)) .big).appends.bind fun _ => ?_
  refine (appends_writeIf _ (appends_writeU24 f.messageIndex .little)).bind fun _ => ?_
  refine (appends_writeIf _ (appends_writeU24 f.sequenceIndex .little)).bind fun _ => ?_
  refine (appends_writeIf _ ?_).bind fun _ => (appends_writeIf _ ?_).bind fun _ =>
    (writes_write f.data).appends
  · exact (appends_writeU24 f.orderIndex .little).bind fun _ => (writes_writeU8 0).appends
  · exact (writes_writeU32 f.splitCount .big).appends.bind fun _ =>
      (writes_writeU16 f.splitId .big).appends.bind fun _ =>
        (writes_writeU32 f.splitIndex .big).appends

/-- A frame that is encoded takes `Frame::length` bytes, whatever its body. -/
lemma adds_encode (f : Frame) : Adds f.encode f.length := by
  have h := (writes_writeU8 (headerByte f.reliability f.split)).adds.bind <|
    (writes_writeU16 (UInt16.ofNat (f.data.length * 8)) .big).adds.bind <|
    (adds_writeIf f.reliability.isReliable (adds_writeU24 f.messageIndex .little)).bind <|
    (adds_writeIf f.reliability.sequenced (adds_writeU24 f.sequenceIndex .little)).bind <|
    (adds_writeIf f.reliability.sequencedOrOrdered
      ((adds_writeU24 f.orderIndex .little).bind (writes_writeU8 0).adds)).bind <|
    (adds_writeIf f.split ((writes_writeU32 f.splitCount .big).adds.bind <|
      (writes_writeU16 f.splitId .big).adds.bind (writes_writeU32 f.splitIndex .big).adds)).bind <|
    (writes_write f.data).adds
  refine (congrArg (Adds f.encode) ?_).mp h
  rw [length]
  simp only [List.length_singleton, Endian.toBytes_length, Nat.reduceAdd]
  omega

/-- A frame that is encoded has three-byte indices, as far as it carries them. -/
lemma requires_encode (f : Frame) : Requires f.encode
    ((f.reliability.isReliable = true → f.messageIndex < 2 ^ 24)
      ∧ (f.reliability.sequenced = true → f.sequenceIndex < 2 ^ 24)
      ∧ (f.reliability.sequencedOrOrdered = true → f.orderIndex < 2 ^ 24)) := by
  intro inner r h
  obtain ⟨-, -, hmessage, hsequence, horder, -⟩ :=
    ((requires_true (writeU8 (headerByte f.reliability f.split))).bind <|
    (requires_true (writeU16 (UInt16.ofNat (f.data.length * 8)) .big)).bind <|
    (requires_writeIf f.reliability.isReliable (requires_writeU24 f.messageIndex .little)).bind <|
    (requires_writeIf f.reliability.sequenced (requires_writeU24 f.sequenceIndex .little)).bind <|
    (requires_writeIf f.reliability.sequencedOrOrdered
      ((requires_writeU24 f.orderIndex .little).bind (requires_true (writeU8 0)))).bind <|
    requires_true _) inner r h
  exact ⟨hmessage, hsequence, fun h => (horder h).1⟩

/-- The indices that a frame carries fit three bytes. -/
structure Fits (f : Frame) : Prop where
  messageIndex_lt : f.reliability.isReliable = true → f.messageIndex < 2 ^ 24
  sequenceIndex_lt : f.reliability.sequenced = true → f.sequenceIndex < 2 ^ 24
  orderIndex_lt : f.reliability.sequencedOrOrdered = true → f.orderIndex < 2 ^ 24

/-- A frame whose indices fit is encoded, whatever its body. -/
lemma Fits.completes_encode {f : Frame} (h : f.Fits) : Completes f.encode :=
  (writes_writeU8 _).completes.bind <| (writes_writeU16 _ _).completes.bind <|
    (completes_writeIf _ fun hb => (writes_writeU24 _ (h.messageIndex_lt hb)).completes).bind <|
    (completes_writeIf _ fun hb => (writes_writeU24 _ (h.sequenceIndex_lt hb)).completes).bind <|
    (completes_writeIf _ fun hb => (writes_writeU24 _ (h.orderIndex_lt hb)).completes.bind
      (writes_writeU8 0).completes).bind <|
    (completes_writeIf _ fun _ => (writes_writeU32 _ _).completes.bind <|
      (writes_writeU16 _ _).completes.bind (writes_writeU32 _ _).completes).bind
    (writes_write _).completes

/-- A frame that is not encoded has an index that does not fit. -/
lemma asserts_encode (f : Frame) : Asserts f.encode :=
  (writes_writeU8 _).completes.asserts.bind <| (writes_writeU16 _ _).completes.asserts.bind <|
    (asserts_writeIf _ (asserts_writeU24 _ _)).bind <|
    (asserts_writeIf _ (asserts_writeU24 _ _)).bind <|
    (asserts_writeIf _ ((asserts_writeU24 _ _).bind (writes_writeU8 0).completes.asserts)).bind <|
    (asserts_writeIf _ ((writes_writeU32 _ _).completes.asserts.bind <|
      (writes_writeU16 _ _).completes.asserts.bind (writes_writeU32 _ _).completes.asserts)).bind
    (writes_write _).completes.asserts

lemma length_unreliable (body : Bytes) : (new .unreliable body).length = 3 + body.length := by
  simp [length, new, Reliability.isReliable, Reliability.sequenced,
    Reliability.sequencedOrOrdered]

/-- The length of a reliable and ordered frame. -/
lemma length_reliableOrdered {f : Frame} (h : f.reliability = .reliableOrdered) :
    f.length = 10 + (if f.split then 10 else 0) + f.data.length := by
  simp [length, h, Reliability.isReliable, Reliability.sequenced,
    Reliability.sequencedOrOrdered]

/-- The header of a frame that is not split takes at most thirteen bytes. -/
lemma length_new_le (reliability : Reliability) (body : Bytes) :
    (new reliability body).length ≤ 13 + body.length := by
  cases reliability <;>
    simp [length, new, Reliability.isReliable, Reliability.sequenced,
      Reliability.sequencedOrOrdered]

lemma three_le_length (f : Frame) : 3 ≤ f.length := by
  rw [length]
  omega

/-! ### Decoding the layout -/

lemma headerByte_split (r : Reliability) (s : Bool) :
    decide (headerByte r s &&& SPLIT_FLAG ≠ 0) = s := by
  cases r <;> cases s <;> decide

lemma headerByte_reliability (r : Reliability) (s : Bool) :
    (headerByte r s &&& 224) >>> 5 = r.toByte := by
  cases r <;> cases s <;> decide

/-- The length in bits, cut to sixteen bits and shifted back, is the length of the body. -/
lemma length_roundTrip {n : ℕ} (h : n ≤ 8191) : (UInt16.ofNat (n * 8) >>> 3).toNat = n := by
  have h3 : (3 : UInt16).toNat % 16 = 3 := by decide
  rw [UInt16.toNat_shiftRight, h3, UInt16.toNat_ofNat', Nat.mod_eq_of_lt (by omega),
    Nat.shiftRight_eq_div_pow]
  omega

lemma readOrder_facing {f : Frame} (h : f.Encodable) (done rest : Bytes) :
    readOrder.run (facing done (f.orderLayout ++ rest))
      = .ok (f.orderIndex, facing (done ++ f.orderLayout) rest) := by
  simp only [readOrder, orderLayout, List.append_assoc, StateT.run_bind,
    readU24_facing _ _ _ h.orderIndex_lt, ok_bind, next_facing (n := 1) _ [0] _ rfl,
    StateT.run_pure, pure_eq_ok]

lemma readSplit_facing (f : Frame) (done rest : Bytes) :
    readSplit.run (facing done (f.splitLayout ++ rest))
      = .ok ((f.splitCount, f.splitId, f.splitIndex), facing (done ++ f.splitLayout) rest) := by
  simp only [readSplit, splitLayout, List.append_assoc, StateT.run_bind, readU32_facing,
    readU16_facing, ok_bind, StateT.run_pure, pure_eq_ok]

/-- **One frame**: the decoder reads a layout back as the carried fields and stops behind it. -/
lemma decode_facing {f : Frame} (h : f.Encodable) (done rest : Bytes) :
    decode.run (facing done (f.layout ++ rest))
      = .ok (f.carried, facing (done ++ f.layout) rest) := by
  have hord := fun done rest =>
    readIf_facing (z := 0) f.reliability.sequencedOrOrdered done rest (readOrder_facing h done rest)
  have hspl := fun done rest =>
    readIf_facing (z := (0, 0, 0)) f.split done rest (readSplit_facing f done rest)
  simp only [decode, layout, List.append_assoc, List.cons_append, List.nil_append,
    StateT.run_bind, readU8_facing, ok_bind, headerByte_split, headerByte_reliability,
    Reliability.new_toByte, StateT.run_monadLift, monadLift_self, pure_eq_ok, readU16_facing,
    readIf_facing _ _ _ (readU24_facing _ _ _ h.messageIndex_lt),
    readIf_facing _ _ _ (readU24_facing _ _ _ h.sequenceIndex_lt), hord, hspl,
    length_roundTrip h.data_le, readExact_facing _ _ _ rfl, StateT.run_pure, carried,
    apply_ite Prod.fst, apply_ite Prod.snd]

/-! ### What a decoded frame is bounded by -/

/-- The indices of a decoded frame fit three bytes, whatever the input was. -/
lemma orderIndex_lt_of_decode {r r' : Reader} {f : Frame} (h : decode.run r = .ok (f, r')) :
    f.orderIndex < 2 ^ 24 := by
  simp only [decode, StateT.run_bind, StateT.run_pure, pure_eq_ok, bind_eq_ok, Except.ok.injEq,
    Prod.mk.injEq] at h
  obtain ⟨_, -, _, -, _, -, _, -, _, -, ⟨o, r₁⟩, ho, _, -, _, -, rfl, -⟩ := h
  simp only [readIf, readOrder] at ho
  split at ho
  · simp only [StateT.run_bind, StateT.run_pure, pure_eq_ok, bind_eq_ok, Except.ok.injEq,
      Prod.mk.injEq] at ho
    obtain ⟨⟨v, r₂⟩, hv, _, -, rfl, -⟩ := ho
    exact readU24_lt hv
  · simp only [StateT.run_pure, pure_eq_ok, Except.ok.injEq, Prod.mk.injEq] at ho
    rw [← ho.1]
    norm_num

lemma advances_readOrder : Advances readOrder 4 :=
  (advances_readU24 _).bind fun _ => (advances_next 1).bind fun _ => advances_pure _

lemma advances_readSplit : Advances readSplit 10 :=
  (advances_readU32 _).bind fun _ => (advances_readU16 _).bind fun _ =>
    (advances_readU32 _).bind fun _ => advances_pure _

/-- A decoded frame consumed at least its header and its length. -/
lemma advances_decode : Advances decode 3 :=
  advances_readU8.bind fun _ => (advances_lift _).bind fun _ => (advances_readU16 _).bind fun _ =>
    ((advances_readU24 _).readIf _ _).bind fun _ => ((advances_readU24 _).readIf _ _).bind fun _ =>
    (advances_readOrder.readIf _ _).bind fun _ => (advances_readSplit.readIf _ _).bind fun _ =>
    ((advances_readExact _).mono (Nat.zero_le _)).bind fun _ => advances_pure _

/-! ### Messages -/

/-- The message a frame carries: the order index of an ordered frame. -/
def message (f : Frame) : Option ℕ :=
  if f.reliability.sequencedOrOrdered then some f.orderIndex else none

/-- What the wire carries of a frame carries the same message. -/
lemma message_carried (f : Frame) : f.carried.message = f.message := by
  by_cases h : f.reliability.sequencedOrOrdered = true
  · simp only [message, carried, h, if_true]
  · simp only [message, carried, h, if_false, Bool.false_eq_true]

end Frame

/-! ### Frame sets -/

/-- `FrameSet`. -/
structure FrameSet where
  header : UInt8
  sequenceNumber : ℕ
  datas : List Frame
  deriving DecidableEq, Repr

namespace FrameSet

/-- The loop of `FrameSet::decode`: frames are read until the position reaches the end.  A frame
takes at least three bytes, so `size` rounds are enough (`decodeFrames_done`). -/
def decodeFrames (size : ℕ) : ℕ → ReadM (List Frame)
  | 0 => pure []
  | fuel + 1 => do
    let cursor ← get
    if cursor.pos < size then
      let frame ← Frame.decode
      let datas ← decodeFrames size fuel
      return frame :: datas
    else
      return []

/-- `FrameSet::decode`. -/
def decode (payload : Bytes) : Except IoError FrameSet :=
  Prod.fst <$> (do
    let header ← readU8
    let sequenceNumber ← readU24 .little
    let datas ← decodeFrames payload.length payload.length
    return { header, sequenceNumber, datas } : ReadM FrameSet).run (Reader.new payload)

/-- `FrameSet::encode`. -/
def encode (fs : FrameSet) : Except Panic Bytes :=
  Prod.snd <$> (do
    writeU8 fs.header
    writeU24 fs.sequenceNumber .little
    fs.datas.forM Frame.encode : WriteM Unit).run []

/-- What the writer needs of a frame set. -/
structure Encodable (fs : FrameSet) : Prop where
  sequenceNumber_lt : fs.sequenceNumber < 2 ^ 24
  frames : ∀ f ∈ fs.datas, f.Encodable

/-- The loop of the decoder ends because the position has reached the end, never for lack of
rounds. -/
lemma decodeFrames_done {size fuel : ℕ} {r r' : Reader} {fs : List Frame}
    (h : (decodeFrames size fuel).run r = .ok (fs, r')) (hfuel : size ≤ r.pos + fuel) :
    size ≤ r'.pos := by
  induction fuel generalizing r fs with
  | zero =>
      simp only [decodeFrames, StateT.run_pure, pure_eq_ok, Except.ok.injEq, Prod.mk.injEq] at h
      exact h.2 ▸ hfuel
  | succ fuel ih =>
      simp only [decodeFrames, StateT.run_bind, StateT.run_get, pure_eq_ok, ok_bind] at h
      split at h
      · simp only [StateT.run_bind, StateT.run_pure, pure_eq_ok, bind_eq_ok, Except.ok.injEq,
          Prod.mk.injEq] at h
        obtain ⟨⟨f, r₁⟩, hf, ⟨gs, r₂⟩, hgs, -, rfl⟩ := h
        have hadv : r.pos + 3 ≤ r₁.pos := Frame.advances_decode _ _ _ hf
        have hfuel₁ : size ≤ r₁.pos + fuel := by omega
        exact ih hgs hfuel₁
      · rename_i hpos
        simp only [StateT.run_pure, pure_eq_ok, Except.ok.injEq, Prod.mk.injEq] at h
        exact h.2 ▸ not_lt.mp hpos

lemma orderIndex_lt_of_decodeFrames {size fuel : ℕ} {r r' : Reader} {fs : List Frame}
    (h : (decodeFrames size fuel).run r = .ok (fs, r')) :
    ∀ f ∈ fs, f.orderIndex < 2 ^ 24 := by
  induction fuel generalizing r fs with
  | zero =>
      simp only [decodeFrames, StateT.run_pure, pure_eq_ok, Except.ok.injEq, Prod.mk.injEq] at h
      simp [← h.1]
  | succ fuel ih =>
      simp only [decodeFrames, StateT.run_bind, StateT.run_get, pure_eq_ok, ok_bind] at h
      split at h
      · simp only [StateT.run_bind, StateT.run_pure, pure_eq_ok, bind_eq_ok, Except.ok.injEq,
          Prod.mk.injEq] at h
        obtain ⟨⟨f, r₁⟩, hf, ⟨gs, r₂⟩, hgs, rfl, rfl⟩ := h
        exact List.forall_mem_cons.mpr ⟨Frame.orderIndex_lt_of_decode hf, ih hgs⟩
      · simp only [StateT.run_pure, pure_eq_ok, Except.ok.injEq, Prod.mk.injEq] at h
        simp [← h.1]

/-- Whatever the input, a decoded frame set has three-byte sequence and order indices. -/
lemma lt_of_decode {payload : Bytes} {fs : FrameSet} (h : decode payload = .ok fs) :
    fs.sequenceNumber < 2 ^ 24 ∧ ∀ f ∈ fs.datas, f.orderIndex < 2 ^ 24 := by
  simp only [decode, StateT.run_bind, StateT.run_pure, pure_eq_ok, map_eq_ok, bind_eq_ok,
    Except.ok.injEq] at h
  obtain ⟨-, ⟨⟨b, r₁⟩, -, ⟨n, r₂⟩, hn, ⟨ds, r₃⟩, hds, rfl⟩, rfl⟩ := h
  exact ⟨readU24_lt hn, orderIndex_lt_of_decodeFrames hds⟩

/-- The bytes of a frame set. -/
def layout (fs : FrameSet) : Bytes :=
  [fs.header] ++ (Endian.little.toBytes 3 fs.sequenceNumber ++ fs.datas.flatMap Frame.layout)

/-- The encoder writes the layout. -/
lemma encode_eq_layout {fs : FrameSet} (h : fs.Encodable) : fs.encode = .ok fs.layout := by
  have hw : Writes _ fs.layout :=
    (writes_writeU8 fs.header).bind <| (writes_writeU24 .little h.sequenceNumber_lt).bind <|
      Writes.forM fun f hf => Frame.writes_encode (h.frames f hf)
  rw [encode, hw, map_ok]
  rfl

/-- An encoding that succeeds has found a three-byte sequence number. -/
lemma lt_of_encode {fs : FrameSet} {bytes : Bytes} (h : fs.encode = .ok bytes) :
    fs.sequenceNumber < 2 ^ 24 := by
  obtain ⟨r, hrun, -⟩ := map_eq_ok.mp h
  exact (((requires_true (writeU8 fs.header)).bind <|
    (requires_writeU24 fs.sequenceNumber .little).bind <| requires_true _) [] r hrun).2.1

/-- The sequence number of a set, and the indices its frames carry, fit three bytes. -/
structure Fits (fs : FrameSet) : Prop where
  sequenceNumber_lt : fs.sequenceNumber < 2 ^ 24
  frames : ∀ f ∈ fs.datas, f.Fits

/-- A frame set is encoded exactly when its numbers fit. -/
lemma exists_encode_iff {fs : FrameSet} : (∃ bytes, fs.encode = .ok bytes) ↔ fs.Fits := by
  constructor
  · rintro ⟨bytes, hbytes⟩
    obtain ⟨r, hrun, -⟩ := map_eq_ok.mp hbytes
    obtain ⟨-, hnumber, hframes⟩ := ((requires_true (writeU8 fs.header)).bind <|
      (requires_writeU24 fs.sequenceNumber .little).bind <|
      Requires.forM Frame.requires_encode fs.datas) [] r hrun
    exact ⟨hnumber, fun f hf => ⟨(hframes f hf).1, (hframes f hf).2.1, (hframes f hf).2.2⟩⟩
  · intro h
    obtain ⟨inner, hrun⟩ := (writes_writeU8 fs.header).completes.bind
      ((writes_writeU24 .little h.sequenceNumber_lt).completes.bind
        (Completes.forM fun f hf => (h.frames f hf).completes_encode)) []
    exact ⟨inner, map_eq_ok.mpr ⟨_, hrun, rfl⟩⟩

/-- A frame set that is not encoded has a number that does not fit. -/
lemma encode_eq_error {fs : FrameSet} {e : Panic} (h : fs.encode = .error e) : e = .assertion := by
  have hasserts : Asserts _ := (writes_writeU8 fs.header).completes.asserts.bind <|
    (asserts_writeU24 fs.sequenceNumber .little).bind (Asserts.forM Frame.asserts_encode fs.datas)
  exact hasserts [] e (map_eq_error.mp h)

/-- A set of short frames without idle fields can be encoded whenever its encoding succeeds. -/
lemma encodable_of_encode {fs : FrameSet} {bytes : Bytes} (h : fs.encode = .ok bytes)
    (hframes : ∀ f ∈ fs.datas, f.carried = f ∧ f.data.length ≤ 8191) : fs.Encodable := by
  refine ⟨lt_of_encode h, fun f hf => ?_⟩
  obtain ⟨r, hrun, -⟩ := map_eq_ok.mp h
  have hall := (((requires_true (writeU8 fs.header)).bind <|
    (requires_true (writeU24 fs.sequenceNumber .little)).bind <|
    Requires.forM Frame.requires_encode fs.datas) [] r hrun).2.2
  obtain ⟨hmessage, hsequence, horder⟩ := hall f hf
  obtain ⟨hcarried, hdata⟩ := hframes f hf
  -- an index that the frame does not carry is zero
  have hidle : ∀ {b : Bool} {n : ℕ}, (if b = true then n else 0) = n → (b = true → n < 2 ^ 24) →
      n < 2 ^ 24 := by
    intro b n hn hlt
    by_cases hb : b = true
    · exact hlt hb
    · rw [← hn, if_neg hb]
      exact Nat.two_pow_pos 24
  exact ⟨hidle (congrArg Frame.messageIndex hcarried) hmessage,
    hidle (congrArg Frame.sequenceIndex hcarried) hsequence,
    hidle (congrArg Frame.orderIndex hcarried) horder, hdata⟩

/-- The layout is as long as `Frame::length` counts. -/
lemma layout_length (fs : FrameSet) :
    fs.layout.length = 4 + (fs.datas.map Frame.length).sum := by
  simp only [layout, List.length_append, List.length_singleton, Endian.toBytes_length,
    List.length_flatMap, Frame.layout_length]
  rw [← Nat.add_assoc]

/-- An encoded set takes four bytes more than its frames. -/
lemma length_of_encode {fs : FrameSet} {bytes : Bytes} (h : fs.encode = .ok bytes) :
    bytes.length = 4 + (fs.datas.map Frame.length).sum := by
  obtain ⟨⟨_, inner⟩, hrun, rfl⟩ := map_eq_ok.mp h
  have hadds := ((writes_writeU8 fs.header).adds.bind <|
    (adds_writeU24 fs.sequenceNumber .little).bind <| Adds.forM Frame.adds_encode fs.datas)
    [] inner hrun
  rw [hadds, List.length_nil, List.length_singleton]
  omega

/-- An encoded set begins with its header. -/
lemma head_of_encode {fs : FrameSet} {bytes : Bytes} (h : fs.encode = .ok bytes) :
    bytes.head? = some fs.header := by
  obtain ⟨⟨_, inner⟩, hrun, rfl⟩ := map_eq_ok.mp h
  rw [StateT.run_bind, writes_writeU8 fs.header [], ok_bind] at hrun
  obtain ⟨rest, hrest⟩ := (appends_writeU24 fs.sequenceNumber .little).bind
    (fun _ => Appends.forM Frame.appends_encode fs.datas) _ _ hrun
  rw [← hrest]
  rfl

lemma datas_length_le_layout_length (fs : List Frame) :
    fs.length ≤ (fs.flatMap Frame.layout).length := by
  induction fs with
  | nil => exact Nat.zero_le _
  | cons f fs ih =>
      have h3 := f.three_le_length
      have hl := f.layout_length
      rw [List.flatMap_cons, List.length_append, List.length_cons]
      omega

/-- The decode loop re-synchronises on every frame boundary: it reads a list of layouts back
frame by frame and stops at the end. -/
lemma decodeFrames_facing {fs : List Frame} (h : ∀ f ∈ fs, f.Encodable) (done : Bytes)
    (size fuel : ℕ) (hsize : size = (done ++ fs.flatMap Frame.layout).length)
    (hfuel : fs.length ≤ fuel) :
    (decodeFrames size fuel).run (facing done (fs.flatMap Frame.layout))
      = .ok (fs.map Frame.carried, facing (done ++ fs.flatMap Frame.layout) []) := by
  induction fs generalizing done fuel with
  | nil =>
      cases fuel with
      | zero => simp [decodeFrames]
      | succ fuel => simp [decodeFrames, hsize]
  | cons f fs ih =>
      obtain ⟨fuel, rfl⟩ : ∃ k, fuel = k + 1 :=
        ⟨fuel - 1, by rw [List.length_cons] at hfuel; omega⟩
      have hpos : (facing done ((f :: fs).flatMap Frame.layout)).pos < size := by
        have h3 := f.three_le_length
        have hl := f.layout_length
        rw [hsize, List.flatMap_cons, facing_pos, List.length_append, List.length_append]
        omega
      have hrest := ih (fun g hg => h g (List.mem_cons_of_mem _ hg)) (done ++ f.layout)
        fuel (by rw [hsize, List.flatMap_cons, List.append_assoc])
        (by rw [List.length_cons] at hfuel; omega)
      simp only [decodeFrames, StateT.run_bind, StateT.run_get, pure_eq_ok, ok_bind, if_pos hpos]
      rw [List.flatMap_cons, Frame.decode_facing (h f List.mem_cons_self), ok_bind, hrest, ok_bind]
      simp

/-- Decoding the layout gives the frame set back, its frames reduced to the carried fields. -/
lemma decode_layout {fs : FrameSet} (h : fs.Encodable) :
    decode fs.layout = .ok { fs with datas := fs.datas.map Frame.carried } := by
  have hloop := decodeFrames_facing h.frames
    ([fs.header] ++ Endian.little.toBytes 3 fs.sequenceNumber)
    fs.layout.length fs.layout.length (by rw [layout, List.append_assoc])
    ((datas_length_le_layout_length fs.datas).trans (by
      simp only [layout, List.length_append]
      omega))
  rw [decode, ← facing_nil_eq_new]
  simp only [layout, List.singleton_append, StateT.run_bind, readU8_facing, ok_bind,
    readU24_facing _ _ _ h.sequenceNumber_lt, List.nil_append] at hloop ⊢
  rw [hloop]
  rfl

/-- **Round trip of a frame set**, over any number of frames of any reliability, split or not:
encoding succeeds, the datagram has the length `Frame::length` accounts for, and decoding it gives
back the header, the sequence number and the frames with the fields they carry. -/
theorem frameSet_roundTrip (fs : FrameSet) (hseq : fs.sequenceNumber < 2 ^ 24)
    (hframes : ∀ f ∈ fs.datas, f.messageIndex < 2 ^ 24 ∧ f.sequenceIndex < 2 ^ 24
      ∧ f.orderIndex < 2 ^ 24 ∧ f.data.length ≤ 8191) :
    ∃ bytes, fs.encode = .ok bytes ∧ bytes.length = 4 + (fs.datas.map Frame.length).sum
      ∧ decode bytes = .ok { fs with datas := fs.datas.map Frame.carried } := by
  have h : fs.Encodable := by
    refine ⟨hseq, fun f hf => ?_⟩
    obtain ⟨hm, hs, ho, hd⟩ := hframes f hf
    exact ⟨hm, hs, ho, hd⟩
  exact ⟨fs.layout, encode_eq_layout h, fs.layout_length, decode_layout h⟩

/-- The round trip at a set of a split ordered frame and an empty sequenced one. -/
theorem frameSet_roundTrip_sample :
    let f : Frame := ⟨.reliableOrdered, 70000, 5, 3, true, 2, 1, 9, [1, 2, 3]⟩
    let g : Frame := ⟨.unreliableSequenced, 8, 70000, 4, false, 1, 1, 1, []⟩
    ∃ bytes, FrameSet.encode ⟨0x8c, 65536, [f, g]⟩ = .ok bytes ∧ bytes.length = 37
      ∧ decode bytes = .ok ⟨0x8c, 65536, [{ f with sequenceIndex := 0 },
          { g with messageIndex := 0, splitCount := 0, splitIndex := 0, splitId := 0 }]⟩ :=
  frameSet_roundTrip
    ⟨0x8c, 65536, [⟨.reliableOrdered, 70000, 5, 3, true, 2, 1, 9, [1, 2, 3]⟩,
      ⟨.unreliableSequenced, 8, 70000, 4, false, 1, 1, 1, []⟩]⟩ (by decide) (by decide)

end FrameSet

end ActixRaknet
