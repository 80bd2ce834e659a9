import ActixRaknet.Codec.Scan
import ActixRaknet.Packets.Frame

/-!
What `FrameSet::decode` accepts.

* `Frame.Wire`, `FrameSet.Wire`: the byte strings in which every byte of a frame, of a frame set
  is there; those the decoder ignores have any value;
* `Frame.scans_decode`: `Frame::decode` reads exactly these images, up to the order channel,
  which it skips without looking at it;
* `FrameSet.Loop`: the loop of `FrameSet::decode` without a bound on its rounds;
* `FrameSet.Cut`: the payloads that lack the order channel of an empty last frame;
* `FrameSet.frameSet_decode_iff`: every other payload that is accepted is complete.
-/

namespace ActixRaknet

open Fallible Reader

namespace Frame

/-- An image of an order index: its three bytes and an order channel. -/
def WireOrder (n : ℕ) (x : Bytes) : Prop :=
  ∃ index channel, x = index ++ [channel] ∧ Number .little 3 n index

/-- An image of a split header: count, id and index. -/
def WireSplit (s : UInt32 × UInt16 × UInt32) (x : Bytes) : Prop :=
  ∃ count id index, x = count ++ (id ++ index)
    ∧ Word UInt32.ofNat 4 .big s.1 count ∧ Word UInt16.ofNat 2 .big s.2.1 id
    ∧ Word UInt32.ofNat 4 .big s.2.2 index

/-- `x` is an image of the frame `f`: every byte of the frame is there. -/
def Wire (f : Frame) (x : Bytes) : Prop :=
  ∃ header bits message sequence order split,
    x = [header] ++ (bits ++ (message ++ (sequence ++ (order ++ (split ++ f.data)))))
    ∧ decide (header &&& SPLIT_FLAG ≠ 0) = f.split
    ∧ Reliability.new ((header &&& 224) >>> 5) = .ok f.reliability
    ∧ bits.length = 2 ∧ f.data.length = (UInt16.ofNat (Endian.big.toNat bits) >>> 3).toNat
    ∧ Field f.reliability.isReliable (Number .little 3) 0 f.messageIndex message
    ∧ Field f.reliability.sequenced (Number .little 3) 0 f.sequenceIndex sequence
    ∧ Field f.reliability.sequencedOrOrdered WireOrder 0 f.orderIndex order
    ∧ Field f.split WireSplit (0, 0, 0) (f.splitCount, f.splitId, f.splitIndex) split

lemma scans_readOrder : Scans readOrder WireOrder := by
  refine ((scans_readU24 .little).bind fun n => (scans_next 1).bind fun _ =>
    scans_pure n).congr fun n x => ?_
  constructor
  · rintro ⟨_, index, _, rfl, hn, _, channel, _, rfl, hc, rfl, rfl⟩
    obtain ⟨c, rfl⟩ := List.length_eq_one_iff.mp hc
    exact ⟨index, c, rfl, hn⟩
  · rintro ⟨index, c, rfl, hn⟩
    exact ⟨n, index, [c], rfl, hn, (), [c], [], rfl, rfl, rfl, rfl⟩

lemma scans_readSplit : Scans readSplit WireSplit := by
  refine ((scans_readU32 .big).bind fun _ => (scans_readU16 .big).bind fun _ =>
    (scans_readU32 .big).bind fun _ => scans_pure _).congr fun s x => ?_
  constructor
  · rintro ⟨_, count, _, rfl, hcount, _, id, _, rfl, hid, _, index, _, rfl, hindex, rfl, rfl⟩
    exact ⟨count, id, index, by rw [List.append_nil], hcount, hid, hindex⟩
  · rintro ⟨count, id, index, rfl, hcount, hid, hindex⟩
    exact ⟨_, count, _, rfl, hcount, _, id, _, rfl, hid, _, index, [],
      (List.append_nil _).symm, hindex, rfl, rfl⟩

/-- `Frame::decode` reads the images of a frame. -/
lemma scans_decode : Scans decode Wire := by
  refine (scans_readU8.bind fun header =>
    (scans_lift (Reliability.new ((header &&& 224) >>> 5))).bind fun reliability =>
    (scans_readU16 .big).bind fun bits =>
    ((scans_readU24 .little).readIf reliability.isReliable 0).bind fun _ =>
    ((scans_readU24 .little).readIf reliability.sequenced 0).bind fun _ =>
    (scans_readOrder.readIf reliability.sequencedOrOrdered 0).bind fun _ =>
    (scans_readSplit.readIf (decide (header &&& SPLIT_FLAG ≠ 0)) (0, 0, 0)).bind fun s =>
    (scans_readExact (bits >>> 3).toNat).bind fun _ => scans_pure _).congr fun f x => ?_
  constructor
  · rintro ⟨header, _, _, rfl, rfl, reliability, _, _, rfl, ⟨hr, rfl⟩, _, bits, _, rfl,
      ⟨hbits, rfl⟩, m, message, _, rfl, hm, s, sequence, _, rfl, hs, o, order, _, rfl, ho,
      ⟨c, i, j⟩, split, _, rfl, hsplit, _, data, _, rfl, ⟨rfl, hdata⟩, rfl, rfl⟩
    exact ⟨header, bits, message, sequence, order, split, by
      rw [List.nil_append, List.append_nil], rfl, hr, hbits, hdata, hm, hs, ho, hsplit⟩
  · rintro ⟨header, bits, message, sequence, order, split, rfl, hflag, hr, hbits, hdata, hm, hs,
      ho, hsplit⟩
    refine ⟨header, [header], _, rfl, rfl, f.reliability, [], _, (List.nil_append _).symm,
      ⟨hr, rfl⟩, _, bits, _, rfl, ⟨hbits, rfl⟩, _, message, _, rfl, hm, _, sequence, _, rfl, hs,
      _, order, _, rfl, ho, (f.splitCount, f.splitId, f.splitIndex), split, _, rfl,
      hflag ▸ hsplit, _, f.data, [], (List.append_nil _).symm, ⟨rfl, hdata⟩, ?_, rfl⟩
    rw [hflag]

/-- An image of a frame is as long as `Frame::length` counts. -/
lemma Wire.length_eq {f : Frame} {x : Bytes} (h : f.Wire x) : x.length = f.length := by
  obtain ⟨_, bits, message, sequence, order, split, rfl, -, -, hbits, -, hm, hs, ho, hsplit⟩ := h
  have hmessage : message.length = if f.reliability.isReliable then 3 else 0 :=
    hm.length_eq fun _ _ h => h.1
  have hsequence : sequence.length = if f.reliability.sequenced then 3 else 0 :=
    hs.length_eq fun _ _ h => h.1
  have horder : order.length = if f.reliability.sequencedOrOrdered then 4 else 0 := by
    refine ho.length_eq ?_
    rintro _ _ ⟨index, channel, rfl, hindex, -⟩
    rw [List.length_append, hindex, List.length_singleton]
  have hsplit' : split.length = if f.split then 10 else 0 := by
    refine hsplit.length_eq ?_
    rintro _ _ ⟨count, id, index, rfl, ⟨hcount, -⟩, ⟨hid, -⟩, hindex, -⟩
    rw [List.length_append, List.length_append, hcount, hid, hindex]
  simp only [List.length_append, List.length_singleton, hbits, hmessage, hsequence, horder,
    hsplit', length]
  omega

lemma Wire.ne_nil {f : Frame} {x : Bytes} (h : f.Wire x) : x ≠ [] := by
  have h3 := f.three_le_length
  rintro rfl
  rw [← h.length_eq, List.length_nil] at h3
  omega

/-- The frames that end in their order channel: nothing is read behind it. -/
def Skips (f : Frame) : Prop :=
  f.reliability.sequencedOrOrdered = true ∧ f.split = false ∧ f.data = []

lemma lands_readSplit : Lands readSplit :=
  Lands.bind_right fun _ => Lands.bind_right fun _ =>
    (lands_readU32 .big).bind fun _ => keeps_pure _

/-- The order channel is the only byte that may be missing. -/
lemma readOrder_pos_le {r r' : Reader} {n : ℕ} (h : readOrder.run r = .ok (n, r')) :
    r'.pos ≤ r'.buf.length + 1 := by
  simp only [readOrder, next, StateT.run_bind, StateT.run_modify, StateT.run_pure, pure_eq_ok,
    bind_eq_ok, Except.ok.injEq, Prod.mk.injEq] at h
  obtain ⟨⟨_, r₁⟩, hindex, _, rfl, -, rfl⟩ := h
  exact Nat.succ_le_succ (lands_readU24 _ _ _ _ hindex)

/-- A frame that is decoded has all its bytes, up to the order channel of an empty frame. -/
lemma inside_or_skips {r r' : Reader} {f : Frame} (h : decode.run r = .ok (f, r')) :
    r'.Inside ∨ r'.pos = r'.buf.length + 1 ∧ f.Skips := by
  simp only [decode, StateT.run_bind, StateT.run_pure, pure_eq_ok, bind_eq_ok, Except.ok.injEq,
    Prod.mk.injEq] at h
  obtain ⟨⟨header, r₁⟩, -, ⟨reliability, r₂⟩, -, ⟨bits, r₃⟩, hbits, ⟨m, r₄⟩, hm, ⟨s, r₅⟩, hs,
    ⟨o, r₆⟩, ho, ⟨⟨c, i, j⟩, r₇⟩, hsplit, ⟨data, r₈⟩, hdata, rfl, rfl⟩ := h
  have hin₄ : r₄.Inside :=
    (lands_readU24 .little).keeps.readIf _ _ _ _ _ hm (lands_readU16 _ _ _ _ hbits)
  have hin₅ : r₅.Inside := (lands_readU24 .little).keeps.readIf _ _ _ _ _ hs hin₄
  cases hord : reliability.sequencedOrOrdered with
  | false =>
      rw [hord] at ho
      have hin₆ : r₆.Inside := keeps_pure _ _ _ _ ho hin₅
      exact Or.inl (keeps_readExact _ _ _ _ hdata
        (lands_readSplit.keeps.readIf _ _ _ _ _ hsplit hin₆))
  | true =>
      rw [hord] at ho
      have hpos₆ : r₆.pos ≤ r₆.buf.length + 1 := readOrder_pos_le ho
      cases hflag : decide (header &&& SPLIT_FLAG ≠ 0) with
      | true =>
          rw [hflag] at hsplit
          exact Or.inl (keeps_readExact _ _ _ _ hdata (lands_readSplit _ _ _ hsplit))
      | false =>
          rw [hflag] at hsplit
          simp only [readIf, Bool.false_eq_true, if_false, StateT.run_pure, pure_eq_ok,
            Except.ok.injEq, Prod.mk.injEq] at hsplit
          obtain ⟨-, rfl⟩ := hsplit
          rcases Nat.eq_zero_or_pos (bits >>> 3).toNat with hzero | hpos
          · -- nothing is read behind the order channel
            rw [hzero] at hdata
            obtain ⟨rfl, rfl⟩ := eq_of_readExact_zero hdata
            rcases hpos₆.lt_or_eq with hlt | heq
            · exact Or.inl (Nat.lt_succ_iff.mp hlt)
            · exact Or.inr ⟨heq, hord, rfl, rfl⟩
          · exact Or.inl (lands_readExact hpos _ _ _ hdata)

/-- An image without its order channel is decoded all the same. -/
lemma Wire.decode_skip {f : Frame} {x : Bytes} {c : UInt8} (h : f.Wire (x ++ [c]))
    (hskip : f.Skips) (done : Bytes) :
    decode.run (facing done x) = .ok (f, ⟨done ++ x, (done ++ x).length + 1⟩) := by
  obtain ⟨reliability, m, s, o, flag, count, i, id, data⟩ := f
  obtain ⟨hord, rfl, rfl⟩ : reliability.sequencedOrOrdered = true ∧ flag = false ∧ data = [] :=
    hskip
  obtain ⟨header, bits, message, sequence, order, split, heq, hflag, hr, hbits, hlen, hm, hs, ho,
    hsplit⟩ := h
  rw [hord] at ho
  obtain ⟨index, channel, rfl, hindex⟩ := ho
  obtain ⟨hzero, rfl⟩ := hsplit
  obtain ⟨rfl, rfl, rfl⟩ : count = 0 ∧ id = 0 ∧ i = 0 := by simpa using hzero
  obtain ⟨rfl, -⟩ : x = [header] ++ (bits ++ (message ++ (sequence ++ index))) ∧ [c] = [channel] :=
    List.append_inj' (heq.trans (by simp only [List.append_assoc, List.append_nil])) rfl
  -- the order index is the last field that is read
  have horder : ∀ done, (readIf true readOrder 0).run (facing done index)
      = .ok (o, ⟨done ++ index, (done ++ index).length + 1⟩) := by
    intro done
    have hread : (readU24 .little).run (facing done (index ++ []))
        = .ok (o, facing (done ++ index) []) := (scans_readU24 .little).reads hindex
    rw [List.append_nil] at hread
    simp only [readIf, if_true, readOrder, StateT.run_bind, hread, ok_bind]
    simp [next, facing]
  have hidle : ∀ r, (readIf false readSplit (0, 0, 0)).run r = .ok ((0, 0, 0), r) := fun r => rfl
  have hempty : ∀ r, (readExact 0).run r = .ok ([], r) := fun r => rfl
  simp only [decode, StateT.run_bind, scans_readU8.reads rfl, ok_bind, StateT.run_monadLift,
    monadLift_self, hr, (scans_readU16 .big).reads ⟨hbits, rfl⟩, pure_eq_ok,
    ((scans_readU24 .little).readIf _ 0).reads hm, ((scans_readU24 .little).readIf _ 0).reads hs,
    hord, horder, hflag, hidle, StateT.run_pure, ← hlen, List.length_nil, hempty,
    List.append_assoc]

end Frame

namespace FrameSet

/-! ### The loop -/

/-- The loop of `FrameSet::decode` without a bound on its rounds: from a cursor to its outcome. -/
inductive Loop (size : ℕ) : Reader → Except IoError (List Frame × Reader) → Prop
  /-- The position has reached the end. -/
  | stop {r : Reader} (hpos : size ≤ r.pos) : Loop size r (.ok ([], r))
  /-- A frame is not decoded. -/
  | fail {r : Reader} {e : IoError} (hpos : r.pos < size) (hf : Frame.decode.run r = .error e) :
      Loop size r (.error e)
  /-- A frame is pushed and the loop goes on. -/
  | push {r r₁ : Reader} {f : Frame} {o : Except IoError (List Frame × Reader)}
      (hpos : r.pos < size) (hf : Frame.decode.run r = .ok (f, r₁)) (ho : Loop size r₁ o) :
      Loop size r (Prod.map (f :: ·) id <$> o)

/-- Within its rounds the loop comes to its end, whatever the bytes. -/
lemma loop_decodeFrames {size fuel : ℕ} {r : Reader} (hfuel : size ≤ r.pos + fuel) :
    Loop size r ((decodeFrames size fuel).run r) := by
  induction fuel generalizing r with
  | zero => exact Loop.stop hfuel
  | succ fuel ih =>
      simp only [decodeFrames, StateT.run_bind, StateT.run_get, pure_eq_ok, ok_bind]
      by_cases hpos : r.pos < size
      · rw [if_pos hpos, StateT.run_bind]
        cases hf : Frame.decode.run r with
        | error e => exact Loop.fail hpos hf
        | ok fr =>
            have hadv : r.pos + 3 ≤ fr.2.pos := Frame.advances_decode _ _ _ hf
            exact Loop.push hpos hf (ih (by omega))
      · rw [if_neg hpos]
        exact Loop.stop (not_lt.mp hpos)

/-- The loop has one outcome. -/
lemma Loop.unique {size : ℕ} {r : Reader} {o o' : Except IoError (List Frame × Reader)}
    (h : Loop size r o) (h' : Loop size r o') : o = o' := by
  induction h generalizing o' with
  | stop hpos =>
      cases h' with
      | stop => rfl
      | fail hpos' => exact absurd hpos' (not_lt.mpr hpos)
      | push hpos' => exact absurd hpos' (not_lt.mpr hpos)
  | fail hpos hf =>
      cases h' with
      | stop hpos' => exact absurd hpos (not_lt.mpr hpos')
      | fail _ hf' => exact congrArg Except.error (Except.error.inj (hf.symm.trans hf'))
      | push _ hf' => cases hf.symm.trans hf'
  | push hpos hf _ ih =>
      cases h' with
      | stop hpos' => exact absurd hpos (not_lt.mpr hpos')
      | fail _ hf' => cases hf.symm.trans hf'
      | push _ hf' ho' =>
          obtain ⟨rfl, rfl⟩ := Prod.mk.inj (Except.ok.inj (hf.symm.trans hf'))
          rw [ih ho']

/-! ### Images of a frame set -/

/-- An image of a list of frames: an image of each, one behind the other. -/
inductive Wires : List Frame → Bytes → Prop
  | nil : Wires [] []
  | cons {f : Frame} {fs : List Frame} {x y : Bytes} (hf : f.Wire x) (hfs : Wires fs y) :
      Wires (f :: fs) (x ++ y)

/-- `p` is an image of the frame set `fs`: every byte of every frame is there. -/
def Wire (fs : FrameSet) (p : Bytes) : Prop :=
  ∃ number body, p = [fs.header] ++ (number ++ body) ∧ Number .little 3 fs.sequenceNumber number
    ∧ Wires fs.datas body

lemma Wires.length_eq {fs : List Frame} {x : Bytes} (h : Wires fs x) :
    x.length = (fs.map Frame.length).sum := by
  induction h with
  | nil => rfl
  | cons hf _ ih => rw [List.length_append, hf.length_eq, ih, List.map_cons, List.sum_cons]

/-- An image of a frame set is as long as its frames count, after four bytes of its own. -/
lemma Wire.length_eq {fs : FrameSet} {p : Bytes} (h : fs.Wire p) :
    4 + (fs.datas.map Frame.length).sum = p.length := by
  obtain ⟨number, body, rfl, ⟨hnumber, -⟩, hbody⟩ := h
  rw [← hbody.length_eq, List.length_append, List.length_append, hnumber, List.length_singleton]
  omega

/-- What the loop read is an image of its frames, once a byte it skipped is filled in. -/
lemma Loop.takes {size : ℕ} {r r' : Reader} {fs : List Frame}
    {o : Except IoError (List Frame × Reader)} (h : Loop size r o) (ho : o = .ok (fs, r')) :
    r'.buf = r.buf ∧ r.pos ≤ r'.pos
      ∧ ∀ t, r'.pos ≤ (r.buf ++ t).length → Wires fs (between (r.buf ++ t) r.pos r'.pos) := by
  induction h generalizing fs with
  | stop =>
      obtain ⟨rfl, rfl⟩ := Prod.mk.inj (Except.ok.inj ho)
      exact ⟨rfl, le_rfl, fun t _ => (between_self _ _).symm ▸ Wires.nil⟩
  | fail => cases ho
  | push _ hf _ ih =>
      obtain ⟨⟨gs, r₂⟩, rfl, heq⟩ := map_eq_ok.mp ho
      obtain ⟨rfl, rfl⟩ := Prod.mk.inj heq
      obtain ⟨hbuf, hle, hwire⟩ := Frame.scans_decode.spells _ _ _ hf
      obtain ⟨hbuf', hle', hwires⟩ := ih rfl
      refine ⟨hbuf'.trans hbuf, hle.trans hle', fun t ht => ?_⟩
      rw [hbuf] at hwires
      exact between_append hle hle' ▸ Wires.cons (hwire t (hle'.trans ht)) (hwires t ht)

/-- The loop runs past the end by at most the order channel of an empty last frame. -/
lemma Loop.inside_or_skips {size : ℕ} {r r' : Reader} {fs : List Frame}
    {o : Except IoError (List Frame × Reader)} (h : Loop size r o) (ho : o = .ok (fs, r'))
    (hsize : size = r.buf.length) (hin : r.Inside) :
    r'.pos = size ∨ r'.pos = size + 1 ∧ ∃ f ∈ fs.getLast?, f.Skips := by
  induction h generalizing fs with
  | stop hpos =>
      obtain ⟨rfl, rfl⟩ := Prod.mk.inj (Except.ok.inj ho)
      exact Or.inl (le_antisymm (hsize ▸ hin) hpos)
  | fail => cases ho
  | push _ hf hloop ih =>
      obtain ⟨⟨gs, r₂⟩, rfl, heq⟩ := map_eq_ok.mp ho
      obtain ⟨rfl, rfl⟩ := Prod.mk.inj heq
      have hbuf := (Frame.scans_decode.spells _ _ _ hf).1
      rcases Frame.inside_or_skips hf with hin₁ | ⟨hpos, hskips⟩
      · refine (ih rfl (hbuf ▸ hsize) hin₁).imp_right ?_
        rintro ⟨hpos, g, hg, hskips⟩
        exact ⟨hpos, g, List.mem_getLast?_cons hg, hskips⟩
      · -- the cursor is past the end: the loop stops behind this frame
        rw [hbuf, ← hsize] at hpos
        cases hloop.unique (Loop.stop (by omega))
        exact Or.inr ⟨hpos, _, rfl, hskips⟩

/-- The loop reads an image back frame by frame, whatever follows. -/
lemma Wires.loop {size : ℕ} {gs fs : List Frame} {y done rest : Bytes} {r' : Reader}
    (h : Wires gs y) (hsize : done.length + y.length ≤ size)
    (hrest : Loop size (facing (done ++ y) rest) (.ok (fs, r'))) :
    Loop size (facing done (y ++ rest)) (.ok (gs ++ fs, r')) := by
  induction h generalizing done with
  | nil => rwa [List.append_nil] at hrest
  | @cons f gs x y hf _ ih =>
      rw [List.length_append, hf.length_eq] at hsize
      have h3 := f.three_le_length
      have hpos : (facing done (x ++ (y ++ rest))).pos < size := by
        rw [facing_pos]
        omega
      have htail : Loop size (facing (done ++ x) (y ++ rest)) (.ok (gs ++ fs, r')) :=
        ih (by rw [List.length_append, hf.length_eq]; omega) (by rwa [List.append_assoc])
      rw [List.append_assoc]
      exact Loop.push hpos (Frame.scans_decode.reads hf) htail

/-- Bytes that start with an image of some frames and are an image hold an image behind it. -/
lemma Wires.rest {fs gs : List Frame} {x z u : Bytes} (h : Wires gs x) (h' : Wires fs z)
    (heq : z = x ++ u) : ∃ hs, Wires hs u := by
  induction h generalizing fs z with
  | nil =>
      rw [List.nil_append] at heq
      exact ⟨fs, heq ▸ h'⟩
  | @cons g gs x y hg _ ih =>
      rw [List.append_assoc] at heq
      cases h' with
      | nil => exact absurd (List.append_eq_nil_iff.mp heq.symm).1 hg.ne_nil
      | @cons f fs x' y' hf hfs =>
          obtain ⟨-, rfl⟩ := Frame.scans_decode.unique hf hg heq
          exact ih hfs (List.append_cancel_left heq)

/-- An image of some frames ends in an image of the last one. -/
lemma Wires.last {fs : List Frame} {f : Frame} {z : Bytes} (h : Wires (fs ++ [f]) z) :
    ∃ x y, z = x ++ y ∧ Wires fs x ∧ f.Wire y := by
  induction fs generalizing z with
  | nil =>
      cases h with
      | cons hf hfs =>
          cases hfs
          exact ⟨[], _, List.append_nil _, Wires.nil, hf⟩
  | cons g fs ih =>
      cases h with
      | cons hg hfs =>
          obtain ⟨x, y, rfl, hx, hy⟩ := ih hfs
          exact ⟨_, y, (List.append_assoc _ _ _).symm, Wires.cons hg hx, hy⟩

/-! ### What is accepted -/

/-- `p` is an image of a frame set that lacks the order channel of its last frame, which is
empty and not split. -/
def Cut (p : Bytes) : Prop :=
  ∃ fs : FrameSet, ∃ c, fs.Wire (p ++ [c]) ∧ ∃ f ∈ fs.datas.getLast?, f.Skips

/-- `p` ends inside a frame: an image of a frame set goes before a proper part of a frame. -/
def Truncated (p : Bytes) : Prop :=
  ∃ (fs : FrameSet) (f : Frame) (x u v : Bytes), fs.Wire x ∧ f.Wire (u ++ v) ∧ u ≠ [] ∧ v ≠ []
    ∧ p = x ++ u

/-- The body of `FrameSet::decode`, with the cursor it ends at. -/
def reading (payload : Bytes) : ReadM FrameSet := do
  let header ← readU8
  let sequenceNumber ← readU24 .little
  let datas ← decodeFrames payload.length payload.length
  return { header, sequenceNumber, datas }

lemma decode_eq (payload : Bytes) :
    decode payload = Prod.fst <$> (reading payload).run (Reader.new payload) := rfl

/-- A payload that is accepted is complete, up to the order channel of an empty last frame. -/
lemma reading_eq_ok {p : Bytes} {fs : FrameSet} {r : Reader}
    (h : (reading p).run (Reader.new p) = .ok (fs, r)) :
    r.pos = p.length ∧ fs.Wire p
      ∨ r.pos = p.length + 1 ∧ fs.Wire (p ++ [0]) ∧ ∃ f ∈ fs.datas.getLast?, f.Skips := by
  simp only [reading, StateT.run_bind, StateT.run_pure, pure_eq_ok, bind_eq_ok, Except.ok.injEq,
    Prod.mk.injEq] at h
  obtain ⟨⟨header, r₁⟩, hheader, ⟨n, r₂⟩, hn, ⟨datas, r₃⟩, hdatas, rfl, rfl⟩ := h
  have hloop : Loop p.length r₂ (.ok (datas, r₃)) :=
    hdatas ▸ loop_decodeFrames (Nat.le_add_left _ _)
  obtain ⟨hbuf₁, -, hwire₁⟩ := scans_readU8.spells _ _ _ hheader
  obtain ⟨hbuf₂, hle₂, hwire₂⟩ := (scans_readU24 .little).spells _ _ _ hn
  obtain ⟨-, hle₃, hwire₃⟩ := hloop.takes rfl
  replace hbuf₂ : r₂.buf = p := hbuf₂.trans hbuf₁
  replace hle₂ : r₁.pos ≤ r₂.pos := hle₂
  have hin : r₂.Inside := lands_readU24 _ _ _ _ hn
  -- the bytes up to the cursor, those behind the end filled in
  have hwire : ∀ t, r₃.pos = (p ++ t).length → Wire ⟨header, n, datas⟩ (p ++ t) := by
    intro t ht
    have hsplit : p ++ t = between (p ++ t) 0 r₁.pos ++ (between (p ++ t) r₁.pos r₂.pos
        ++ between (p ++ t) r₂.pos r₃.pos) := by
      rw [← between_append hle₂ hle₃, ← between_append (Nat.zero_le _) (hle₂.trans hle₃), ht,
        between_end, List.drop_zero]
    have hx := hwire₁ t (hle₂.trans (hle₃.trans ht.le))
    have hy := hwire₂ t (by rw [hbuf₁]; exact hle₃.trans ht.le)
    have hz := hwire₃ t (by rw [hbuf₂]; exact ht.le)
    rw [hbuf₁] at hy
    rw [hbuf₂] at hz
    exact ⟨_, _, hx ▸ hsplit, hy, hz⟩
  rcases hloop.inside_or_skips rfl (congrArg List.length hbuf₂.symm) hin with
    hpos | ⟨hpos, hskips⟩
  · have hp := hwire [] (by rw [List.append_nil, hpos])
    rw [List.append_nil] at hp
    exact Or.inl ⟨hpos, hp⟩
  · exact Or.inr ⟨hpos, hwire [0] (by rw [hpos, List.length_append, List.length_singleton]),
      hskips⟩

/-- Reading a payload is reading its first four bytes and running the loop. -/
lemma reading_of_loop {b : UInt8} {n : ℕ} {p number body : Bytes} {fs : List Frame} {r : Reader}
    (hp : p = [b] ++ (number ++ body)) (hn : Number .little 3 n number)
    (hloop : Loop p.length (facing ([b] ++ number) body) (.ok (fs, r))) :
    (reading p).run (Reader.new p) = .ok (⟨b, n, fs⟩, r) := by
  have hrun := (loop_decodeFrames (Nat.le_add_left p.length _)).unique hloop
  have hb : readU8.run (facing [] ([b] ++ (number ++ body)))
      = .ok (b, facing ([] ++ [b]) (number ++ body)) := scans_readU8.reads rfl
  rw [facing_nil_eq_new, ← hp, List.nil_append] at hb
  rw [reading, StateT.run_bind, hb, ok_bind, StateT.run_bind, (scans_readU24 .little).reads hn,
    ok_bind, StateT.run_bind, hrun]
  rfl

/-- An image of a frame set is accepted. -/
lemma Wire.reading_eq {p : Bytes} {fs : FrameSet} (h : fs.Wire p) :
    (reading p).run (Reader.new p) = .ok (fs, facing p []) := by
  obtain ⟨number, body, hp, hn, hbody⟩ := h
  have hlen : p.length = ([fs.header] ++ number).length + body.length := by
    rw [hp, ← List.append_assoc, List.length_append]
  have hloop : Loop p.length (facing ([fs.header] ++ number) (body ++ [])) _ :=
    hbody.loop hlen.ge (Loop.stop (by rw [facing_pos, List.length_append, hlen]))
  rw [List.append_nil, List.append_nil, List.append_assoc, ← hp] at hloop
  exact reading_of_loop hp hn hloop

/-- An image that lacks the order channel of an empty last frame is accepted. -/
lemma reading_of_cut {p : Bytes} {fs : FrameSet} {c : UInt8} {f : Frame} (h : fs.Wire (p ++ [c]))
    (hf : f ∈ fs.datas.getLast?) (hskips : f.Skips) :
    (reading p).run (Reader.new p) = .ok (fs, ⟨p, p.length + 1⟩) := by
  obtain ⟨number, body, hp, hn, hbody⟩ := h
  rw [← List.dropLast_append_getLast? f hf] at hbody
  obtain ⟨x, y, rfl, hx, hy⟩ := hbody.last
  obtain ⟨u, d, rfl⟩ := (List.eq_nil_or_concat' y).resolve_left hy.ne_nil
  obtain ⟨rfl, -⟩ : p = [fs.header] ++ (number ++ (x ++ u)) ∧ [c] = [d] :=
    List.append_inj' (hp.trans (by simp only [List.append_assoc])) rfl
  have h3 : 3 ≤ (u ++ [d]).length := hy.length_eq.symm ▸ f.three_le_length
  rw [List.length_append, List.length_singleton] at h3
  have hbuf : [fs.header] ++ number ++ x ++ u = [fs.header] ++ (number ++ (x ++ u)) := by
    simp only [List.append_assoc]
  have hlen : ([fs.header] ++ (number ++ (x ++ u))).length
      = ([fs.header] ++ number).length + x.length + u.length := by
    rw [← hbuf, List.length_append, List.length_append]
  have hpos : (facing ([fs.header] ++ number ++ x) u).pos
      < ([fs.header] ++ (number ++ (x ++ u))).length := by
    rw [facing_pos, List.length_append, hlen]
    omega
  -- the last frame is read past the end, where the loop stops
  have hskip := hy.decode_skip hskips ([fs.header] ++ number ++ x)
  rw [hbuf] at hskip
  have hlast := Loop.push hpos hskip (Loop.stop (Nat.le_succ _))
  have hloop := hx.loop (by rw [hlen]; omega) hlast
  have hrun := reading_of_loop rfl hn hloop
  rwa [List.dropLast_append_getLast? f hf] at hrun

/-- **What `FrameSet::decode` accepts**: the images of frame sets, and those that lack the order
channel of an empty last frame. -/
theorem decode_eq_ok_iff {p : Bytes} {fs : FrameSet} :
    decode p = .ok fs
      ↔ fs.Wire p ∨ ∃ c, fs.Wire (p ++ [c]) ∧ ∃ f ∈ fs.datas.getLast?, f.Skips := by
  rw [decode_eq]
  constructor
  · intro h
    obtain ⟨⟨fs', r⟩, hrun, rfl⟩ := map_eq_ok.mp h
    rcases reading_eq_ok hrun with ⟨-, hwire⟩ | ⟨-, hwire, hskips⟩
    · exact Or.inl hwire
    · exact Or.inr ⟨0, hwire, hskips⟩
  · rintro (hwire | ⟨c, hwire, f, hf, hskips⟩)
    · rw [hwire.reading_eq, map_ok]
    · rw [reading_of_cut hwire hf hskips, map_ok]

/-- A payload that ends inside a frame is not complete. -/
lemma Truncated.not_wire {p : Bytes} (h : Truncated p) (fs : FrameSet) : ¬fs.Wire p := by
  rintro ⟨number, body, hp, hn, hbody⟩
  obtain ⟨gs, f, x, u, v, ⟨number', body', rfl, hn', hbody'⟩, hf, hu, hv, rfl⟩ := h
  -- the frames behind the complete ones begin with a frame of their own
  obtain ⟨hnumber, hrest⟩ : number' = number ∧ body' ++ u = body := by
    simp only [List.cons_append, List.append_assoc, List.cons.injEq] at hp
    exact List.append_inj hp.2 (hn'.1.trans hn.1.symm)
  obtain ⟨hs, hhs⟩ := hbody'.rest hbody hrest.symm
  cases hhs with
  | nil => exact hu rfl
  | @cons g hs y z hg hhs =>
      have heq : (y ++ z ++ v) ++ [] = y ++ (z ++ v) := by
        rw [List.append_nil, List.append_assoc]
      obtain ⟨-, hy⟩ := Frame.scans_decode.unique hf hg heq
      have hlen := congrArg List.length hy
      have hvpos := List.length_pos_iff.mpr hv
      simp only [List.length_append] at hlen
      omega

/-- **Complete frames**: the loop comes to its end on every payload, and a payload that is
accepted is complete, its frames counting its bytes and the cursor at its end, and one that ends
inside a frame is rejected, exactly if the payload does not lack the order channel of an empty
last frame. -/
theorem frameSet_decode_iff (p : Bytes) :
    (∀ r, Loop p.length r ((decodeFrames p.length p.length).run r))
    ∧ ((∀ fs, decode p = .ok fs →
          4 + (fs.datas.map Frame.length).sum = p.length ∧ fs.Wire p
            ∧ (reading p).run (Reader.new p) = .ok (fs, ⟨p, p.length⟩))
        ∧ (Truncated p → ∃ e, decode p = .error e)
      ↔ ¬Cut p) := by
  refine ⟨fun r => loop_decodeFrames (Nat.le_add_left _ _), ?_, fun hcut => ?_⟩
  · rintro ⟨hcomplete, -⟩ ⟨fs, c, hwire, hlast⟩
    obtain ⟨hlen, -, -⟩ := hcomplete fs (decode_eq_ok_iff.mpr (Or.inr ⟨c, hwire, hlast⟩))
    have hlen' := hwire.length_eq
    rw [List.length_append, List.length_singleton] at hlen'
    omega
  · have hwire : ∀ fs, decode p = .ok fs → fs.Wire p := by
      intro fs h
      rcases decode_eq_ok_iff.mp h with hwire | ⟨c, hwire, hlast⟩
      · exact hwire
      · exact absurd ⟨fs, c, hwire, hlast⟩ hcut
    refine ⟨fun fs h => ?_, fun htruncated => ?_⟩
    · have hfs := hwire fs h
      refine ⟨hfs.length_eq, hfs, ?_⟩
      rw [hfs.reading_eq, facing, List.append_nil]
    · cases hdecode : decode p with
      | error e => exact ⟨e, rfl⟩
      | ok fs => exact absurd (hwire fs hdecode) (htruncated.not_wire fs)

/-- A reliable and ordered frame without a body, cut before its order channel, is accepted. -/
theorem frameSet_decode_short :
    ¬∀ (p : Bytes) (fs : FrameSet), decode p = .ok fs →
      4 + (fs.datas.map Frame.length).sum = p.length := by
  intro h
  have hdecode : decode [0x84, 0, 0, 0, 0x60, 0, 0, 0, 0, 0, 0, 0, 0]
      = .ok ⟨0x84, 0, [Frame.new .reliableOrdered []]⟩ := by
    decide
  exact absurd (h _ _ hdecode) (by decide)

end FrameSet

end ActixRaknet
