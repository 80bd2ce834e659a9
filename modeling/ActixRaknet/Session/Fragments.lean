import ActixRaknet.Session.Receive

/-!
The fragments of a buffer that does not fit one datagram.

* `PacketQueue.allocated`, `PacketQueue.queued`: frames that take a set of their own each, and the
  frames a call has queued, read off the sets it has allocated;
* `pieces`, `fragments`: the pieces `send_to` cuts a buffer into and the frames that carry them;
* `sendSplit_eq_ok`: a buffer that does not fit one datagram queues exactly its fragments;
* `flatten_pieces`: the pieces lose nothing but a last one that is full;
* `sendTo_fragments_iff`: which buffers the fragments carry.
-/

namespace ActixRaknet

open Fallible

namespace PacketQueue

/-- Each of the frames is given a set of its own. -/
def allocated (q : PacketQueue) (clock : Clock) (frames : List Frame) : PacketQueue :=
  frames.foldl (fun q f => q.allocate clock (setHeader f.split) [f]) q

/-- The frames in the sets that were allocated between two states, and those that joined the open
set. -/
def queued (q q' : PacketQueue) : List Frame :=
  ((List.range' q.max (q'.max - q.max)).filterMap q'.queue.lookup).flatMap FrameSet.datas
    ++ q'.setQueue.drop q.setQueue.length

section Allocated

variable (q : PacketQueue) (clock : Clock) (frames : List Frame)

lemma allocated_concat (f : Frame) : q.allocated clock (frames ++ [f])
    = (q.allocated clock frames).allocate clock (setHeader f.split) [f] := by
  rw [allocated, List.foldl_append]
  rfl

lemma allocated_append (frames' : List Frame) : q.allocated clock (frames ++ frames')
    = (q.allocated clock frames).allocated clock frames' := by
  rw [allocated, List.foldl_append]
  rfl

@[simp] lemma allocated_max : (q.allocated clock frames).max = q.max + frames.length := by
  induction frames using List.reverseRecOn with
  | nil => rfl
  | append_singleton frames f ih =>
      rw [allocated_concat, allocate, ih, List.length_append, List.length_singleton]
      rfl

@[simp] lemma allocated_setQueue : (q.allocated clock frames).setQueue = q.setQueue := by
  induction frames using List.reverseRecOn with
  | nil => rfl
  | append_singleton frames f ih =>
      rw [allocated_concat, allocate, ih]

@[simp] lemma allocated_mtu : (q.allocated clock frames).mtu = q.mtu := by
  induction frames using List.reverseRecOn with
  | nil => rfl
  | append_singleton frames f ih =>
      rw [allocated_concat, allocate, ih]

lemma queued_allocated : q.queued (q.allocated clock frames) = frames := by
  rw [queued, allocated_setQueue, List.drop_length, List.append_nil, allocated_max,
    Nat.add_sub_cancel_left]
  induction frames using List.reverseRecOn with
  | nil => rfl
  | append_singleton frames f ih =>
      have hbelow : ∀ n ∈ List.range' q.max frames.length,
          (q.allocated clock (frames ++ [f])).queue.lookup n
            = (q.allocated clock frames).queue.lookup n := by
        intro n hn
        rw [List.mem_range'_1] at hn
        rw [allocated_concat, lookup_allocate, allocated_max, if_neg (by omega)]
      have hlast : (q.allocated clock (frames ++ [f])).queue.lookup (q.max + frames.length)
          = some ⟨setHeader f.split, q.max + frames.length, [f]⟩ := by
        rw [allocated_concat, lookup_allocate, allocated_max, if_pos rfl]
      rw [List.length_append, List.length_singleton, List.range'_concat, List.filterMap_append,
        List.flatMap_append, List.filterMap_congr hbelow, ih]
      simp [hlast]

end Allocated

/-- A part of a split packet takes a set of its own. -/
lemma addFrame_split_eq_ok {q q' : PacketQueue} {clock : Clock} {f : Frame} (hf : f.split = true) :
    q.addFrame clock f = .ok q' ↔ 42 ≤ q.mtu ∧ q.max + 1 < 2 ^ 32
      ∧ q' = q.allocated clock [f] := by
  have hfits : ¬q.Fits f := by
    rintro ⟨-, h⟩
    exact Bool.false_ne_true (h.symm.trans hf)
  rw [addFrame_eq_ok]
  constructor
  · rintro ⟨hmtu, ⟨h, -⟩ | ⟨-, hmax, rfl⟩⟩
    · exact absurd h hfits
    · exact ⟨hmtu, hmax, rfl⟩
  · rintro ⟨hmtu, hmax, rfl⟩
    exact ⟨hmtu, Or.inr ⟨hfits, hmax, rfl⟩⟩

end PacketQueue

namespace Session

/-! ### The pieces of a buffer -/

/-- The length of the piece number `i`: the last one has the remainder of the length, which is
zero where the last piece is full. -/
def pieceLength (len max splitLen i : ℕ) : ℕ := if i = splitLen - 1 then len % max else max

/-- The piece number `i`. -/
def piece (buff : Bytes) (len max splitLen i : ℕ) : Bytes :=
  (buff.drop (i * max)).take (pieceLength len max splitLen i)

/-- The pieces `send_to` cuts a buffer into. -/
def pieces (buff : Bytes) (len max splitLen : ℕ) : List Bytes :=
  (List.range splitLen).map (piece buff len max splitLen)

/-- Pieces that are not the last are full, so they make up the front of the buffer. -/
lemma flatten_full (buff : Bytes) (max n : ℕ) :
    ((List.range n).map fun i => (buff.drop (i * max)).take max).flatten = buff.take (n * max) := by
  induction n with
  | zero => simp
  | succ n ih =>
      rw [List.range_succ, List.map_append, List.flatten_append, ih, List.map_singleton,
        List.flatten_singleton, Nat.succ_mul, List.take_add]

/-- All pieces together: the front of the buffer without the last piece's missing bytes. -/
lemma flatten_pieces (buff : Bytes) (len max n : ℕ) :
    (pieces buff len max (n + 1)).flatten = buff.take (n * max + len % max) := by
  have hfull : (List.range n).map (piece buff len max (n + 1))
      = (List.range n).map fun i => (buff.drop (i * max)).take max := by
    refine List.map_congr_left fun i hi => ?_
    rw [List.mem_range] at hi
    rw [piece, pieceLength, if_neg (by omega)]
  rw [pieces, List.range_succ, List.map_append, List.flatten_append, hfull, flatten_full,
    List.map_singleton, List.flatten_singleton, piece, pieceLength,
    if_pos (Nat.add_sub_cancel n 1).symm,
    List.take_add]

/-! ### The frames of a split buffer -/

/-- The frame that carries the piece number `i`. -/
def fragment (s : Session) (splitLen i : ℕ) (data : Bytes) : Frame :=
  { Frame.new .reliableOrdered data with
    split := true
    messageIndex := s.messageIndex + i
    orderIndex := s.orderIndex
    splitCount := UInt32.ofNat splitLen
    splitId := UInt16.ofNat s.splitId
    splitIndex := UInt32.ofNat i }

/-- The first `n` frames that carry a buffer in pieces. -/
def fragments (s : Session) (buff : Bytes) (len max splitLen n : ℕ) : List Frame :=
  (List.range n).map fun i => s.fragment splitLen i (piece buff len max splitLen i)

@[simp] lemma fragments_length (s : Session) (buff : Bytes) (len max splitLen n : ℕ) :
    (s.fragments buff len max splitLen n).length = n := by
  rw [fragments, List.length_map, List.length_range]

lemma fragments_succ (s : Session) (buff : Bytes) (len max splitLen n : ℕ) :
    s.fragments buff len max splitLen (n + 1) = s.fragments buff len max splitLen n
      ++ [s.fragment splitLen n (piece buff len max splitLen n)] := by
  rw [fragments, List.range_succ, List.map_append]
  rfl

/-- The frames are queued, each in a set of its own. -/
def withFragments (s : Session) (clock : PacketQueue.Clock) (frames : List Frame) : Session :=
  { s with
    messageIndex := s.messageIndex + frames.length
    packetQueue := s.packetQueue.allocated clock frames }

/-- What the round number `i` of the loop needs: the bytes of its piece, and counters that do not
overflow. -/
structure RoomFor (s : Session) (buff : Bytes) (len max splitLen i : ℕ) : Prop where
  piece_le : pieceLength len max splitLen i ≤ (buff.drop (i * max)).length
  mtu : 42 ≤ s.packetQueue.mtu
  max_lt : s.packetQueue.max + (i + 1) < 2 ^ 32
  messageIndex_lt : s.messageIndex + (i + 1) < 2 ^ 32

/-- What the loop leaves of the buffer after `n` rounds. -/
def rest (buff : Bytes) (len max splitLen : ℕ) : ℕ → Bytes
  | 0 => buff
  | n + 1 => (buff.drop (n * max)).drop (pieceLength len max splitLen n)

lemma rest_of_lt (buff : Bytes) (len max : ℕ) {splitLen n : ℕ} (hn : n < splitLen) :
    rest buff len max splitLen n = buff.drop (n * max) := by
  cases n with
  | zero => rw [rest, Nat.zero_mul, List.drop_zero]
  | succ n => rw [rest, pieceLength, if_neg (by omega), List.drop_drop, Nat.succ_mul]

/-- A round of the loop queues the next fragment. -/
lemma sendFragment_eq_ok {s : Session} {env : Env} {buff : Bytes} {len max splitLen n : ℕ}
    (hn : n < splitLen) {acc : Session × Bytes} :
    sendFragment env len max splitLen (s.withFragments env.queue
          (s.fragments buff len max splitLen n), buff.drop (n * max)) n = .ok acc
      ↔ s.RoomFor buff len max splitLen n
        ∧ acc = (s.withFragments env.queue (s.fragments buff len max splitLen (n + 1)),
            rest buff len max splitLen (n + 1)) := by
  have hlast : u16Sub splitLen 1 = .ok (splitLen - 1) := u16Sub_of_le (by omega)
  simp only [sendFragment, hlast, ok_bind, splitTo, bind_eq_ok, ite_error_eq_ok,
    Except.ok.injEq, send, withFragments, fragments_length, List.splitAt_eq, pure_eq_ok,
    u32Add_eq_ok]
  have hnext := s.fragments_succ buff len max splitLen n
  constructor
  · rintro ⟨_, ⟨hlen, rfl⟩, _, ⟨q, hq, rfl⟩, _, ⟨hindex, rfl⟩, rfl⟩
    obtain ⟨hmtu, hmax, rfl⟩ := (PacketQueue.addFrame_split_eq_ok
      (f := s.fragment splitLen n (piece buff len max splitLen n)) rfl).mp hq
    rw [PacketQueue.allocated_mtu] at hmtu
    rw [PacketQueue.allocated_max, fragments_length] at hmax
    rw [hnext, PacketQueue.allocated_append]
    exact ⟨⟨hlen, hmtu, hmax, hindex⟩, rfl⟩
  · rintro ⟨⟨hlen, hmtu, hmax, hindex⟩, rfl⟩
    refine ⟨_, ⟨hlen, rfl⟩, _, ⟨_, (PacketQueue.addFrame_split_eq_ok
      (f := s.fragment splitLen n (piece buff len max splitLen n)) rfl).mpr ⟨?_, ?_, rfl⟩, rfl⟩,
      _, ⟨hindex, rfl⟩, ?_⟩
    · rwa [PacketQueue.allocated_mtu]
    · rwa [PacketQueue.allocated_max, fragments_length]
    · rw [hnext, PacketQueue.allocated_append]
      rfl

/-- The first `n` rounds queue the first `n` fragments. -/
lemma foldlM_sendFragment_eq_ok {s : Session} {env : Env} {buff : Bytes} {len max splitLen n : ℕ}
    (hn : n ≤ splitLen) {acc : Session × Bytes} :
    (List.range n).foldlM (sendFragment env len max splitLen) (s, buff) = .ok acc
      ↔ (∀ i < n, s.RoomFor buff len max splitLen i)
        ∧ acc = (s.withFragments env.queue (s.fragments buff len max splitLen n),
            rest buff len max splitLen n) := by
  induction n generalizing acc with
  | zero =>
      rw [List.range_zero, List.foldlM_nil, pure_eq_ok, Except.ok.injEq, eq_comm (a := (s, buff))]
      exact ⟨fun h => ⟨fun i hi => absurd hi (Nat.not_lt_zero i), h⟩, And.right⟩
  | succ n ih =>
      rw [List.range_succ, foldlM_append_eq_ok, Nat.forall_lt_succ_right]
      simp only [ih (Nat.le_of_succ_le hn), foldlM_cons_eq_ok, List.foldlM_nil, pure_eq_ok,
        Except.ok.injEq, exists_eq_right, rest_of_lt buff len max (Nat.lt_of_succ_le hn)]
      constructor
      · rintro ⟨_, ⟨hroom, rfl⟩, hstep⟩
        obtain ⟨hlast, rfl⟩ := (sendFragment_eq_ok (Nat.lt_of_succ_le hn)).mp hstep
        exact ⟨⟨hroom, hlast⟩, rfl⟩
      · rintro ⟨⟨hroom, hlast⟩, rfl⟩
        exact ⟨_, ⟨hroom, rfl⟩, (sendFragment_eq_ok (Nat.lt_of_succ_le hn)).mpr ⟨hlast, rfl⟩⟩

/-! ### Split buffers -/

/-- The number of fragments of a buffer of `len` bytes. -/
def fragmentCount (len max : ℕ) : ℕ := if len % max ≠ 0 then len / max + 1 else len / max

lemma splitCount_eq_ok {len max n : ℕ} (hlen : len < 2 ^ 16) :
    splitCount len max = .ok n ↔ max ≠ 0 ∧ n = fragmentCount len max := by
  rw [splitCount, u16Div, u16Rem]
  by_cases hmax : max = 0
  · simp [hmax]
  simp only [ne_eq, hmax, not_false_eq_true, if_true, ok_bind, true_and, fragmentCount]
  by_cases hrest : len % max = 0
  · simp only [hrest, not_true_eq_false, if_false, Except.ok.injEq, eq_comm]
  · have htwo : 2 ≤ max := by
      by_contra hlt
      obtain rfl : max = 1 := by omega
      exact hrest (Nat.mod_one len)
    have hroom : len / max + 1 < 2 ^ 16 := by
      have hhalf : len / max ≤ len / 2 := Nat.div_le_div_left htwo Nat.two_pos
      omega
    simp only [hrest, not_false_eq_true, if_true, u16Add_eq_ok, hroom, true_and]

/-- Every piece is inside the buffer. -/
lemma pieceLength_le {len max i : ℕ} (hi : i < fragmentCount len max) :
    i * max + pieceLength len max (fragmentCount len max) i ≤ len := by
  have hdiv : len / max * max + len % max = len := Nat.div_add_mod' len max
  rw [fragmentCount] at hi ⊢
  rw [pieceLength]
  by_cases hrest : len % max = 0
  · rw [if_neg (not_not.mpr hrest)] at hi ⊢
    have hle : (i + 1) * max ≤ len / max * max := Nat.mul_le_mul_right max hi
    rw [Nat.succ_mul] at hle
    split_ifs <;> omega
  · rw [if_pos hrest] at hi ⊢
    rw [Nat.add_sub_cancel]
    split_ifs with hlast
    · rw [hlast, hdiv]
    · have hle : (i + 1) * max ≤ len / max * max := Nat.mul_le_mul_right max (by omega)
      rw [Nat.succ_mul] at hle
      omega

/-- What the counters of a session need for `n` more fragments. -/
structure Room (s : Session) (n : ℕ) : Prop where
  mtu : 0 < n → 42 ≤ s.packetQueue.mtu
  max_lt : 0 < n → s.packetQueue.max + n < 2 ^ 32
  messageIndex_lt : 0 < n → s.messageIndex + n < 2 ^ 32
  splitId_lt : s.splitId + 1 < 2 ^ 16
  orderIndex_lt : s.orderIndex + 1 < 2 ^ 32

/-- The frames of a buffer that does not fit one datagram; its length counts modulo `2 ^ 16`. -/
def splitFrames (s : Session) (buff : Bytes) : List Frame :=
  s.fragments buff (buff.length % 2 ^ 16) (s.mtu.toNat - 61)
    (fragmentCount (buff.length % 2 ^ 16) (s.mtu.toNat - 61))
    (fragmentCount (buff.length % 2 ^ 16) (s.mtu.toNat - 61))

@[simp] lemma splitFrames_length (s : Session) (buff : Bytes) : (s.splitFrames buff).length
    = fragmentCount (buff.length % 2 ^ 16) (s.mtu.toNat - 61) :=
  fragments_length _ _ _ _ _ _

lemma forall_roomFor_iff (s : Session) (buff : Bytes) {len max n : ℕ} (hlen : len ≤ buff.length)
    (hn : n = fragmentCount len max) :
    (∀ i < n, s.RoomFor buff len max n i) ∧ s.splitId + 1 < 2 ^ 16 ∧ s.orderIndex + 1 < 2 ^ 32
      ↔ s.Room n := by
  constructor
  · rintro ⟨hall, hid, horder⟩
    refine ⟨fun hpos => ?_, fun hpos => ?_, fun hpos => ?_, hid, horder⟩
    · exact (hall (n - 1) (by omega)).mtu
    · have h := (hall (n - 1) (by omega)).max_lt
      omega
    · have h := (hall (n - 1) (by omega)).messageIndex_lt
      omega
  · intro h
    refine ⟨fun i hi => ⟨?_, h.mtu (by omega), ?_, ?_⟩, h.splitId_lt, h.orderIndex_lt⟩
    · have hpiece := pieceLength_le (hn ▸ hi)
      rw [List.length_drop, hn]
      omega
    · have hmax := h.max_lt (by omega)
      omega
    · have hindex := h.messageIndex_lt (by omega)
      omega

/-- **A split buffer** queues its fragments and takes a split id and an order index. -/
lemma sendSplit_eq_ok {s s' : Session} {env : Env} {buff : Bytes} :
    s.sendSplit env buff = .ok s' ↔ 61 < s.mtu.toNat ∧ s.Room (s.splitFrames buff).length
      ∧ s' = { s.withFragments env.queue (s.splitFrames buff) with
          splitId := s.splitId + 1
          orderIndex := s.orderIndex + 1 } := by
  have hlen : buff.length % 2 ^ 16 < 2 ^ 16 := Nat.mod_lt _ (Nat.two_pow_pos 16)
  rw [splitFrames_length, ← forall_roomFor_iff s buff (Nat.mod_le _ _) rfl]
  simp only [sendSplit, bind_eq_ok, u16Sub_eq_ok, splitCount_eq_ok hlen]
  have hmax : s.mtu.toNat - 24 - 32 - 5 = s.mtu.toNat - 61 := by omega
  constructor
  · rintro ⟨_, ⟨-, rfl⟩, _, ⟨-, rfl⟩, _, ⟨-, rfl⟩, n, ⟨hpos, rfl⟩, acc, hfold, hrest⟩
    rw [hmax] at hpos hfold
    obtain ⟨hroom, rfl⟩ := (foldlM_sendFragment_eq_ok le_rfl).mp hfold
    simp only [u16Add_eq_ok, u32Add_eq_ok, pure_eq_ok, Except.ok.injEq] at hrest
    obtain ⟨_, ⟨hid, rfl⟩, _, ⟨horder, rfl⟩, rfl⟩ := hrest
    exact ⟨by omega, ⟨hroom, hid, horder⟩, rfl⟩
  · rintro ⟨hmtu, ⟨hroom, hid, horder⟩, rfl⟩
    refine ⟨_, ⟨by omega, rfl⟩, _, ⟨by omega, rfl⟩, _, ⟨by omega, rfl⟩, _, ⟨by omega, rfl⟩, ?_⟩
    rw [hmax]
    refine ⟨_, (foldlM_sendFragment_eq_ok le_rfl).mpr ⟨hroom, rfl⟩, ?_⟩
    simp only [u16Add_eq_ok, u32Add_eq_ok, pure_eq_ok, Except.ok.injEq]
    exact ⟨_, ⟨hid, rfl⟩, _, ⟨horder, rfl⟩, rfl⟩

/-- A buffer that does not fit one datagram is split. -/
lemma sendTo_split {s : Session} {env : Env} {buff : Bytes} (hmtu : 46 ≤ s.mtu.toNat)
    (hlen : s.mtu.toNat - 46 ≤ buff.length) : s.sendTo env buff = s.sendSplit env buff := by
  rw [sendTo, u16Sub_of_le (by omega), ok_bind, u16Sub_of_le (by omega), ok_bind,
    if_neg (by omega)]

/-! ### What the fragments carry -/

/-- The frames carry the buffer as one split packet. -/
structure Fragmented (frames : List Frame) (buff : Bytes) : Prop where
  split : ∀ f ∈ frames, f.split = true
  splitCount : ∀ f ∈ frames, f.splitCount.toNat = frames.length
  splitIndex : frames.map (fun f => f.splitIndex.toNat) = List.range frames.length
  orderIndex : ∃ orderIndex, ∀ f ∈ frames, f.orderIndex = orderIndex
  splitId : ∃ splitId, ∀ f ∈ frames, f.splitId = splitId
  data : (frames.map Frame.data).flatten = buff

lemma splitFrames_data (s : Session) (buff : Bytes) : (s.splitFrames buff).map Frame.data
    = pieces buff (buff.length % 2 ^ 16) (s.mtu.toNat - 61)
        (fragmentCount (buff.length % 2 ^ 16) (s.mtu.toNat - 61)) := by
  rw [splitFrames, fragments, List.map_map]
  rfl

/-- The fragments make up the buffer unless the last one should be full. -/
lemma flatten_splitFrames (s : Session) {buff : Bytes} (hmtu : 61 < s.mtu.toNat)
    (hpos : 0 < buff.length) (hlen : buff.length < 2 ^ 16) :
    ((s.splitFrames buff).map Frame.data).flatten = buff
      ↔ buff.length % (s.mtu.toNat - 61) ≠ 0 := by
  generalize hmax : s.mtu.toNat - 61 = max
  have hdiv : buff.length / max * max + buff.length % max = buff.length :=
    Nat.div_add_mod' buff.length max
  rw [splitFrames_data, Nat.mod_eq_of_lt hlen, hmax, fragmentCount]
  by_cases hrest : buff.length % max = 0
  · -- a full last piece is cut to length zero
    have hquot : 0 < buff.length / max := by
      by_contra hzero
      rw [Nat.eq_zero_of_not_pos hzero, hrest] at hdiv
      omega
    obtain ⟨n, hn⟩ := Nat.exists_eq_succ_of_ne_zero hquot.ne'
    rw [if_neg (not_not.mpr hrest), hn, Nat.succ_eq_add_one, flatten_pieces, hrest, Nat.add_zero]
    rw [hn, Nat.succ_mul, hrest] at hdiv
    refine iff_of_false (fun h => ?_) (not_not.mpr rfl)
    have hlength := congrArg List.length h
    rw [List.length_take] at hlength
    omega
  · rw [if_pos hrest, flatten_pieces, hdiv, List.take_length]
    exact iff_of_true rfl hrest

lemma fragmentCount_lt {len max : ℕ} (hlen : len < 2 ^ 16) : fragmentCount len max < 2 ^ 32 := by
  have h := Nat.div_le_self len max
  rw [fragmentCount]
  split_ifs <;> omega

/-- **The frames of a split buffer** are the parts of one split packet. -/
lemma mem_splitFrames {s : Session} {buff : Bytes} {f : Frame} (hf : f ∈ s.splitFrames buff) :
    f.split = true ∧ f.orderIndex = s.orderIndex ∧ f.splitId = UInt16.ofNat s.splitId
      ∧ f.splitCount.toNat = (s.splitFrames buff).length := by
  have hlt : fragmentCount (buff.length % 2 ^ 16) (s.mtu.toNat - 61) < 2 ^ 32 :=
    fragmentCount_lt (Nat.mod_lt _ (Nat.two_pow_pos 16))
  rw [splitFrames_length]
  obtain ⟨i, -, rfl⟩ := List.mem_map.mp hf
  exact ⟨rfl, rfl, rfl, UInt32.toNat_ofNat_of_lt' hlt⟩

/-- The parts are numbered from zero on. -/
lemma splitIndex_splitFrames (s : Session) (buff : Bytes) :
    (s.splitFrames buff).map (fun f => f.splitIndex.toNat)
      = List.range (s.splitFrames buff).length := by
  have hlt : fragmentCount (buff.length % 2 ^ 16) (s.mtu.toNat - 61) < 2 ^ 32 :=
    fragmentCount_lt (Nat.mod_lt _ (Nat.two_pow_pos 16))
  rw [splitFrames_length, splitFrames, fragments, List.map_map]
  conv_rhs => rw [← List.map_id (List.range _)]
  refine List.map_congr_left fun i hi => ?_
  exact UInt32.toNat_ofNat_of_lt' ((List.mem_range.mp hi).trans hlt)

/-- Which split buffers their fragments carry. -/
lemma fragmented_splitFrames_iff (s : Session) {buff : Bytes} (hmtu : 61 < s.mtu.toNat)
    (hpos : 0 < buff.length) (hlen : buff.length < 2 ^ 16) :
    Fragmented (s.splitFrames buff) buff ↔ buff.length % (s.mtu.toNat - 61) ≠ 0 := by
  rw [← flatten_splitFrames s hmtu hpos hlen]
  refine ⟨Fragmented.data, fun hdata => ?_⟩
  exact
    { split := fun f hf => (mem_splitFrames hf).1
      splitCount := fun f hf => (mem_splitFrames hf).2.2.2
      splitIndex := splitIndex_splitFrames s buff
      orderIndex := ⟨s.orderIndex, fun f hf => (mem_splitFrames hf).2.1⟩
      splitId := ⟨UInt16.ofNat s.splitId, fun f hf => (mem_splitFrames hf).2.2.1⟩
      data := hdata }

lemma sendSplit_queued {s s' : Session} {env : Env} {buff : Bytes}
    (h : s.sendSplit env buff = .ok s') :
    s.packetQueue.queued s'.packetQueue = s.splitFrames buff := by
  obtain ⟨-, -, rfl⟩ := sendSplit_eq_ok.mp h
  exact PacketQueue.queued_allocated _ _ _

/-- **Fragmentation.**  A buffer of at most 65535 bytes that does not fit one datagram is carried
whole by the frames queued for it exactly when its length is no multiple of the size of a piece;
and it is queued whenever the counters have room. -/
theorem sendTo_fragments_iff (s : Session) (env : Env) (buff : Bytes) (hmtu : 62 ≤ s.mtu.toNat)
    (hlo : s.mtu.toNat - 46 ≤ buff.length) (hhi : buff.length ≤ 65535) :
    (∀ s', s.sendTo env buff = .ok s' →
        (Fragmented (s.packetQueue.queued s'.packetQueue) buff
          ↔ buff.length % (s.mtu.toNat - 61) ≠ 0))
      ∧ ((∃ s', s.sendTo env buff = .ok s')
          ↔ s.Room (fragmentCount buff.length (s.mtu.toNat - 61))) := by
  have hlen : buff.length % 2 ^ 16 = buff.length := Nat.mod_eq_of_lt (by omega)
  rw [sendTo_split (by omega) hlo]
  constructor
  · intro s' h
    rw [sendSplit_queued h]
    exact fragmented_splitFrames_iff s (by omega) (by omega) (by omega)
  · simp only [sendSplit_eq_ok, splitFrames_length, hlen]
    constructor
    · rintro ⟨s', -, hroom, -⟩
      exact hroom
    · intro hroom
      exact ⟨_, by omega, hroom, rfl⟩

/-- A buffer of 20 bytes at the mtu 64, in seven pieces of at most three bytes. -/
theorem sendTo_fragments_sample :
    ∃ s', (new (.v4 ⟨127, 0, 0, 1⟩ 19132) 64 0 0).sendTo default (List.replicate 20 7) = .ok s'
      ∧ Fragmented (PacketQueue.queued (.new 64) s'.packetQueue) (List.replicate 20 7) := by
  have h := sendTo_fragments_iff (new (.v4 ⟨127, 0, 0, 1⟩ 19132) 64 0 0) default
    (List.replicate 20 7) (by decide) (by decide) (by decide)
  obtain ⟨s', hs'⟩ := h.2.mpr
    ⟨fun _ => by decide, fun _ => by decide, fun _ => by decide, by decide, by decide⟩
  exact ⟨s', hs', (h.1 s' hs').mpr (by decide)⟩

/-- A buffer of two full pieces at the mtu 1400 loses its second piece. -/
theorem sendTo_fragments_counterexample :
    ∃ s', (new (.v4 ⟨127, 0, 0, 1⟩ 19132) 1400 0 0).sendTo default (List.replicate 2678 0)
        = .ok s'
      ∧ ¬Fragmented (PacketQueue.queued (.new 1400) s'.packetQueue) (List.replicate 2678 0) := by
  have hlen : (List.replicate 2678 (0 : UInt8)).length = 2678 := List.length_replicate
  generalize hs : new (.v4 ⟨127, 0, 0, 1⟩ 19132) 1400 0 0 = s
  have hmtu : s.mtu.toNat = 1400 := by rw [← hs]; rfl
  have hroom : s.Room 2 := by
    rw [← hs]
    exact ⟨fun _ => by decide, fun _ => by decide, fun _ => by decide, by decide, by decide⟩
  have hqueue : s.packetQueue = .new 1400 := by rw [← hs]; rfl
  generalize List.replicate 2678 (0 : UInt8) = buff at hlen ⊢
  have hcount : (s.splitFrames buff).length = 2 := by
    rw [splitFrames_length, hlen, hmtu]
    rfl
  have hsend : ∃ s', s.sendSplit default buff = .ok s' :=
    ⟨_, sendSplit_eq_ok.mpr ⟨by omega, hcount ▸ hroom, rfl⟩⟩
  obtain ⟨s', hs'⟩ := hsend
  refine ⟨s', by rwa [sendTo_split (by omega) (by omega)], fun h => ?_⟩
  rw [← hqueue, sendSplit_queued hs', fragmented_splitFrames_iff s (by omega) (by omega)
    (by omega), hlen, hmtu] at h
  exact h rfl

end Session

end ActixRaknet
