import ActixRaknet.Queue.SplitPacket
import ActixRaknet.Library.Run

/-!
`receivedqueue.rs`: ordered frames wait here until all frames before them have arrived.

* `ReceivedQueue`, `add`, `getAll`, and `receive`, the two in the order of
  `Session::receive_packet`;
* `add_split`: what an arriving fragment does;
* `Window`: the queue holds the messages that have arrived from `min` on; `Window.store` and
  `Window.add_unsplit` say what an arrival adds to them, `Window.getAll` what is released;
* `Reassembled`: between two arrivals everything before `min` has been released, and `min` is the
  first message that has not arrived.
-/

namespace ActixRaknet

open Fallible

/-- `ReceivedQueue`. -/
structure ReceivedQueue where
  min : ℕ
  max : ℕ
  packetQueue : HashMap ℕ Frame
  splits : SplitPacketQueue

namespace ReceivedQueue

/-- `ReceivedQueue::new`. -/
def new : ReceivedQueue := ⟨0, 0, ∅, .new⟩

/-- The end of the window after a frame with the order index `orderIndex` is stored. -/
def raised (q : ReceivedQueue) (orderIndex : ℕ) : Except Panic ℕ :=
  if q.max ≤ orderIndex then u32Add orderIndex 1 else .ok q.max

/-- The two statements `ReceivedQueue::add` ends with for both kinds of frames: `max` is raised and
the frame is inserted. -/
def store (q : ReceivedQueue) (frame : Frame) : Except Panic ReceivedQueue := do
  let max ← q.raised frame.orderIndex
  return { q with max := max, packetQueue := q.packetQueue.insert frame.orderIndex frame }

/-- A completed split packet is stored as one frame. -/
def storePacket (q : ReceivedQueue) (packet : SplitPacket) : Except Panic ReceivedQueue := do
  let result ← packet.getFrame
  let f ← unwrapOk result
  q.store f

/-- `ReceivedQueue::add`. -/
def add (q : ReceivedQueue) (frame : Frame) : Except Panic ReceivedQueue :=
  if frame.split then do
    let splits ← q.splits.add frame
    let (packets, splits) := splits.getAndClear
    packets.foldlM storePacket { q with splits := splits }
  else if frame.orderIndex < q.min then .ok q
  else if frame.orderIndex ∈ q.packetQueue then .ok q
  else q.store frame

/-- The loop of `ReceivedQueue::get_all`, over `n` numbers from `index` on: it takes the frames out
until one is missing, and returns them with the number it stopped at and what is left. -/
def release (packetQueue : HashMap ℕ Frame) (index : ℕ) : ℕ → List Frame × ℕ × HashMap ℕ Frame
  | 0 => ([], index, packetQueue)
  | n + 1 =>
    match packetQueue.lookup index with
    | none => ([], index, packetQueue)
    | some frame =>
      let rest := release (packetQueue.erase index) (index + 1) n
      (frame :: rest.1, rest.2)

/-- `ReceivedQueue::get_all`. -/
def getAll (q : ReceivedQueue) : List Frame × ReceivedQueue :=
  let (ret, index, packetQueue) := release q.packetQueue q.min (q.max - q.min)
  (ret, { q with min := index, packetQueue := packetQueue })

/-- An arrival, as `Session::receive_packet` treats it: `add`, then `get_all`.  The first component
collects everything `get_all` has returned. -/
def receive (s : List Frame × ReceivedQueue) (frame : Frame) :
    Except Panic (List Frame × ReceivedQueue) := do
  let q ← s.2.add frame
  let (ret, q) := q.getAll
  return (s.1 ++ ret, q)

lemma raised_of_lt {q : ReceivedQueue} {n : ℕ} (h : n + 1 < 2 ^ 32) :
    q.raised n = .ok (Max.max q.max (n + 1)) := by
  rw [raised]
  split_ifs with hq
  · rw [u32Add_of_lt h, max_eq_right (by omega)]
  · rw [max_eq_left (by omega)]

lemma store_of_lt {q : ReceivedQueue} {f : Frame} (h : f.orderIndex + 1 < 2 ^ 32) :
    q.store f = .ok { q with
      max := Max.max q.max (f.orderIndex + 1)
      packetQueue := q.packetQueue.insert f.orderIndex f } := by
  rw [store, raised_of_lt h, ok_bind, pure_eq_ok]

/-- **A fragment**: it joins its packet; if it completes the packet, the whole is stored. -/
lemma add_split {q : ReceivedQueue} {f : Frame} (h : q.splits.Draining) (hf : f.split = true) :
    ∃ pool, (∀ id, pool.lookup id = if id ∈ q.splits.cleared f then none
        else if id = f.splitId then some (q.splits.grown f) else q.splits.pool.lookup id)
      ∧ q.add f = if (q.splits.grown f).full = true
          then storePacket { q with splits := ⟨pool, q.splits.cleared f⟩ } (q.splits.grown f)
          else .ok { q with splits := ⟨pool, q.splits.cleared f⟩ } := by
  obtain ⟨q₁, pool, hadd, hclear, hpool⟩ := h.getAndClear_eq f
  refine ⟨pool, hpool, ?_⟩
  rw [add, if_pos hf, hadd, ok_bind, hclear]
  split_ifs with hfull
  · simp only [List.foldlM_cons, List.foldlM_nil, bind_pure]
  · rfl

lemma storePacket_eq {q : ReceivedQueue} {p : SplitPacket} {data : Bytes}
    (h : p.getAll = .ok data) :
    q.storePacket p = q.store { Frame.new p.reliability data with orderIndex := p.orderIndex } := by
  rw [storePacket, SplitPacket.getFrame, h]
  rfl

/-! ### The window -/

/-- From `min` on, the queue holds exactly the messages that have arrived, each under its order
index and with its payload. -/
structure Window (payload : ℕ → Bytes) (arrived : ℕ → Prop) (q : ReceivedQueue) : Prop where
  below : ∀ k < q.min, arrived k
  mem_iff : ∀ k, q.min ≤ k → (k ∈ q.packetQueue ↔ arrived k)
  content : ∀ k f, q.min ≤ k → q.packetQueue.lookup k = some f →
    f.orderIndex = k ∧ f.data = payload k
  lt_max : ∀ k, arrived k → k < q.max

/-- A frame, as the message it releases. -/
def asMessage (f : Frame) : ℕ × Bytes := (f.orderIndex, f.data)

variable {payload : ℕ → Bytes} {arrived : ℕ → Prop} {q : ReceivedQueue}

lemma window_new : Window payload (fun _ => False) new where
  below k h := absurd h (Nat.not_lt_zero k)
  mem_iff k _ := iff_false_intro (AList.notMem_empty k)
  content k f _ h := by simp [new] at h
  lt_max k h := h.elim

lemma Window.congr {payload' : ℕ → Bytes} {arrived' : ℕ → Prop} (h : Window payload arrived q)
    (harrived : ∀ k, arrived' k ↔ arrived k) (hpayload : ∀ k, arrived k → payload' k = payload k) :
    Window payload' arrived' q where
  below k hk := (harrived k).mpr (h.below k hk)
  mem_iff k hk := (h.mem_iff k hk).trans (harrived k).symm
  content k f hk hf := by
    rw [hpayload k ((h.mem_iff k hk).mp (HashMap.mem_of_lookup hf))]
    exact h.content k f hk hf
  lt_max k hk := h.lt_max k ((harrived k).mp hk)

/-- The window does not look at the fragments. -/
lemma Window.withSplits (h : Window payload arrived q) (splits : SplitPacketQueue) :
    Window payload arrived { q with splits := splits } :=
  ⟨h.below, h.mem_iff, h.content, h.lt_max⟩

/-- Storing a message makes it one that has arrived.  A message below `min` may be stored again:
nothing reads it. -/
lemma Window.store (h : Window payload arrived q) {f : Frame} (hf : f.orderIndex + 1 < 2 ^ 32)
    (hdata : f.data = payload f.orderIndex) :
    ∃ q', q.store f = .ok q' ∧ q'.min = q.min ∧ q'.splits = q.splits
      ∧ Window payload (fun k => arrived k ∨ k = f.orderIndex) q' := by
  refine ⟨_, store_of_lt hf, rfl, rfl, ⟨fun k hk => Or.inl (h.below k hk), fun k hk => ?_,
    fun k g hk hg => ?_, fun k hk => ?_⟩⟩
  · rw [AList.mem_insert, h.mem_iff k hk, or_comm]
  · rw [HashMap.lookup_insert_eq_ite] at hg
    split_ifs at hg with hkf
    · obtain rfl := Option.some.inj hg
      exact ⟨hkf.symm, hkf ▸ hdata⟩
    · exact h.content k g hk hg
  · rcases hk with hk | rfl
    · exact (h.lt_max k hk).trans_le (le_max_left _ _)
    · exact (Nat.lt_succ_self _).trans_le (le_max_right _ _)

/-- An unsplit frame is stored, unless its message has arrived already. -/
lemma Window.add_unsplit (h : Window payload arrived q) {f : Frame} (hsplit : f.split = false)
    (hf : f.orderIndex + 1 < 2 ^ 32) (hdata : f.data = payload f.orderIndex) :
    ∃ q', q.add f = .ok q' ∧ q'.min = q.min ∧ q'.splits = q.splits
      ∧ Window payload (fun k => arrived k ∨ k = f.orderIndex) q' := by
  have hsame : arrived f.orderIndex →
      Window payload (fun k => arrived k ∨ k = f.orderIndex) q := fun hk =>
    h.congr (fun k => ⟨fun hk' => hk'.elim id fun heq => heq ▸ hk, Or.inl⟩) fun _ _ => rfl
  rw [add, if_neg (by rw [hsplit]; exact Bool.false_ne_true)]
  split_ifs with hmin hmem
  · exact ⟨q, rfl, rfl, rfl, hsame (h.below _ hmin)⟩
  · exact ⟨q, rfl, rfl, rfl, hsame ((h.mem_iff _ (not_lt.mp hmin)).mp hmem)⟩
  · exact h.store hf hdata

/-- The loop of `get_all` releases the messages from `index` up to the first one that has not
arrived. -/
lemma release_spec (pq : HashMap ℕ Frame) (index n : ℕ)
    (hmem : ∀ k, index ≤ k → (k ∈ pq ↔ arrived k))
    (hcontent : ∀ k f, index ≤ k → pq.lookup k = some f → f.orderIndex = k ∧ f.data = payload k)
    (hlt : ∀ k, arrived k → k < index + n) :
    ∃ m, (release pq index n).2.1 = index + m ∧ ¬ arrived (index + m)
      ∧ (∀ k, index ≤ k → k < index + m → arrived k)
      ∧ (release pq index n).1.map asMessage
          = (List.range' index m).map (fun k => (k, payload k))
      ∧ ∀ k, index + m ≤ k → (release pq index n).2.2.lookup k = pq.lookup k := by
  induction n generalizing pq index with
  | zero =>
      exact ⟨0, rfl, fun h => (hlt _ h).false, fun k _ _ => by omega, rfl, fun _ _ => rfl⟩
  | succ n ih =>
      cases hlookup : pq.lookup index with
      | none =>
          have hnot : ¬ arrived index := fun h =>
            AList.lookup_eq_none.mp hlookup ((hmem index le_rfl).mpr h)
          rw [release, hlookup]
          exact ⟨0, rfl, hnot, fun k _ _ => by omega, rfl, fun _ _ => rfl⟩
      | some f =>
          have hne : ∀ k, index + 1 ≤ k → k ≠ index := fun k hk => by omega
          have hrest : ∀ k, index + 1 ≤ k → (pq.erase index).lookup k = pq.lookup k :=
            fun k hk => AList.lookup_erase_ne (hne k hk)
          obtain ⟨m, hstop, hnot, hall, hmap, hkeep⟩ := ih (pq.erase index) (index + 1)
            (fun k hk => by
              rw [AList.mem_erase, and_iff_right (hne k hk)]
              exact hmem k (Nat.le_of_succ_le hk))
            (fun k g hk hg => hcontent k g (Nat.le_of_succ_le hk) (hrest k hk ▸ hg))
            (fun k hk => by have := hlt k hk; omega)
          have harrived : arrived index := (hmem index le_rfl).mp (HashMap.mem_of_lookup hlookup)
          obtain ⟨hindex, hdata⟩ := hcontent index f le_rfl hlookup
          rw [release, hlookup]
          refine ⟨m + 1, by rw [hstop]; omega, by rwa [← Nat.add_assoc, Nat.add_right_comm],
            fun k hlo hhi => ?_, ?_, fun k hk => ?_⟩
          · rcases Nat.eq_or_lt_of_le hlo with rfl | hlo
            · exact harrived
            · exact hall k hlo (by omega)
          · rw [List.map_cons, hmap, List.range'_succ, List.map_cons, asMessage, hindex, hdata]
          · rw [hkeep k (by omega), hrest k (by omega)]

/-- **What `get_all` releases**: the messages from `min` up to the first one that has not arrived,
in order. -/
lemma Window.getAll (h : Window payload arrived q) :
    Window payload arrived q.getAll.2 ∧ ¬ arrived q.getAll.2.min
      ∧ q.getAll.2.splits = q.splits ∧ q.min ≤ q.getAll.2.min
      ∧ q.getAll.1.map asMessage
          = (List.range' q.min (q.getAll.2.min - q.min)).map fun k => (k, payload k) := by
  obtain ⟨m, hstop, hnot, hall, hmap, hkeep⟩ := release_spec q.packetQueue q.min (q.max - q.min)
    h.mem_iff h.content (fun k hk => by have := h.lt_max k hk; omega)
  have hmin : q.getAll.2.min = q.min + m := hstop
  have hlookup : ∀ k, q.min + m ≤ k →
      q.getAll.2.packetQueue.lookup k = q.packetQueue.lookup k := hkeep
  refine ⟨⟨fun k hk => ?_, fun k hk => ?_, fun k f hk hf => ?_, h.lt_max⟩, by rwa [hmin], rfl,
    by omega, ?_⟩
  · rcases Nat.lt_or_ge k q.min with hlt | hge
    · exact h.below k hlt
    · exact hall k hge (by omega)
  · rw [← AList.lookup_isSome, hlookup k (by omega), AList.lookup_isSome]
    exact h.mem_iff k (by omega)
  · exact h.content k f (by omega) (hlookup k (by omega) ▸ hf)
  · rw [hmin, Nat.add_sub_cancel_left]
    exact hmap

/-- The state between two arrivals: everything before `min` was released, `min` has not arrived. -/
structure Reassembled (payload : ℕ → Bytes) (arrived : ℕ → Prop)
    (s : List Frame × ReceivedQueue) : Prop where
  window : Window payload arrived s.2
  least : ¬ arrived s.2.min
  released : s.1.map asMessage = (List.range s.2.min).map fun k => (k, payload k)

lemma Reassembled.congr {s : List Frame × ReceivedQueue} (h : Reassembled payload arrived s)
    {payload' : ℕ → Bytes} {arrived' : ℕ → Prop} (harrived : ∀ k, arrived' k ↔ arrived k)
    (hpayload : ∀ k, arrived k → payload' k = payload k) : Reassembled payload' arrived' s where
  window := h.window.congr harrived hpayload
  least hk := h.least ((harrived _).mp hk)
  released := by
    rw [h.released]
    refine List.map_congr_left fun k hk => ?_
    rw [hpayload k (h.window.below k (List.mem_range.mp hk))]

/-- After an `add`, `get_all` brings the released messages up to date. -/
lemma Reassembled.getAll {s : List Frame × ReceivedQueue} (h : Reassembled payload arrived s)
    {arrived' : ℕ → Prop} (hq : Window payload arrived' q) (hmin : q.min = s.2.min) :
    Reassembled payload arrived' (s.1 ++ q.getAll.1, q.getAll.2) := by
  obtain ⟨hwindow, hleast, -, hle, hmap⟩ := hq.getAll
  refine ⟨hwindow, hleast, ?_⟩
  have hrange := List.range'_append_1 (s := 0) (m := q.min) (n := q.getAll.2.min - q.min)
  rw [Nat.zero_add, Nat.add_sub_cancel' hle] at hrange
  rw [List.map_append, h.released, hmap, ← hmin, List.range_eq_range', List.range_eq_range',
    ← List.map_append, hrange]

end ReceivedQueue

end ActixRaknet
