import ActixRaknet.Queue.Admission

/-!
The receive queue under any fragments, however inconsistent.

* `ReceivedQueue.Sane`: what the reassembly needs in order not to unwrap `None` and not to
  overflow; frames off the wire keep it;
* `OwnKeys`: every frame of the queue lies under its own order index; `release_orderIndex`: the
  loop of `get_all` releases consecutive indices;
* `InOrder`: what has been released has the order indices up to `min`;
* `Careful`: a step that reassembles complete messages only and does not set `min` back;
* `reassembly_safe`: every run of frames off the wire is in order and careful, and completes.
-/

namespace ActixRaknet

open Fallible

namespace ReceivedQueue

/-- The pool drains, and the packets in it have order indices that came off the wire. -/
structure Sane (q : ReceivedQueue) : Prop where
  draining : q.splits.Draining
  orderIndex_lt : ∀ id p, q.splits.pool.lookup id = some p → p.orderIndex < 2 ^ 24

lemma sane_new : Sane new :=
  ⟨SplitPacketQueue.draining_new, fun id p h => by simp [new, SplitPacketQueue.new] at h⟩

/-- The packet of a fragment off the wire has an order index off the wire. -/
lemma Sane.orderIndex_grown_lt {q : ReceivedQueue} (h : q.Sane) {f : Frame}
    (hf : f.orderIndex < 2 ^ 24) : (q.splits.grown f).orderIndex < 2 ^ 24 := by
  rw [SplitPacketQueue.grown, SplitPacket.orderIndex_add, SplitPacketQueue.packetOf]
  cases hp : q.splits.pool.lookup f.splitId with
  | none => exact hf
  | some p => exact h.orderIndex_lt _ p hp

/-- The pool after a fragment. -/
lemma Sane.next {q : ReceivedQueue} (h : q.Sane) {f : Frame} (hf : f.orderIndex < 2 ^ 24)
    {pool : HashMap UInt16 SplitPacket}
    (hpool : ∀ id, pool.lookup id = if id ∈ q.splits.cleared f then none
      else if id = f.splitId then some (q.splits.grown f) else q.splits.pool.lookup id) :
    Sane { q with splits := ⟨pool, q.splits.cleared f⟩ } := by
  refine ⟨h.draining.next f rfl hpool, fun id p hp => ?_⟩
  rw [hpool] at hp
  split_ifs at hp
  · exact Option.some.inj hp ▸ h.orderIndex_grown_lt hf
  · exact h.orderIndex_lt id p hp

lemma Sane.store {q : ReceivedQueue} (h : q.Sane) {f : Frame} (hf : f.orderIndex < 2 ^ 24) :
    ∃ q', q.store f = .ok q' ∧ q'.Sane :=
  ⟨_, store_of_lt (by omega), ⟨h.draining, h.orderIndex_lt⟩⟩

/-- **`ReceivedQueue::add` does not panic** on a frame off the wire. -/
lemma Sane.add {q : ReceivedQueue} (h : q.Sane) {f : Frame} (hf : f.orderIndex < 2 ^ 24) :
    ∃ q', q.add f = .ok q' ∧ q'.Sane := by
  cases hsplit : f.split with
  | false =>
      rw [ReceivedQueue.add, if_neg (by rw [hsplit]; exact Bool.false_ne_true)]
      split_ifs
      · exact ⟨q, rfl, h⟩
      · exact ⟨q, rfl, h⟩
      · exact h.store hf
  | true =>
      obtain ⟨pool, hpool, hadd⟩ := add_split h.draining hsplit
      have hnext := h.next hf hpool
      rw [hadd]
      split_ifs with hfull
      · -- a full packet has all its fragments, so none of its unwraps fails
        obtain ⟨hnot, hbounded⟩ := h.draining.packetOf f
        have hall := ((SplitPacket.full_add_iff hbounded hnot).mp hfull).2
        rw [← SplitPacket.splitSize_add (q.splits.packetOf f) f.splitIndex f] at hall
        obtain ⟨data, hdata⟩ := SplitPacket.getAll_succeeds (p := q.splits.grown f) hall
        rw [storePacket_eq hdata]
        exact hnext.store (h.orderIndex_grown_lt hf)
      · exact ⟨_, rfl, hnext⟩

lemma Sane.getAll {q : ReceivedQueue} (h : q.Sane) : q.getAll.2.Sane :=
  ⟨h.draining, h.orderIndex_lt⟩

/-! ### Releases -/

/-- Every frame of the queue lies under its own order index. -/
def OwnKeys (packetQueue : HashMap ℕ Frame) : Prop :=
  ∀ k f, packetQueue.lookup k = some f → f.orderIndex = k

lemma OwnKeys.erase {packetQueue : HashMap ℕ Frame} (h : OwnKeys packetQueue) (n : ℕ) :
    OwnKeys (packetQueue.erase n) := by
  intro k f hk
  exact h k f (HashMap.lookup_of_lookup_erase hk)

lemma OwnKeys.insert {packetQueue : HashMap ℕ Frame} (h : OwnKeys packetQueue) (f : Frame) :
    OwnKeys (packetQueue.insert f.orderIndex f) := by
  intro k g hk
  rw [HashMap.lookup_insert_eq_ite] at hk
  split_ifs at hk with hkf
  · rw [← Option.some.inj hk, hkf]
  · exact h k g hk

/-- The loop of `get_all` releases consecutive indices, and leaves frames under theirs. -/
lemma OwnKeys.release {packetQueue : HashMap ℕ Frame} (h : OwnKeys packetQueue) (index n : ℕ) :
    ∃ m ≤ n, (ReceivedQueue.release packetQueue index n).2.1 = index + m
      ∧ (ReceivedQueue.release packetQueue index n).1.map Frame.orderIndex = List.range' index m
      ∧ OwnKeys (ReceivedQueue.release packetQueue index n).2.2 := by
  induction n generalizing packetQueue index with
  | zero => exact ⟨0, le_rfl, rfl, rfl, h⟩
  | succ n ih =>
      rw [ReceivedQueue.release]
      cases hlookup : packetQueue.lookup index with
      | none => exact ⟨0, Nat.zero_le _, rfl, rfl, h⟩
      | some f =>
          obtain ⟨m, hm, hstop, hindices, hkeys⟩ := ih (h.erase index) (index + 1)
          refine ⟨m + 1, Nat.succ_le_succ hm, ?_, ?_, hkeys⟩
          · rw [hstop]
            omega
          · rw [List.map_cons, hindices, h index f hlookup, List.range'_succ]

/-- What has been released has the order indices from 0 on, each once, and `min` is the next one. -/
structure InOrder (s : List Frame × ReceivedQueue) : Prop where
  min_le_max : s.2.min ≤ s.2.max
  released : s.1.map Frame.orderIndex = List.range s.2.min

/-- The step reassembles messages only of which every fragment is there, and does not set `min`
back. -/
structure Careful (s : List Frame × ReceivedQueue) (f : Frame) : Prop where
  complete : f.split = true → ∀ splits p, s.2.splits.add f = .ok splits →
    p ∈ splits.getAndClear.1 → ∀ i < p.splitSize, i ∈ p.data
  min_le : ∀ s', receive s f = .ok s' → s.2.min ≤ s'.2.min

/-- The invariant of a run. -/
structure Orderly (s : List Frame × ReceivedQueue) : Prop extends InOrder s where
  sane : s.2.Sane
  ownKeys : OwnKeys s.2.packetQueue

lemma orderly_new : Orderly ([], new) where
  min_le_max := le_rfl
  released := rfl
  sane := sane_new
  ownKeys k f h := by simp [new] at h

/-- What `add` leaves alone, and where it puts a frame. -/
lemma OwnKeys.add {q q' : ReceivedQueue} {f : Frame} (h : OwnKeys q.packetQueue) (hs : q.Sane)
    (hq : q.add f = .ok q') :
    q'.min = q.min ∧ q.max ≤ q'.max ∧ OwnKeys q'.packetQueue := by
  have hstore : ∀ {t : ReceivedQueue} {g : Frame}, t.packetQueue = q.packetQueue → t.min = q.min →
      t.max = q.max → t.store g = .ok q' →
      q'.min = q.min ∧ q.max ≤ q'.max ∧ OwnKeys q'.packetQueue := by
    intro t g hqueue hmin hmax ht
    obtain ⟨-, rfl⟩ := store_eq_ok.mp ht
    exact ⟨hmin, hmax ▸ le_max_left _ _, (hqueue ▸ h).insert g⟩
  cases hf : f.split with
  | false =>
      rcases add_unsplit_eq_ok hf hq with rfl | ⟨-, -, ht⟩
      · exact ⟨rfl, le_rfl, h⟩
      · exact hstore rfl rfl rfl ht
  | true =>
      obtain ⟨pool, -, ⟨whole, -, ht⟩ | ⟨-, rfl⟩⟩ := add_split_eq_ok hs.draining hf hq
      · exact hstore (t := { q with splits := ⟨pool, q.splits.cleared f⟩ }) rfl rfl rfl ht
      · exact ⟨rfl, le_rfl, h⟩

/-- **Step lemma**: a frame off the wire is taken in, and the run stays orderly. -/
lemma Orderly.receive {s : List Frame × ReceivedQueue} (h : Orderly s) {f : Frame}
    (hf : f.orderIndex < 2 ^ 24) :
    ∃ s', ReceivedQueue.receive s f = .ok s' ∧ Orderly s' ∧ s.2.min ≤ s'.2.min := by
  obtain ⟨q, hadd, hq⟩ := h.sane.add hf
  obtain ⟨hmin, hmax, hkeys⟩ := h.ownKeys.add h.sane hadd
  obtain ⟨m, hm, hstop, hindices, hkeys'⟩ := hkeys.release q.min (q.max - q.min)
  have hle := h.min_le_max
  refine ⟨(s.1 ++ q.getAll.1, q.getAll.2), ?_, ?_, ?_⟩
  · rw [ReceivedQueue.receive, hadd]
    rfl
  · refine ⟨⟨?_, ?_⟩, hq.getAll, hkeys'⟩
    · show (ReceivedQueue.release q.packetQueue q.min (q.max - q.min)).2.1 ≤ q.max
      omega
    · show (s.1 ++ (ReceivedQueue.release q.packetQueue q.min (q.max - q.min)).1).map
          Frame.orderIndex = List.range (ReceivedQueue.release q.packetQueue q.min _).2.1
      rw [List.map_append, h.released, hindices, hstop, hmin, List.range_eq_range',
        List.range_eq_range', ← List.range'_append_1, Nat.zero_add]
  · show s.2.min ≤ (ReceivedQueue.release q.packetQueue q.min (q.max - q.min)).2.1
    omega

/-- A packet that `get_and_clear` returns is complete. -/
lemma Sane.complete {q : ReceivedQueue} (h : q.Sane) {f : Frame} {splits : SplitPacketQueue}
    {p : SplitPacket} (hadd : q.splits.add f = .ok splits) (hp : p ∈ splits.getAndClear.1) :
    ∀ i < p.splitSize, i ∈ p.data := by
  obtain ⟨splits', pool, hadd', hclear, -⟩ := h.draining.getAndClear_eq f
  obtain rfl := Except.ok.inj (hadd'.symm.trans hadd)
  rw [hclear] at hp
  split_ifs at hp with hfull
  · obtain rfl := List.mem_singleton.mp hp
    obtain ⟨hnot, hbounded⟩ := h.draining.packetOf f
    have hall := ((SplitPacket.full_add_iff hbounded hnot).mp hfull).2
    rwa [← SplitPacket.splitSize_add (q.splits.packetOf f) f.splitIndex f] at hall
  · exact absurd hp List.not_mem_nil

/-- **Run lemma**: frames off the wire are all taken in, in order and carefully. -/
lemma Orderly.run {s : List Frame × ReceivedQueue} (h : Orderly s) {frames : List Frame}
    (hframes : ∀ f ∈ frames, f.orderIndex < 2 ^ 24) :
    (∃ s', Run.exec ReceivedQueue.receive s frames = .ok s')
      ∧ Run.Always ReceivedQueue.receive InOrder s frames
      ∧ Run.Attempted ReceivedQueue.receive Careful s frames := by
  induction frames generalizing s with
  | nil => exact ⟨⟨s, rfl⟩, h.toInOrder, trivial⟩
  | cons f frames ih =>
      obtain ⟨s₁, hs₁, h₁, hmin⟩ := h.receive (hframes f List.mem_cons_self)
      obtain ⟨⟨s', hs'⟩, halways, hcareful⟩ :=
        ih h₁ fun g hg => hframes g (List.mem_cons_of_mem _ hg)
      have hunique : ∀ {t}, ReceivedQueue.receive s f = .ok t → t = s₁ := fun ht =>
        Except.ok.inj (ht.symm.trans hs₁)
      refine ⟨⟨s', Run.exec_cons.mpr ⟨s₁, hs₁, hs'⟩⟩, ⟨h.toInOrder, fun t ht => ?_⟩,
        ⟨fun _ splits p hadd hp => h.sane.complete hadd hp, fun t ht => ?_⟩, fun t ht => ?_⟩
      · exact hunique ht ▸ halways
      · exact hunique ht ▸ hmin
      · exact hunique ht ▸ hcareful

/-- **Inconsistent fragments are harmless.**  Whatever the split ids, counts and indices of the
frames are, and whatever their order indices: a run of `add` and `get_all` over them completes, so
that no unwrap fails; it reassembles complete messages only; `min` never decreases and stays at most
`max`; and the frames released have the order indices 0, 1, 2 and so on, each once. -/
theorem reassembly_safe (frames : List Frame) (h : ∀ f ∈ frames, f.orderIndex < 2 ^ 24) :
    (∃ s, Run.exec receive ([], new) frames = .ok s)
      ∧ Run.Always receive InOrder ([], new) frames
      ∧ Run.Attempted receive Careful ([], new) frames :=
  orderly_new.run h

/-- The theorem at two fragments under one id that differ in their counts and order indices. -/
theorem reassembly_safe_mixed :
    let fragment (orderIndex : ℕ) (splitCount splitIndex : UInt32) : Frame :=
      { Frame.new .reliableOrdered [0xfe] with
        orderIndex := orderIndex
        split := true
        splitCount := splitCount
        splitIndex := splitIndex }
    let frames := [fragment 3 2 0, fragment 0 0 7, fragment 5 9 1]
    (∃ s, Run.exec receive ([], new) frames = .ok s)
      ∧ Run.Always receive InOrder ([], new) frames
      ∧ Run.Attempted receive Careful ([], new) frames :=
  reassembly_safe _ (by decide)

end ReceivedQueue

end ActixRaknet
