import ActixRaknet.Queue.PacketQueue

/-!
What is true of all frame sets of a packet queue.

* `PacketQueue.Holding`: the open set and the numbered sets satisfy a predicate on their frames;
* `Holding.addFrame`, `Holding.received`, `Holding.resend`, `Holding.getPacket`: the operations keep
  it, if the sets that frames join satisfy it, and what `get_packet` returns satisfies it.
-/

namespace ActixRaknet

open Fallible

namespace PacketQueue

/-- The frames of the open set, and those of every numbered set, satisfy `S`. -/
structure Holding (S : List Frame → Prop) (q : PacketQueue) : Prop where
  openSet : S q.setQueue
  sets : ∀ n fs, q.queue.lookup n = some fs → S fs.datas

variable {S T : List Frame → Prop} {q q' : PacketQueue} {clock : Clock}

lemma holding_new (mtu : UInt16) (h : S []) : Holding S (new mtu) :=
  ⟨h, fun n fs hn => by simp [new] at hn⟩

lemma Holding.mono (h : q.Holding S) (hST : ∀ l, S l → T l) : q.Holding T :=
  ⟨hST _ h.openSet, fun n fs hn => hST _ (h.sets n fs hn)⟩

lemma Holding.allocate (h : q.Holding S) (clock : Clock) (header : UInt8) {datas : List Frame}
    (hdatas : S datas) : (q.allocate clock header datas).Holding S := by
  refine ⟨h.openSet, fun n fs hn => ?_⟩
  rw [lookup_allocate] at hn
  split_ifs at hn
  · exact Option.some.inj hn ▸ hdatas
  · exact h.sets n fs hn

/-- A frame joins the open set or a set of its own. -/
lemma Holding.addFrame (h : q.Holding S) {f : Frame} (hopen : q.Fits f → S (q.setQueue ++ [f]))
    (hown : ¬q.Fits f → S [f]) (hq : q.addFrame clock f = .ok q') : q'.Holding S := by
  obtain ⟨-, ⟨hfits, rfl⟩ | ⟨hfits, -, rfl⟩⟩ := addFrame_eq_ok.mp hq
  · exact ⟨hopen hfits, h.sets⟩
  · exact h.allocate clock _ (hown hfits)

lemma Holding.received (h : q.Holding S) (n : ℕ) : (q.received n).Holding S := by
  refine ⟨?_, fun k fs hk => ?_⟩
  · rw [PacketQueue.received]
    split_ifs <;> exact h.openSet
  · rw [lookup_received] at hk
    split_ifs at hk
    exact h.sets k fs hk

lemma Holding.renumber (h : q.Holding S) {k : ℕ} (hq : q.renumber clock k = .ok q') :
    q'.Holding S := by
  obtain ⟨fs, hfs, -, rfl⟩ := renumber_eq_ok.mp hq
  refine ⟨h.openSet, fun n gs hn => ?_⟩
  rw [lookup_moved] at hn
  split_ifs at hn
  · exact Option.some.inj hn ▸ h.sets k fs hfs
  · exact h.sets n gs hn

lemma Holding.resend (h : q.Holding S) {n : ℕ} (hq : q.resend clock n = .ok q') :
    q'.Holding S := by
  rw [PacketQueue.resend] at hq
  split_ifs at hq
  · exact h.renumber hq
  · exact Except.ok.inj hq ▸ h

/-- Closing the open set leaves an empty one. -/
lemma Holding.flush (h : q.Holding S) (hnil : S []) (hq : q.flush clock = .ok q') :
    q'.Holding S := by
  rcases flush_eq_ok.mp hq with ⟨-, rfl⟩ | ⟨-, -, rfl⟩
  · exact h
  · exact ⟨hnil, (h.allocate clock _ h.openSet).sets⟩

/-- **What `get_packet` returns** are sets of the queue. -/
lemma Holding.getPacket (h : q.Holding S) (hnil : S []) {order : IterOrder ℕ}
    {ret : List FrameSet} (hq : q.getPacket clock order = .ok (ret, q')) :
    (∀ fs ∈ ret, S fs.datas) ∧ q'.Holding S := by
  refine getPacket_induction hq (fun t ht => h.flush hnil ht) (fun t _ _ _ _ ht => ?_)
    (fun t k t' ht hstep => ht.renumber hstep) fun t n fs ht => ht.sets n fs
  exact ⟨ht.openSet, ht.sets⟩

/-! ### The open set -/

/-- The open set and its size, and the room of a datagram, are the same. -/
structure SameOpen (q q' : PacketQueue) : Prop where
  setQueue : q'.setQueue = q.setQueue
  setSize : q'.setSize = q.setSize
  mtu : q'.mtu = q.mtu

lemma sameOpen_received (q : PacketQueue) (n : ℕ) : SameOpen q (q.received n) := by
  rw [PacketQueue.received]
  split_ifs <;> exact ⟨rfl, rfl, rfl⟩

lemma sameOpen_renumber {k : ℕ} (hq : q.renumber clock k = .ok q') : SameOpen q q' := by
  obtain ⟨fs, -, -, rfl⟩ := renumber_eq_ok.mp hq
  exact ⟨rfl, rfl, rfl⟩

lemma sameOpen_resend {n : ℕ} (hq : q.resend clock n = .ok q') : SameOpen q q' := by
  rw [PacketQueue.resend] at hq
  split_ifs at hq
  · exact sameOpen_renumber hq
  · exact Except.ok.inj hq ▸ ⟨rfl, rfl, rfl⟩

/-- A flush leaves the open set empty, whatever `get_packet` does behind it. -/
lemma sameOpen_getPacket {order : IterOrder ℕ} {ret : List FrameSet}
    (hq : q.getPacket clock order = .ok (ret, q')) :
    ∃ q₁, q.flush clock = .ok q₁ ∧ SameOpen q₁ q' := by
  refine (getPacket_induction (P := fun t => ∃ q₁, q.flush clock = .ok q₁ ∧ SameOpen q₁ t)
    (R := fun _ => True) hq (fun t ht => ⟨t, ht, rfl, rfl, rfl⟩) (fun t _ _ _ _ ht => ?_)
    (fun t k t' ht hstep => ?_) fun _ _ _ _ _ => trivial).2
  · obtain ⟨q₁, hflush, hsame⟩ := ht
    exact ⟨q₁, hflush, hsame.setQueue, hsame.setSize, hsame.mtu⟩
  · obtain ⟨q₁, hflush, hsame⟩ := ht
    have hnext := sameOpen_renumber hstep
    exact ⟨q₁, hflush, hnext.setQueue.trans hsame.setQueue, hnext.setSize.trans hsame.setSize,
      hnext.mtu.trans hsame.mtu⟩

end PacketQueue

end ActixRaknet
