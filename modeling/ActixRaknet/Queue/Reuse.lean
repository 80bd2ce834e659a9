import ActixRaknet.Library.Run
import ActixRaknet.Queue.SplitPacket

/-!
Split ids that are used again, over whole runs of a `SplitPacketQueue`.

* `SplitMessage`: what the fragments of one message make, told without a pool: `restored`;
* `SplitPacketQueue.gathered`: the packet that a pool makes of fragments, `gathered_eq`;
* `SplitRun`: a queue, and the fragments that have arrived under each id since it last made a
  message;
* `SplitRun.Fresh`: the queue keeps and returns for every id what a new one does with these
  fragments;
* `split_reuse_iff`: when it does so throughout a run.
-/

namespace ActixRaknet

open Fallible

/-! ### Messages in fragments -/

/-- A message that has been put together. -/
structure SplitMessage where
  orderIndex : ℕ
  splitCount : UInt32
  reliability : Reliability
  body : Bytes

namespace SplitMessage

/-- The fragment that has arrived last with the index. -/
def latest (l : List Frame) (i : UInt32) : Option Frame :=
  l.reverse.find? fun f => decide (f.splitIndex = i)

/-- All the fragments that the first one counts have arrived. -/
def Complete : List Frame → Prop
  | [] => False
  | f :: l => 0 < f.splitCount ∧ ∀ i < f.splitCount, ∃ g ∈ f :: l, g.splitIndex = i

lemma forall_lt_iff {n : UInt32} {P : UInt32 → Prop} :
    (∀ i < n, P i) ↔ ∀ k < n.toNat, P (UInt32.ofNat k) := by
  have hn := n.toNat_lt
  constructor
  · intro h k hk
    refine h _ ?_
    rwa [UInt32.lt_iff_toNat_lt, UInt32.toNat_ofNat', Nat.mod_eq_of_lt (by omega)]
  · intro h i hi
    have hnat := h i.toNat (UInt32.lt_iff_toNat_lt.mp hi)
    rwa [UInt32.ofNat_toNat] at hnat

instance decidableComplete : DecidablePred Complete
  | [] => isFalse id
  | f :: l => decidable_of_iff (0 < f.splitCount
      ∧ ∀ k < f.splitCount.toNat, ∃ g ∈ f :: l, g.splitIndex = UInt32.ofNat k)
      (and_congr_right fun _ =>
        (forall_lt_iff (P := fun i => ∃ g ∈ f :: l, g.splitIndex = i)).symm)

/-- The message that the fragments make: the first one gives its indices, and each part of the body
comes from the fragment that has arrived last. -/
def restored : List Frame → Option SplitMessage
  | [] => none
  | f :: l =>
    if Complete (f :: l) then
      some {
        orderIndex := f.orderIndex
        splitCount := f.splitCount
        reliability := f.reliability
        body := ((List.range f.splitCount.toNat).map fun k =>
          ((latest (f :: l) (UInt32.ofNat k)).map Frame.data).getD []).flatten }
    else none

lemma latest_concat (l : List Frame) (f : Frame) (i : UInt32) :
    latest (l ++ [f]) i = if f.splitIndex = i then some f else latest l i := by
  rw [latest, List.reverse_append, List.reverse_singleton, List.singleton_append, List.find?_cons]
  by_cases h : f.splitIndex = i
  · simp [h]
  · simp [h, latest]

lemma exists_latest_iff {l : List Frame} {i : UInt32} :
    (∃ f, latest l i = some f) ↔ ∃ f ∈ l, f.splitIndex = i := by
  rw [latest, ← Option.isSome_iff_exists, List.find?_isSome]
  simp

lemma restored_isSome {l : List Frame} : (restored l).isSome = true ↔ Complete l := by
  cases l with
  | nil => simp [restored, Complete]
  | cons f l =>
      rw [restored]
      split_ifs with h <;> simp [h]

end SplitMessage

namespace SplitPacketQueue

open SplitMessage

/-- The packet that a pool makes of the fragments of one id: the first one starts it. -/
def gathered : List Frame → Option SplitPacket
  | [] => none
  | f :: l => some ((f :: l).foldl (fun p g => p.add g.splitIndex g) (start f))

lemma gathered_eq_none {l : List Frame} : gathered l = none ↔ l = [] := by
  cases l <;> simp [gathered]

lemma gathered_concat (l : List Frame) (f : Frame) :
    gathered (l ++ [f]) = some (((gathered l).getD (start f)).add f.splitIndex f) := by
  cases l with
  | nil => rfl
  | cons g l =>
      rw [List.cons_append, gathered, ← List.cons_append, List.foldl_append]
      rfl

/-- Adding fragments changes the fragments only: each index below the size has the latest. -/
lemma foldl_add (p : SplitPacket) (l : List Frame) :
    (l.foldl (fun p g => p.add g.splitIndex g) p).splitSize = p.splitSize
      ∧ (l.foldl (fun p g => p.add g.splitIndex g) p).orderIndex = p.orderIndex
      ∧ (l.foldl (fun p g => p.add g.splitIndex g) p).reliability = p.reliability
      ∧ ∀ i < p.splitSize, (l.foldl (fun p g => p.add g.splitIndex g) p).data.lookup i
        = (latest l i).or (p.data.lookup i) := by
  induction l using List.reverseRecOn with
  | nil => exact ⟨rfl, rfl, rfl, fun i _ => rfl⟩
  | append_singleton l f ih =>
      obtain ⟨hsize, horder, hrel, hdata⟩ := ih
      rw [List.foldl_append, List.foldl_cons, List.foldl_nil]
      refine ⟨by simp [hsize], by simp [horder], by simp [hrel], fun i hi => ?_⟩
      rw [SplitPacket.lookup_add, hsize, hdata i hi, latest_concat]
      by_cases h : f.splitIndex = i
      · rw [if_pos h, if_pos ⟨h.symm, h ▸ hi⟩]
        rfl
      · rw [if_neg h, if_neg fun hf => h hf.1.symm]

/-- **What a pool makes of fragments**: the size and the indices of the first one, and for each
index below the size the fragment that has arrived last. -/
lemma gathered_eq {f : Frame} {l : List Frame} {p : SplitPacket} (h : gathered (f :: l) = some p) :
    p.splitSize = f.splitCount ∧ p.orderIndex = f.orderIndex ∧ p.reliability = f.reliability
      ∧ ∀ i < f.splitCount, p.data.lookup i = latest (f :: l) i := by
  obtain rfl := Option.some.inj h
  obtain ⟨hsize, horder, hrel, hdata⟩ := foldl_add (start f) (f :: l)
  refine ⟨hsize, horder, hrel, fun i hi => (hdata i hi).trans ?_⟩
  rw [show (start f).data.lookup i = none from rfl, Option.or_none]

section Arrival

variable {q : SplitPacketQueue} {f : Frame} {l : List Frame}

/-- The packet of an arriving fragment, if the pool holds the packet of the fragments before it. -/
lemma gathered_grown (h : q.pool.lookup f.splitId = gathered l) :
    gathered (l ++ [f]) = some (q.grown f) := by
  rw [gathered_concat, grown, packetOf, h]

/-- The packet of an arriving fragment, by the first fragment of its id. -/
lemma grown_eq (h : q.pool.lookup f.splitId = gathered l) : ∃ g l', l ++ [f] = g :: l'
    ∧ (q.grown f).splitSize = g.splitCount ∧ (q.grown f).orderIndex = g.orderIndex
    ∧ (q.grown f).reliability = g.reliability
    ∧ ∀ i < g.splitCount, (q.grown f).data.lookup i = latest (l ++ [f]) i := by
  obtain ⟨g, l', hcons⟩ := List.exists_cons_of_ne_nil (List.append_ne_nil_of_right_ne_nil l
    (List.cons_ne_nil f []))
  have hgrown := gathered_grown h
  rw [hcons] at hgrown ⊢
  exact ⟨g, l', rfl, gathered_eq hgrown⟩

/-- The fragments of a full packet are complete. -/
lemma complete_of_full (hq : q.Draining) (h : q.pool.lookup f.splitId = gathered l)
    (hfull : (q.grown f).full = true) : Complete (l ++ [f]) := by
  obtain ⟨hnot, hbounded⟩ := hq.packetOf f
  obtain ⟨g, l', hcons, hsize, -, -, hdata⟩ := grown_eq h
  rw [grown, SplitPacket.full_add_iff hbounded hnot, ← grown] at hfull
  rw [grown, SplitPacket.splitSize_add] at hsize
  rw [hsize] at hfull
  rw [hcons, Complete, ← hcons]
  refine ⟨UInt32.lt_of_le_of_lt UInt32.zero_le hfull.1, fun i hi => ?_⟩
  rw [← exists_latest_iff, ← hdata i hi]
  exact HashMap.exists_lookup_of_mem (hfull.2 i hi)

/-- A packet is full as soon as its fragments are complete. -/
lemma full_grown_iff (hq : q.Draining) (h : q.pool.lookup f.splitId = gathered l)
    (hl : ¬Complete l) : (q.grown f).full = true ↔ Complete (l ++ [f]) := by
  refine ⟨complete_of_full hq h, fun hcomplete => ?_⟩
  obtain ⟨hnot, hbounded⟩ := hq.packetOf f
  obtain ⟨g, l', hcons, hsize, -, -, hdata⟩ := grown_eq h
  rw [grown, SplitPacket.full_add_iff hbounded hnot, ← grown]
  rw [grown, SplitPacket.splitSize_add] at hsize
  rw [hcons, Complete, ← hcons] at hcomplete
  obtain ⟨hpos, hall⟩ := hcomplete
  rw [hsize]
  refine ⟨?_, fun i hi => ?_⟩
  · -- otherwise the fragments were complete without `f`
    by_contra hindex
    have hold : ∀ i < g.splitCount, ∃ h ∈ l, h.splitIndex = i := by
      intro i hi
      obtain ⟨h, hh, rfl⟩ := hall i hi
      rcases List.mem_append.mp hh with hh | hh
      · exact ⟨h, hh, rfl⟩
      · exact absurd (List.mem_singleton.mp hh ▸ hi) hindex
    cases l with
    | nil =>
        obtain ⟨h, hh, -⟩ := hold 0 hpos
        exact List.not_mem_nil hh
    | cons b l =>
        obtain rfl := (List.cons.inj hcons).1
        exact hl ⟨hpos, hold⟩
  · obtain ⟨b, hb⟩ := exists_latest_iff.mpr (hall i hi)
    exact HashMap.mem_of_lookup ((hdata i hi).trans hb)

/-- A full packet tells the message that its fragments make. -/
lemma getAll_grown (h : q.pool.lookup f.splitId = gathered l) {m : SplitMessage}
    (hm : restored (l ++ [f]) = some m) :
    (q.grown f).orderIndex = m.orderIndex ∧ (q.grown f).splitSize = m.splitCount
      ∧ (q.grown f).reliability = m.reliability ∧ (q.grown f).getAll = .ok m.body := by
  obtain ⟨g, l', hcons, hsize, horder, hrel, hdata⟩ := grown_eq h
  rw [hcons, restored, ← hcons] at hm
  split_ifs at hm with hcomplete
  obtain rfl := Option.some.inj hm
  rw [hcons, Complete, ← hcons] at hcomplete
  refine ⟨horder, hsize, hrel, SplitPacket.getAll_eq _ (by simp [hsize]) fun i hi => ?_⟩
  rw [hsize] at hi
  have hlt := forall_lt_iff.mp (fun i (hi : i < g.splitCount) => hi) i hi
  obtain ⟨b, hb⟩ := exists_latest_iff.mpr (hcomplete.2 _ hlt)
  refine ⟨b, (hdata _ hlt).trans hb, ?_⟩
  rw [List.getElem?_map, List.getElem?_range hi, Option.map_some, hb]
  rfl

end Arrival

end SplitPacketQueue

/-! ### Runs -/

/-- A queue with all that its `get_and_clear` has returned, and beside it the fragments that have
arrived under each id since they last made a message, with the messages made. -/
structure SplitRun where
  queue : SplitPacketQueue
  returned : List SplitPacket
  pending : UInt16 → List Frame
  expected : List SplitMessage

namespace SplitRun

open SplitMessage SplitPacketQueue

/-- A new queue. -/
def new : SplitRun := ⟨.new, [], fun _ => [], []⟩

/-- The fragments under the id of an arrival, with the arrival. -/
def arrived (s : SplitRun) (f : Frame) : List Frame := s.pending f.splitId ++ [f]

/-- An arrival: `add`, then `get_and_clear`. -/
def step (s : SplitRun) (f : Frame) : Except Panic SplitRun := do
  let queue ← s.queue.add f
  let (packets, queue) := queue.getAndClear
  return {
    queue := queue
    returned := s.returned ++ packets
    pending := Function.update s.pending f.splitId
      (if Complete (s.arrived f) then [] else s.arrived f)
    expected := s.expected ++ (restored (s.arrived f)).toList }

/-- The packet is the message. -/
def Tells (p : SplitPacket) (m : SplitMessage) : Prop :=
  p.orderIndex = m.orderIndex ∧ p.splitSize = m.splitCount ∧ p.reliability = m.reliability
    ∧ p.getAll = .ok m.body

/-- **No trace of completed messages**: under each id the pool holds what a new one would of the
fragments since the last message, and it has returned the messages that these fragments made, no
others, each when it was complete. -/
structure Fresh (s : SplitRun) : Prop where
  pool : ∀ id, s.queue.pool.lookup id = gathered (s.pending id)
  returned : List.Forall₂ Tells s.returned s.expected

/-- The arrival is a message of its own, or no message has been returned under its id. -/
def Unused (s : SplitRun) (f : Frame) : Prop :=
  f.splitId ∈ s.queue.delete → f.splitCount = 1 ∧ f.splitIndex = 0

instance (s : SplitRun) (f : Frame) : Decidable (s.Unused f) :=
  inferInstanceAs (Decidable (_ → _))

/-- The invariant: the pool drains, and the fragments that wait are not complete. -/
structure Waiting (s : SplitRun) : Prop where
  draining : s.queue.Draining
  not_complete : ∀ id, ¬Complete (s.pending id)

lemma waiting_new : Waiting new := ⟨draining_new, fun _ => id⟩

lemma fresh_new : Fresh new := ⟨fun _ => rfl, .nil⟩

variable {s s' : SplitRun} {f : Frame}

/-- What an arrival does. -/
lemma Waiting.step_eq (h : s.Waiting) (hs : s.step f = .ok s') :
    s'.returned = s.returned ++ (if (s.queue.grown f).full = true then [s.queue.grown f] else [])
      ∧ s'.queue.delete = s.queue.cleared f
      ∧ (∀ id, s'.queue.pool.lookup id = if id ∈ s.queue.cleared f then none
          else if id = f.splitId then some (s.queue.grown f) else s.queue.pool.lookup id)
      ∧ s'.pending = Function.update s.pending f.splitId
          (if Complete (s.arrived f) then [] else s.arrived f)
      ∧ s'.expected = s.expected ++ (restored (s.arrived f)).toList := by
  obtain ⟨q₁, pool, hadd, hclear, hpool⟩ := h.draining.getAndClear_eq f
  rw [step, hadd, ok_bind, hclear] at hs
  obtain rfl := Except.ok.inj hs
  exact ⟨rfl, rfl, hpool, rfl, rfl⟩

lemma Waiting.step (h : s.Waiting) (hs : s.step f = .ok s') : s'.Waiting := by
  obtain ⟨-, hdelete, hpool, hpending, -⟩ := h.step_eq hs
  refine ⟨h.draining.next f hdelete hpool, fun id => ?_⟩
  rw [hpending, Function.update_apply]
  split_ifs with hid hcomplete
  · exact fun hnil => hnil
  · exact hcomplete
  · exact h.not_complete id

/-- A fragment that is complete alone is the only one of its message. -/
lemma complete_singleton : Complete [f] ↔ f.splitCount = 1 ∧ f.splitIndex = 0 := by
  have hmem : ∀ i, (∃ g ∈ [f], g.splitIndex = i) ↔ f.splitIndex = i := by simp
  simp only [Complete, hmem]
  constructor
  · rintro ⟨hpos, hall⟩
    have hzero := hall 0 hpos
    refine ⟨?_, hzero⟩
    by_contra hcount
    have hone : 1 < f.splitCount := by
      rw [UInt32.lt_iff_toNat_lt] at hpos ⊢
      have hne : f.splitCount.toNat ≠ (1 : UInt32).toNat := fun h => hcount (UInt32.toNat_inj.mp h)
      exact lt_of_le_of_ne hpos hne.symm
    exact absurd (hzero.symm.trans (hall 1 hone)) (by decide)
  · rintro ⟨hcount, hindex⟩
    rw [hcount, hindex]
    refine ⟨by decide, fun i hi => ?_⟩
    rw [← UInt32.toNat_inj]
    rw [UInt32.lt_iff_toNat_lt] at hi
    exact (Nat.lt_one_iff.mp hi).symm

/-- Nothing waits under an id whose message has been returned. -/
lemma Fresh.pending_of_mem (h : s.Fresh) (hw : s.Waiting) {id : UInt16}
    (hid : id ∈ s.queue.delete) : s.pending id = [] := by
  rw [← gathered_eq_none, ← h.pool id, AList.lookup_eq_none]
  exact hw.draining.deleted id hid

/-- **Step lemma**: an arrival under an unused id is treated as a new queue would. -/
lemma Fresh.step (h : s.Fresh) (hw : s.Waiting) (hf : s.Unused f) (hs : s.step f = .ok s') :
    s'.Fresh := by
  obtain ⟨hreturned, -, hpool, hpending, hexpected⟩ := hw.step_eq hs
  have hlookup := h.pool f.splitId
  have hfull : (s.queue.grown f).full = true ↔ Complete (s.arrived f) :=
    full_grown_iff hw.draining hlookup (hw.not_complete _)
  have hcleared : f.splitId ∈ s.queue.cleared f ↔ Complete (s.arrived f) := by
    rw [cleared, ← hfull]
    split_ifs with hgrown
    · exact iff_of_true (List.mem_append_right _ (List.mem_singleton_self _)) hgrown
    · refine iff_of_false (fun hid => hgrown (hfull.mpr ?_)) hgrown
      rw [arrived, h.pending_of_mem hw hid, List.nil_append]
      exact complete_singleton.mpr (hf hid)
  refine ⟨fun id => ?_, ?_⟩
  · rw [hpool, hpending, Function.update_apply]
    by_cases hid : id = f.splitId
    · subst hid
      by_cases hcomplete : Complete (s.arrived f)
      · rw [if_pos (hcleared.mpr hcomplete), if_pos rfl, if_pos hcomplete]
        rfl
      · rw [if_neg (hcleared.not.mpr hcomplete), if_pos rfl, if_pos rfl, if_neg hcomplete]
        exact (gathered_grown hlookup).symm
    · rw [if_neg hid, if_neg hid, ← h.pool id]
      split_ifs with hmem
      · -- another id that is cleared was cleared before
        have hdelete : id ∈ s.queue.delete := (mem_cleared_of_ne hid).mp hmem
        exact (AList.lookup_eq_none.mpr (hw.draining.deleted id hdelete)).symm
      · rfl
  · rw [hreturned, hexpected]
    refine List.rel_append h.returned ?_
    cases hm : restored (s.arrived f) with
    | none =>
        have hnot : ¬Complete (s.arrived f) := by
          rw [← restored_isSome, hm]
          exact Bool.false_ne_true
        rw [if_neg (hfull.not.mpr hnot)]
        exact .nil
    | some m =>
        have hcomplete : Complete (s.arrived f) := by
          rw [← restored_isSome, hm]
          rfl
        rw [if_pos (hfull.mpr hcomplete)]
        exact .cons (getAll_grown hlookup hm) .nil

/-- An arrival under a used id leaves nothing in the pool, unless it is a message of its own. -/
lemma Fresh.not_step (h : s.Fresh) (hw : s.Waiting) (hf : ¬s.Unused f) (hs : s.step f = .ok s') :
    ¬s'.Fresh := by
  obtain ⟨-, -, hpool, hpending, -⟩ := hw.step_eq hs
  obtain ⟨hid, halone⟩ := Classical.not_imp.mp hf
  have harrived : s.arrived f = [f] := by rw [arrived, h.pending_of_mem hw hid, List.nil_append]
  have hcleared : f.splitId ∈ s.queue.cleared f := mem_cleared_of_mem hid
  intro h'
  have hlookup := h'.pool f.splitId
  rw [hpool, if_pos hcleared, hpending, Function.update_self, harrived,
    if_neg (complete_singleton.not.mpr halone)] at hlookup
  cases hlookup

end SplitRun

/-- **Split ids that are used again.**  Over any arrivals of fragments, a queue keeps and returns
for every id what a new one does with the fragments since the last message under the id, exactly
when no fragment arrives under an id that has been used, except one that is a message of its own. -/
theorem split_reuse_iff (fragments : List Frame) :
    Run.Always SplitRun.step SplitRun.Fresh .new fragments
      ↔ Run.Along SplitRun.step SplitRun.Unused .new fragments :=
  Run.always_iff_along (fun _ _ _ hw hP _ hC hs => ⟨hw.step hs, hP.step hw hC hs⟩)
    (fun _ _ _ hw hP _ hC hs => hP.not_step hw hC hs) SplitRun.waiting_new SplitRun.fresh_new
    Run.along_true

/-- A message in two fragments, then another one under the same id: it is not put together. -/
theorem split_reuse_counterexample :
    let fragment (orderIndex : ℕ) (splitIndex : UInt32) : Frame :=
      { Frame.new .reliableOrdered [0xfe] with
        orderIndex := orderIndex
        split := true
        splitCount := 2
        splitIndex := splitIndex }
    ∃ s, Run.exec SplitRun.step .new [fragment 0 0, fragment 0 1, fragment 1 0, fragment 1 1]
      = .ok s
      ∧ s.returned.map (·.orderIndex) = [0] ∧ s.expected.map (·.orderIndex) = [0, 1]
      ∧ ¬s.Fresh := by
  intro fragment
  have hrun : (fun s => (s.returned.map (·.orderIndex), s.expected.map (·.orderIndex))) <$>
      Run.exec SplitRun.step .new [fragment 0 0, fragment 0 1, fragment 1 0, fragment 1 1]
        = .ok ([0], [0, 1]) := by
    decide +kernel
  obtain ⟨s, hs, heq⟩ := map_eq_ok.mp hrun
  obtain ⟨hreturned, hexpected⟩ := Prod.mk.inj heq
  refine ⟨s, hs, hreturned, hexpected, fun h => ?_⟩
  have hlen := congrArg List.length hreturned
  have hlen' := congrArg List.length hexpected
  rw [List.length_map] at hlen hlen'
  have hsame := h.returned.length_eq
  rw [hlen, hlen'] at hsame
  exact absurd hsame (by decide)

end ActixRaknet
