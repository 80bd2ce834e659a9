import ActixRaknet.Packets.Frame
import ActixRaknet.Library.HashMap

/-!
`SplitPacket` and `SplitPacketQueue` of `packet.rs`: the fragments of packets that are not complete.

* `SplitPacket.full_add_iff`: a packet becomes full with the arrival that completes it;
* `SplitPacket.getAll_eq`: a complete packet is the concatenation of its fragments;
* `SplitPacketQueue.Draining`: between two arrivals no packet of the pool is full, and
  `getAndClear_eq` says which one the arrival before it has completed.
-/

namespace ActixRaknet

open Fallible

/-- `SplitPacket`. -/
structure SplitPacket where
  splitSize : UInt32
  data : HashMap UInt32 Frame
  reliability : Reliability
  orderIndex : ℕ
  full : Bool

namespace SplitPacket

/-- `SplitPacket::new`. -/
def new (splitSize : UInt32) (orderIndex : ℕ) (reliability : Reliability) : SplitPacket where
  splitSize := splitSize
  data := ∅
  reliability := reliability
  orderIndex := orderIndex
  full := false

/-- `SplitPacket::add`. -/
def add (p : SplitPacket) (index : UInt32) (payload : Frame) : SplitPacket :=
  if index < p.splitSize then
    let data := p.data.insert index payload
    { p with
      data := data
      full := p.full || decide (UInt32.ofNat data.entries.length = p.splitSize) }
  else
    p

/-- `SplitPacket::get_all`. -/
def getAll (p : SplitPacket) : Except Panic Bytes :=
  (List.range p.splitSize.toNat).foldlM (fun ret index => do
    let frame ← unwrap (p.data.lookup (UInt32.ofNat index))
    return ret ++ frame.data) []

/-- `SplitPacket::get_frame`. -/
def getFrame (p : SplitPacket) : Except Panic (Except IoError Frame) := do
  let data ← p.getAll
  return .ok { Frame.new p.reliability data with orderIndex := p.orderIndex }

/-- Every fragment that is held has an index below the size. -/
def Bounded (p : SplitPacket) : Prop := ∀ i ∈ p.data, i < p.splitSize

/-- As many fragments as the size, all below it, are all of them. -/
lemma length_eq_iff {m : HashMap UInt32 Frame} {n : UInt32} (h : ∀ i ∈ m, i < n) :
    UInt32.ofNat m.entries.length = n ↔ ∀ i < n, i ∈ m := by
  have hnodup : (m.keys.map UInt32.toNat).Nodup :=
    m.keys_nodup.map fun _ _ => UInt32.toNat_inj.mp
  have hlen : (m.keys.map UInt32.toNat).length = m.entries.length := by
    rw [List.length_map, AList.keys, List.keys, List.length_map]
  have hsub : m.keys.map UInt32.toNat ⊆ List.range n.toNat := by
    intro i hi
    obtain ⟨k, hk, rfl⟩ := List.mem_map.mp hi
    exact List.mem_range.mpr (UInt32.lt_iff_toNat_lt.mp (h k (AList.mem_keys.mp hk)))
  have hle : m.entries.length ≤ n.toNat := by
    rw [← hlen, ← List.length_range (n := n.toNat)]
    exact (hnodup.subperm hsub).length_le
  have hn := n.toNat_lt
  rw [← UInt32.toNat_inj, UInt32.toNat_ofNat', Nat.mod_eq_of_lt (by omega)]
  constructor
  · intro heq i hi
    have hperm : (m.keys.map UInt32.toNat).Perm (List.range n.toNat) :=
      (hnodup.subperm hsub).perm_of_length_le (by rw [hlen, List.length_range, heq])
    have hmem := hperm.mem_iff.mpr (List.mem_range.mpr (UInt32.lt_iff_toNat_lt.mp hi))
    obtain ⟨k, hk, hki⟩ := List.mem_map.mp hmem
    exact UInt32.toNat_inj.mp hki ▸ AList.mem_keys.mp hk
  · intro hall
    refine hle.antisymm ?_
    have hsub' : List.range n.toNat ⊆ m.keys.map UInt32.toNat := by
      intro i hi
      have hi := List.mem_range.mp hi
      have hofNat : (UInt32.ofNat i).toNat = i := by
        rw [UInt32.toNat_ofNat', Nat.mod_eq_of_lt (by omega)]
      refine List.mem_map.mpr ⟨UInt32.ofNat i, AList.mem_keys.mpr (hall _ ?_), hofNat⟩
      rw [UInt32.lt_iff_toNat_lt, hofNat]
      exact hi
    have := (List.nodup_range.subperm hsub').length_le
    rwa [hlen, List.length_range] at this

lemma lookup_add (p : SplitPacket) (index : UInt32) (payload : Frame) (i : UInt32) :
    (p.add index payload).data.lookup i
      = if i = index ∧ index < p.splitSize then some payload else p.data.lookup i := by
  rw [add]
  by_cases hlt : index < p.splitSize
  · simp only [hlt, if_true, and_true, HashMap.lookup_insert_eq_ite]
  · simp only [hlt, and_false, if_false]

@[simp] lemma splitSize_add (p : SplitPacket) (index : UInt32) (payload : Frame) :
    (p.add index payload).splitSize = p.splitSize := by rw [add]; split_ifs <;> rfl

@[simp] lemma orderIndex_add (p : SplitPacket) (index : UInt32) (payload : Frame) :
    (p.add index payload).orderIndex = p.orderIndex := by rw [add]; split_ifs <;> rfl

@[simp] lemma reliability_add (p : SplitPacket) (index : UInt32) (payload : Frame) :
    (p.add index payload).reliability = p.reliability := by rw [add]; split_ifs <;> rfl

lemma Bounded.add {p : SplitPacket} (h : p.Bounded) (index : UInt32) (payload : Frame) :
    (p.add index payload).Bounded := by
  intro i hi
  obtain ⟨f, hf⟩ := HashMap.exists_lookup_of_mem hi
  rw [lookup_add] at hf
  rw [splitSize_add]
  split_ifs at hf with hindex
  · exact hindex.1 ▸ hindex.2
  · exact h i (HashMap.mem_of_lookup hf)

/-- A packet that is not full becomes full exactly with the fragment that completes it. -/
lemma full_add_iff {p : SplitPacket} (h : p.Bounded) (hfull : p.full = false) {index : UInt32}
    {payload : Frame} : (p.add index payload).full = true
      ↔ index < p.splitSize ∧ ∀ i < p.splitSize, i ∈ (p.add index payload).data := by
  have hb := h.add index payload
  rw [Bounded, splitSize_add] at hb
  by_cases hlt : index < p.splitSize
  · have hiff := length_eq_iff hb
    rw [add, if_pos hlt] at hiff ⊢
    simp only [hfull, Bool.false_or, decide_eq_true_eq, hlt, true_and, hiff]
  · rw [add, if_neg hlt]
    simp [hfull, hlt]

/-- The concatenation of the fragments of a complete packet. -/
lemma getAll_eq {p : SplitPacket} (bodies : List Bytes) (hlen : bodies.length = p.splitSize.toNat)
    (h : ∀ i < p.splitSize.toNat, ∃ f, p.data.lookup (UInt32.ofNat i) = some f
      ∧ bodies[i]? = some f.data) : p.getAll = .ok bodies.flatten := by
  have hfront : ∀ n ≤ p.splitSize.toNat, (List.range n).foldlM (fun ret index => do
      let frame ← unwrap (p.data.lookup (UInt32.ofNat index))
      return ret ++ frame.data) [] = (.ok (bodies.take n).flatten : Except Panic Bytes) := by
    intro n hn
    induction n with
    | zero => rfl
    | succ n ih =>
        obtain ⟨f, hf, hbody⟩ := h n hn
        rw [List.range_succ, List.foldlM_append, ih (Nat.le_of_succ_le hn), ok_bind]
        simp [hf, List.take_add_one, hbody]
  rw [getAll, hfront _ le_rfl, ← hlen, List.take_length]

/-- A packet that holds every fragment has a body. -/
lemma getAll_succeeds {p : SplitPacket} (h : ∀ i < p.splitSize, i ∈ p.data) :
    ∃ data, p.getAll = .ok data := by
  refine ⟨_, getAll_eq ((List.range p.splitSize.toNat).map fun i =>
    ((p.data.lookup (UInt32.ofNat i)).map Frame.data).getD []) (by simp) fun i hi => ?_⟩
  have hlt : UInt32.ofNat i < p.splitSize := by
    have hn := p.splitSize.toNat_lt
    rwa [UInt32.lt_iff_toNat_lt, UInt32.toNat_ofNat', Nat.mod_eq_of_lt (by omega)]
  obtain ⟨f, hf⟩ := HashMap.exists_lookup_of_mem (h _ hlt)
  refine ⟨f, hf, ?_⟩
  rw [List.getElem?_map, List.getElem?_range hi, Option.map_some, hf]
  rfl

end SplitPacket

/-- `SplitPacketQueue`. -/
structure SplitPacketQueue where
  pool : HashMap UInt16 SplitPacket
  delete : List UInt16

namespace SplitPacketQueue

/-- `SplitPacketQueue::new`. -/
def new : SplitPacketQueue := ⟨∅, []⟩

/-- The packet a fragment starts when its split id is vacant. -/
def start (frame : Frame) : SplitPacket :=
  { SplitPacket.new frame.splitCount frame.sequenceIndex frame.reliability with
    orderIndex := frame.orderIndex }

/-- `SplitPacketQueue::add`. -/
def add (q : SplitPacketQueue) (frame : Frame) : Except Panic SplitPacketQueue := do
  let pool :=
    if frame.splitId ∈ q.pool then q.pool else q.pool.insert frame.splitId (start frame)
  let packet ← unwrap (pool.lookup frame.splitId)
  return { q with pool := pool.insert frame.splitId (packet.add frame.splitIndex frame) }

/-- `SplitPacketQueue::get_and_clear`.  At most one packet is full when it is called
(`Draining.getAndClear_eq`), so the order of the iteration does not matter.  `delete` is never
emptied: the ids of all packets completed so far are removed every time. -/
def getAndClear (q : SplitPacketQueue) : List SplitPacket × SplitPacketQueue :=
  let water := q.pool.entries.filter fun e => e.2.full
  let delete := q.delete ++ water.map Sigma.fst
  (water.map Sigma.snd,
    { pool := delete.foldl (fun pool id => pool.erase id) q.pool, delete := delete })

/-- The packet of the pool that a fragment belongs to. -/
def packetOf (q : SplitPacketQueue) (frame : Frame) : SplitPacket :=
  (q.pool.lookup frame.splitId).getD (start frame)

/-- The packet of a fragment after its arrival. -/
def grown (q : SplitPacketQueue) (frame : Frame) : SplitPacket :=
  (q.packetOf frame).add frame.splitIndex frame

/-- An arrival changes the packet of its split id only. -/
lemma add_eq (q : SplitPacketQueue) (frame : Frame) :
    ∃ pool, q.add frame = .ok { q with pool := pool }
      ∧ ∀ id, pool.lookup id
          = if id = frame.splitId then some (q.grown frame) else q.pool.lookup id := by
  by_cases hmem : frame.splitId ∈ q.pool
  · obtain ⟨p, hp⟩ := HashMap.exists_lookup_of_mem hmem
    refine ⟨_, by rw [add, if_pos hmem, hp, unwrap_some, ok_bind, pure_eq_ok], fun id => ?_⟩
    rw [HashMap.lookup_insert_eq_ite, grown, packetOf, hp, Option.getD_some]
  · refine ⟨_, by rw [add, if_neg hmem, AList.lookup_insert, unwrap_some, ok_bind, pure_eq_ok],
      fun id => ?_⟩
    rw [HashMap.lookup_insert_eq_ite, HashMap.lookup_insert_eq_ite, grown, packetOf,
      AList.lookup_eq_none.mpr hmem, Option.getD_none]
    split_ifs <;> rfl

/-- Between two arrivals: no packet of the pool is full, and none has been completed before. -/
structure Draining (q : SplitPacketQueue) : Prop where
  not_full : ∀ id p, q.pool.lookup id = some p → p.full = false
  bounded : ∀ id p, q.pool.lookup id = some p → p.Bounded
  deleted : ∀ id ∈ q.delete, id ∉ q.pool

lemma draining_new : Draining new where
  not_full id p h := by simp [new] at h
  bounded id p h := by simp [new] at h
  deleted id h := absurd h List.not_mem_nil

lemma Draining.packetOf {q : SplitPacketQueue} (h : q.Draining) (frame : Frame) :
    (q.packetOf frame).full = false ∧ (q.packetOf frame).Bounded := by
  rw [SplitPacketQueue.packetOf]
  cases hp : q.pool.lookup frame.splitId with
  | none => exact ⟨rfl, fun i hi => absurd hi (AList.notMem_empty i)⟩
  | some p => exact ⟨h.not_full _ p hp, h.bounded _ p hp⟩

/-- The removals of a `get_and_clear`: the ids completed before, and the one just completed. -/
def cleared (q : SplitPacketQueue) (frame : Frame) : List UInt16 :=
  if (q.grown frame).full = true then q.delete ++ [frame.splitId] else q.delete

lemma mem_cleared_of_mem {q : SplitPacketQueue} {frame : Frame} {id : UInt16} (h : id ∈ q.delete) :
    id ∈ q.cleared frame := by
  rw [cleared]
  split_ifs
  · exact List.mem_append_left _ h
  · exact h

lemma mem_cleared_of_ne {q : SplitPacketQueue} {frame : Frame} {id : UInt16}
    (h : id ≠ frame.splitId) : id ∈ q.cleared frame ↔ id ∈ q.delete := by
  rw [cleared]
  split_ifs
  · rw [List.mem_append, List.mem_singleton, or_iff_left h]
  · rfl

/-- **An arrival and the `get_and_clear` after it**: the packet of the arrival is returned if it
has become full, and the pool keeps the packets whose ids have not been completed. -/
lemma Draining.getAndClear_eq {q : SplitPacketQueue} (h : q.Draining) (frame : Frame) :
    ∃ q₁ pool, q.add frame = .ok q₁
      ∧ q₁.getAndClear = (if (q.grown frame).full = true then [q.grown frame] else [],
          { pool := pool, delete := q.cleared frame })
      ∧ ∀ id, pool.lookup id = if id ∈ q.cleared frame then none
          else if id = frame.splitId then some (q.grown frame) else q.pool.lookup id := by
  obtain ⟨pool, hadd, hpool⟩ := q.add_eq frame
  have hother : ∀ id p, pool.lookup id = some p → p.full = true → id = frame.splitId := by
    intro id p hp hfull
    by_contra hne
    rw [hpool, if_neg hne] at hp
    rw [h.not_full id p hp] at hfull
    cases hfull
  have hown : pool.lookup frame.splitId = some (q.grown frame) := by rw [hpool, if_pos rfl]
  refine ⟨_, (q.cleared frame).foldl (fun pool id => pool.erase id) pool, hadd, ?_, fun id => ?_⟩
  · rw [cleared, getAndClear]
    by_cases hfull : (q.grown frame).full = true
    · have hwater : pool.entries.filter (fun e => e.2.full)
          = [⟨frame.splitId, q.grown frame⟩] :=
        HashMap.filter_entries_eq_singleton (p := fun _ p => SplitPacket.full p) hown hfull hother
      simp only [hwater, hfull, if_true, List.map_cons, List.map_nil]
    · have hnone : ∀ id p, pool.lookup id = some p → p.full = false := by
        intro id p hp
        by_contra hp'
        have hid := hother id p hp (Bool.not_eq_false _ ▸ hp')
        rw [hid, hown, Option.some.injEq] at hp
        exact hp' (hp ▸ Bool.not_eq_true _ ▸ hfull)
      have hwater : pool.entries.filter (fun e => e.2.full) = [] :=
        HashMap.filter_entries_eq_nil (p := fun _ p => SplitPacket.full p) hnone
      simp only [hwater, hfull, if_false, List.map_nil, List.append_nil, Bool.false_eq_true]
  · rw [HashMap.lookup_foldl_erase, hpool]

/-- `Draining` is kept by an arrival and the `get_and_clear` after it. -/
lemma Draining.next {q q' : SplitPacketQueue} (h : q.Draining) (frame : Frame)
    (hdelete : q'.delete = q.cleared frame)
    (hpool : ∀ id, q'.pool.lookup id = if id ∈ q.cleared frame then none
      else if id = frame.splitId then some (q.grown frame) else q.pool.lookup id) :
    q'.Draining := by
  obtain ⟨hfull, hbounded⟩ := h.packetOf frame
  refine ⟨fun id p hp => ?_, fun id p hp => ?_, fun id hid => ?_⟩
  · rw [hpool] at hp
    split_ifs at hp with hclear hid
    · -- a full packet would have been cleared
      obtain rfl := Option.some.inj hp
      by_contra hp'
      rw [cleared, if_pos (Bool.not_eq_false _ ▸ hp')] at hclear
      exact hclear (List.mem_append_right _ (List.mem_singleton.mpr hid))
    · exact h.not_full id p hp
  · rw [hpool] at hp
    split_ifs at hp with hclear hid
    · obtain rfl := Option.some.inj hp
      exact hbounded.add _ _
    · exact h.bounded id p hp
  · rw [← AList.lookup_eq_none, hpool, if_pos (hdelete ▸ hid)]

end SplitPacketQueue

end ActixRaknet
