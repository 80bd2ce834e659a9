import ActixRaknet.Queue.ReceivedQueue

/-!
Ordered reassembly: messages that travel whole or in fragments, over any arrivals of their frames.

* `Carrier`, `Carries`, `Arrived`: the messages, the frames that carry them, and which messages
  have arrived completely;
* `Fragments`: what the pool of fragments knows about the arrivals;
* `receive_step`: one arrival keeps the queue and the pool in step with the arrivals;
* `ordered_reassembly`: what has been released is exactly the messages before the first one that
  has not arrived completely.
-/

namespace ActixRaknet

open Fallible

/-- How a message travels: in one frame, or in fragments under a split id of its own. -/
inductive Carrier
  | unsplit (body : Bytes)
  | fragments (splitId : UInt16) (bodies : List Bytes) (nonempty : bodies ≠ [])

namespace Carrier

/-- The payload that is put together from the frames. -/
def payload : Carrier → Bytes
  | .unsplit body => body
  | .fragments _ bodies _ => bodies.flatten

end Carrier

namespace ReceivedQueue

variable (messages : ℕ → Carrier)

/-- The frame carries the message of its order index, or a fragment of it. -/
def Carries (f : Frame) : Prop :=
  match messages f.orderIndex with
  | .unsplit body => f.split = false ∧ f.data = body
  | .fragments splitId bodies _ =>
    f.split = true ∧ f.splitId = splitId ∧ f.splitCount.toNat = bodies.length
      ∧ bodies[f.splitIndex.toNat]? = some f.data

/-- All frames of the message `k` have arrived. -/
def Arrived (arrivals : List Frame) (k : ℕ) : Prop :=
  match messages k with
  | .unsplit _ => ∃ f ∈ arrivals, f.orderIndex = k
  | .fragments _ bodies _ =>
    ∀ i < bodies.length, ∃ f ∈ arrivals, f.orderIndex = k ∧ f.splitIndex.toNat = i

instance (arrivals : List Frame) (k : ℕ) : Decidable (Arrived messages arrivals k) :=
  match hk : messages k with
  | .unsplit _ => decidable_of_iff (∃ f ∈ arrivals, f.orderIndex = k) (by rw [Arrived, hk])
  | .fragments _ bodies _ =>
    decidable_of_iff
      (∀ i < bodies.length, ∃ f ∈ arrivals, f.orderIndex = k ∧ f.splitIndex.toNat = i)
      (by rw [Arrived, hk])

/-- Arrivals drawn from the frames of the messages.  A split id belongs to one message, and the
number behind an order index is a `u32`: the order indices that come off the wire have three bytes
(`FrameSet.lt_of_decode`). -/
structure Drawn (arrivals : List Frame) : Prop where
  carries : ∀ f ∈ arrivals, Carries messages f
  splitId : ∀ f ∈ arrivals, ∀ g ∈ arrivals, f.split = true → g.split = true →
    f.splitId = g.splitId → f.orderIndex = g.orderIndex
  orderIndex_lt : ∀ f ∈ arrivals, f.orderIndex + 1 < 2 ^ 32

variable {messages} {arrivals : List Frame}

lemma carries_split {f : Frame} (h : Carries messages f) (hf : f.split = true) :
    ∃ bodies nonempty, messages f.orderIndex = .fragments f.splitId bodies nonempty
      ∧ f.splitCount.toNat = bodies.length ∧ bodies[f.splitIndex.toNat]? = some f.data := by
  rw [Carries] at h
  cases hm : messages f.orderIndex with
  | unsplit body =>
      rw [hm] at h
      exact absurd (hf.symm.trans h.1) (by decide)
  | fragments splitId bodies nonempty =>
      rw [hm] at h
      obtain ⟨-, hid, hcount, hbody⟩ := h
      exact ⟨bodies, nonempty, by rw [hid], hcount, hbody⟩

lemma carries_unsplit {f : Frame} (h : Carries messages f) (hf : f.split = false) :
    messages f.orderIndex = .unsplit f.data := by
  rw [Carries] at h
  cases hm : messages f.orderIndex with
  | unsplit body =>
      rw [hm] at h
      rw [h.2]
  | fragments splitId bodies nonempty =>
      rw [hm] at h
      exact absurd (hf.symm.trans h.1) (by decide)

lemma Arrived.mono {k : ℕ} (h : Arrived messages arrivals k) (f : Frame) :
    Arrived messages (arrivals ++ [f]) k := by
  rw [Arrived] at h ⊢
  cases hm : messages k with
  | unsplit body =>
      rw [hm] at h
      obtain ⟨g, hg, hk⟩ := h
      exact ⟨g, List.mem_append_left _ hg, hk⟩
  | fragments splitId bodies nonempty =>
      rw [hm] at h
      intro i hi
      obtain ⟨g, hg, hk⟩ := h i hi
      exact ⟨g, List.mem_append_left _ hg, hk⟩

/-- An arrival brings no message but its own closer to completion. -/
lemma arrived_concat_of_ne {f : Frame} {k : ℕ} (hk : k ≠ f.orderIndex) :
    Arrived messages (arrivals ++ [f]) k ↔ Arrived messages arrivals k := by
  refine ⟨fun h => ?_, fun h => h.mono f⟩
  have hold : ∀ g ∈ arrivals ++ [f], g.orderIndex = k → g ∈ arrivals := by
    intro g hg hgk
    rcases List.mem_append.mp hg with hg | hg
    · exact hg
    · exact absurd (List.mem_singleton.mp hg ▸ hgk.symm) hk
  rw [Arrived] at h ⊢
  cases hm : messages k with
  | unsplit body =>
      rw [hm] at h
      obtain ⟨g, hg, hgk⟩ := h
      exact ⟨g, hold g hg hgk, hgk⟩
  | fragments splitId bodies nonempty =>
      rw [hm] at h
      intro i hi
      obtain ⟨g, hg, hgk, hgi⟩ := h i hi
      exact ⟨g, hold g hg hgk, hgk, hgi⟩

/-- Which messages have arrived after one more frame, if it completes its message. -/
lemma arrived_concat_of_arrived {f : Frame}
    (h : Arrived messages (arrivals ++ [f]) f.orderIndex) (k : ℕ) :
    Arrived messages (arrivals ++ [f]) k
      ↔ Arrived messages arrivals k ∨ k = f.orderIndex := by
  by_cases hk : k = f.orderIndex
  · subst hk
    exact ⟨fun _ => Or.inr rfl, fun _ => h⟩
  · rw [arrived_concat_of_ne hk]
    exact ⟨Or.inl, fun h => h.resolve_right hk⟩

/-! ### The pool of fragments -/

variable (messages) in
/-- What the pool knows about the arrivals: each packet holds exactly the fragments of one message
that have arrived and lacks one; the ids of completed packets belong to messages that have
arrived. -/
structure Fragments (arrivals : List Frame) (q : SplitPacketQueue) : Prop extends q.Draining where
  opened : ∀ id p, q.pool.lookup id = some p → ∃ f ∈ arrivals, f.split = true ∧ f.splitId = id
    ∧ p.orderIndex = f.orderIndex ∧ p.splitSize = f.splitCount
  held : ∀ id p i g, q.pool.lookup id = some p → p.data.lookup i = some g →
    g ∈ arrivals ∧ g.split = true ∧ g.splitId = id ∧ g.splitIndex = i
  kept : ∀ f ∈ arrivals, f.split = true → f.splitId ∉ q.delete →
    ∃ p, q.pool.lookup f.splitId = some p ∧ f.splitIndex ∈ p.data
  done : ∀ id ∈ q.delete, ∃ f ∈ arrivals, f.split = true ∧ f.splitId = id
    ∧ Arrived messages arrivals f.orderIndex

lemma fragments_nil : Fragments messages [] .new where
  toDraining := SplitPacketQueue.draining_new
  opened id p h := by simp [SplitPacketQueue.new] at h
  held id p i g h := by simp [SplitPacketQueue.new] at h
  kept f h := absurd h List.not_mem_nil
  done id h := absurd h List.not_mem_nil

/-- An unsplit frame is none of the pool's business. -/
lemma Fragments.concat_unsplit {q : SplitPacketQueue} (h : Fragments messages arrivals q)
    {f : Frame} (hf : f.split = false) : Fragments messages (arrivals ++ [f]) q where
  toDraining := h.toDraining
  opened id p hp := by
    obtain ⟨g, hg, hrest⟩ := h.opened id p hp
    exact ⟨g, List.mem_append_left _ hg, hrest⟩
  held id p i g hp hg := by
    obtain ⟨hmem, hrest⟩ := h.held id p i g hp hg
    exact ⟨List.mem_append_left _ hmem, hrest⟩
  kept g hg hsplit := by
    rcases List.mem_append.mp hg with hg | hg
    · exact h.kept g hg hsplit
    · rw [List.mem_singleton.mp hg, hf] at hsplit
      cases hsplit
  done id hid := by
    obtain ⟨g, hg, hsplit, hgid, harrived⟩ := h.done id hid
    exact ⟨g, List.mem_append_left _ hg, hsplit, hgid, harrived.mono f⟩

section Arrival

variable {f : Frame} {q : SplitPacketQueue} (h : Fragments messages arrivals q)
  (hd : Drawn messages (arrivals ++ [f])) (hf : f.split = true)

include h hd hf

/-- The packet of an arriving fragment belongs to the message of the fragment. -/
lemma Fragments.grown_eq : (q.grown f).orderIndex = f.orderIndex
    ∧ (q.grown f).splitSize = f.splitCount := by
  rw [SplitPacketQueue.grown, SplitPacket.orderIndex_add, SplitPacket.splitSize_add,
    SplitPacketQueue.packetOf]
  cases hp : q.pool.lookup f.splitId with
  | none => exact ⟨rfl, rfl⟩
  | some p =>
      obtain ⟨g, hg, hsplit, hid, horder, hsize⟩ := h.opened _ p hp
      have hmemf : f ∈ arrivals ++ [f] := List.mem_append_right _ (List.mem_singleton_self f)
      have hgf := hd.splitId g (List.mem_append_left _ hg) f hmemf hsplit hf hid
      obtain ⟨bodies, _, hmsg, hcount, -⟩ := carries_split (hd.carries f hmemf) hf
      obtain ⟨bodies', _, hmsg', hcount', -⟩ :=
        carries_split (hd.carries g (List.mem_append_left _ hg)) hsplit
      rw [hgf, hmsg] at hmsg'
      obtain ⟨-, rfl⟩ := Carrier.fragments.inj hmsg'
      exact ⟨horder.trans hgf, hsize.trans (UInt32.toNat_inj.mp (hcount'.trans hcount.symm))⟩

omit hd in
/-- The fragments a packet holds after the arrival are fragments that have arrived. -/
lemma Fragments.held_grown {i : UInt32} {g : Frame} (hg : (q.grown f).data.lookup i = some g) :
    g ∈ arrivals ++ [f] ∧ g.split = true ∧ g.splitId = f.splitId ∧ g.splitIndex = i := by
  rw [SplitPacketQueue.grown, SplitPacket.lookup_add] at hg
  split_ifs at hg with hi
  · obtain rfl := Option.some.inj hg
    exact ⟨List.mem_append_right _ (List.mem_singleton_self _), hf, rfl, hi.1.symm⟩
  · rw [SplitPacketQueue.packetOf] at hg
    cases hp : q.pool.lookup f.splitId with
    | none =>
        rw [hp] at hg
        simp [SplitPacketQueue.start, SplitPacket.new] at hg
    | some p =>
        rw [hp] at hg
        obtain ⟨hmem, hrest⟩ := h.held _ p i g hp hg
        exact ⟨List.mem_append_left _ hmem, hrest⟩

/-- Unless its packet was completed before, a packet holds all fragments that have arrived. -/
lemma Fragments.kept_grown (hid : f.splitId ∉ q.delete) {g : Frame} (hg : g ∈ arrivals ++ [f])
    (hsplit : g.split = true) (hgid : g.splitId = f.splitId) :
    g.splitIndex ∈ (q.grown f).data := by
  obtain ⟨-, hsize⟩ := h.grown_eq hd hf
  rw [SplitPacketQueue.grown, SplitPacket.splitSize_add] at hsize
  have hmem : ∀ i, i ∈ (q.packetOf f).data → i ∈ (q.grown f).data := by
    intro i hi
    rw [← AList.lookup_isSome, SplitPacketQueue.grown, SplitPacket.lookup_add]
    split_ifs
    · rfl
    · exact AList.lookup_isSome.mpr hi
  rcases List.mem_append.mp hg with hg | hg
  · obtain ⟨p, hp, hi⟩ := h.kept g hg hsplit (hgid ▸ hid)
    refine hmem _ ?_
    rwa [SplitPacketQueue.packetOf, ← hgid, hp]
  · obtain rfl := List.mem_singleton.mp hg
    obtain ⟨bodies, _, -, hcount, hbody⟩ :=
      carries_split (hd.carries g (List.mem_append_right _ (List.mem_singleton_self g))) hf
    have hlt : g.splitIndex < (q.packetOf g).splitSize := by
      obtain ⟨hi, -⟩ := List.getElem?_eq_some_iff.mp hbody
      rw [hsize, UInt32.lt_iff_toNat_lt, hcount]
      exact hi
    refine HashMap.mem_of_lookup (v := g) ?_
    rw [SplitPacketQueue.grown, SplitPacket.lookup_add, if_pos ⟨rfl, hlt⟩]

/-- A packet that becomes full completes its message, and its body is the payload. -/
lemma Fragments.full_grown (hfull : (q.grown f).full = true) :
    Arrived messages (arrivals ++ [f]) f.orderIndex
      ∧ (q.grown f).getAll = .ok (messages f.orderIndex).payload := by
  have hmemf : f ∈ arrivals ++ [f] := List.mem_append_right _ (List.mem_singleton_self f)
  obtain ⟨bodies, _, hmsg, hcount, -⟩ := carries_split (hd.carries f hmemf) hf
  obtain ⟨horder, hsize⟩ := h.grown_eq hd hf
  obtain ⟨hnot, hbounded⟩ := h.toDraining.packetOf f
  have hall := ((SplitPacket.full_add_iff hbounded hnot).mp hfull).2
  have hpiece : ∀ i < bodies.length, ∃ g ∈ arrivals ++ [f],
      (q.grown f).data.lookup (UInt32.ofNat i) = some g ∧ g.orderIndex = f.orderIndex
        ∧ g.splitIndex.toNat = i ∧ bodies[i]? = some g.data := by
    intro i hi
    have hbound := f.splitCount.toNat_lt
    have hofNat : (UInt32.ofNat i).toNat = i := by
      rw [UInt32.toNat_ofNat', Nat.mod_eq_of_lt (by omega)]
    have hlt : UInt32.ofNat i < (q.packetOf f).splitSize := by
      rw [SplitPacketQueue.grown, SplitPacket.splitSize_add] at hsize
      rw [hsize, UInt32.lt_iff_toNat_lt, hofNat, hcount]
      exact hi
    obtain ⟨g, hg⟩ := HashMap.exists_lookup_of_mem (hall _ hlt)
    obtain ⟨hgmem, hsplit, hgid, hindex⟩ := h.held_grown hf hg
    have hgf := hd.splitId g hgmem f hmemf hsplit hf hgid
    obtain ⟨bodies', _, hmsg', -, hbody⟩ := carries_split (hd.carries g hgmem) hsplit
    rw [hgf, hmsg] at hmsg'
    obtain ⟨-, rfl⟩ := Carrier.fragments.inj hmsg'
    rw [hindex, hofNat] at hbody
    exact ⟨g, hgmem, hg, hgf, by rw [hindex, hofNat], hbody⟩
  have hcount' : bodies.length = (q.grown f).splitSize.toNat := by rw [hsize, hcount]
  constructor
  · rw [Arrived, hmsg]
    intro i hi
    obtain ⟨g, hg, -, hgf, hgi, -⟩ := hpiece i hi
    exact ⟨g, hg, hgf, hgi⟩
  · rw [hmsg, Carrier.payload]
    refine SplitPacket.getAll_eq bodies hcount' fun i hi => ?_
    obtain ⟨g, -, hlookup, -, -, hbody⟩ := hpiece i (hcount' ▸ hi)
    exact ⟨g, hlookup, hbody⟩

/-- A fragment that does not fill its packet leaves the arrived messages as they are: either the
packet was completed before, or a fragment is still missing. -/
lemma Fragments.arrived_of_not_full (hfull : (q.grown f).full = false) (k : ℕ) :
    Arrived messages (arrivals ++ [f]) k ↔ Arrived messages arrivals k := by
  by_cases hk : k = f.orderIndex
  swap
  · exact arrived_concat_of_ne hk
  subst hk
  refine ⟨fun harrived => ?_, fun h => h.mono f⟩
  have hmemf : f ∈ arrivals ++ [f] := List.mem_append_right _ (List.mem_singleton_self f)
  by_cases hid : f.splitId ∈ q.delete
  · obtain ⟨g, hg, hsplit, hgid, hgarrived⟩ := h.done _ hid
    exact hd.splitId g (List.mem_append_left _ hg) f hmemf hsplit hf hgid ▸ hgarrived
  · exfalso
    obtain ⟨bodies, _, hmsg, hcount, hbody⟩ := carries_split (hd.carries f hmemf) hf
    obtain ⟨-, hsize⟩ := h.grown_eq hd hf
    rw [SplitPacketQueue.grown, SplitPacket.splitSize_add] at hsize
    obtain ⟨hnot, hbounded⟩ := h.toDraining.packetOf f
    have hindex : f.splitIndex < (q.packetOf f).splitSize := by
      obtain ⟨hi, -⟩ := List.getElem?_eq_some_iff.mp hbody
      rw [hsize, UInt32.lt_iff_toNat_lt, hcount]
      exact hi
    refine Bool.false_ne_true (hfull.symm.trans
      ((SplitPacket.full_add_iff hbounded hnot).mpr ⟨hindex, fun i hi => ?_⟩))
    rw [Arrived, hmsg] at harrived
    rw [hsize, UInt32.lt_iff_toNat_lt, hcount] at hi
    obtain ⟨g, hg, hgf, hgi⟩ := harrived i.toNat hi
    -- a frame of a message that travels in fragments is one of them
    have hcarries := hd.carries g hg
    rw [Carries, hgf, hmsg] at hcarries
    exact UInt32.toNat_inj.mp hgi ▸ h.kept_grown hd hf hid hg hcarries.1 hcarries.2.1

/-- The pool after the arrival of a fragment. -/
lemma Fragments.next {pool : HashMap UInt16 SplitPacket}
    (hpool : ∀ id, pool.lookup id = if id ∈ q.cleared f then none
      else if id = f.splitId then some (q.grown f) else q.pool.lookup id) :
    Fragments messages (arrivals ++ [f]) ⟨pool, q.cleared f⟩ := by
  have hmemf : f ∈ arrivals ++ [f] := List.mem_append_right _ (List.mem_singleton_self f)
  refine ⟨h.toDraining.next f rfl hpool, fun id p hp => ?_, fun id p i g hp hg => ?_,
    fun g hg hsplit hid => ?_, fun id hid => ?_⟩
  · rw [hpool] at hp
    split_ifs at hp with hclear hid
    · obtain rfl := Option.some.inj hp
      obtain ⟨horder, hsize⟩ := h.grown_eq hd hf
      exact ⟨f, hmemf, hf, hid.symm, horder, hsize⟩
    · obtain ⟨g, hg, hrest⟩ := h.opened id p hp
      exact ⟨g, List.mem_append_left _ hg, hrest⟩
  · rw [hpool] at hp
    split_ifs at hp with hclear hid
    · obtain rfl := Option.some.inj hp
      exact hid ▸ h.held_grown hf hg
    · obtain ⟨hmem, hrest⟩ := h.held id p i g hp hg
      exact ⟨List.mem_append_left _ hmem, hrest⟩
  · have hdelete : g.splitId ∉ q.delete := fun hmem => hid (by
      rw [SplitPacketQueue.cleared]
      split_ifs
      · exact List.mem_append_left _ hmem
      · exact hmem)
    rw [hpool, if_neg hid]
    by_cases hgf : g.splitId = f.splitId
    · exact ⟨_, if_pos hgf, h.kept_grown hd hf (hgf ▸ hdelete) hg hsplit hgf⟩
    · rcases List.mem_append.mp hg with hg | hg
      · rw [if_neg hgf]
        exact h.kept g hg hsplit hdelete
      · exact absurd (by rw [List.mem_singleton.mp hg]) hgf
  · rw [SplitPacketQueue.cleared] at hid
    have hold : id ∈ q.delete → ∃ g ∈ arrivals ++ [f], g.split = true ∧ g.splitId = id
        ∧ Arrived messages (arrivals ++ [f]) g.orderIndex := by
      intro hmem
      obtain ⟨g, hg, hsplit, hgid, harrived⟩ := h.done id hmem
      exact ⟨g, List.mem_append_left _ hg, hsplit, hgid, harrived.mono f⟩
    split_ifs at hid with hfull
    · rcases List.mem_append.mp hid with hid | hid
      · exact hold hid
      · exact ⟨f, hmemf, hf, (List.mem_singleton.mp hid).symm, (h.full_grown hd hf hfull).1⟩
    · exact hold hid

end Arrival

/-! ### Arrivals -/

variable (messages) in
/-- The payload of the message `k`. -/
def payloadOf (k : ℕ) : Bytes := (messages k).payload

/-- **Step lemma**: an arrival completes and keeps the window and the pool in step with the
arrivals. -/
lemma receive_step {s : List Frame × ReceivedQueue} {f : Frame}
    (hd : Drawn messages (arrivals ++ [f]))
    (hs : Reassembled (payloadOf messages) (Arrived messages arrivals) s)
    (hp : Fragments messages arrivals s.2.splits) :
    ∃ s', receive s f = .ok s'
      ∧ Reassembled (payloadOf messages) (Arrived messages (arrivals ++ [f])) s'
      ∧ Fragments messages (arrivals ++ [f]) s'.2.splits := by
  have hmemf : f ∈ arrivals ++ [f] := List.mem_append_right _ (List.mem_singleton_self f)
  have hlt := hd.orderIndex_lt f hmemf
  -- what is left to do once `add` has put the window in step
  have hfinish : ∀ q, s.2.add f = .ok q → q.min = s.2.min →
      Fragments messages (arrivals ++ [f]) q.splits →
      Window (payloadOf messages) (Arrived messages (arrivals ++ [f])) q →
        ∃ s', receive s f = .ok s'
        ∧ Reassembled (payloadOf messages) (Arrived messages (arrivals ++ [f])) s'
        ∧ Fragments messages (arrivals ++ [f]) s'.2.splits := by
    intro q hadd hmin hsplits hwindow
    refine ⟨(s.1 ++ q.getAll.1, q.getAll.2), ?_, hs.getAll hwindow hmin,
      hwindow.getAll.2.2.1 ▸ hsplits⟩
    rw [receive, hadd, ok_bind]
    rfl
  cases hf : f.split with
  | false =>
      have hmsg := carries_unsplit (hd.carries f hmemf) hf
      have hdata : f.data = payloadOf messages f.orderIndex := by
        rw [payloadOf, hmsg, Carrier.payload]
      have harrived : Arrived messages (arrivals ++ [f]) f.orderIndex := by
        rw [Arrived, hmsg]
        exact ⟨f, hmemf, rfl⟩
      obtain ⟨q, hadd, hmin, hsplits, hwindow⟩ := hs.window.add_unsplit hf hlt hdata
      exact hfinish q hadd hmin (hsplits ▸ hp.concat_unsplit hf)
        (hwindow.congr (arrived_concat_of_arrived harrived) fun _ _ => rfl)
  | true =>
      obtain ⟨pool, hpool, hadd⟩ := add_split hp.toDraining hf
      have hnext := hp.next hd hf hpool
      cases hfull : (s.2.splits.grown f).full with
      | false =>
          rw [if_neg (by rw [hfull]; exact Bool.false_ne_true)] at hadd
          exact hfinish _ hadd rfl hnext ((hs.window.withSplits _).congr
            (hp.arrived_of_not_full hd hf hfull) fun _ _ => rfl)
      | true =>
          obtain ⟨harrived, hbody⟩ := hp.full_grown hd hf hfull
          have horder := (hp.grown_eq hd hf).1
          rw [if_pos hfull, storePacket_eq hbody] at hadd
          obtain ⟨q, hstore, hmin, hsplits, hwindow⟩ := (hs.window.withSplits _).store
            (f := { Frame.new (s.2.splits.grown f).reliability
              (payloadOf messages f.orderIndex) with
              orderIndex := (s.2.splits.grown f).orderIndex })
            (by rw [horder]; exact hlt) (by rw [horder]; rfl)
          rw [horder] at hwindow
          exact hfinish q (hadd.trans hstore) hmin (hsplits ▸ hnext)
            (hwindow.congr (arrived_concat_of_arrived harrived) fun _ _ => rfl)

lemma Drawn.prefix {f : Frame} (h : Drawn messages (arrivals ++ [f])) :
    Drawn messages arrivals where
  carries g hg := h.carries g (List.mem_append_left _ hg)
  splitId g hg g' hg' := h.splitId g (List.mem_append_left _ hg) g' (List.mem_append_left _ hg')
  orderIndex_lt g hg := h.orderIndex_lt g (List.mem_append_left _ hg)

/-- Nothing has arrived without an arrival: a message has at least one frame. -/
lemma not_arrived_nil (k : ℕ) : ¬ Arrived messages [] k := by
  rw [Arrived]
  cases messages k with
  | unsplit body => simp
  | fragments splitId bodies nonempty =>
      intro h
      obtain ⟨f, hf, -⟩ := h 0 (List.length_pos_iff.mpr nonempty)
      exact absurd hf List.not_mem_nil

/-- **Run lemma**: every run of arrivals completes and stays in step with the arrivals. -/
lemma receive_run (hd : Drawn messages arrivals) :
    ∃ s, Run.exec receive ([], new) arrivals = .ok s
      ∧ Reassembled (payloadOf messages) (Arrived messages arrivals) s
      ∧ Fragments messages arrivals s.2.splits := by
  induction arrivals using List.reverseRecOn with
  | nil =>
      refine ⟨_, rfl, ⟨window_new.congr (fun k => iff_false_intro (not_arrived_nil k))
        fun _ _ => rfl, not_arrived_nil _, rfl⟩, fragments_nil⟩
  | append_singleton arrivals f ih =>
      obtain ⟨s, hrun, hs, hp⟩ := ih hd.prefix
      obtain ⟨s', hstep, hs', hp'⟩ := receive_step hd hs hp
      exact ⟨s', Run.exec_append.mpr ⟨s, hrun, Run.exec_singleton.mpr hstep⟩, hs', hp'⟩

/-- **Ordered reassembly is exact.**  After any arrivals of frames of the messages, whole or in
fragments, lost, reordered, repeated or interleaved, everything `get_all` has returned is exactly
the messages before the first one whose frames have not all arrived, in order, each once and with
its payload. -/
theorem ordered_reassembly (messages : ℕ → Carrier) (arrivals : List Frame)
    (h : Drawn messages arrivals) :
    ∃ released q m, Run.exec receive ([], new) arrivals = .ok (released, q)
      ∧ IsLeast {k | ¬ Arrived messages arrivals k} m
      ∧ released.map asMessage = (List.range m).map fun k => (k, (messages k).payload) := by
  obtain ⟨⟨released, q⟩, hrun, hs, -⟩ := receive_run h
  refine ⟨released, q, q.min, hrun, ⟨hs.least, fun k hk => ?_⟩, hs.released⟩
  by_contra hlt
  exact hk (hs.window.below k (not_le.mp hlt))

/-- Reassembly of a message in two fragments behind a whole one, with a fragment that comes first
and a repetition. -/
theorem ordered_reassembly_sample :
    let whole : Frame := ⟨.reliableOrdered, 0, 0, 0, false, 0, 0, 0, [7]⟩
    let part (i : UInt32) (body : Bytes) : Frame :=
      ⟨.reliableOrdered, 1, 0, 1, true, 2, i, 5, body⟩
    ∃ released q m,
      Run.exec receive ([], new) [part 1 [9], whole, part 1 [9], part 0 [8]] = .ok (released, q)
      ∧ released.map asMessage = (List.range m).map fun k =>
          (k, (if k = 1 then Carrier.fragments 5 [[8], [9]] (by simp)
            else .unsplit [7]).payload) := by
  intro whole part
  have hdrawn : Drawn
      (fun k => if k = 1 then Carrier.fragments 5 [[8], [9]] (by simp) else .unsplit [7])
      [part 1 [9], whole, part 1 [9], part 0 [8]] :=
    ⟨by simp [Carries, whole, part], by simp [whole, part], by simp [whole, part]⟩
  obtain ⟨released, q, m, hrun, -, hreleased⟩ := ordered_reassembly
    (fun k => if k = 1 then Carrier.fragments 5 [[8], [9]] (by simp) else .unsplit [7])
    [part 1 [9], whole, part 1 [9], part 0 [8]] hdrawn
  exact ⟨released, q, m, hrun, hreleased⟩

end ReceivedQueue

end ActixRaknet
