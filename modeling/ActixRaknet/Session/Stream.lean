import ActixRaknet.Queue.Emission
import ActixRaknet.Queue.Reassembly
import ActixRaknet.Session.Fragments
import ActixRaknet.Session.Send

/-!
The ordered stream of a sender, and when it has a hole.

* `ReceivedQueue.Complete`: the frames that an order index needs to be released, and
  `releases_of_complete`: a receiver that gets complete sets releases every order index;
* `Session.consigned`: the frames that an ordered call queues, `step_consigns`;
* `Session.Stream`: what the calls keep of the frames held;
* `session_stream_iff`: the runs that leave no hole are those in which no buffer that is sent in
  pieces has a length of a multiple of 65536.
-/

namespace ActixRaknet

open Fallible

namespace ReceivedQueue

/-- A complete set of frames for the order index `k`: one unsplit frame, or all fragments of one
split packet, each once. -/
inductive Complete (k : ℕ) : Multiset Frame → Prop
  | unsplit (f : Frame) (hsplit : f.split = false) (horder : f.orderIndex = k) : Complete k {f}
  | fragments (frames : List Frame) (splitId : UInt16) (hne : frames ≠ [])
      (hframes : ∀ f ∈ frames, f.split = true ∧ f.orderIndex = k ∧ f.splitId = splitId
        ∧ f.splitCount.toNat = frames.length)
      (hindex : frames.map (fun f => f.splitIndex.toNat) = List.range frames.length) :
      Complete k ↑frames

/-- No frame is no complete set. -/
lemma not_complete_zero (k : ℕ) : ¬ Complete k 0 := by
  intro h
  generalize hm : (0 : Multiset Frame) = m at h
  cases h with
  | unsplit f _ _ => exact Multiset.singleton_ne_zero f hm.symm
  | fragments frames _ hne _ _ => exact hne ((Multiset.coe_eq_zero frames).mp hm.symm)

/-- A complete set carries a message. -/
lemma Complete.exists_carrier {k : ℕ} {m : Multiset Frame} (h : Complete k m) :
    ∃ carrier : Carrier, ∀ messages : ℕ → Carrier, messages k = carrier →
      (∀ f ∈ m, Carries messages f)
        ∧ ∀ l : List Frame, (∀ f ∈ m, f ∈ l) → Arrived messages l k := by
  cases h with
  | unsplit f hsplit horder =>
      refine ⟨.unsplit f.data, fun messages hk => ⟨fun g hg => ?_, fun l hl => ?_⟩⟩
      · obtain rfl := Multiset.mem_singleton.mp hg
        rw [Carries, horder, hk]
        exact ⟨hsplit, rfl⟩
      · rw [Arrived, hk]
        exact ⟨f, hl f (Multiset.mem_singleton_self f), horder⟩
  | fragments frames splitId hne hframes hindex =>
      have hat : ∀ i (hi : i < frames.length), (frames[i]).splitIndex.toNat = i := by
        intro i hi
        have hget := congrArg (·[i]?) hindex
        simpa [hi] using hget
      refine ⟨.fragments splitId (frames.map Frame.data) (by simpa using hne), fun messages hk =>
        ⟨fun g hg => ?_, fun l hl => ?_⟩⟩
      · obtain ⟨i, hi, rfl⟩ := List.mem_iff_getElem.mp (Multiset.mem_coe.mp hg)
        obtain ⟨hsplit, horder, hid, hcount⟩ := hframes _ (List.getElem_mem hi)
        rw [Carries, horder, hk, hat i hi]
        exact ⟨hsplit, hid, by rw [hcount, List.length_map], by simp [hi]⟩
      · rw [Arrived, hk]
        intro i hi
        rw [List.length_map] at hi
        have hmem := List.getElem_mem hi
        exact ⟨frames[i], hl _ (Multiset.mem_coe.mpr hmem), (hframes _ hmem).2.1, hat i hi⟩

/-- **A receiver that gets complete sets** for the order indices below `n`, in any order and with
repetitions, releases exactly these order indices. -/
lemma releases_of_complete {m : Multiset Frame} {n : ℕ} (hn : n < 2 ^ 32)
    (hall : ∀ k < n, Complete k (m.filter fun f => f.orderIndex = k))
    (hlt : ∀ f ∈ m, f.orderIndex < n)
    (hids : ∀ f ∈ m, ∀ g ∈ m, f.split = true → g.split = true → f.splitId = g.splitId →
      f.orderIndex = g.orderIndex)
    {l : List Frame} (hl : ∀ f, f ∈ l ↔ f ∈ m) :
    ∃ released q, Run.exec receive ([], new) l = .ok (released, q)
      ∧ released.map Frame.orderIndex = List.range n := by
  have hcarrier : ∀ k, ∃ carrier : Carrier, k < n → ∀ messages : ℕ → Carrier,
      messages k = carrier → (∀ f ∈ m.filter fun f => f.orderIndex = k, Carries messages f)
        ∧ ∀ l : List Frame, (∀ f ∈ m.filter fun f => f.orderIndex = k, f ∈ l) →
          Arrived messages l k := by
    intro k
    by_cases hk : k < n
    · obtain ⟨carrier, hcarrier⟩ := (hall k hk).exists_carrier
      exact ⟨carrier, fun _ => hcarrier⟩
    · exact ⟨.unsplit [], fun h => absurd h hk⟩
  choose messages hmessages using hcarrier
  have hdrawn : Drawn messages l := by
    refine ⟨fun f hf => ?_, fun f hf g hg => hids f ((hl f).mp hf) g ((hl g).mp hg), fun f hf => ?_⟩
    · have hmem := (hl f).mp hf
      exact (hmessages _ (hlt f hmem) messages rfl).1 f (Multiset.mem_filter.mpr ⟨hmem, rfl⟩)
    · have hbound := hlt f ((hl f).mp hf)
      omega
  have harrived : ∀ k < n, Arrived messages l k := fun k hk =>
    (hmessages k hk messages rfl).2 l fun f hf => (hl f).mpr (Multiset.mem_filter.mp hf).1
  have hmissing : ¬ Arrived messages l n := by
    intro harrives
    have hfound : ∃ f ∈ l, f.orderIndex = n := by
      rw [Arrived] at harrives
      cases hcar : messages n with
      | unsplit body =>
          rw [hcar] at harrives
          exact harrives
      | fragments splitId bodies nonempty =>
          rw [hcar] at harrives
          obtain ⟨f, hf, horder, -⟩ := harrives 0 (List.length_pos_iff.mpr nonempty)
          exact ⟨f, hf, horder⟩
    obtain ⟨f, hf, horder⟩ := hfound
    exact absurd (hlt f ((hl f).mp hf)) (by omega)
  obtain ⟨released, q, least, hrun, hleast, hreleased⟩ := ordered_reassembly messages l hdrawn
  have hn' : least = n := by
    refine le_antisymm (hleast.2 hmissing) (not_lt.mp fun hlt => ?_)
    exact hleast.1 (harrived least hlt)
  refine ⟨released, q, hrun, ?_⟩
  have hfst := congrArg (List.map Prod.fst) hreleased
  rw [List.map_map, List.map_map, hn'] at hfst
  exact hfst.trans (List.map_id _)

end ReceivedQueue

namespace PacketQueue

variable {q q' : PacketQueue} {clock : Clock}

lemma Orderly.addFrame (h : q.Orderly) {f : Frame} (hq : q.addFrame clock f = .ok q') :
    q'.Orderly ∧ q'.resends = q.resends := by
  obtain ⟨-, ⟨-, rfl⟩ | ⟨-, -, rfl⟩⟩ := addFrame_eq_ok.mp hq
  · exact ⟨h.withOpenSet _ _, rfl⟩
  · exact ⟨h.allocate clock _ _, rfl⟩

lemma Orderly.allocated (h : q.Orderly) (clock : Clock) (frames : List Frame) :
    (q.allocated clock frames).Orderly ∧ (q.allocated clock frames).resends = q.resends
      ∧ (q.allocated clock frames).held = ↑frames + q.held := by
  induction frames using List.reverseRecOn with
  | nil => exact ⟨h, rfl, (zero_add _).symm⟩
  | append_singleton frames f ih =>
      obtain ⟨horderly, hresends, hheld⟩ := ih
      rw [allocated_concat]
      refine ⟨horderly.allocate clock _ _, hresends, ?_⟩
      rw [held_allocate horderly.toKeys, hheld, ← Multiset.coe_add, add_left_comm, add_assoc]

end PacketQueue

namespace Session

/-- The calls that give an order index to a message. -/
def Ordered : Op → Prop
  | .sendTo _ _ | .disconnect _ => True
  | @Op.sendSystemPacket _ _ _ _ reliability => reliability.sequencedOrOrdered = true
  | _ => False

/-- The frames such a call queues. -/
def consigned (s : Session) : Op → List Frame
  | .sendTo _ buff =>
    if buff.length < s.mtu.toNat - 46 then [s.wholeFrame buff] else s.splitFrames buff
  | .disconnect _ => [s.closingFrame]
  | @Op.sendSystemPacket _ _ _ packet reliability =>
    match encode packet with
    | .ok body => [s.systemFrame reliability body]
    | .error _ => []
  | _ => []

/-- A call has queued the frames under the next order index, and under a split id of their own if
they are split. -/
structure Consigns (s : Session) (frames : List Frame) (s' : Session) : Prop where
  orderly : s'.packetQueue.Orderly
  resends_eq : s'.packetQueue.resends = []
  held_eq : s'.packetQueue.held = ↑frames + s.packetQueue.held
  mtu_eq : s'.mtu = s.mtu
  orderIndex_eq : s'.orderIndex = s.orderIndex + 1
  orderIndex_lt : s'.orderIndex < 2 ^ 32
  frames_orderIndex : ∀ f ∈ frames, f.orderIndex = s.orderIndex
  splitId_le : s.splitId ≤ s'.splitId
  frames_splitId : ∀ f ∈ frames, f.split = true →
    f.splitId.toNat = s.splitId ∧ s.splitId < s'.splitId

variable {s s' : Session} {env : Env}

/-- One unsplit frame is queued. -/
lemma consigns_frame (horderly : s.packetQueue.Orderly) (hresends : s.packetQueue.resends = [])
    {clock : PacketQueue.Clock} {f : Frame} {q : PacketQueue} (hsplit : f.split = false)
    (hindex : f.orderIndex = s.orderIndex) (hq : s.packetQueue.addFrame clock f = .ok q)
    (hqueue : s'.packetQueue = q) (hmtu : s'.mtu = s.mtu)
    (horder : s'.orderIndex = s.orderIndex + 1) (hlt : s.orderIndex + 1 < 2 ^ 32)
    (hid : s'.splitId = s.splitId) : Consigns s [f] s' := by
  obtain ⟨horderly', hresends'⟩ := horderly.addFrame hq
  exact
    { orderly := hqueue ▸ horderly'
      resends_eq := by rw [hqueue, hresends', hresends]
      held_eq := by rw [hqueue]; exact PacketQueue.held_addFrame horderly.toKeys hq
      mtu_eq := hmtu
      orderIndex_eq := horder
      orderIndex_lt := horder ▸ hlt
      frames_orderIndex := fun g hg => List.mem_singleton.mp hg ▸ hindex
      splitId_le := hid.ge
      frames_splitId := fun g hg hg' => by
        rw [List.mem_singleton.mp hg, hsplit] at hg'
        cases hg' }

/-- **What an ordered call queues.** -/
lemma step_consigns (horderly : s.packetQueue.Orderly) (hresends : s.packetQueue.resends = [])
    {op : Op} (hop : Ordered op) (hs : s.step op = .ok s') : Consigns s (s.consigned op) s' := by
  cases op with
  | sendTo env buff =>
      obtain ⟨-, hs⟩ := sendTo_eq_ok.mp hs
      rw [consigned]
      split_ifs at hs ⊢ with hlen
      · obtain ⟨-, hlt, q, hq, rfl⟩ := sendWhole_eq_ok.mp hs
        exact consigns_frame horderly hresends rfl rfl hq rfl rfl rfl hlt rfl
      · obtain ⟨-, hroom, rfl⟩ := sendSplit_eq_ok.mp hs
        obtain ⟨horderly', hresends', hheld⟩ :=
          horderly.allocated env.queue (s.splitFrames buff)
        have hid : (UInt16.ofNat s.splitId).toNat = s.splitId :=
          UInt16.toNat_ofNat_of_lt' (Nat.lt_of_succ_lt hroom.splitId_lt)
        exact
          { orderly := horderly'
            resends_eq := hresends'.trans hresends
            held_eq := hheld
            mtu_eq := rfl
            orderIndex_eq := rfl
            orderIndex_lt := hroom.orderIndex_lt
            frames_orderIndex := fun f hf => (mem_splitFrames hf).2.1
            splitId_le := Nat.le_succ _
            frames_splitId := fun f hf _ =>
              ⟨by rw [(mem_splitFrames hf).2.2.1, hid], Nat.lt_succ_self _⟩ }
  | disconnect env =>
      obtain ⟨-, hlt, q, hq, t, ht, rfl⟩ := disconnect_eq_ok.mp hs
      obtain ⟨sets, q', udp, hget, rfl⟩ := flushQueue_queue ht
      obtain ⟨horderly', hresends'⟩ := horderly.addFrame hq
      have hflushed := horderly'.getPacket (hresends'.trans hresends) hget
      have hadded := PacketQueue.held_addFrame horderly.toKeys hq
      exact
        { orderly := hflushed.orderly
          resends_eq := hflushed.resends_eq
          held_eq := hflushed.held_eq.trans hadded
          mtu_eq := rfl
          orderIndex_eq := rfl
          orderIndex_lt := hlt
          frames_orderIndex := fun f hf => by rw [List.mem_singleton.mp hf]; rfl
          splitId_le := le_rfl
          frames_splitId := fun f hf hsplit => by
            rw [List.mem_singleton.mp hf] at hsplit
            cases hsplit }
  | sendSystemPacket env P packet reliability =>
      obtain ⟨body, hbody, -, hlt, q, hq, rfl⟩ := sendSystemPacket_eq_ok.mp hs
      rw [consigned, hbody]
      refine consigns_frame horderly hresends rfl (if_pos hop) hq rfl rfl (if_pos hop) (hlt hop) rfl
  | update env => exact hop.elim
  | forceFlush env => exact hop.elim
  | handle env msg => exact hop.elim

/-! ### Holes -/

/-- **No hole**: every order index taken has a complete set of frames in the queue, and a receiver
that gets all frames of the queue, in any order, releases every order index. -/
def Seamless (s : Session) : Prop :=
  (∀ k < s.orderIndex,
      ReceivedQueue.Complete k (s.packetQueue.held.filter fun f => f.orderIndex = k))
    ∧ ∀ l : List Frame, (∀ f, f ∈ l ↔ f ∈ s.packetQueue.held) →
      ∃ released q, Run.exec ReceivedQueue.receive ([], .new) l = .ok (released, q)
        ∧ released.map Frame.orderIndex = List.range s.orderIndex

/-- What ordered calls keep of the frames held, whether there are holes or not. -/
structure Stream (s : Session) : Prop where
  orderly : s.packetQueue.Orderly
  resends_eq : s.packetQueue.resends = []
  orderIndex_lt : s.orderIndex < 2 ^ 32
  held_lt : ∀ f ∈ s.packetQueue.held, f.orderIndex < s.orderIndex
  splitId_lt : ∀ f ∈ s.packetQueue.held, f.split = true → f.splitId.toNat < s.splitId
  splitId_inj : ∀ f ∈ s.packetQueue.held, ∀ g ∈ s.packetQueue.held, f.split = true →
    g.split = true → f.splitId = g.splitId → f.orderIndex = g.orderIndex

lemma stream_new (addr : SocketAddr) (mtu : UInt16) (lastPing lastReceive : Instant) :
    Stream (new addr mtu lastPing lastReceive) where
  orderly := PacketQueue.orderly_new mtu
  resends_eq := rfl
  orderIndex_lt := Nat.two_pow_pos 32
  held_lt f hf := absurd hf (Multiset.notMem_zero f)
  splitId_lt f hf := absurd hf (Multiset.notMem_zero f)
  splitId_inj f hf := absurd hf (Multiset.notMem_zero f)

/-- The second half of `Seamless` follows from the first. -/
lemma Stream.seamless (h : s.Stream) (hall : ∀ k < s.orderIndex,
    ReceivedQueue.Complete k (s.packetQueue.held.filter fun f => f.orderIndex = k)) : s.Seamless :=
  ⟨hall, fun _ hl =>
    ReceivedQueue.releases_of_complete h.orderIndex_lt hall h.held_lt h.splitId_inj hl⟩

section Consigns

variable {frames : List Frame} (h : s.Stream) (hc : Consigns s frames s')

include h hc

/-- **Step lemma** for the invariant. -/
lemma Stream.next : s'.Stream := by
  have hmem : ∀ f ∈ s'.packetQueue.held, f ∈ frames ∨ f ∈ s.packetQueue.held := fun f hf => by
    rwa [hc.held_eq, Multiset.mem_add, Multiset.mem_coe] at hf
  -- a split frame that was held has an older id than the frames of the call
  have hne : ∀ f ∈ frames, ∀ g ∈ s.packetQueue.held, f.split = true → g.split = true →
      f.splitId ≠ g.splitId := by
    intro f hf g hg hfs hgs heq
    have hlt := h.splitId_lt g hg hgs
    rw [← heq, (hc.frames_splitId f hf hfs).1] at hlt
    exact hlt.false
  refine ⟨hc.orderly, hc.resends_eq, hc.orderIndex_lt, fun f hf => ?_, fun f hf hfs => ?_,
    fun f hf g hg hfs hgs heq => ?_⟩
  · rw [hc.orderIndex_eq]
    rcases hmem f hf with hf | hf
    · rw [hc.frames_orderIndex f hf]
      exact Nat.lt_succ_self _
    · exact (h.held_lt f hf).trans (Nat.lt_succ_self _)
  · rcases hmem f hf with hf | hf
    · obtain ⟨hid, hlt⟩ := hc.frames_splitId f hf hfs
      exact hid ▸ hlt
    · exact (h.splitId_lt f hf hfs).trans_le hc.splitId_le
  · rcases hmem f hf with hf | hf <;> rcases hmem g hg with hg | hg
    · rw [hc.frames_orderIndex f hf, hc.frames_orderIndex g hg]
    · exact absurd heq (hne f hf g hg hfs hgs)
    · exact absurd heq.symm (hne g hg f hf hgs hfs)
    · exact h.splitId_inj f hf g hg hfs hgs heq

omit h in
/-- The frames under the order indices before are the same. -/
lemma Consigns.filter_old {k : ℕ} (hk : k < s.orderIndex) :
    s'.packetQueue.held.filter (fun f => f.orderIndex = k)
      = s.packetQueue.held.filter fun f => f.orderIndex = k := by
  rw [hc.held_eq, Multiset.filter_add, Multiset.filter_eq_nil.mpr, zero_add]
  intro f hf
  rw [hc.frames_orderIndex f (Multiset.mem_coe.mp hf)]
  exact hk.ne'

/-- The frames under the new order index are those of the call. -/
lemma Stream.filter_new :
    s'.packetQueue.held.filter (fun f => f.orderIndex = s.orderIndex) = ↑frames := by
  rw [hc.held_eq, Multiset.filter_add,
    Multiset.filter_eq_self.mpr fun f hf => hc.frames_orderIndex f (Multiset.mem_coe.mp hf),
    Multiset.filter_eq_nil.mpr fun f hf => (h.held_lt f hf).ne, add_zero]

/-- The stream stays without a hole exactly when the frames of the call are a complete set. -/
lemma Stream.seamless_iff (hs : s.Seamless) :
    s'.Seamless ↔ ReceivedQueue.Complete s.orderIndex ↑frames := by
  constructor
  · intro hs'
    have hnew := hs'.1 s.orderIndex (hc.orderIndex_eq ▸ Nat.lt_succ_self _)
    rwa [h.filter_new hc] at hnew
  · intro hnew
    refine (h.next hc).seamless fun k hk => ?_
    rw [hc.orderIndex_eq, Nat.lt_succ_iff_lt_or_eq] at hk
    rcases hk with hk | rfl
    · rw [hc.filter_old hk]
      exact hs.1 k hk
    · rwa [h.filter_new hc]

end Consigns

/-! ### The frames of a call -/

/-- The call sends no buffer in pieces whose length is a multiple of 65536. -/
def Pieced (mtu : UInt16) : Op → Prop
  | .sendTo _ buff => buff.length < mtu.toNat - 46 ∨ buff.length % 2 ^ 16 ≠ 0
  | _ => True

/-- A buffer has pieces unless its length, cut to sixteen bits, is zero. -/
lemma fragmentCount_pos_iff (len max : ℕ) : 0 < fragmentCount len max ↔ len ≠ 0 := by
  rw [fragmentCount]
  split_ifs with hrest
  · refine iff_of_true (Nat.succ_pos _) ?_
    rintro rfl
    exact hrest (Nat.zero_mod max)
  · have hdiv := Nat.div_add_mod' len max
    rw [not_not.mp hrest, Nat.add_zero] at hdiv
    rw [Nat.pos_iff_ne_zero, not_iff_not]
    constructor
    · intro hzero
      rw [hzero, Nat.zero_mul] at hdiv
      exact hdiv.symm
    · rintro rfl
      exact Nat.zero_div max

/-- The fragments of a buffer are a complete set, unless there are none. -/
lemma complete_splitFrames_iff (s : Session) (buff : Bytes) :
    ReceivedQueue.Complete s.orderIndex ↑(s.splitFrames buff) ↔ buff.length % 2 ^ 16 ≠ 0 := by
  rw [← fragmentCount_pos_iff _ (s.mtu.toNat - 61), ← splitFrames_length]
  constructor
  · intro h
    refine List.length_pos_iff.mpr fun hnil => ?_
    rw [hnil] at h
    exact ReceivedQueue.not_complete_zero _ h
  · intro hpos
    refine .fragments _ (UInt16.ofNat s.splitId) (List.length_pos_iff.mp hpos) (fun f hf => ?_)
      (splitIndex_splitFrames s buff)
    exact mem_splitFrames hf

/-- **The frames of an ordered call** are a complete set exactly when it leaves no hole. -/
lemma complete_consigned_iff {op : Op} (hop : Ordered op) (hs : s.step op = .ok s') :
    ReceivedQueue.Complete s.orderIndex ↑(s.consigned op) ↔ Pieced s.mtu op := by
  cases op with
  | sendTo env buff =>
      rw [consigned, Pieced]
      split_ifs with hlen
      · exact iff_of_true (.unsplit (s.wholeFrame buff) rfl rfl) (Or.inl hlen)
      · rw [complete_splitFrames_iff, or_iff_right hlen]
  | disconnect env => exact iff_of_true (.unsplit s.closingFrame rfl rfl) trivial
  | sendSystemPacket env P packet reliability =>
      obtain ⟨body, hbody, -⟩ := sendSystemPacket_eq_ok.mp hs
      rw [consigned, hbody]
      exact iff_of_true (.unsplit (s.systemFrame reliability body) rfl (if_pos hop)) trivial
  | update env => exact hop.elim
  | forceFlush env => exact hop.elim
  | handle env msg => exact hop.elim

/-- **The ordered stream has no hole** in any state of a run of ordered calls exactly when no buffer
sent in pieces has a length of a multiple of 65536: such a buffer takes an order index and no
frame. -/
theorem session_stream_iff (addr : SocketAddr) (mtu : UInt16) (lastPing lastReceive : Instant)
    (ops : List Op) (hops : ∀ op ∈ ops, Ordered op) :
    Run.Always step Seamless (new addr mtu lastPing lastReceive) ops
      ↔ Run.Along step (fun _ op => Pieced mtu op) (new addr mtu lastPing lastReceive) ops := by
  have hnew := stream_new addr mtu lastPing lastReceive
  have hconsigns : ∀ (s : Session) op s', s.Stream → Ordered op → s.step op = .ok s' →
      Consigns s (s.consigned op) s' := fun s op s' h hop hs =>
    step_consigns h.orderly h.resends_eq hop hs
  refine Run.always_iff_along (I := fun s => s.Stream ∧ s.mtu = mtu) (D := fun _ op => Ordered op)
    ?_ ?_ ⟨hnew, rfl⟩ (hnew.seamless fun k hk => absurd hk (Nat.not_lt_zero k))
    (Run.along_of_forall hops)
  · rintro s op s' ⟨h, rfl⟩ hP hop hpieced hs
    have hc := hconsigns s op s' h hop hs
    refine ⟨⟨h.next hc, hc.mtu_eq⟩, (h.seamless_iff hc hP).mpr ?_⟩
    exact (complete_consigned_iff hop hs).mpr hpieced
  · rintro s op s' ⟨h, rfl⟩ hP hop hpieced hs hP'
    have hc := hconsigns s op s' h hop hs
    exact hpieced ((complete_consigned_iff hop hs).mp ((h.seamless_iff hc hP).mp hP'))

/-- A message and a disconnect at the mtu 1400 leave no hole. -/
theorem session_stream_sample :
    Run.Always step Seamless (new (.v4 ⟨127, 0, 0, 1⟩ 19132) 1400 0 0)
      [.sendTo default [7], .disconnect default] := by
  refine (session_stream_iff _ _ _ _ _ fun op hop => ?_).mpr
    (Run.along_of_forall fun op hop => ?_)
  · rw [List.mem_cons, List.mem_singleton] at hop
    rcases hop with rfl | rfl <;> trivial
  · rw [List.mem_cons, List.mem_singleton] at hop
    rcases hop with rfl | rfl
    · exact Or.inl (by decide)
    · trivial

/-- A buffer of 65536 bytes at the mtu 1400 takes the order index 0 and no frame. -/
theorem session_stream_counterexample :
    ¬ Run.Always step Seamless (new (.v4 ⟨127, 0, 0, 1⟩ 19132) 1400 0 0)
      [.sendTo default (List.replicate 65536 0)] := by
  have hnew := stream_new (.v4 ⟨127, 0, 0, 1⟩ 19132) 1400 0 0
  generalize hs : new (.v4 ⟨127, 0, 0, 1⟩ 19132) 1400 0 0 = s at hnew ⊢
  have hmtu : s.mtu.toNat = 1400 := by rw [← hs]; rfl
  have hroom : s.Room 0 := by
    rw [← hs]
    exact ⟨fun h => absurd h (lt_irrefl 0), fun h => absurd h (lt_irrefl 0),
      fun h => absurd h (lt_irrefl 0), by decide, by decide⟩
  have hlen : (List.replicate 65536 (0 : UInt8)).length = 65536 := List.length_replicate
  generalize List.replicate 65536 (0 : UInt8) = buff at hlen ⊢
  have hnone : (s.splitFrames buff).length = 0 := by
    rw [splitFrames_length, hlen]
    exact Nat.eq_zero_of_not_pos fun hpos =>
      (fragmentCount_pos_iff _ _).mp hpos (by decide)
  have hsplit : ∃ t, s.sendSplit default buff = .ok t :=
    ⟨_, sendSplit_eq_ok.mpr ⟨by omega, hnone ▸ hroom, rfl⟩⟩
  obtain ⟨t, ht⟩ := hsplit
  have hsend : s.step (.sendTo default buff) = .ok t :=
    sendTo_eq_ok.mpr ⟨by omega, by rwa [if_neg (by omega)]⟩
  intro hall
  have hordered : Ordered (.sendTo default buff) := trivial
  have hc := step_consigns hnew.orderly hnew.resends_eq hordered hsend
  have hcomplete := (hnew.seamless_iff hc hall.1).mp (hall.2 t hsend)
  rw [consigned, if_neg (by omega), List.length_eq_zero_iff.mp hnone] at hcomplete
  exact ReceivedQueue.not_complete_zero _ hcomplete

end Session

end ActixRaknet
