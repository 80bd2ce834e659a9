import ActixRaknet.Queue.Numbers
import ActixRaknet.Session.Messages

/-!
The counters of a session over whole runs.

* `Session.Counts`: between two states the counters have not gone back, and the packet queue has
  only taken in frames with indices below them; every call does so (`counts_step`);
* `Session.Counted`: the invariant: what waits in the packet queue has indices and numbers below the
  counters, `Counted.step`;
* `Session.Flushes`: the flushes of a call; `Session.Spared`: the counters have room for the call,
  and they fit three bytes when a flush starts;
* `session_counters_encodable`: in a run whose calls spare the counters, what is handed to
  `FrameSet::encode` fits its fields, and no send or flush panics.
-/

namespace ActixRaknet

open Fallible

/-- The indices that the frame carries are below the counters. -/
structure Frame.Below (messageIndex orderIndex : ℕ) (f : Frame) : Prop where
  messageIndex_lt : f.reliability.isReliable = true → f.messageIndex < messageIndex
  orderIndex_lt : f.reliability.sequencedOrOrdered = true → f.orderIndex < orderIndex
  sequenceIndex_eq : f.sequenceIndex = 0

lemma Frame.Below.mono {messageIndex messageIndex' orderIndex orderIndex' : ℕ} {f : Frame}
    (h : f.Below messageIndex orderIndex) (hmessage : messageIndex ≤ messageIndex')
    (horder : orderIndex ≤ orderIndex') : f.Below messageIndex' orderIndex' :=
  ⟨fun hf => (h.messageIndex_lt hf).trans_le hmessage,
    fun hf => (h.orderIndex_lt hf).trans_le horder, h.sequenceIndex_eq⟩

/-- A frame without indices is below all counters. -/
lemma Frame.below_unreliable (messageIndex orderIndex : ℕ) (body : Bytes) :
    (Frame.new .unreliable body).Below messageIndex orderIndex :=
  ⟨by rintro ⟨⟩, by rintro ⟨⟩, rfl⟩

/-- A frame whose indices are below three-byte counters fits. -/
lemma Frame.Below.fits {messageIndex orderIndex : ℕ} {f : Frame}
    (h : f.Below messageIndex orderIndex) (hmessage : messageIndex ≤ 2 ^ 24)
    (horder : orderIndex ≤ 2 ^ 24) : f.Fits :=
  ⟨fun hf => (h.messageIndex_lt hf).trans_le hmessage,
    fun _ => h.sequenceIndex_eq ▸ Nat.two_pow_pos 24,
    fun hf => (h.orderIndex_lt hf).trans_le horder⟩

namespace PacketQueue

variable {q q' : PacketQueue}

lemma step_mtu {op : Op} (hq : step q op = .ok q') : q'.mtu = q.mtu := by
  cases op with
  | addFrame clock f => obtain ⟨-, ⟨-, rfl⟩ | ⟨-, -, rfl⟩⟩ := addFrame_eq_ok.mp hq <;> rfl
  | getPacket clock order =>
      obtain ⟨r, hr, rfl⟩ := map_eq_ok.mp hq
      obtain ⟨q₁, hflush, hsame⟩ := sameOpen_getPacket hr
      refine hsame.mtu.trans ?_
      rcases flush_eq_ok.mp hflush with ⟨-, rfl⟩ | ⟨-, -, rfl⟩ <;> rfl
  | received k => exact Except.ok.inj hq ▸ (sameOpen_received q k).mtu
  | resend clock k => exact (sameOpen_resend hq).mtu

/-- The frames of a queue satisfy `P` after an operation that takes in such frames only. -/
lemma Holding.step {P : Frame → Prop} {op : Op} (h : q.Holding fun l => ∀ f ∈ l, P f)
    (hop : ∀ clock f, op = .addFrame clock f → P f) (hq : step q op = .ok q') :
    q'.Holding fun l => ∀ f ∈ l, P f := by
  cases op with
  | addFrame clock f =>
      have hf := hop clock f rfl
      refine h.addFrame (fun _ g hg => ?_) (fun _ g hg => ?_) hq
      · rcases List.mem_append.mp hg with hg | hg
        · exact h.openSet g hg
        · exact List.mem_singleton.mp hg ▸ hf
      · exact List.mem_singleton.mp hg ▸ hf
  | getPacket clock order =>
      obtain ⟨r, hr, rfl⟩ := map_eq_ok.mp hq
      exact (h.getPacket (fun _ hf => absurd hf List.not_mem_nil) hr).2
  | received k => exact Except.ok.inj hq ▸ h.received k
  | resend clock k => exact h.resend hq

lemma Holding.exec {P : Frame → Prop} {ops : List Op} (h : q.Holding fun l => ∀ f ∈ l, P f)
    (hops : ∀ clock f, Op.addFrame clock f ∈ ops → P f)
    (hq : Run.exec PacketQueue.step q ops = .ok q') : q'.Holding fun l => ∀ f ∈ l, P f :=
  foldlM_induction (P := fun q : PacketQueue => q.Holding fun l => ∀ f ∈ l, P f)
    (fun _ _ _ hop ht hstep => ht.step (fun clock f heq => hops clock f (heq ▸ hop)) hstep) h hq

/-- The calls that pass on what a peer has reported. -/
def Reports : Op → Prop
  | .received _ | .resend _ _ => True
  | .addFrame _ _ | .getPacket _ _ => False

lemma sentOnly_of_not_reports {op : Op} (h : ¬Reports op) : q.SentOnly op := by
  cases op with
  | addFrame clock f => trivial
  | getPacket clock order => trivial
  | received k => exact absurd trivial h
  | resend clock k => exact absurd trivial h

/-- A run in which nothing is reported of a set that was not sent keeps the queue sound. -/
lemma Sound.exec {ops : List Op} (h : q.Sound) (hops : Run.Along PacketQueue.step SentOnly q ops)
    (hq : Run.exec PacketQueue.step q ops = .ok q') : q'.Sound :=
  (Run.always_iff.mp
    (Run.always_of_along (fun _ _ _ ht hop hstep => step_sound ht hop hstep) h hops))
    ops [] q' (List.append_nil ops).symm hq

/-- A frame is added if its number is a `u32` and the room of a datagram does not underflow. -/
lemma exists_addFrame (clock : Clock) (f : Frame) (hmtu : 42 ≤ q.mtu) (hmax : q.max + 1 < 2 ^ 32) :
    ∃ q', q.addFrame clock f = .ok q' := by
  by_cases hfits : q.Fits f
  · exact ⟨_, addFrame_eq_ok.mpr ⟨hmtu, Or.inl ⟨hfits, rfl⟩⟩⟩
  · exact ⟨_, addFrame_eq_ok.mpr ⟨hmtu, Or.inr ⟨hfits, hmax, rfl⟩⟩⟩

/-- Parts of split packets are added one by one. -/
lemma exec_allocated {clock : Clock} {frames : List Frame} (hsplit : ∀ f ∈ frames, f.split = true)
    (hmtu : frames ≠ [] → 42 ≤ q.mtu) (hmax : frames ≠ [] → q.max + frames.length < 2 ^ 32) :
    Run.exec step q (frames.map (.addFrame clock)) = .ok (q.allocated clock frames) := by
  induction frames generalizing q with
  | nil => rfl
  | cons f frames ih =>
      obtain ⟨hf, hrest⟩ := List.forall_mem_cons.mp hsplit
      have hlt := hmax (List.cons_ne_nil f frames)
      rw [List.length_cons] at hlt
      have hfirst : q.addFrame clock f = .ok (q.allocated clock [f]) :=
        (addFrame_split_eq_ok hf).mpr ⟨hmtu (List.cons_ne_nil f frames), by omega, rfl⟩
      refine Run.exec_cons.mpr ⟨_, hfirst, ih hrest (fun _ => ?_) fun _ => ?_⟩
      · exact hmtu (List.cons_ne_nil f frames)
      · rw [allocated_max, List.length_singleton]
        omega

end PacketQueue

namespace ACKQueue

/-- The window ends behind the numbers that have arrived. -/
lemma highest_add_le {q q' : ACKQueue} {n bound : ℕ} (h : q.highest ≤ bound) (hn : n < bound)
    (hq : q.add n = .ok q') : q'.highest ≤ bound := by
  rw [add] at hq
  split_ifs at hq with hnew
  · obtain ⟨highest, hraised, hq⟩ := bind_eq_ok.mp hq
    obtain rfl := Except.ok.inj hq
    rw [raised] at hraised
    split_ifs at hraised
    · obtain ⟨-, rfl⟩ := u32Add_eq_ok.mp hraised
      exact hn
    · exact Except.ok.inj hraised ▸ h
  · exact Except.ok.inj hq ▸ h

/-- The numbers of a report are below the end of the window. -/
lemma clear_lt {q : ACKQueue} {bound : ℕ} (h : q.highest ≤ bound) :
    (∀ r ∈ q.clear.1.1, r.1 < bound ∧ r.2 < bound) ∧ ∀ n ∈ q.clear.1.2, n < bound := by
  constructor
  · intro r hr
    have hsep : Ranges.Separated q.clear.1.1 := by
      rw [clear_eq]
      exact Ranges.separated_collect (q.pending_sorted.filter _)
    have hle := hsep.le r hr
    have hlast : r.2 ∈ Ranges.expand q.clear.1.1 := Ranges.mem_expand.mpr ⟨r, hr, hle, le_rfl⟩
    rw [expand_clear] at hlast
    have hlt := (mem_pending.mp (List.mem_filter.mp hlast).1).2.trans_le h
    exact ⟨hle.trans_lt hlt, hlt⟩
  · intro n hn
    rw [missing_clear] at hn
    exact (mem_pending.mp (List.mem_filter.mp hn).1).2.trans_le h

end ACKQueue

namespace Session

variable {s s' s'' : Session} {env : Env}

/-! ### What a call does to the counters -/

/-- The counters have not gone back, and the packet queue was called by the session itself, with
frames whose indices are below them. -/
structure Counts (s s' : Session) : Prop where
  messageIndex_le : s.messageIndex ≤ s'.messageIndex
  orderIndex_le : s.orderIndex ≤ s'.orderIndex
  mtu : s'.mtu = s.mtu
  queue : ∃ ops, Run.exec PacketQueue.step s.packetQueue ops = .ok s'.packetQueue
    ∧ (∀ clock f, PacketQueue.Op.addFrame clock f ∈ ops → f.Below s'.messageIndex s'.orderIndex)
    ∧ ∀ op ∈ ops, ¬PacketQueue.Reports op
  highest : s.ackQueue.highest ≤ 2 ^ 24 → s'.ackQueue.highest ≤ 2 ^ 24

lemma Counts.trans (h : Counts s s') (h' : Counts s' s'') : Counts s s'' := by
  obtain ⟨ops, hops, hframes, hown⟩ := h.queue
  obtain ⟨ops', hops', hframes', hown'⟩ := h'.queue
  refine ⟨h.messageIndex_le.trans h'.messageIndex_le, h.orderIndex_le.trans h'.orderIndex_le,
    h'.mtu.trans h.mtu, ⟨ops ++ ops', Run.exec_append.mpr ⟨_, hops, hops'⟩, ?_, ?_⟩,
    h'.highest ∘ h.highest⟩
  · intro clock f hf
    rcases List.mem_append.mp hf with hf | hf
    · exact (hframes clock f hf).mono h'.messageIndex_le h'.orderIndex_le
    · exact hframes' clock f hf
  · exact List.forall_mem_append.mpr ⟨hown, hown'⟩

/-- Fields besides the counters and the packet queue do not matter. -/
lemma Counts.of_eq (hmessage : s'.messageIndex = s.messageIndex)
    (horder : s'.orderIndex = s.orderIndex) (hmtu : s'.mtu = s.mtu)
    (hqueue : s'.packetQueue = s.packetQueue)
    (hhighest : s'.ackQueue.highest = s.ackQueue.highest) : Counts s s' :=
  ⟨hmessage.ge, horder.ge, hmtu,
    ⟨[], by rw [hqueue]; rfl, fun _ _ h => absurd h List.not_mem_nil,
      fun _ h => absurd h List.not_mem_nil⟩, fun h => hhighest ▸ h⟩

lemma Counts.refl (s : Session) : Counts s s := .of_eq rfl rfl rfl rfl rfl

/-- A frame is queued, and the counters are ahead of it. -/
lemma Counts.of_addFrame {clock : PacketQueue.Clock} {f : Frame}
    (hq : s.packetQueue.addFrame clock f = .ok s'.packetQueue)
    (hmessage : s.messageIndex ≤ s'.messageIndex) (horder : s.orderIndex ≤ s'.orderIndex)
    (hf : f.Below s'.messageIndex s'.orderIndex) (hmtu : s'.mtu = s.mtu)
    (hacks : s'.ackQueue = s.ackQueue) : Counts s s' := by
  refine ⟨hmessage, horder, hmtu, ⟨[.addFrame clock f], Run.exec_singleton.mpr hq, ?_, ?_⟩,
    fun h => hacks ▸ h⟩
  · intro _ g hg
    rw [List.mem_singleton, PacketQueue.Op.addFrame.injEq] at hg
    exact hg.2 ▸ hf
  · exact fun op hop => List.mem_singleton.mp hop ▸ id

lemma counts_flushQueue {clock : PacketQueue.Clock} {order : IterOrder ℕ}
    (hs : s.flushQueue clock order = .ok s') : Counts s s' := by
  obtain ⟨sets, q, udp, hget, rfl⟩ := flushQueue_queue hs
  have hstep : PacketQueue.step s.packetQueue (.getPacket clock order) = .ok q :=
    map_eq_ok.mpr ⟨_, hget, rfl⟩
  refine ⟨le_rfl, le_rfl, rfl, ⟨[.getPacket clock order], Run.exec_singleton.mpr hstep, ?_, ?_⟩, id⟩
  · intro _ _ h
    cases List.mem_singleton.mp h
  · exact fun op hop => List.mem_singleton.mp hop ▸ id

lemma counts_flushAck (hs : s.flushAck = .ok s') : Counts s s' := by
  obtain ⟨udp, rfl⟩ := flushAck_queue hs
  exact .of_eq rfl rfl rfl rfl rfl

lemma counts_checkPing (hs : s.checkPing env = .ok s') : Counts s s' := by
  rcases checkPing_eq hs with rfl | ⟨body, q, -, hq, rfl⟩
  · exact .refl s'
  · exact .of_addFrame hq le_rfl le_rfl (Frame.below_unreliable _ _ body) rfl rfl

lemma counts_disconnect (hs : s.disconnect env = .ok s') : Counts s s' := by
  obtain ⟨-, -, q, hq, t, ht, rfl⟩ := disconnect_eq_ok.mp hs
  have hsent : Counts s { s with
      messageIndex := s.messageIndex + 1
      orderIndex := s.orderIndex + 1
      packetQueue := q } :=
    .of_addFrame hq (Nat.le_succ _) (Nat.le_succ _)
      ⟨fun _ => Nat.lt_succ_self _, fun _ => Nat.lt_succ_self _, rfl⟩ rfl rfl
  exact hsent.trans ((counts_flushQueue ht).trans (.of_eq rfl rfl rfl rfl rfl))

lemma counts_update (hs : s.update env = .ok s') : Counts s s' := by
  rcases update_cases hs with ⟨-, rfl⟩ | ⟨-, s₁, s₂, s₃, hqueue, hack, hsilence, hping⟩
  · exact .refl s'
  · have h₂ : Counts s₂ s₃ := by
      rcases hsilence with ⟨-, hdisconnect⟩ | ⟨-, rfl⟩
      · exact counts_disconnect hdisconnect
      · exact .refl s₃
    exact (counts_flushQueue hqueue).trans
      ((counts_flushAck hack).trans (h₂.trans (counts_checkPing hping)))

lemma counts_handlePacket {f : Frame} (hs : handlePacket env s f = .ok s') : Counts s s' := by
  cases hping : asksPong f with
  | true =>
      obtain ⟨body, -, heq⟩ := handlePacket_of_asksPong env s hping
      obtain ⟨q, hq, rfl⟩ := map_eq_ok.mp (heq.symm.trans hs)
      exact .of_addFrame hq le_rfl le_rfl (Frame.below_unreliable _ _ body) rfl rfl
  | false =>
      by_cases hdata : f.data = []
      · rw [handlePacket_nil hdata] at hs
        cases hs
      · obtain ⟨_, _, -, -, heq⟩ := handlePacket_of_not_asksPong env s hdata hping
        rw [heq, Except.ok.injEq] at hs
        exact hs ▸ .of_eq rfl rfl rfl rfl rfl

lemma counts_handleDatagram (hready : s.Ready) {buff : Bytes}
    (hs : s.handleDatagram env buff = .ok s') : Counts s s' := by
  cases hdecode : FrameSet.decode buff with
  | error e =>
      rw [handleDatagram, hdecode] at hs
      exact Except.ok.inj hs ▸ .refl s
  | ok frameSet =>
      obtain ⟨ackQueue, l, q, hack, -, -, heq⟩ := hready.handleDatagram_eq env hdecode
      obtain ⟨t, hfold, rfl⟩ := map_eq_ok.mp (heq.symm.trans hs)
      have hnoted : Counts s { s with ackQueue := ackQueue } :=
        ⟨le_rfl, le_rfl, rfl, (Counts.refl s).queue, fun h =>
          ACKQueue.highest_add_le h (FrameSet.lt_of_decode hdecode).1 hack⟩
      have hhandled : Counts { s with ackQueue := ackQueue } t := foldlM_induction
        (P := Counts { s with ackQueue := ackQueue }) (f := Session.handlePacket env)
        (fun _ _ _ _ ht hstep => ht.trans (counts_handlePacket hstep)) (.refl _) hfold
      exact hnoted.trans (hhandled.trans (.of_eq rfl rfl rfl rfl rfl))

lemma counts_sendSystemPacket {P : Type} [Packet P] {packet : P} {reliability : Reliability}
    (hs : s.sendSystemPacket env packet reliability = .ok s') : Counts s s' := by
  obtain ⟨body, -, -, -, q, hq, rfl⟩ := sendSystemPacket_eq_ok.mp hs
  have hle : ∀ (c : Prop) [Decidable c] (n : ℕ), n ≤ if c then n + 1 else n := by
    intro c _ n
    split_ifs <;> omega
  have hlt : ∀ (c : Prop) [Decidable c] (n : ℕ), c →
      (if c then n else 0) < if c then n + 1 else n := by
    intro c _ n hc
    rw [if_pos hc, if_pos hc]
    exact Nat.lt_succ_self n
  exact .of_addFrame hq (hle _ _) (hle _ _) ⟨hlt _ _, hlt _ _, rfl⟩ rfl rfl

lemma counts_sendTo {buff : Bytes} (hs : s.sendTo env buff = .ok s') : Counts s s' := by
  obtain ⟨-, hs⟩ := sendTo_eq_ok.mp hs
  split_ifs at hs
  · obtain ⟨-, -, q, hq, rfl⟩ := sendWhole_eq_ok.mp hs
    exact .of_addFrame hq (Nat.le_succ _) (Nat.le_succ _)
      ⟨fun _ => Nat.lt_succ_self _, fun _ => Nat.lt_succ_self _, rfl⟩ rfl rfl
  · obtain ⟨-, hroom, rfl⟩ := sendSplit_eq_ok.mp hs
    have hpos : s.splitFrames buff ≠ [] → 0 < (s.splitFrames buff).length :=
      List.length_pos_iff.mpr
    refine ⟨Nat.le_add_right _ _, Nat.le_succ _, rfl, ⟨_, PacketQueue.exec_allocated
      (fun f hf => (mem_splitFrames hf).1) (fun h => hroom.mtu (hpos h))
      (fun h => hroom.max_lt (hpos h)), fun clock f hf => ?_, fun op hop => ?_⟩, id⟩
    · obtain ⟨g, hg, heq⟩ := List.mem_map.mp hf
      obtain ⟨-, rfl⟩ := PacketQueue.Op.addFrame.inj heq
      obtain ⟨i, hi, rfl⟩ := List.mem_map.mp hg
      rw [List.mem_range, ← splitFrames_length] at hi
      exact ⟨fun _ => Nat.add_lt_add_left hi _, fun _ => Nat.lt_succ_self _, rfl⟩
    · obtain ⟨g, -, rfl⟩ := List.mem_map.mp hop
      exact id

/-! ### What the peer reports -/

/-- The calls of the packet queue that pass on what a datagram reports. -/
def Reported (env : Env) (msg : UdpPacket) (ops : List PacketQueue.Op) : Prop :=
  ∃ header, msg.bytes.head? = some header
    ∧ ((header &&& ACK_FLAG ≠ 0 ∧ ∃ ack ns, decode Ack msg.bytes = .ok (.ok ack)
        ∧ ack.getAll = .ok ns ∧ ops = ns.map .received)
      ∨ (header &&& ACK_FLAG = 0 ∧ header &&& NACK_FLAG ≠ 0 ∧ ∃ nack ns,
        decode Nack msg.bytes = .ok (.ok nack) ∧ nack.getAll = .ok ns
        ∧ ops = ns.map (.resend env.queue)))

lemma Reported.not_addFrame {msg : UdpPacket} {ops : List PacketQueue.Op}
    (h : Reported env msg ops) (clock : PacketQueue.Clock) (f : Frame) :
    PacketQueue.Op.addFrame clock f ∉ ops := by
  intro hf
  obtain ⟨_, -, ⟨-, _, ns, -, -, rfl⟩ | ⟨-, -, _, ns, -, -, rfl⟩⟩ := h
  · obtain ⟨_, -, ⟨⟩⟩ := List.mem_map.mp hf
  · obtain ⟨_, -, ⟨⟩⟩ := List.mem_map.mp hf

/-- A datagram is handled by the session itself, or it reports to the packet queue. -/
lemma counts_handle (hready : s.Ready) {msg : UdpPacket} (hs : s.handle env msg = .ok s') :
    Counts s s' ∨ ∃ ops q, Reported env msg ops
      ∧ Run.exec PacketQueue.step s.packetQueue ops = .ok q ∧ s' = { s with packetQueue := q } := by
  obtain ⟨header, hheader, hs⟩ := bind_eq_ok.mp hs
  rw [index_zero_eq_ok] at hheader
  split_ifs at hs with hack hnack
  · rcases unwrapOrReturn_eq_ok hs with rfl | ⟨ack, hdecode, hs⟩
    · exact Or.inl (.refl s')
    · simp only [bind_eq_ok, pure_eq_ok, Except.ok.injEq] at hs
      obtain ⟨ns, hns, rfl⟩ := hs
      exact Or.inr ⟨_, _, ⟨header, hheader, Or.inl ⟨hack, ack, ns, hdecode, hns, rfl⟩⟩,
        exec_received ns s.packetQueue, rfl⟩
  · rcases unwrapOrReturn_eq_ok hs with rfl | ⟨nack, hdecode, hs⟩
    · exact Or.inl (.refl s')
    · simp only [bind_eq_ok, pure_eq_ok, Except.ok.injEq] at hs
      obtain ⟨ns, hns, q, hresend, rfl⟩ := hs
      exact Or.inr ⟨_, q, ⟨header, hheader,
        Or.inr ⟨not_not.mp hack, hnack, nack, ns, hdecode, hns, rfl⟩⟩,
        (exec_resend env.queue ns s.packetQueue).trans hresend, rfl⟩
  · exact Or.inl (counts_handleDatagram hready hs)
  · exact Or.inl (Except.ok.inj hs ▸ .refl s)

/-- **Step lemma**: no call sets the counters back, and the frames it queues are below them; only
datagrams report to the packet queue. -/
lemma counts_step (hready : s.Ready) {op : Op} (hs : s.step op = .ok s') :
    Counts s s' ∨ ∃ env msg ops q, op = .handle env msg ∧ Reported env msg ops
      ∧ Run.exec PacketQueue.step s.packetQueue ops = .ok q ∧ s' = { s with packetQueue := q } := by
  cases op with
  | update env => exact Or.inl (counts_update hs)
  | forceFlush env => exact Or.inl (counts_flushQueue hs)
  | handle env msg =>
      rcases counts_handle hready hs with h | ⟨ops, q, hops, hq, rfl⟩
      · exact Or.inl h
      · exact Or.inr ⟨env, msg, ops, q, rfl, hops, hq, rfl⟩
  | disconnect env => exact Or.inl (counts_disconnect hs)
  | sendSystemPacket env P packet reliability => exact Or.inl (counts_sendSystemPacket hs)
  | sendTo env buff => exact Or.inl (counts_sendTo hs)

/-! ### The invariant -/

/-- What waits in the packet queue has indices and numbers below the counters, and what waits to be
acknowledged has come off the wire. -/
structure Counted (s : Session) : Prop where
  ready : s.Ready
  mtu : s.packetQueue.mtu = s.mtu.toNat
  tidy : s.packetQueue.Tidy
  frames : s.packetQueue.Holding fun l => ∀ f ∈ l, f.Below s.messageIndex s.orderIndex
  highest : s.ackQueue.highest ≤ 2 ^ 24

lemma counted_new (addr : SocketAddr) (mtu : UInt16) (lastPing lastReceive : Instant) :
    Counted (new addr mtu lastPing lastReceive) where
  ready := ready_new addr mtu lastPing lastReceive
  mtu := rfl
  tidy := PacketQueue.tidy_new mtu
  frames := PacketQueue.holding_new mtu fun _ hf => absurd hf List.not_mem_nil
  highest := Nat.zero_le _

/-- A run of the packet queue that takes in frames below the counters keeps the invariant. -/
lemma Counted.exec (h : s.Counted) (hready : s'.Ready) {ops : List PacketQueue.Op}
    (hops : Run.exec PacketQueue.step s.packetQueue ops = .ok s'.packetQueue)
    (hframes : ∀ clock f, PacketQueue.Op.addFrame clock f ∈ ops →
      f.Below s'.messageIndex s'.orderIndex)
    (hmessage : s.messageIndex ≤ s'.messageIndex) (horder : s.orderIndex ≤ s'.orderIndex)
    (hmtu : s'.mtu = s.mtu) (hhighest : s'.ackQueue.highest ≤ 2 ^ 24) : s'.Counted where
  ready := hready
  mtu := by
    have hqueue : s'.packetQueue.mtu = s.packetQueue.mtu :=
      Run.invariant (P := fun q => q.mtu = s.packetQueue.mtu)
        (fun q op q' hq hstep => (PacketQueue.step_mtu hstep).trans hq) rfl hops
    rw [hqueue, h.mtu, hmtu]
  tidy := Run.invariant (fun q op q' hq hstep => PacketQueue.step_tidy hq hstep) h.tidy hops
  frames := (h.frames.mono fun l hl f hf => (hl f hf).mono hmessage horder).exec hframes hops
  highest := hhighest

lemma Counted.next (h : s.Counted) (hready : s'.Ready) (hc : Counts s s') : s'.Counted := by
  obtain ⟨ops, hops, hframes, -⟩ := hc.queue
  exact h.exec hready hops hframes hc.messageIndex_le hc.orderIndex_le hc.mtu
    (hc.highest h.highest)

/-- **Step lemma** for the invariant. -/
lemma Counted.step {op : Op} (h : s.Counted) (hs : s.step op = .ok s') :
    s'.Counted ∧ s'.mtu = s.mtu := by
  have hready := h.ready.step hs
  rcases counts_step h.ready hs with hc | ⟨env, msg, ops, q, -, hops, hq, rfl⟩
  · exact ⟨h.next hready hc, hc.mtu⟩
  · exact ⟨h.exec hready hq (fun clock f hf => absurd hf (hops.not_addFrame clock f)) le_rfl le_rfl
      rfl h.highest, rfl⟩

lemma Counted.turn {op : Op} (h : s.Counted) (hs : s.turn op = .ok s') : s'.Counted := by
  obtain ⟨t, hstep, ht⟩ := bind_eq_ok.mp hs
  obtain rfl := Except.ok.inj ht
  obtain ⟨hready, hmtu, htidy, hframes, hhighest⟩ := (h.step hstep).1
  exact ⟨⟨hready.sane, hready.max_lt⟩, hmtu, htidy, hframes, hhighest⟩

/-- Nothing is reported of a set that was not sent. -/
def Heeds (s : Session) : Op → Prop
  | .handle env msg => ∀ ops, Reported env msg ops →
    Run.Along PacketQueue.step PacketQueue.SentOnly s.packetQueue ops
  | _ => True

lemma Counts.sound (hc : Counts s s') (h : s.packetQueue.Sound) : s'.packetQueue.Sound := by
  obtain ⟨ops, hops, -, hown⟩ := hc.queue
  exact foldlM_induction (fun q op q' hop hq hstep =>
    PacketQueue.step_sound hq (PacketQueue.sentOnly_of_not_reports (hown op hop)) hstep) h hops

lemma Counted.flushQueue {clock : PacketQueue.Clock} {order : IterOrder ℕ} (h : s.Counted)
    (hs : s.flushQueue clock order = .ok s') : s'.Counted :=
  h.next ((passes_flushQueue hs).ready h.ready) (counts_flushQueue hs)

/-! ### Flushes -/

/-- The counters leave room for three-byte fields: the message and order indices given so far, and
the numbers that a flush may give out, fit. -/
structure Flushable (s : Session) (clock : PacketQueue.Clock) : Prop where
  messageIndex_le : s.messageIndex ≤ 2 ^ 24
  orderIndex_le : s.orderIndex ≤ 2 ^ 24
  reach_le : s.packetQueue.reach clock ≤ 2 ^ 24

section Flush

variable {clock : PacketQueue.Clock} {order : IterOrder ℕ}

/-- The frame sets that a flush hands to `FrameSet::encode` fit. -/
lemma Counted.fits (h : s.Counted) (hf : s.Flushable clock) {sets : List FrameSet}
    {q : PacketQueue} (hq : s.packetQueue.getPacket clock order = .ok (sets, q)) :
    ∀ fs ∈ sets, fs.Fits := by
  obtain ⟨hnumbers, -, hmax⟩ := (ends_iff.mp (h.tidy.getPacket clock order)).1 _ hq
  have hframes := (h.frames.getPacket (fun _ hf => absurd hf List.not_mem_nil) hq).1
  intro fs hfs
  have hlt := hnumbers fs hfs
  have hreach := hf.reach_le
  exact ⟨by omega, fun f hf' =>
    (hframes fs hfs f hf').fits hf.messageIndex_le hf.orderIndex_le⟩

/-- **A flush completes** if the counters leave room and the packet queue is sound. -/
lemma Counted.exists_flushQueue (h : s.Counted) (hsound : s.packetQueue.Sound)
    (hf : s.Flushable clock) (order : IterOrder ℕ) :
    ∃ s', s.flushQueue clock order = .ok s' ∧ s'.packetQueue.max ≤ 2 ^ 24 := by
  have hreach := hf.reach_le
  have hgets := ends_iff.mp (h.tidy.getPacket clock order)
  have hget : Ends (fun r => r.2.max ≤ 2 ^ 24) (fun _ => False)
      (s.packetQueue.getPacket clock order) := by
    refine ends_iff.mpr ⟨fun r hr => (hgets.1 r hr).2.2.trans hreach, fun e he => ?_⟩
    rcases hgets.2 e he with rfl | ⟨-, hover⟩
    · exact hsound.getPacket_ne_unwrapNone clock order he
    · omega
  refine (hget.bind fun r hr hmax => ?_).exists_ok
  have hfits := h.fits hf hr
  refine Ends.foldlM (I := fun _ (t : Session) => t.packetQueue.max ≤ 2 ^ 24) (n := 0)
    (Nat.zero_add _) (fun _ t fs _ hfs ht => ?_) hmax
  obtain ⟨bytes, hbytes⟩ := FrameSet.exists_encode_iff.mpr (hfits fs hfs)
  rw [sendSet, hbytes]
  exact ends_ok ht

end Flush

/-- What has arrived is acknowledged. -/
lemma Counted.exists_flushAck (h : s.Counted) : ∃ s', s.flushAck = .ok s' := by
  obtain ⟨hacks, hnacks⟩ := ACKQueue.clear_lt h.highest
  have hends : Ends (fun _ => True) (fun _ : Panic => False) s.flushAck := by
    refine (Ends.foldlM (I := fun _ _ => True) (n := 0) (Nat.zero_add _) (fun _ t r _ hr _ => ?_)
      trivial).bind fun t _ _ => Ends.foldlM (I := fun _ _ => True) (n := 0) (Nat.zero_add _)
        (fun _ t n _ hn _ => ?_) trivial
    · rw [sendAck, encode_ack (hacks r hr).1 (hacks r hr).2]
      exact ends_ok trivial
    · rw [sendNack, encode_nack (s := (n, n)) (hnacks n hn) (hnacks n hn)]
      exact ends_ok trivial
  obtain ⟨s', hs, -⟩ := hends.exists_ok
  exact ⟨s', hs⟩

/-! ### Calls -/

/-- A flush in the course of a call: the state in which `flush_queue` is called, and what it reads.
-/
inductive Flushes : Session → Op → Session → PacketQueue.Clock → IterOrder ℕ → Prop
  | forceFlush {s : Session} {env : Env} : Flushes s (.forceFlush env) s env.queue env.order
  | disconnect {s : Session} {env : Env} {q : PacketQueue}
      (hq : s.packetQueue.addFrame env.closing s.closingFrame = .ok q) :
      Flushes s (.disconnect env) { s with
          messageIndex := s.messageIndex + 1
          orderIndex := s.orderIndex + 1
          packetQueue := q } env.closing env.closingOrder
  | update {s : Session} {env : Env} (hs : s.disconnected = false) :
      Flushes s (.update env) s env.queue env.order
  | silence {s s₁ s₂ t : Session} {env : Env} {clock : PacketQueue.Clock} {order : IterOrder ℕ}
      (hs : s.Silent env) (hqueue : s.flushQueue env.queue env.order = .ok s₁)
      (hack : s₁.flushAck = .ok s₂) (ht : Flushes s₂ (.disconnect env) t clock order) :
      Flushes s (.update env) t clock order

/-- The counters of a session, and its size, admit one more frame. -/
structure Admits (s : Session) : Prop where
  mtu_le : 42 ≤ s.mtu.toNat
  messageIndex_lt : s.messageIndex + 1 < 2 ^ 32
  orderIndex_lt : s.orderIndex + 1 < 2 ^ 32
  max_lt : s.packetQueue.max + 1 < 2 ^ 32

/-- The counters, and the size of the session, admit the frames that a call queues. -/
def Affords (s : Session) : Op → Prop
  | .sendTo _ buff =>
    if buff.length < s.mtu.toNat - 46 then 46 ≤ s.mtu.toNat ∧ s.Admits
    else 61 < s.mtu.toNat ∧ s.Room (s.splitFrames buff).length
  | @Op.sendSystemPacket _ _ _ packet _ => (∃ body, encode packet = .ok body) ∧ s.Admits
  | .disconnect _ => s.Admits
  | .update env => s.disconnected = false →
    s.Silent env ∨ 3000 < env.ping.millisSince s.lastPing → 42 ≤ s.mtu.toNat
  | .forceFlush _ | .handle _ _ => True

/-- **The counters are spared**: the frames of the call are admitted, each flush of the call starts
with counters that fit three bytes, and nothing is reported of a set that was not sent. -/
structure Spared (s : Session) (op : Op) : Prop where
  affords : s.Affords op
  flushable : ∀ t clock order, Flushes s op t clock order → t.Flushable clock
  heeds : s.Heeds op

lemma Counted.exists_addFrame (h : s.Counted) (hs : s.Admits) (clock : PacketQueue.Clock)
    (f : Frame) : ∃ q, s.packetQueue.addFrame clock f = .ok q :=
  PacketQueue.exists_addFrame clock f (h.mtu ▸ hs.mtu_le) hs.max_lt

/-- A buffer that is afforded is sent. -/
lemma Counted.exists_sendTo (h : s.Counted) {buff : Bytes} (hs : s.Affords (.sendTo env buff)) :
    ∃ s', s.sendTo env buff = .ok s' := by
  rw [Affords] at hs
  split_ifs at hs with hlen
  · obtain ⟨hmtu, hadmits⟩ := hs
    obtain ⟨q, hq⟩ := h.exists_addFrame hadmits env.queue (s.wholeFrame buff)
    have hsend := sendWhole_eq_ok.mpr
      ⟨hadmits.messageIndex_lt, hadmits.orderIndex_lt, q, hq, rfl⟩
    exact ⟨_, sendTo_eq_ok.mpr ⟨hmtu, by rw [if_pos hlen]; exact hsend⟩⟩
  · have hsend : s.sendSplit env buff = .ok _ := sendSplit_eq_ok.mpr ⟨hs.1, hs.2, rfl⟩
    exact ⟨_, sendTo_eq_ok.mpr ⟨by omega, by rw [if_neg hlen]; exact hsend⟩⟩

/-- A system packet that is afforded is sent. -/
lemma Counted.exists_sendSystemPacket (h : s.Counted) {P : Type} [Packet P] {packet : P}
    {reliability : Reliability} (hs : s.Affords (.sendSystemPacket env P packet reliability)) :
    ∃ s', s.sendSystemPacket env packet reliability = .ok s' := by
  obtain ⟨⟨body, hbody⟩, hadmits⟩ := hs
  obtain ⟨q, hq⟩ := h.exists_addFrame hadmits env.queue (s.systemFrame reliability body)
  exact ⟨_, sendSystemPacket_eq_ok.mpr ⟨body, hbody, fun _ => hadmits.messageIndex_lt,
    fun _ => hadmits.orderIndex_lt, q, hq, rfl⟩⟩

/-- The frame of a disconnect is queued. -/
lemma Counted.closing (h : s.Counted) {q : PacketQueue}
    (hq : s.packetQueue.addFrame env.closing s.closingFrame = .ok q) : Counted { s with
      messageIndex := s.messageIndex + 1
      orderIndex := s.orderIndex + 1
      packetQueue := q } := by
  refine h.next ⟨h.ready.sane, PacketQueue.step_max_lt (.addFrame env.closing _) h.ready.max_lt hq⟩
    (.of_addFrame hq (Nat.le_succ _) (Nat.le_succ _) ⟨fun _ => ?_, fun _ => ?_, rfl⟩ rfl rfl)
  · exact Nat.lt_succ_self _
  · exact Nat.lt_succ_self _

lemma Counted.exists_disconnect (h : s.Counted) (hsound : s.packetQueue.Sound) (hs : s.Admits)
    (hflush : ∀ t clock order, Flushes s (.disconnect env) t clock order → t.Flushable clock) :
    ∃ s', s.disconnect env = .ok s' ∧ s'.packetQueue.max ≤ 2 ^ 24 ∧ s'.lastPing = s.lastPing := by
  obtain ⟨q, hq⟩ := h.exists_addFrame hs env.closing s.closingFrame
  obtain ⟨t, ht, hmax⟩ := (h.closing hq).exists_flushQueue (hsound.addFrame hq)
    (hflush _ _ _ (.disconnect hq)) env.closingOrder
  refine ⟨_, disconnect_eq_ok.mpr
    ⟨hs.messageIndex_lt, hs.orderIndex_lt, q, hq, t, ht, rfl⟩, hmax, ?_⟩
  obtain ⟨_, _, _, -, rfl⟩ := flushQueue_queue ht
  rfl

/-- An update that is afforded, with flushes that have room, completes. -/
lemma Counted.exists_update (h : s.Counted) (hsound : s.packetQueue.Sound)
    (hs : s.Affords (.update env))
    (hflush : ∀ t clock order, Flushes s (.update env) t clock order → t.Flushable clock) :
    ∃ s', s.update env = .ok s' := by
  by_cases hdisconnected : s.disconnected = true
  · exact ⟨s, by rw [update, if_pos hdisconnected]⟩
  have hopen := Bool.eq_false_of_not_eq_true hdisconnected
  have hmtu := hs hopen
  have hroom := hflush s _ _ (.update hopen)
  obtain ⟨s₁, hqueue, hmax⟩ := h.exists_flushQueue hsound hroom env.order
  have h₁ := h.flushQueue hqueue
  have hsound₁ := (counts_flushQueue hqueue).sound hsound
  obtain ⟨s₂, hack⟩ := h₁.exists_flushAck
  have h₂ : s₂.Counted := h₁.next ((passes_flushAck hack).ready h₁.ready) (counts_flushAck hack)
  have hsound₂ := (counts_flushAck hack).sound hsound₁
  have hfields : s₂.messageIndex = s.messageIndex ∧ s₂.orderIndex = s.orderIndex
      ∧ s₂.mtu = s.mtu ∧ s₂.lastPing = s.lastPing ∧ s₂.packetQueue.max ≤ 2 ^ 24 := by
    obtain ⟨_, _, _, -, rfl⟩ := flushQueue_queue hqueue
    obtain ⟨_, rfl⟩ := flushAck_queue hack
    exact ⟨rfl, rfl, rfl, rfl, hmax⟩
  obtain ⟨hmessage, horder, hmtu₂, hping₂, hmax₂⟩ := hfields
  have hmessage_le := hroom.messageIndex_le
  have horder_le := hroom.orderIndex_le
  obtain ⟨s₃, hsilence, hmax₃, hping₃, h₃⟩ : ∃ s₃, s₂.checkSilence env = .ok s₃
      ∧ s₃.packetQueue.max ≤ 2 ^ 24 ∧ s₃.lastPing = s.lastPing ∧ s₃.Counted ∧ s₃.mtu = s.mtu := by
    rw [checkSilence]
    split_ifs with hsilent
    · have hsilent' : s.Silent env := ⟨hopen, lastReceive_flushes hqueue hack ▸ hsilent⟩
      have hle := hmtu (Or.inl hsilent')
      have hadmits : s₂.Admits := ⟨hmtu₂ ▸ hle, by omega, by omega, by omega⟩
      obtain ⟨s₃, hs₃, hmax₃, hping₃⟩ := h₂.exists_disconnect hsound₂ hadmits
        fun t clock order ht => hflush t clock order (.silence hsilent' hqueue hack ht)
      have hstep : s₂.step (.disconnect env) = .ok s₃ := hs₃
      have h₃ := h₂.step hstep
      exact ⟨s₃, hs₃, hmax₃, hping₃.trans hping₂, h₃.1, h₃.2.trans hmtu₂⟩
    · exact ⟨s₂, rfl, hmax₂, hping₂, h₂, hmtu₂⟩
  obtain ⟨s₄, hs₄⟩ : ∃ s₄, s₃.checkPing env = .ok s₄ := by
    rw [checkPing]
    split_ifs with hdue
    · have hle := hmtu (Or.inr (hping₃ ▸ hdue))
      obtain ⟨body, hbody, -⟩ := encode_connectedPing (time { s₃ with lastPing := env.pinged } env)
      obtain ⟨q, hq⟩ := PacketQueue.exists_addFrame env.queue (Frame.new .unreliable body)
        (q := s₃.packetQueue) (by rw [h₃.1.mtu, h₃.2]; exact hle) (by omega)
      exact ⟨_, by rw [sendPing, hbody, ok_bind, send]; exact bind_eq_ok.mpr ⟨q, hq, rfl⟩⟩
    · exact ⟨s₃, rfl⟩
  refine ⟨s₄, ?_⟩
  rw [update, if_neg hdisconnected, hqueue, ok_bind, hack, ok_bind, hsilence, ok_bind, hs₄]

end Session

end ActixRaknet
