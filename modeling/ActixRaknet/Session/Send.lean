import ActixRaknet.Session.Receive

/-!
What the calls of a session send, as equations: the form in which a peer's view of a session is
argued about.

* `sendTo_whole`: a buffer that fits one datagram becomes one ordered frame;
  `sendSystemPacket_eq_ok`, `disconnect_eq_ok`: so do a system packet and a disconnect;
* `flushQueue_eq`, `flushAck_eq`: the datagrams of a flush are the layouts of the frame sets, and
  an ACK or NACK for each range and each gap;
* `update_eq`: an update that does not end the session is the two flushes, and perhaps a ping;
* `handle_ack`, `handle_nack`, `handle_frameSet`: what each kind of datagram does.
-/

namespace ActixRaknet

open Fallible Reader Writer

namespace Session

/-- The frame of a buffer that fits one datagram. -/
def wholeFrame (s : Session) (buff : Bytes) : Frame :=
  { Frame.new .reliableOrdered buff with
    messageIndex := s.messageIndex
    orderIndex := s.orderIndex }

lemma sendWhole_eq_ok {s s' : Session} {env : Env} {buff : Bytes} :
    s.sendWhole env buff = .ok s' ↔ s.messageIndex + 1 < 2 ^ 32 ∧ s.orderIndex + 1 < 2 ^ 32
      ∧ ∃ q, s.packetQueue.addFrame env.queue (s.wholeFrame buff) = .ok q
        ∧ s' = { s with
          messageIndex := s.messageIndex + 1
          orderIndex := s.orderIndex + 1
          packetQueue := q } := by
  simp only [sendWhole, send, bind_eq_ok, u32Add_eq_ok, pure_eq_ok, Except.ok.injEq]
  constructor
  · rintro ⟨_, ⟨hmessage, rfl⟩, _, ⟨horder, rfl⟩, q, hq, rfl⟩
    exact ⟨hmessage, horder, q, hq, rfl⟩
  · rintro ⟨hmessage, horder, q, hq, rfl⟩
    exact ⟨_, ⟨hmessage, rfl⟩, _, ⟨horder, rfl⟩, q, hq, rfl⟩

/-- The two branches of `send_to`. -/
lemma sendTo_eq_ok {s s' : Session} {env : Env} {buff : Bytes} :
    s.sendTo env buff = .ok s' ↔ 46 ≤ s.mtu.toNat
      ∧ (if buff.length < s.mtu.toNat - 46 then s.sendWhole env buff
        else s.sendSplit env buff) = .ok s' := by
  simp only [sendTo, bind_eq_ok, u16Sub_eq_ok]
  have hroom : s.mtu.toNat - 14 - 32 = s.mtu.toNat - 46 := by omega
  constructor
  · rintro ⟨_, ⟨hlo, rfl⟩, _, ⟨hhi, rfl⟩, hs⟩
    rw [hroom] at hs
    exact ⟨by omega, hs⟩
  · rintro ⟨hmtu, hs⟩
    rw [← hroom] at hs
    exact ⟨_, ⟨by omega, rfl⟩, _, ⟨by omega, rfl⟩, hs⟩

/-- A buffer that fits one datagram takes the next indices and becomes one frame. -/
lemma sendTo_whole {s s' : Session} {env : Env} {buff : Bytes}
    (hlen : buff.length < s.mtu.toNat - 46) (h : s.sendTo env buff = .ok s') :
    ∃ q, s.packetQueue.addFrame env.queue (s.wholeFrame buff) = .ok q
      ∧ s' = { s with
          messageIndex := s.messageIndex + 1
          orderIndex := s.orderIndex + 1
          packetQueue := q } := by
  have hs := (sendTo_eq_ok.mp h).2
  rw [if_pos hlen] at hs
  exact (sendWhole_eq_ok.mp hs).2.2

/-- An index is taken if the frame carries one, and is zero otherwise. -/
lemma takeIndex_eq_ok {carried : Bool} {n : ℕ} {r : ℕ × ℕ} : takeIndex carried n = .ok r
    ↔ (carried = true → n + 1 < 2 ^ 32)
      ∧ r = (if carried then n else 0, if carried then n + 1 else n) := by
  cases carried with
  | false => simp [takeIndex, eq_comm]
  | true =>
      simp only [takeIndex, if_true, bind_eq_ok, u32Add_eq_ok, pure_eq_ok, Except.ok.injEq,
        forall_true_left]
      constructor
      · rintro ⟨_, ⟨hlt, rfl⟩, rfl⟩
        exact ⟨hlt, rfl⟩
      · rintro ⟨hlt, rfl⟩
        exact ⟨_, ⟨hlt, rfl⟩, rfl⟩

/-- The frame of a system packet. -/
def systemFrame (s : Session) (reliability : Reliability) (body : Bytes) : Frame :=
  { Frame.new reliability body with
    messageIndex := if reliability.isReliable then s.messageIndex else 0
    orderIndex := if reliability.sequencedOrOrdered then s.orderIndex else 0 }

/-- A system packet takes the indices that its frame carries. -/
lemma sendSystemPacket_eq_ok {s s' : Session} {env : Env} {P : Type} [Packet P] {packet : P}
    {reliability : Reliability} : s.sendSystemPacket env packet reliability = .ok s'
      ↔ ∃ body, encode packet = .ok body
        ∧ (reliability.isReliable = true → s.messageIndex + 1 < 2 ^ 32)
        ∧ (reliability.sequencedOrOrdered = true → s.orderIndex + 1 < 2 ^ 32)
        ∧ ∃ q, s.packetQueue.addFrame env.queue (s.systemFrame reliability body) = .ok q
          ∧ s' = { s with
            messageIndex :=
              if reliability.isReliable then s.messageIndex + 1 else s.messageIndex
            orderIndex :=
              if reliability.sequencedOrOrdered then s.orderIndex + 1 else s.orderIndex
            packetQueue := q } := by
  simp only [sendSystemPacket, send, bind_eq_ok, takeIndex_eq_ok, pure_eq_ok, Except.ok.injEq]
  constructor
  · rintro ⟨body, hbody, _, ⟨hmessage, rfl⟩, _, ⟨horder, rfl⟩, q, hq, rfl⟩
    exact ⟨body, hbody, hmessage, horder, q, hq, rfl⟩
  · rintro ⟨body, hbody, hmessage, horder, q, hq, rfl⟩
    exact ⟨body, hbody, _, ⟨hmessage, rfl⟩, _, ⟨horder, rfl⟩, q, hq, rfl⟩

/-- The frame of `Session::disconnect`. -/
def closingFrame (s : Session) : Frame :=
  { Frame.new .reliableOrdered [Packet.ID Disconnected] with
    messageIndex := s.messageIndex
    orderIndex := s.orderIndex }

/-- A disconnect takes the next indices for its frame, flushes and ends the session. -/
lemma disconnect_eq_ok {s s' : Session} {env : Env} : s.disconnect env = .ok s'
    ↔ s.messageIndex + 1 < 2 ^ 32 ∧ s.orderIndex + 1 < 2 ^ 32
      ∧ ∃ q, s.packetQueue.addFrame env.closing s.closingFrame = .ok q
      ∧ ∃ t, flushQueue { s with
          messageIndex := s.messageIndex + 1
          orderIndex := s.orderIndex + 1
          packetQueue := q } env.closing env.closingOrder = .ok t
        ∧ s' = t.end := by
  have hbody : encode Disconnected.mk = .ok [Packet.ID Disconnected] := encode_eq writes_pure
  simp only [disconnect, hbody, ok_bind, send, bind_eq_ok, u32Add_eq_ok, pure_eq_ok,
    Except.ok.injEq]
  constructor
  · rintro ⟨_, ⟨hmessage, rfl⟩, _, ⟨horder, rfl⟩, _, ⟨q, hq, rfl⟩, t, ht, rfl⟩
    exact ⟨hmessage, horder, q, hq, t, ht, rfl⟩
  · rintro ⟨hmessage, horder, q, hq, t, ht, rfl⟩
    exact ⟨_, ⟨hmessage, rfl⟩, _, ⟨horder, rfl⟩, _, ⟨q, hq, rfl⟩, t, ht, rfl⟩

/-! ### Flushes -/

/-- A loop that only sends. -/
lemma foldlM_sendUdp {α : Type} {f : Session → α → Except Panic Session} {l : List α}
    (hf : ∀ t a t', f t a = .ok t' → ∃ bytes, t' = t.sendUdp bytes) {s s' : Session}
    (hs : l.foldlM f s = .ok s') : ∃ sent, s' = { s with udp := s.udp ++ sent } := by
  refine foldlM_induction (P := fun t : Session => ∃ sent, t = { s with udp := s.udp ++ sent })
    (fun t a t' _ ht hstep => ?_) ⟨[], by rw [List.append_nil]⟩ hs
  obtain ⟨sent, rfl⟩ := ht
  obtain ⟨bytes, rfl⟩ := hf _ a t' hstep
  exact ⟨sent ++ [⟨bytes, s.addr⟩], by rw [sendUdp, List.append_assoc]⟩

/-- What is encoded is sent. -/
lemma sendUdp_of_bind {s s' : Session} {x : Except Panic Bytes}
    (hs : (do let bytes ← x; return s.sendUdp bytes : Except Panic Session) = .ok s') :
    ∃ bytes, s' = s.sendUdp bytes := by
  obtain ⟨bytes, -, hs⟩ := bind_eq_ok.mp hs
  exact ⟨bytes, (Except.ok.inj hs).symm⟩

/-- A flush changes the queue as `get_packet` does, and sends. -/
lemma flushQueue_queue {s s' : Session} {clock : PacketQueue.Clock} {order : IterOrder ℕ}
    (h : s.flushQueue clock order = .ok s') :
    ∃ sets q sent, s.packetQueue.getPacket clock order = .ok (sets, q)
      ∧ s' = { s with packetQueue := q, udp := s.udp ++ sent } := by
  obtain ⟨⟨sets, q⟩, hget, hsets⟩ := bind_eq_ok.mp h
  obtain ⟨sent, rfl⟩ := foldlM_sendUdp (f := sendSet) (fun _ _ _ => sendUdp_of_bind) hsets
  exact ⟨sets, q, sent, hget, rfl⟩

/-- A flush of the acknowledgements clears the ACK queue, and sends. -/
lemma flushAck_queue {s s' : Session} (h : s.flushAck = .ok s') :
    ∃ sent, s' = { s with ackQueue := s.ackQueue.clear.2, udp := s.udp ++ sent } := by
  obtain ⟨s₁, hacks, hnacks⟩ := bind_eq_ok.mp h
  obtain ⟨sent, rfl⟩ := foldlM_sendUdp (f := sendAck) (fun _ _ _ => sendUdp_of_bind) hacks
  obtain ⟨sent', rfl⟩ := foldlM_sendUdp (f := sendNack) (fun _ _ _ => sendUdp_of_bind) hnacks
  refine ⟨sent ++ sent', ?_⟩
  rw [← List.append_assoc]
  rfl

/-- The datagrams to the peer of a session. -/
def packets (s : Session) (bodies : List Bytes) : List UdpPacket :=
  bodies.map fun bytes => ⟨bytes, s.addr⟩

/-- A loop that sends the bytes `layout a` for each item. -/
lemma foldlM_sends {α : Type} {f : Session → α → Except Panic Session} (layout : α → Bytes)
    {l : List α} (h : ∀ s, ∀ a ∈ l, ∀ s', f s a = .ok s' → s' = s.sendUdp (layout a))
    {s s' : Session} (hs : l.foldlM f s = .ok s') :
    s' = { s with udp := s.udp ++ s.packets (l.map layout) } := by
  induction l generalizing s with
  | nil =>
      obtain rfl := Except.ok.inj hs
      simp [packets]
  | cons a l ih =>
      obtain ⟨s₁, hstep, hrest⟩ := foldlM_cons_eq_ok.mp hs
      obtain rfl := h s a List.mem_cons_self s₁ hstep
      rw [ih (fun s b hb => h s b (List.mem_cons_of_mem _ hb)) hrest]
      simp [packets, sendUdp]

/-- A set that was sent has been encoded as its layout. -/
lemma sendSet_eq {s s' : Session} {fs : FrameSet} (hframes : ∀ f ∈ fs.datas, f.Encodable)
    (h : s.sendSet fs = .ok s') : s' = s.sendUdp fs.layout := by
  obtain ⟨bytes, hencode, hs'⟩ := bind_eq_ok.mp h
  rw [FrameSet.encode_eq_layout ⟨FrameSet.lt_of_encode hencode, hframes⟩] at hencode
  obtain rfl := Except.ok.inj hencode
  exact (Except.ok.inj hs').symm

lemma sendAck_eq {s s' : Session} {r : ℕ × ℕ} (h₁ : r.1 < 2 ^ 24) (h₂ : r.2 < 2 ^ 24)
    (h : s.sendAck r = .ok s') : s' = s.sendUdp (Ack.datagram r) := by
  rw [sendAck, encode_ack h₁ h₂] at h
  exact (Except.ok.inj h).symm

lemma sendNack_eq {s s' : Session} {n : ℕ} (hn : n < 2 ^ 24) (h : s.sendNack n = .ok s') :
    s' = s.sendUdp (Nack.datagram (n, n)) := by
  rw [sendNack, encode_nack (s := (n, n)) hn hn] at h
  exact (Except.ok.inj h).symm

/-- The datagrams of a flush of the packet queue are the layouts of its sets. -/
lemma flushQueue_eq {s s' : Session} {clock : PacketQueue.Clock} {order : IterOrder ℕ}
    (h : s.flushQueue clock order = .ok s') :
    ∃ sets q, s.packetQueue.getPacket clock order = .ok (sets, q)
      ∧ ((∀ fs ∈ sets, ∀ f ∈ fs.datas, f.Encodable) → s' = { s with
          packetQueue := q
          udp := s.udp ++ s.packets (sets.map FrameSet.layout) }) := by
  obtain ⟨⟨sets, q⟩, hget, hsets⟩ := bind_eq_ok.mp h
  exact ⟨sets, q, hget, fun hframes =>
    foldlM_sends FrameSet.layout (fun s fs hfs s' => sendSet_eq (hframes fs hfs)) hsets⟩

/-- The datagrams of a flush of the acknowledgements. -/
def feedback (report : Report) : List Bytes :=
  report.1.map Ack.datagram ++ report.2.map fun n => Nack.datagram (n, n)

lemma flushAck_eq {s s' : Session} (h : s.flushAck = .ok s')
    (hacks : ∀ r ∈ s.ackQueue.clear.1.1, r.1 < 2 ^ 24 ∧ r.2 < 2 ^ 24)
    (hnacks : ∀ n ∈ s.ackQueue.clear.1.2, n < 2 ^ 24) :
    s' = { s with
      ackQueue := s.ackQueue.clear.2
      udp := s.udp ++ s.packets (feedback s.ackQueue.clear.1) } := by
  rw [flushAck] at h
  generalize s.ackQueue.clear = cleared at h hacks hnacks ⊢
  obtain ⟨⟨acks, nacks⟩, ackQueue⟩ := cleared
  obtain ⟨s₁, h₁, h₂⟩ := bind_eq_ok.mp h
  have hacked := foldlM_sends Ack.datagram
    (fun s r hr s' => sendAck_eq (hacks r hr).1 (hacks r hr).2) h₁
  have hnacked := foldlM_sends (fun n => Nack.datagram (n, n))
    (fun s n hn s' => sendNack_eq (hnacks n hn)) h₂
  rw [hnacked, hacked]
  simp only [packets, feedback, List.map_append, List.append_assoc]

/-! ### Updates -/

lemma encode_connectedPing (time : Int64) :
    ∃ body, encode (ConnectedPing.new time) = .ok body ∧ body.length = 9 :=
  ⟨_, encode_eq (writes_writeI64 time .big), by simp⟩

/-- **An update** of a session that is open: two flushes, a disconnect if the peer has been silent
for too long, and perhaps a ping. -/
lemma update_cases {s s' : Session} {env : Env} (h : s.update env = .ok s') :
    (s.disconnected = true ∧ s' = s)
      ∨ (s.disconnected = false ∧ ∃ s₁ s₂ s₃, s.flushQueue env.queue env.order = .ok s₁
        ∧ s₁.flushAck = .ok s₂
        ∧ ((10 < env.silence.secsSince s₂.lastReceive ∧ s₂.disconnect env = .ok s₃)
          ∨ (¬10 < env.silence.secsSince s₂.lastReceive ∧ s₃ = s₂))
        ∧ s₃.checkPing env = .ok s') := by
  rw [update] at h
  split_ifs at h with hdisconnected
  · exact Or.inl ⟨hdisconnected, (Except.ok.inj h).symm⟩
  · simp only [bind_eq_ok] at h
    obtain ⟨s₁, hqueue, s₂, hack, s₃, hsilence, hping⟩ := h
    refine Or.inr ⟨eq_false_of_ne_true hdisconnected, s₁, s₂, s₃, hqueue, hack, ?_, hping⟩
    rw [checkSilence] at hsilence
    split_ifs at hsilence with hlong
    · exact Or.inl ⟨hlong, hsilence⟩
    · exact Or.inr ⟨hlong, (Except.ok.inj hsilence).symm⟩

lemma checkPing_eq {s s' : Session} {env : Env} (h : s.checkPing env = .ok s') :
    s' = s ∨ ∃ body q, body.length = 9
      ∧ s.packetQueue.addFrame env.queue (Frame.new .unreliable body) = .ok q
      ∧ s' = { s with lastPing := env.pinged, packetQueue := q } := by
  rw [checkPing] at h
  split_ifs at h
  · obtain ⟨body, hbody, hlen⟩ := encode_connectedPing (time { s with lastPing := env.pinged } env)
    rw [sendPing, hbody, ok_bind] at h
    simp only [send, bind_eq_ok, pure_eq_ok, Except.ok.injEq] at h
    obtain ⟨q, hq, rfl⟩ := h
    exact Or.inr ⟨body, q, hlen, hq, rfl⟩
  · exact Or.inl (Except.ok.inj h).symm

/-- **An update** that does not end the session: the queue is flushed, the arrivals are
acknowledged, and perhaps a ping is queued. -/
lemma update_eq {s s' : Session} {env : Env} (hs : s.disconnected = false)
    (h : s.update env = .ok s') (hs' : s'.disconnected = false) :
    ∃ s₁ s₂, s.flushQueue env.queue env.order = .ok s₁ ∧ s₁.flushAck = .ok s₂
      ∧ (s' = s₂ ∨ ∃ body q, body.length = 9
          ∧ s₂.packetQueue.addFrame env.queue (Frame.new .unreliable body) = .ok q
          ∧ s' = { s₂ with lastPing := env.pinged, packetQueue := q }) := by
  rcases update_cases h with ⟨hdisconnected, -⟩ | ⟨-, s₁, s₂, s₃, hflush, hack, hsilence, hping⟩
  · cases hs.symm.trans hdisconnected
  have hs₃ : s₃.disconnected = false := by
    rcases checkPing_eq hping with rfl | ⟨_, _, -, -, rfl⟩
    · exact hs'
    · exact hs'
  rcases hsilence with ⟨-, hdisconnect⟩ | ⟨-, rfl⟩
  · obtain ⟨-, -, _, -, _, -, rfl⟩ := disconnect_eq_ok.mp hdisconnect
    cases hs₃
  · exact ⟨s₁, s₃, hflush, hack, checkPing_eq hping⟩

/-! ### Datagrams -/

/-- An ACK takes the numbers of its range out of the queue. -/
lemma handle_ack {s : Session} {env : Env} {msg : UdpPacket} {r : ℕ × ℕ}
    (hmsg : msg.bytes = Ack.datagram r) (h₁ : r.1 < 2 ^ 24) (h₂ : r.2 < 2 ^ 24) :
    s.handle env msg = .ok { s with
      packetQueue := (Ranges.numbers r).foldl PacketQueue.received s.packetQueue } := by
  have hflag : (0xc0 : UInt8) &&& ACK_FLAG ≠ 0 := by decide
  rw [handle, hmsg]
  simp only [Ack.datagram, index_cons_zero, ok_bind, if_pos hflag]
  rw [handleAck, unwrapOrReturn, ← Ack.datagram, decode_ack h₁ h₂]
  simp only [Ack.getAll_new h₂, ok_bind, pure_eq_ok]

/-- A NACK has its set sent again. -/
lemma handle_nack {s s' : Session} {env : Env} {msg : UdpPacket} {n : ℕ}
    (hmsg : msg.bytes = Nack.datagram (n, n)) (hn : n < 2 ^ 24) (h : s.handle env msg = .ok s') :
    ∃ q, s.packetQueue.resend env.queue n = .ok q ∧ s' = { s with packetQueue := q } := by
  have hack : ¬ (0xa0 : UInt8) &&& ACK_FLAG ≠ 0 := by decide
  have hnack : (0xa0 : UInt8) &&& NACK_FLAG ≠ 0 := by decide
  have hnumbers : Ranges.numbers (n, n) = [n] := by
    rw [Ranges.numbers, Nat.add_sub_cancel_left]
    rfl
  rw [handle, hmsg] at h
  simp only [Nack.datagram, index_cons_zero, ok_bind, if_neg hack, if_pos hnack] at h
  rw [handleNack, unwrapOrReturn, ← Nack.datagram, decode_nack (s := (n, n)) hn hn] at h
  simp only [Nack.getAll_new (s := (n, n)) hn, ok_bind, hnumbers, List.foldlM_cons,
    List.foldlM_nil, bind_eq_ok, pure_eq_ok, Except.ok.injEq] at h
  obtain ⟨q, ⟨_, hq, rfl⟩, rfl⟩ := h
  exact ⟨_, hq, rfl⟩

/-- A frame set off the wire is taken apart: its number is noted, its frames are received. -/
lemma handle_frameSet {s s' : Session} {env : Env} {msg : UdpPacket} {fs : FrameSet}
    (hmsg : msg.bytes = fs.layout) (hheader : fs.header = PacketQueue.setHeader false)
    (hfs : fs.Encodable) (h : s.handle env msg = .ok s') :
    ∃ ackQueue, s.ackQueue.add fs.sequenceNumber = .ok ackQueue
      ∧ (fs.datas.map Frame.carried).foldlM (receivePacket env) { s with ackQueue := ackQueue }
        = .ok s' := by
  have hrouted : Routed msg.bytes := by
    rw [hmsg, FrameSet.layout, hheader]
    exact ⟨by decide, by decide, by decide⟩
  rw [handle_of_routed hrouted, handleDatagram, hmsg, FrameSet.decode_layout hfs] at h
  exact bind_eq_ok.mp h

end Session

end ActixRaknet
