import ActixRaknet.Queue.Keeping
import ActixRaknet.Session.Asides

/-!
The headers of the datagrams of a session.

* `Session.Header`: the four first bytes that a datagram of a session can have, and
  `Header.flagged`: each of them has the flag of a datagram;
* `Session.Headings`: the sets of the queue have such headers, and so has every datagram sent;
* `Headings.step`, `Headings.exec`: every call keeps this, whatever datagrams it is given.
-/

namespace ActixRaknet

open Fallible

namespace Session

/-- The first byte of a frame set, of an ACK or of a NACK. -/
inductive Header : UInt8 → Prop
  | frameSet (header : UInt8) (h : PacketQueue.IsHeader header) : Header header
  | ack : Header (Packet.ID Ack)
  | nack : Header (Packet.ID Nack)

/-- All of them carry the flag of a datagram. -/
lemma Header.flagged {header : UInt8} (h : Header header) : header &&& DATAGRAM_FLAG ≠ 0 := by
  cases h with
  | frameSet header h =>
      obtain ⟨split, rfl⟩ := h
      cases split <;> decide
  | ack => decide
  | nack => decide

/-- The bytes begin with a header of the protocol of sessions. -/
def Headed (bytes : Bytes) : Prop := ∃ header, bytes.head? = some header ∧ Header header

/-- The sets in the queue and the datagrams sent have headers of the protocol. -/
structure Headings (s : Session) : Prop where
  ready : s.Ready
  queue : s.packetQueue.Headed
  sent : ∀ p ∈ s.udp, Headed p.bytes

lemma headings_new (addr : SocketAddr) (mtu : UInt16) (lastPing lastReceive : Instant) :
    Headings (new addr mtu lastPing lastReceive) :=
  ⟨ready_new addr mtu lastPing lastReceive, PacketQueue.headed_new _,
    fun _ hp => absurd hp List.not_mem_nil⟩

/-- A run of the queue keeps its headers. -/
lemma headed_exec {q q' : PacketQueue} (h : q.Headed) {ops : List PacketQueue.Op}
    (hq : Run.exec PacketQueue.step q ops = .ok q') : q'.Headed := by
  refine Run.invariant (P := PacketQueue.Headed) (fun t op t' ht hstep => ?_) h hq
  cases op with
  | addFrame clock frame => exact ht.addFrame hstep
  | received n => exact Except.ok.inj hstep ▸ ht.received n
  | resend clock n => exact ht.resend hstep
  | getPacket clock order =>
      obtain ⟨r, hget, rfl⟩ := map_eq_ok.mp hstep
      exact (ht.getPacket hget).2

variable {s s' : Session} {env : Env}

/-- A call that sends nothing. -/
lemma Headings.of_passes (h : s.Headings) {frames : List Frame} (hs : Passes s s' frames)
    (hudp : s'.udp = s.udp) : s'.Headings := by
  obtain ⟨ops, hops⟩ := hs.queue
  exact ⟨hs.ready h.ready, headed_exec h.queue hops, hudp ▸ h.sent⟩

/-- A datagram with such a header is sent. -/
lemma Headings.sendUdp (h : s.Headings) {bytes : Bytes} (hbytes : Headed bytes) :
    (s.sendUdp bytes).Headings := by
  refine ⟨⟨h.ready.sane, h.ready.max_lt⟩, h.queue, fun p hp => ?_⟩
  rcases List.mem_append.mp hp with hp | hp
  · exact h.sent p hp
  · rw [List.mem_singleton.mp hp]
    exact hbytes

/-- **A flush of the queue**: `get_packet` returns sets with the headers of `add_frame`. -/
lemma Headings.flushQueue (h : s.Headings) {clock : PacketQueue.Clock} {order : IterOrder ℕ}
    (hs : s.flushQueue clock order = .ok s') : s'.Headings := by
  have hready := (passes_flushQueue hs).ready h.ready
  obtain ⟨⟨sets, q⟩, hq, hsets⟩ := bind_eq_ok.mp hs
  obtain ⟨hheaders, hqueue⟩ := h.queue.getPacket hq
  have hloop := foldlM_induction (P := fun t : Session => t.packetQueue = q
      ∧ ∀ p ∈ t.udp, Headed p.bytes) (fun t fs t' hfs ht hstep => ?_)
    (s := { s with packetQueue := q }) ⟨rfl, h.sent⟩ hsets
  · exact ⟨hready, hloop.1 ▸ hqueue, hloop.2⟩
  · obtain ⟨bytes, hbytes, hstep⟩ := bind_eq_ok.mp hstep
    obtain rfl := Except.ok.inj hstep
    refine ⟨ht.1, fun p hp => ?_⟩
    rcases List.mem_append.mp hp with hp | hp
    · exact ht.2 p hp
    · rw [List.mem_singleton.mp hp]
      exact ⟨fs.header, FrameSet.head_of_encode hbytes, .frameSet _ (hheaders fs hfs)⟩

/-- A record is sent under the id of its packet. -/
lemma Headings.sendRecord (h : s.Headings) {P : Type} [Packet P] {p : P} {r : ℕ × ℕ}
    (hwrite : Packet.write p = (SequenceRecord.new r).write) (hid : Header (Packet.ID P))
    (hs : (do let bytes ← encode p; return s.sendUdp bytes : Except Panic Session) = .ok s') :
    s'.Headings := by
  obtain ⟨bytes, hbytes, hs⟩ := bind_eq_ok.mp hs
  obtain rfl := Except.ok.inj hs
  obtain ⟨hfirst, hsecond⟩ := lt_of_encode_record hwrite hbytes
  have happends : Appends (Packet.write p) :=
    hwrite ▸ (SequenceRecord.writes_new hfirst hsecond).appends
  exact h.sendUdp ⟨_, head_of_encode happends hbytes, hid⟩

lemma Headings.flushAck (h : s.Headings) (hs : s.flushAck = .ok s') : s'.Headings := by
  obtain ⟨s₁, hacks, hnacks⟩ := bind_eq_ok.mp hs
  have hcleared : Headings { s with ackQueue := s.ackQueue.clear.2 } :=
    ⟨⟨h.ready.sane, h.ready.max_lt⟩, h.queue, h.sent⟩
  have h₁ : s₁.Headings :=
    foldlM_induction (fun t r t' _ ht hstep => ht.sendRecord (p := Ack.new r) rfl .ack hstep)
      hcleared hacks
  exact foldlM_induction
    (fun t n t' _ ht hstep => ht.sendRecord (p := Nack.new (n, n)) rfl .nack hstep) h₁ hnacks

lemma Headings.disconnect (h : s.Headings) (hs : s.disconnect env = .ok s') : s'.Headings := by
  obtain ⟨-, -, q, hq, t, ht, rfl⟩ := disconnect_eq_ok.mp hs
  have hqueued : Headings { s with
      messageIndex := s.messageIndex + 1
      orderIndex := s.orderIndex + 1
      packetQueue := q } :=
    ⟨⟨h.ready.sane, PacketQueue.step_max_lt (.addFrame env.closing _) h.ready.max_lt hq⟩,
      h.queue.addFrame hq, h.sent⟩
  have hflushed := hqueued.flushQueue ht
  exact ⟨⟨hflushed.ready.sane, hflushed.ready.max_lt⟩, hflushed.queue, hflushed.sent⟩

lemma Headings.update (h : s.Headings) (hs : s.update env = .ok s') : s'.Headings := by
  rcases update_cases hs with ⟨-, rfl⟩ | ⟨-, s₁, s₂, s₃, hqueue, hack, hsilence, hping⟩
  · exact h
  · have h₂ := (h.flushQueue hqueue).flushAck hack
    have h₃ : s₃.Headings := by
      rcases hsilence with ⟨-, hdisconnect⟩ | ⟨-, rfl⟩
      · exact h₂.disconnect hdisconnect
      · exact h₂
    rcases checkPing_eq hping with rfl | ⟨body, q, -, hq, rfl⟩
    · exact h₃
    · exact ⟨⟨h₃.ready.sane, PacketQueue.step_max_lt (.addFrame _ _) h₃.ready.max_lt hq⟩,
        h₃.queue.addFrame hq, h₃.sent⟩

/-- A datagram that is handled makes a run of the packet queue. -/
lemma exec_handle (hready : s.Ready) {msg : UdpPacket} (hs : s.handle env msg = .ok s') :
    ∃ ops, Run.exec PacketQueue.step s.packetQueue ops = .ok s'.packetQueue := by
  by_cases hrouted : Routed msg.bytes
  · rw [handle_of_routed hrouted] at hs
    cases hdecode : FrameSet.decode msg.bytes with
    | error e =>
        rw [handleDatagram, hdecode] at hs
        exact Except.ok.inj hs ▸ ⟨[], rfl⟩
    | ok frameSet =>
        obtain ⟨ackQueue, l, q, -, -, -, heq⟩ := hready.handleDatagram_eq env hdecode
        obtain ⟨t, hfold, rfl⟩ := map_eq_ok.mp (heq.symm.trans hs)
        obtain ⟨_, -, hpasses⟩ := passes_handlePackets hfold
        exact hpasses.queue
  · rcases handle_of_not_routed hrouted hs with hack | hnack | rfl
    · exact (passes_handleAck hack).queue
    · exact (passes_handleNack hnack).queue
    · exact ⟨[], rfl⟩

/-- **A datagram**, whatever it is, is handled without sending one. -/
lemma Headings.handle (h : s.Headings) {msg : UdpPacket} (hs : s.handle env msg = .ok s') :
    s'.Headings := by
  have hstep : s.step (.handle env msg) = .ok s' := hs
  obtain ⟨ops, hops⟩ := exec_handle h.ready hs
  refine ⟨h.ready.step hstep, headed_exec h.queue hops, ?_⟩
  rw [sent_handle h.ready hs]
  exact h.sent

/-- **Step lemma**: every call keeps the headers. -/
lemma Headings.step (h : s.Headings) {op : Op} (hs : s.step op = .ok s') : s'.Headings := by
  cases op with
  | update env => exact h.update hs
  | forceFlush env => exact h.flushQueue hs
  | handle env msg => exact h.handle hs
  | disconnect env => exact h.disconnect hs
  | sendSystemPacket env P packet reliability =>
      refine h.of_passes (passes_sendSystemPacket hs) ?_
      obtain ⟨body, -, -, -, q, -, rfl⟩ := sendSystemPacket_eq_ok.mp hs
      rfl
  | sendTo env buff =>
      refine h.of_passes (passes_sendTo hs) ?_
      obtain ⟨-, hs⟩ := sendTo_eq_ok.mp hs
      split_ifs at hs
      · obtain ⟨-, -, q, -, rfl⟩ := sendWhole_eq_ok.mp hs
        rfl
      · obtain ⟨-, -, rfl⟩ := sendSplit_eq_ok.mp hs
        rfl

lemma Headings.turn (h : s.Headings) {op : Op} (hs : s.turn op = .ok s') : s'.Headings := by
  obtain ⟨t, ht, hs⟩ := bind_eq_ok.mp hs
  obtain rfl := Except.ok.inj hs
  have hstep := h.step ht
  exact ⟨⟨hstep.ready.sane, hstep.ready.max_lt⟩, hstep.queue, hstep.sent⟩

/-- **Run lemma**: so do any calls, with the owner taking what is posted. -/
lemma Headings.exec (h : s.Headings) {ops : List Op} (hs : Run.exec Session.turn s ops = .ok s') :
    s'.Headings :=
  Run.invariant (P := Headings) (fun _ _ _ ht hturn => ht.turn hturn) h hs

end Session

end ActixRaknet
