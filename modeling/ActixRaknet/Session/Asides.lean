import ActixRaknet.Session.Messages

/-!
What a session sends outside the order of its messages.

* `Frame.Slight`: a frame without an order index carries at most 17 bytes, or a connection request;
* `Session.Discreet`: the call sends nothing else outside the order; `Session.Quiet`: it sends no
  packet of the actor at all;
* `Bears.step_slight`, `Bears.exec_slight`: discreet calls keep all frames in the queue and on the
  wire slight;
* `sent_exec`: what has been sent stays sent.
-/

namespace ActixRaknet

open Fallible

/-- The bytes are few enough for a ping or a pong, or those of a connection request. -/
def Aside (body : Bytes) : Prop :=
  body.length ≤ 17 ∨ body.head? = some (Packet.ID ConnectionRequest)

/-- The frame can be sent, and without an order index it carries an aside. -/
structure Frame.Slight (f : Frame) : Prop where
  carried : f.carried = f
  data_le : f.data.length ≤ 8191
  aside : f.reliability.sequencedOrOrdered = false → Aside f.data

lemma Frame.slight_of_ordered {f : Frame} (hcarried : f.carried = f) (hdata : f.data.length ≤ 8191)
    (h : f.reliability.sequencedOrOrdered = true) : f.Slight := by
  refine ⟨hcarried, hdata, fun hnot => ?_⟩
  rw [h] at hnot
  cases hnot

/-- A frame that carries no aside has an order index. -/
lemma Frame.Slight.ordered {f : Frame} (h : f.Slight) (hlength : 17 < f.data.length)
    (hid : f.data.head? ≠ some (Packet.ID ConnectionRequest)) :
    f.reliability.sequencedOrOrdered = true := by
  by_contra hnot
  rcases h.aside (eq_false_of_ne_true hnot) with hle | hid'
  · omega
  · exact hid hid'

namespace Session

/-- A system packet that is sent outside the order is an aside. -/
def Discreet : Op → Prop
  | @Op.sendSystemPacket _ _ _ packet reliability => reliability.sequencedOrOrdered = false →
    ∀ body, encode packet = .ok body → Aside body
  | _ => True

/-- The call is not one of the actor to send a packet of its own. -/
def Quiet : Op → Prop
  | @Op.sendSystemPacket _ _ _ _ _ => False
  | _ => True

lemma Quiet.discreet {op : Op} (h : Quiet op) : Discreet op := by
  cases op with
  | sendSystemPacket env P packet reliability => exact h.elim
  | _ => trivial

/-- What a quiet call says is said by the user, or is the farewell. -/
lemma Quiet.messages {s : Session} {op : Op} (h : Quiet op) {m : Message} (hm : m ∈ s.messages op) :
    m = .farewell ∨ ∃ env buff, op = .sendTo env buff ∧ m = ⟨true, buff, s.carrierOf buff⟩ := by
  cases op with
  | update env =>
      rw [Session.messages] at hm
      split_ifs at hm
      · exact Or.inl (List.mem_singleton.mp hm)
      · cases hm
  | disconnect env => exact Or.inl (List.mem_singleton.mp hm)
  | sendSystemPacket env P packet reliability => exact h.elim
  | sendTo env buff => exact Or.inr ⟨env, buff, rfl, List.mem_singleton.mp hm⟩
  | _ => cases hm

section Slight

variable {mtu : UInt16} {said : List Message} {s s' : Session} {env : Env}

lemma slight_wire {f : Frame} (h : f.Slight) : f.carried = f ∧ f.data.length ≤ 8191 :=
  ⟨h.carried, h.data_le⟩

lemma slight_pong (body : Bytes) (h : body.length ≤ 17) : (Frame.new .unreliable body).Slight :=
  ⟨rfl, h.trans (by decide), fun _ => Or.inl h⟩

lemma Bears.disconnect_slight (h : s.Bears Frame.Slight) (hs : s.disconnect env = .ok s') :
    s'.Bears Frame.Slight := by
  obtain ⟨-, -, q, hq, t, hflush, rfl⟩ := disconnect_eq_ok.mp hs
  have hclosing : s.closingFrame.Slight :=
    Frame.slight_of_ordered rfl (show [Packet.ID Disconnected].length ≤ 8191 by decide) rfl
  have hadded : Bears Frame.Slight { s with
      messageIndex := s.messageIndex + 1, orderIndex := s.orderIndex + 1, packetQueue := q } :=
    ⟨h.addFrame hclosing hq, h.sent⟩
  exact (hadded.flushQueue (fun _ => slight_wire) hflush).toBears.relabel rfl rfl

lemma Bears.update_slight (h : s.Bears Frame.Slight) (hs : s.update env = .ok s') :
    s'.Bears Frame.Slight := by
  rcases update_cases hs with ⟨-, rfl⟩ | ⟨-, s₁, s₂, s₃, hqueue, hack, hsilence, hping⟩
  · exact h
  · have h₂ := (h.flushQueue (fun _ => slight_wire) hqueue).toBears.flushAck hack
    have h₃ : s₃.Bears Frame.Slight := by
      rcases hsilence with ⟨-, hdisconnect⟩ | ⟨-, rfl⟩
      · exact h₂.toBears.disconnect_slight hdisconnect
      · exact h₂.toBears
    exact (h₃.checkPing slight_pong hping).toBears

lemma Bears.sendSystemPacket_slight (h : s.Bears Frame.Slight) {P : Type} [Packet P] {packet : P}
    {reliability : Reliability} (hshort : Short (.sendSystemPacket env P packet reliability))
    (hdiscreet : Discreet (.sendSystemPacket env P packet reliability))
    (hs : s.sendSystemPacket env packet reliability = .ok s') : s'.Bears Frame.Slight := by
  obtain ⟨body, hbody, -, -, q, hq, rfl⟩ := sendSystemPacket_eq_ok.mp hs
  have hframe : (s.systemFrame reliability body).Slight :=
    ⟨s.carried_systemFrame reliability body, (hshort body hbody).trans (by decide),
      fun hordered => hdiscreet hordered body hbody⟩
  exact ⟨h.addFrame hframe hq, h.sent⟩

lemma Bears.sendTo_slight (h : s.Bears Frame.Slight) (hspeaks : s.Speaks mtu said) {buff : Bytes}
    (hs : s.sendTo env buff = .ok s') : s'.Bears Frame.Slight := by
  have hmtu_le : s.mtu.toNat ≤ 8191 := hspeaks.mtu_eq ▸ hspeaks.mtu_le
  by_cases hlen : buff.length < s.mtu.toNat - 46
  · obtain ⟨q, hq, rfl⟩ := sendTo_whole hlen hs
    have hdata : buff.length ≤ 8191 := by omega
    exact ⟨h.addFrame (Frame.slight_of_ordered rfl hdata rfl) hq, h.sent⟩
  · have hsplit := (sendTo_eq_ok.mp hs).2
    rw [if_neg hlen] at hsplit
    obtain ⟨hmtu, -, rfl⟩ := sendSplit_eq_ok.mp hsplit
    refine ⟨h.queue.allocated env.queue (s.splitFrames buff) fun f hf g hg => ?_, h.sent⟩
    rw [List.mem_singleton.mp hg]
    have htells := hspeaks.tells_fragment hmtu hf hlen
    obtain ⟨i, -, rfl⟩ := List.mem_map.mp hf
    exact Frame.slight_of_ordered htells.carried htells.data_le rfl

/-- **Step lemma**: a discreet call keeps the frames slight. -/
lemma Bears.step_slight (h : s.Bears Frame.Slight) (hspeaks : s.Speaks mtu said) (hready : s.Ready)
    {op : Op} (hshort : Short op) (hdiscreet : Discreet op) (hs : s.step op = .ok s') :
    s'.Bears Frame.Slight := by
  cases op with
  | update env => exact h.update_slight hs
  | forceFlush env => exact (h.flushQueue (fun _ => slight_wire) hs).toBears
  | handle env msg => exact (h.handle slight_pong hready hs).toBears
  | disconnect env => exact h.disconnect_slight hs
  | sendSystemPacket env P packet reliability => exact h.sendSystemPacket_slight hshort hdiscreet hs
  | sendTo env buff => exact h.sendTo_slight hspeaks hs

/-- **Run lemma**: so do the calls that an actor makes. -/
lemma Bears.exec_slight (h : s.Bears Frame.Slight) (hspeaks : s.Speaks mtu said) (hready : s.Ready)
    {ops : List Op} (hshort : ∀ op ∈ ops, Short op) (hdiscreet : ∀ op ∈ ops, Discreet op)
    (hs : Run.exec turn s ops = .ok s') : s'.Bears Frame.Slight := by
  induction ops generalizing said s with
  | nil => exact Except.ok.inj hs ▸ h
  | cons op ops ih =>
      obtain ⟨t, hturn, hrest⟩ := Run.exec_cons.mp hs
      obtain ⟨u, hstep, ht⟩ := bind_eq_ok.mp hturn
      obtain rfl := Except.ok.inj ht
      obtain ⟨hop, hops⟩ := List.forall_mem_cons.mp hshort
      obtain ⟨hop', hops'⟩ := List.forall_mem_cons.mp hdiscreet
      have hready' := hready.step hstep
      have hspeaks' := hspeaks.step hready hop hstep
      have hslight : Bears Frame.Slight { u with parent := [] } :=
        (h.step_slight hspeaks hready hop hop' hstep).relabel rfl rfl
      have hnext : Speaks mtu (said ++ s.messages op) { u with parent := [] } :=
        hspeaks'.of_bearing ⟨hspeaks'.bears.relabel rfl rfl, rfl, rfl, rfl⟩
      exact ih hslight hnext ⟨hready'.sane, hready'.max_lt⟩ hops hops' hrest

end Slight

section Sent

variable {s s' : Session} {env : Env}

lemma sent_disconnect (h : s.disconnect env = .ok s') : s.udp <+: s'.udp := by
  obtain ⟨-, -, q, -, t, hflush, rfl⟩ := disconnect_eq_ok.mp h
  obtain ⟨_, _, sent, -, rfl⟩ := flushQueue_queue hflush
  exact ⟨sent, rfl⟩

lemma sent_handlePacket {f : Frame} (h : handlePacket env s f = .ok s') : s'.udp = s.udp := by
  cases hping : asksPong f with
  | true =>
      obtain ⟨_, -, heq⟩ := handlePacket_of_asksPong env s hping
      obtain ⟨q, -, rfl⟩ := map_eq_ok.mp (heq.symm.trans h)
      rfl
  | false =>
      by_cases hdata : f.data = []
      · rw [handlePacket_nil hdata] at h
        cases h
      · obtain ⟨_, _, -, -, heq⟩ := handlePacket_of_not_asksPong env s hdata hping
        exact Except.ok.inj (heq.symm.trans h) ▸ rfl

lemma sent_handle (hready : s.Ready) {msg : UdpPacket} (h : s.handle env msg = .ok s') :
    s'.udp = s.udp := by
  by_cases hrouted : Routed msg.bytes
  · rw [handle_of_routed hrouted] at h
    cases hdecode : FrameSet.decode msg.bytes with
    | error e =>
        rw [handleDatagram, hdecode] at h
        exact Except.ok.inj h ▸ rfl
    | ok frameSet =>
        obtain ⟨ackQueue, l, q, -, -, -, heq⟩ := hready.handleDatagram_eq env hdecode
        obtain ⟨t, hfold, rfl⟩ := map_eq_ok.mp (heq.symm.trans h)
        have hsent : t.udp = s.udp := foldlM_induction (P := fun t : Session => t.udp = s.udp)
          (f := handlePacket env) (s := { s with ackQueue := ackQueue })
          (fun _ _ _ _ ht hstep => (sent_handlePacket hstep).trans ht) rfl hfold
        exact hsent
  · rcases handle_of_not_routed hrouted h with hack | hnack | rfl
    · rcases unwrapOrReturn_eq_ok hack with rfl | ⟨ack, -, hack⟩
      · rfl
      · obtain ⟨_, -, hack⟩ := bind_eq_ok.mp hack
        exact Except.ok.inj hack ▸ rfl
    · rcases unwrapOrReturn_eq_ok hnack with rfl | ⟨nack, -, hnack⟩
      · rfl
      · obtain ⟨_, -, hnack⟩ := bind_eq_ok.mp hnack
        obtain ⟨_, -, hnack⟩ := bind_eq_ok.mp hnack
        exact Except.ok.inj hnack ▸ rfl
    · rfl

lemma sent_update (h : s.update env = .ok s') : s.udp <+: s'.udp := by
  rcases update_cases h with ⟨-, rfl⟩ | ⟨-, s₁, s₂, s₃, hqueue, hack, hsilence, hping⟩
  · exact List.prefix_rfl
  · obtain ⟨_, _, sent, -, rfl⟩ := flushQueue_queue hqueue
    obtain ⟨sent', rfl⟩ := flushAck_queue hack
    have hflushed : s.udp <+: s.udp ++ sent ++ sent' :=
      (List.prefix_append _ _).trans (List.prefix_append _ _)
    have hsilent : s.udp <+: s₃.udp := by
      rcases hsilence with ⟨-, hdisconnect⟩ | ⟨-, rfl⟩
      · exact hflushed.trans (sent_disconnect hdisconnect)
      · exact hflushed
    rcases checkPing_eq hping with rfl | ⟨_, _, -, -, rfl⟩
    · exact hsilent
    · exact hsilent

/-- **What has been sent stays sent.** -/
lemma sent_step (hready : s.Ready) {op : Op} (h : s.step op = .ok s') : s.udp <+: s'.udp := by
  cases op with
  | update env => exact sent_update h
  | forceFlush env =>
      obtain ⟨_, _, sent, -, rfl⟩ := flushQueue_queue h
      exact ⟨sent, rfl⟩
  | handle env msg => exact (sent_handle hready h) ▸ List.prefix_rfl
  | disconnect env => exact sent_disconnect h
  | sendSystemPacket env P packet reliability =>
      obtain ⟨_, -, -, -, _, -, rfl⟩ := sendSystemPacket_eq_ok.mp h
      exact List.prefix_rfl
  | sendTo env buff =>
      have hsend := (sendTo_eq_ok.mp h).2
      split_ifs at hsend
      · obtain ⟨-, -, _, -, rfl⟩ := sendWhole_eq_ok.mp hsend
        exact List.prefix_rfl
      · obtain ⟨-, -, rfl⟩ := sendSplit_eq_ok.mp hsend
        exact List.prefix_rfl

lemma sent_exec (hready : s.Ready) {ops : List Op} (h : Run.exec turn s ops = .ok s') :
    s.udp <+: s'.udp := by
  induction ops generalizing s with
  | nil => exact Except.ok.inj h ▸ List.prefix_rfl
  | cons op ops ih =>
      obtain ⟨t, hturn, hrest⟩ := Run.exec_cons.mp h
      obtain ⟨u, hstep, ht⟩ := bind_eq_ok.mp hturn
      obtain rfl := Except.ok.inj ht
      have hready' := hready.step hstep
      have hnext : Ready { u with parent := [] } := ⟨hready'.sane, hready'.max_lt⟩
      have hlast : u.udp <+: s'.udp := ih (s := { u with parent := [] }) hnext hrest
      exact (sent_step hready hstep).trans hlast

end Sent

end Session

end ActixRaknet
