import ActixRaknet.Session.Asides
import ActixRaknet.Session.Listening

/-!
Calls that say no goodbye.

* `Session.Parts`: the call says goodbye, by `disconnect` or in the bytes it is given;
* `Frame.Gentle`: a frame without an order index says no goodbye;
* `Bears.step_gentle`: calls that say none keep all frames in the queue and on the wire gentle, and
  `not_ends_messages`: none of their messages is one.
-/

namespace ActixRaknet

open Fallible Reader Writer

/-- The frame can be sent, and without an order index it says no goodbye. -/
structure Frame.Gentle (f : Frame) : Prop where
  carried : f.carried = f
  data_le : f.data.length ≤ 8191
  unordered : f.reliability.sequencedOrOrdered = false → ¬Session.Ends f.data

namespace Session

/-- The call says goodbye. -/
def Parts : Op → Prop
  | .disconnect _ => True
  | .sendTo _ buff => Ends buff
  | @Op.sendSystemPacket _ _ _ packet _ => ∃ body, encode packet = .ok body ∧ Ends body
  | _ => False

instance : DecidablePred Ends := fun _ => inferInstanceAs (Decidable (_ = _))

instance : DecidablePred Parts
  | .disconnect _ => isTrue trivial
  | .sendTo _ buff => inferInstanceAs (Decidable (Ends buff))
  | @Op.sendSystemPacket _ _ _ packet _ =>
    match h : encode packet with
    | .ok body => decidable_of_iff (Ends body)
        ⟨fun hends => ⟨body, h, hends⟩,
          fun ⟨_, hbody, hends⟩ => Except.ok.inj (h.symm.trans hbody) ▸ hends⟩
    | .error _ => isFalse fun ⟨_, hbody, _⟩ => nomatch h.symm.trans hbody
  | .update _ => isFalse id
  | .forceFlush _ => isFalse id
  | .handle _ _ => isFalse id

variable {mtu : UInt16} {said : List Message} {s s' : Session} {env : Env}

/-- A call that says no goodbye has no message that is one, unless the peer is silent. -/
lemma not_ends_messages {op : Op} (hop : ¬Parts op)
    (hsilent : ∀ env, op = .update env → ¬s.Silent env) (hspeaks : s.Speaks mtu said)
    (hready : s.Ready) (hshort : Short op) (hs : s.step op = .ok s') :
    ∀ m ∈ s.messages op, ¬Ends m.payload := by
  intro m hm hends
  have hfaithful := (hspeaks.step hready hshort hs).faithful m (List.mem_append_right _ hm)
  have hbody : Ends m.body := hfaithful.head?_body hends
  cases op with
  | update env => simp [messages, hsilent env rfl] at hm
  | forceFlush env => simp [messages] at hm
  | handle env msg => simp [messages] at hm
  | disconnect env => exact hop trivial
  | sendTo env buff =>
      obtain rfl := List.mem_singleton.mp hm
      exact hop hbody
  | sendSystemPacket env P packet reliability =>
      rw [messages] at hm
      split at hm
      · rename_i body _ hencode
        obtain rfl := List.mem_singleton.mp hm
        exact hop ⟨body, hencode, hbody⟩
      · exact absurd hm List.not_mem_nil

/-! ### Frames outside the order -/

lemma Gentle.wire {f : Frame} (h : f.Gentle) : f.carried = f ∧ f.data.length ≤ 8191 :=
  ⟨h.carried, h.data_le⟩

lemma gentle_of_ordered {f : Frame} (hcarried : f.carried = f) (hdata : f.data.length ≤ 8191)
    (h : f.reliability.sequencedOrOrdered = true) : f.Gentle :=
  ⟨hcarried, hdata, fun hnot => by simp [h] at hnot⟩

/-- Pings and pongs are gentle. -/
lemma gentle_unreliable {body : Bytes} (hlen : body.length ≤ 8191) (h : ¬Ends body) :
    (Frame.new .unreliable body).Gentle :=
  ⟨Frame.carried_new .unreliable body (fun _ => rfl) fun _ => rfl, hlen, fun _ => h⟩

lemma disconnect_gentle (h : s.Bears Frame.Gentle) (hs : s.disconnect env = .ok s') :
    s'.Bears Frame.Gentle := by
  obtain ⟨-, -, q, hq, t, hflush, rfl⟩ := disconnect_eq_ok.mp hs
  have hframe : s.closingFrame.Gentle := gentle_of_ordered rfl (show 1 ≤ 8191 by decide) rfl
  have hqueued : Bears Frame.Gentle { s with
      messageIndex := s.messageIndex + 1
      orderIndex := s.orderIndex + 1
      packetQueue := q } := ⟨h.addFrame hframe hq, h.sent⟩
  exact (hqueued.flushQueue (fun _ => Gentle.wire) hflush).toBears.relabel rfl rfl

lemma sendPing_gentle (h : s.Bears Frame.Gentle) (hs : s.sendPing env = .ok s') :
    s'.Bears Frame.Gentle := by
  have hbody : encode (ConnectedPing.new (s.time env)) = .ok (Packet.ID ConnectedPing :: _) :=
    encode_eq (writes_writeI64 (s.time env) .big)
  rw [sendPing, hbody, ok_bind] at hs
  exact (h.send (gentle_unreliable (by simp) (by simp [Ends]; decide)) hs).toBears

lemma handleConnectedPing_gentle (h : s.Bears Frame.Gentle) {ping : ConnectedPing}
    (hs : s.handleConnectedPing env ping = .ok s') : s'.Bears Frame.Gentle := by
  have hbody : encode (ConnectedPong.new ping.clientTimestamp (s.time env))
      = .ok (Packet.ID ConnectedPong :: _) :=
    encode_eq ((writes_writeI64 ping.clientTimestamp .big).bind
      (writes_writeI64 (s.time env) .big))
  rw [handleConnectedPing, hbody, ok_bind] at hs
  exact (h.send (gentle_unreliable (by simp) (by simp [Ends]; decide)) hs).toBears

lemma handlePacket_gentle (h : s.Bears Frame.Gentle) {f : Frame}
    (hs : handlePacket env s f = .ok s') : s'.Bears Frame.Gentle := by
  have hreceive : Bears Frame.Gentle { s with lastReceive := env.receive } := h.relabel rfl rfl
  rw [handlePacket, dispatch] at hs
  obtain ⟨id, -, hs⟩ := bind_eq_ok.mp hs
  split_ifs at hs
  · rcases unwrapOrReturn_eq_ok hs with rfl | ⟨ping, -, hs⟩
    · exact hreceive
    · exact handleConnectedPing_gentle hreceive hs
  · rcases unwrapOrReturn_eq_ok hs with rfl | ⟨pong, -, hs⟩
    · exact hreceive
    · exact Except.ok.inj hs ▸ hreceive
  · rcases unwrapOrReturn_eq_ok hs with rfl | ⟨disconnected, -, hs⟩
    · exact hreceive
    · exact Except.ok.inj hs ▸ hreceive.relabel rfl rfl
  · exact Except.ok.inj hs ▸ hreceive.relabel rfl rfl

lemma handle_gentle (h : s.Bears Frame.Gentle) (hready : s.Ready) {msg : UdpPacket}
    (hs : s.handle env msg = .ok s') : s'.Bears Frame.Gentle := by
  by_cases hrouted : Routed msg.bytes
  · rw [handle_of_routed hrouted] at hs
    cases hdecode : FrameSet.decode msg.bytes with
    | error e =>
        rw [handleDatagram, hdecode] at hs
        exact Except.ok.inj hs ▸ h
    | ok frameSet =>
        obtain ⟨ackQueue, l, q, -, -, -, heq⟩ := hready.handleDatagram_eq env hdecode
        obtain ⟨t, hfold, rfl⟩ := map_eq_ok.mp (heq.symm.trans hs)
        have hnoted : Bears Frame.Gentle { s with ackQueue := ackQueue } := h.relabel rfl rfl
        have hhandled := foldlM_induction (P := fun t : Session => t.Bears Frame.Gentle)
          (fun t f t' _ ht hstep => handlePacket_gentle ht hstep) hnoted hfold
        exact hhandled.relabel rfl rfl
  · rcases handle_of_not_routed hrouted hs with hack | hnack | rfl
    · exact (h.handleAck hack).toBears
    · exact (h.handleNack hnack).toBears
    · exact h

/-- **Step lemma**: a call that says no goodbye keeps the frames gentle. -/
lemma Bears.step_gentle (h : s.Bears Frame.Gentle) (hspeaks : s.Speaks mtu said) (hready : s.Ready)
    {op : Op} (hshort : Short op) (hop : ¬Parts op) (hs : s.step op = .ok s') :
    s'.Bears Frame.Gentle := by
  cases op with
  | update env =>
      rcases update_cases hs with ⟨-, rfl⟩ | ⟨-, s₁, s₂, s₃, hqueue, hack, hsilence, hping⟩
      · exact h
      · have h₂ := ((h.flushQueue (fun _ => Gentle.wire) hqueue).toBears.flushAck hack).toBears
        have h₃ : s₃.Bears Frame.Gentle := by
          rcases hsilence with ⟨-, hdisconnect⟩ | ⟨-, rfl⟩
          · exact disconnect_gentle h₂ hdisconnect
          · exact h₂
        rw [Session.checkPing] at hping
        split_ifs at hping
        · have hpinged : Bears Frame.Gentle { s₃ with lastPing := env.pinged } :=
            h₃.relabel rfl rfl
          exact sendPing_gentle hpinged hping
        · exact Except.ok.inj hping ▸ h₃
  | forceFlush env => exact (h.flushQueue (fun _ => Gentle.wire) hs).toBears
  | handle env msg => exact handle_gentle h hready hs
  | disconnect env => exact absurd trivial hop
  | sendSystemPacket env P packet reliability =>
      obtain ⟨body, hbody, -, -, q, hq, rfl⟩ := sendSystemPacket_eq_ok.mp hs
      have hframe : (s.systemFrame reliability body).Gentle :=
        ⟨s.carried_systemFrame reliability body, (hshort body hbody).trans (by decide),
          fun _ hends => hop ⟨body, hbody, hends⟩⟩
      exact ⟨h.addFrame hframe hq, h.sent⟩
  | sendTo env buff =>
      have hmtu_le : s.mtu.toNat ≤ 8191 := hspeaks.mtu_eq ▸ hspeaks.mtu_le
      by_cases hlen : buff.length < s.mtu.toNat - 46
      · obtain ⟨q, hq, rfl⟩ := sendTo_whole hlen hs
        have hdata : buff.length ≤ 8191 := by omega
        exact ⟨h.addFrame (gentle_of_ordered rfl hdata rfl) hq, h.sent⟩
      · have hsplit := (sendTo_eq_ok.mp hs).2
        rw [if_neg hlen] at hsplit
        obtain ⟨hmtu, -, rfl⟩ := sendSplit_eq_ok.mp hsplit
        refine ⟨h.queue.allocated env.queue (s.splitFrames buff) fun f hf g hg => ?_, h.sent⟩
        rw [List.mem_singleton.mp hg]
        have htells := hspeaks.tells_fragment hmtu hf hlen
        obtain ⟨i, -, rfl⟩ := List.mem_map.mp hf
        exact gentle_of_ordered htells.carried htells.data_le rfl

end Session

end ActixRaknet
