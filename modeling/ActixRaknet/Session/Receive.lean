import ActixRaknet.Session.Basic

/-!
The receiving path of a session: which frames of a datagram reach `handle_packet`, and what
`handle_packet` does with them.

* `ReceivedQueue.handed`: the frames handed on, computed by the receive queue alone;
* `foldlM_receivePacket`: the loop over the frames of a datagram is `handle_packet` over the frames
  handed on, since `handle_packet` neither reads nor changes the receive queue;
* `handlePacket_of_not_asksPong`, `handlePacket_of_asksPong`: the two ways `handle_packet` ends on
  a frame that is not empty.
-/

namespace ActixRaknet

open Fallible Reader Writer

/-- The frame that a session passes on with a message. -/
def ParentMsg.frame? : ParentMsg → Option Frame
  | .receivedDatagram frame => some frame
  | .sessionEnd => none

namespace ReceivedQueue

/-- What `receive_packet` hands to `handle_packet` for one frame, and the queue after it. -/
def hand (q : ReceivedQueue) (frame : Frame) : Except Panic (List Frame × ReceivedQueue) :=
  if frame.reliability.sequencedOrOrdered then do
    let q ← q.add frame
    return q.getAll
  else
    .ok ([frame], q)

/-- What the frames of a datagram hand to `handle_packet`, and the queue after them. -/
def handed (q : ReceivedQueue) : List Frame → Except Panic (List Frame × ReceivedQueue)
  | [] => .ok ([], q)
  | frame :: frames => do
    let (ret, q) ← q.hand frame
    let (rest, q) ← q.handed frames
    return (ret ++ rest, q)

lemma handed_cons_eq_ok {q q' : ReceivedQueue} {f : Frame} {fs l : List Frame} :
    q.handed (f :: fs) = .ok (l, q') ↔ ∃ ret q₁ rest, q.hand f = .ok (ret, q₁)
      ∧ q₁.handed fs = .ok (rest, q') ∧ l = ret ++ rest := by
  simp only [handed, bind_eq_ok, pure_eq_ok, Except.ok.injEq, Prod.mk.injEq, Prod.exists]
  constructor
  · rintro ⟨ret, q₁, h₁, rest, q₂, h₂, rfl, rfl⟩
    exact ⟨ret, q₁, rest, h₁, h₂, rfl⟩
  · rintro ⟨ret, q₁, rest, h₁, h₂, rfl⟩
    exact ⟨ret, q₁, h₁, rest, q', h₂, rfl, rfl⟩

end ReceivedQueue

namespace Session

open ReceivedQueue

/-! ### Which frames are handed on -/

/-- The session with another receive queue. -/
def withReceived (q : ReceivedQueue) (s : Session) : Session := { s with received := q }

/-- One frame is handled as the frames that the receive queue hands on for it. -/
lemma receivePacket_of_hand {env : Env} {s : Session} {f : Frame} {l : List Frame}
    {q : ReceivedQueue} (h : s.received.hand f = .ok (l, q)) :
    receivePacket env s f = l.foldlM (handlePacket env) (withReceived q s) := by
  rw [hand] at h
  rw [receivePacket]
  cases hr : f.reliability.sequencedOrOrdered with
  | false =>
      rw [hr] at h
      obtain ⟨rfl, rfl⟩ := Prod.mk.inj (Except.ok.inj h)
      simp only [Bool.not_false, if_true, List.foldlM_cons, List.foldlM_nil, bind_pure]
      rfl
  | true =>
      rw [hr, if_pos rfl] at h
      obtain ⟨q₁, hadd, hall⟩ := bind_eq_ok.mp h
      simp only [Bool.not_true, Bool.false_eq_true, if_false, hadd, ok_bind,
        Except.ok.inj hall]
      rfl

lemma dispatch_withReceived (env : Env) (q : ReceivedQueue) (s : Session) (f : Frame) :
    dispatch env (withReceived q s) f = withReceived q <$> dispatch env s f := by
  have hping : ∀ ping, handleConnectedPing (withReceived q s) env ping
      = withReceived q <$> s.handleConnectedPing env ping := by
    intro ping
    simp only [handleConnectedPing, send, map_bind, map_ok, pure_eq_ok]
    rfl
  simp only [dispatch, map_bind]
  congr 1
  funext id
  split_ifs
  · exact unwrapOrReturn_map (g := withReceived q) hping
  · exact unwrapOrReturn_map (g := withReceived q) fun _ => rfl
  · exact unwrapOrReturn_map (g := withReceived q) fun _ => rfl
  · rfl

/-- `handle_packet` passes the receive queue through. -/
lemma handlePacket_withReceived (env : Env) (q : ReceivedQueue) (s : Session) (f : Frame) :
    handlePacket env (withReceived q s) f = withReceived q <$> handlePacket env s f :=
  dispatch_withReceived env q { s with lastReceive := env.receive } f

lemma foldlM_handlePacket_withReceived (env : Env) (q : ReceivedQueue) (s : Session)
    (l : List Frame) : l.foldlM (handlePacket env) (withReceived q s)
      = withReceived q <$> l.foldlM (handlePacket env) s := by
  induction l generalizing s with
  | nil => rfl
  | cons f l ih =>
      rw [List.foldlM_cons, List.foldlM_cons, handlePacket_withReceived, map_bind]
      cases handlePacket env s f with
      | error e => rfl
      | ok s' => exact ih s'

/-- **The frames of a datagram** are handled as the frames that the receive queue hands on. -/
lemma foldlM_receivePacket {env : Env} {s : Session} {fs l : List Frame} {q : ReceivedQueue}
    (h : s.received.handed fs = .ok (l, q)) :
    fs.foldlM (receivePacket env) s
      = withReceived q <$> l.foldlM (handlePacket env) s := by
  induction fs generalizing s l with
  | nil =>
      obtain ⟨rfl, rfl⟩ := Prod.mk.inj (Except.ok.inj h)
      rfl
  | cons f fs ih =>
      obtain ⟨ret, q₁, rest, hhand, hrest, rfl⟩ := handed_cons_eq_ok.mp h
      rw [List.foldlM_cons, receivePacket_of_hand hhand, foldlM_handlePacket_withReceived,
        List.foldlM_append, map_bind]
      cases ret.foldlM (handlePacket env) s with
      | error e => rfl
      | ok s₁ =>
          rw [map_ok, ok_bind, ok_bind, ih (s := withReceived q₁ s₁) hrest,
            foldlM_handlePacket_withReceived]
          cases rest.foldlM (handlePacket env) s₁ <;> rfl

/-! ### What `handle_packet` does -/

/-- The frames that have gone to the parent. -/
def posted (s : Session) : List Frame := s.parent.filterMap ParentMsg.frame?

@[simp] lemma posted_end (s : Session) : s.end.posted = s.posted := by
  simp [posted, Session.end, post, ParentMsg.frame?]

/-- The frame carries a ping that decodes: the session answers it. -/
def asksPong (f : Frame) : Bool :=
  decide (f.data.head? = some (Packet.ID ConnectedPing) ∧ 9 ≤ f.data.length)

/-- A ping decodes exactly when its eight bytes are there. -/
lemma decode_connectedPing (b : UInt8) (payload : Bytes) :
    if 8 ≤ payload.length then ∃ ping, decode ConnectedPing (b :: payload) = .ok (.ok ping)
    else ∃ e, decode ConnectedPing (b :: payload) = .ok (.error e) := by
  have hread : readExact 8 (Reader.new payload)
      = if 8 ≤ payload.length then .ok (payload.take 8, ⟨payload, 0 + 8⟩)
        else .error .unexpectedEof := rfl
  split_ifs with h
  · refine ⟨⟨(UInt64.ofNat (Endian.big.toNat (payload.take 8))).toInt64⟩, ?_⟩
    simp only [decode_cons, Packet.read, readWith, readI64, readU64, readNat, StateT.run_map]
    rw [StateT.run, hread, if_pos h]
    rfl
  · refine ⟨.unexpectedEof, ?_⟩
    simp only [decode_cons, Packet.read, readWith, readI64, readU64, readNat, StateT.run_map]
    rw [StateT.run, hread, if_neg h]
    rfl

/-- A pong encodes to seventeen bytes. -/
lemma encode_connectedPong (client server : Int64) :
    ∃ body, encode (ConnectedPong.new client server) = .ok body ∧ body.length = 17 :=
  ⟨_, encode_eq ((writes_writeI64 client .big).bind (writes_writeI64 server .big)),
    by simp⟩

/-- A frame without a body is the one `handle_packet` panics on. -/
lemma handlePacket_nil {env : Env} {s : Session} {f : Frame} (h : f.data = []) :
    handlePacket env s f = .error .outOfBounds := by
  rw [handlePacket, dispatch, h]
  rfl

/-- A frame that asks for no pong changes what the parent has been told, and nothing that is sent.
-/
lemma handlePacket_of_not_asksPong (env : Env) (s : Session) {f : Frame} (hdata : f.data ≠ [])
    (h : asksPong f = false) :
    ∃ parent disconnected, (s.disconnected = true → disconnected = true)
      ∧ (∃ frames, frames.Sublist [f] ∧ parent.filterMap ParentMsg.frame? = s.posted ++ frames)
      ∧ handlePacket env s f = .ok { s with
          lastReceive := env.receive
          parent := parent
          disconnected := disconnected } := by
  obtain ⟨b, payload, hf⟩ := List.exists_cons_of_ne_nil hdata
  rw [asksPong, hf, List.head?_cons, List.length_cons, decide_eq_false_iff_not] at h
  rw [handlePacket, dispatch, hf, index_cons_zero, ok_bind]
  split_ifs with hping hpong hdis
  · have hshort : ¬ 8 ≤ payload.length := fun hle => h ⟨by rw [hping], by omega⟩
    have hdecode := decode_connectedPing b payload
    rw [if_neg hshort] at hdecode
    obtain ⟨e, he⟩ := hdecode
    exact ⟨s.parent, s.disconnected, id, ⟨[], List.nil_sublist _, (List.append_nil _).symm⟩,
      by rw [unwrapOrReturn, he]⟩
  · refine ⟨s.parent, s.disconnected, id, ⟨[], List.nil_sublist _, (List.append_nil _).symm⟩, ?_⟩
    obtain ⟨result, hresult⟩ : ∃ result, decode ConnectedPong (b :: payload) = .ok result :=
      ⟨_, rfl⟩
    rw [unwrapOrReturn, hresult]
    cases result <;> rfl
  · exact ⟨s.parent ++ [.sessionEnd], true, fun _ => rfl,
      ⟨[], List.nil_sublist _, List.filterMap_append⟩, rfl⟩
  · exact ⟨s.parent ++ [.receivedDatagram f], s.disconnected, id,
      ⟨[f], List.Sublist.refl _, List.filterMap_append⟩, rfl⟩

/-- A ping is answered with a pong of seventeen bytes. -/
lemma handlePacket_of_asksPong (env : Env) (s : Session) {f : Frame} (h : asksPong f = true) :
    ∃ body, body.length = 17 ∧ handlePacket env s f
      = (fun q => { s with lastReceive := env.receive, packetQueue := q })
          <$> s.packetQueue.addFrame env.queue (Frame.new .unreliable body) := by
  rw [asksPong, decide_eq_true_eq] at h
  obtain ⟨hhead, hlen⟩ := h
  obtain ⟨payload, hf⟩ : ∃ payload, f.data = Packet.ID ConnectedPing :: payload := by
    cases hdata : f.data with
    | nil => rw [hdata] at hhead; cases hhead
    | cons b payload =>
        rw [hdata, List.head?_cons, Option.some.injEq] at hhead
        exact ⟨payload, by rw [hhead]⟩
  have hdecode := decode_connectedPing (Packet.ID ConnectedPing) payload
  rw [hf, List.length_cons] at hlen
  rw [if_pos (by omega)] at hdecode
  obtain ⟨ping, hping⟩ := hdecode
  obtain ⟨body, hbody, hlength⟩ := encode_connectedPong ping.clientTimestamp
    (time { s with lastReceive := env.receive } env)
  refine ⟨body, hlength, ?_⟩
  rw [handlePacket, dispatch, hf, index_cons_zero, ok_bind, if_pos rfl, unwrapOrReturn, hping]
  simp only [handleConnectedPing, hbody, ok_bind, send]
  rfl

/-! ### Routing -/

/-- The header routes the datagram to `handle_datagram`. -/
def Routed : Bytes → Prop
  | [] => False
  | header :: _ =>
    header &&& ACK_FLAG = 0 ∧ header &&& NACK_FLAG = 0 ∧ header &&& DATAGRAM_FLAG ≠ 0

instance : DecidablePred Routed
  | [] => inferInstanceAs (Decidable False)
  | _ :: _ => inferInstanceAs (Decidable (_ ∧ _))

lemma handle_of_routed {s : Session} {env : Env} {msg : UdpPacket} (h : Routed msg.bytes) :
    s.handle env msg = s.handleDatagram env msg.bytes := by
  rw [handle]
  cases hbytes : msg.bytes with
  | nil =>
      rw [hbytes] at h
      exact h.elim
  | cons header payload =>
      rw [hbytes] at h
      obtain ⟨hack, hnack, hdatagram⟩ := h
      rw [index_cons_zero, ok_bind, if_neg (not_not.mpr hack), if_neg (not_not.mpr hnack),
        if_pos hdatagram]

/-- Other datagrams are acknowledgements, resend requests, or ignored. -/
lemma handle_of_not_routed {s s' : Session} {env : Env} {msg : UdpPacket}
    (h : ¬Routed msg.bytes) (hs : s.handle env msg = .ok s') :
    s.handleAck msg.bytes = .ok s' ∨ s.handleNack env msg.bytes = .ok s' ∨ s' = s := by
  obtain ⟨header, hheader, hs⟩ := bind_eq_ok.mp hs
  split_ifs at hs with hack hnack hdatagram
  · exact Or.inl hs
  · exact Or.inr (Or.inl hs)
  · -- only a frame set reaches this branch
    cases hbytes : msg.bytes with
    | nil =>
        rw [hbytes] at hheader
        cases hheader
    | cons b payload =>
        rw [hbytes] at h hheader
        obtain rfl := Except.ok.inj hheader
        exact absurd ⟨not_not.mp hack, not_not.mp hnack, hdatagram⟩ h
  · exact Or.inr (Or.inr (Except.ok.inj hs).symm)

/-- The frames of a datagram that is taken for a frame set. -/
def arrives (bytes : Bytes) : List Frame :=
  if Routed bytes then
    match FrameSet.decode bytes with
    | .error _ => []
    | .ok frameSet => frameSet.datas
  else
    []

/-- The frames that a call passes to `handle_packet`. -/
def handledBy (s : Session) : Op → List Frame
  | .handle _ msg =>
    match s.received.handed (arrives msg.bytes) with
    | .error _ => []
    | .ok (l, _) => l
  | _ => []

end Session

end ActixRaknet
