import ActixRaknet.EndToEnd.Arrivals
import ActixRaknet.EndToEnd.Custody
import ActixRaknet.Session.Send

/-!
Two sessions joined by a network.

* `Endpoint`, `Link`: a session with the buffers given to its `send_to` and the frames its receive
  queue has released, and two of them;
* `Link.step`: a call of `send_to` or `update` on either side, or the delivery of a datagram;
* `Admissible`: the network loses, repeats, reorders and delays, but delivers only what the other
  side has sent;
* `Direction`, `Traffic`, `Invariant`: what ties the two sides together in every state of a run.
-/

namespace ActixRaknet

open Fallible

/-- One side of a link. -/
structure Endpoint where
  session : Session
  /-- The buffers given to `send_to`, in order. -/
  sent : List Bytes
  /-- The frames that `get_all` of the receive queue has returned, in order. -/
  released : List Frame

namespace Endpoint

/-- What the receive queue has released once the datagram is handled. -/
def releasedAfter (e : Endpoint) (bytes : Bytes) : List Frame :=
  if Session.Routed bytes then
    match FrameSet.decode bytes with
    | .error _ => e.released
    | .ok frameSet =>
      match ReceivedQueue.receiveAll (e.released, e.session.received) frameSet.datas with
      | .error _ => e.released
      | .ok (released, _) => released
  else
    e.released

/-- A call of `send_to`. -/
def sendTo (e : Endpoint) (env : Session.Env) (buff : Bytes) : Except Panic Endpoint := do
  let session ← e.session.sendTo env buff
  return { e with session := session, sent := e.sent ++ [buff] }

/-- A call of `update`. -/
def update (e : Endpoint) (env : Session.Env) : Except Panic Endpoint := do
  let session ← e.session.update env
  return { e with session := session }

/-- The arrival of a datagram. -/
def deliver (e : Endpoint) (env : Session.Env) (msg : UdpPacket) : Except Panic Endpoint := do
  let session ← e.session.handle env msg
  return { e with session := session, released := e.releasedAfter msg.bytes }

/-- The packet queue of the session. -/
abbrev queue (e : Endpoint) : PacketQueue := e.session.packetQueue

/-- The messages of the other side that have been taken. -/
abbrev taken (e : Endpoint) : ℕ → Prop := e.session.received.Taken

end Endpoint

/-- The two sides. -/
inductive Side
  | left
  | right
  deriving DecidableEq

instance : Fintype Side := ⟨{.left, .right}, fun side => by cases side <;> decide⟩

/-- The other side. -/
def Side.peer : Side → Side
  | .left => .right
  | .right => .left

@[simp] lemma Side.peer_peer (side : Side) : side.peer.peer = side := by cases side <;> rfl

lemma Side.peer_ne (side : Side) : side.peer ≠ side := by cases side <;> decide

lemma Side.eq_or_eq_peer (a side : Side) : side = a ∨ side = a.peer := by
  cases a <;> cases side <;> decide

/-- Two sessions joined by a network. -/
abbrev Link := Side → Endpoint

namespace Link

/-- Both sessions are new. -/
def new (addr : Side → SocketAddr) (mtu : Side → UInt16) (ping receive : Side → Instant) : Link :=
  fun side => ⟨.new (addr side) (mtu side) (ping side) (receive side), [], []⟩

/-- Something happens on one side. -/
inductive Action
  | sendTo (side : Side) (env : Session.Env) (buff : Bytes)
  | update (side : Side) (env : Session.Env)
  | deliver (side : Side) (env : Session.Env) (msg : UdpPacket)

/-- One side changes. -/
def set (l : Link) (side : Side) (e : Endpoint) : Link := Function.update l side e

/-- An action, as a step of the link. -/
def step (l : Link) : Action → Except Panic Link
  | .sendTo side env buff => l.set side <$> (l side).sendTo env buff
  | .update side env => l.set side <$> (l side).update env
  | .deliver side env msg => l.set side <$> (l side).deliver env msg

/-- Buffers are not empty and fit one datagram, and a datagram that is delivered was sent. -/
def Admissible (mtu : Side → UInt16) (l : Link) : Action → Prop
  | .sendTo side _ buff => buff ≠ [] ∧ buff.length < (mtu side).toNat - 46
  | .update _ _ => True
  | .deliver side _ msg => ∃ packet ∈ (l side.peer).session.udp, packet.bytes = msg.bytes

/-- Neither session has ended, and the counters are within three bytes. -/
def Live (l : Link) : Prop :=
  ∀ side, (l side).session.disconnected = false ∧ (l side).queue.max ≤ 2 ^ 24
    ∧ (l side).session.messageIndex ≤ 2 ^ 24 ∧ (l side).session.orderIndex ≤ 2 ^ 24

instance (mtu : Side → UInt16) (l : Link) : ∀ action, Decidable (Admissible mtu l action)
  | .sendTo _ _ _ => inferInstanceAs (Decidable (_ ∧ _))
  | .update _ _ => isTrue trivial
  | .deliver _ _ _ => inferInstanceAs (Decidable (∃ _ ∈ _, _))

instance : DecidablePred Live := fun _ => inferInstanceAs (Decidable (∀ _ : Side, _))

/-! ### What ties the two sides together -/

/-- The buffer of a message. -/
def payload (sent : List Bytes) (k : ℕ) : Bytes := sent.getD k []

/-- The numbers that an endpoint has noted for acknowledgement. -/
structure Acknowledges (q : ACKQueue) (bound : ℕ) (settled : ℕ → Prop) : Prop where
  highest_le : q.highest ≤ bound
  settled : ∀ n ∈ q.storeSeq, settled n

/-- The messages from `x` to `y`: the sender answers for those that have not been taken, the
receiver has released the others in order, and only numbers whose messages have been taken are
noted for acknowledgement. -/
structure Direction (x y : Endpoint) (emitted : List FrameSet) : Prop where
  custody : x.queue.Custody x.sent emitted y.taken
  orderIndex : x.session.orderIndex = x.sent.length
  reassembled : ReceivedQueue.Reassembled (payload x.sent) y.taken (y.released, y.session.received)
  taken_lt : ∀ k, y.taken k → k < x.sent.length
  acknowledges : Acknowledges y.session.ackQueue x.queue.sendMin (x.queue.Settled emitted y.taken)

/-- A datagram that has been sent: a frame set, an acknowledgement of numbers whose messages have
been taken, or a resend request for a number that has been sent. -/
inductive Traffic (emitted : List FrameSet) (settled : ℕ → Prop) (bound : ℕ) : Bytes → Prop
  | frameSet (fs : FrameSet) (hfs : fs ∈ emitted) : Traffic emitted settled bound fs.layout
  | ack (r : ℕ × ℕ) (h₁ : r.1 < 2 ^ 24) (h₂ : r.2 < 2 ^ 24)
      (hr : ∀ n ∈ Ranges.numbers r, settled n) : Traffic emitted settled bound (Ack.datagram r)
  | nack (n : ℕ) (hn : n < 2 ^ 24) (hb : n < bound) :
      Traffic emitted settled bound (Nack.datagram (n, n))

/-- The datagrams that `x` has sent to `y`. -/
def Sent (x y : Endpoint) (emitted emittedPeer : List FrameSet) : Prop :=
  ∀ packet ∈ x.session.udp,
    Traffic emitted (y.queue.Settled emittedPeer x.taken) y.queue.sendMin packet.bytes

/-- The invariant of a link, for the frame sets each side has emitted so far. -/
structure Invariant (mtu : Side → UInt16) (l : Link) (emitted : Side → List FrameSet) : Prop where
  mtu_eq : ∀ side, (l side).session.mtu = mtu side
  direction : ∀ side, Direction (l side) (l side.peer) (emitted side)
  sent : ∀ side, Sent (l side) (l side.peer) (emitted side) (emitted side.peer)

lemma Traffic.mono {emitted emitted' : List FrameSet} {settled settled' : ℕ → Prop}
    {bound bound' : ℕ} {bytes : Bytes} (h : Traffic emitted settled bound bytes)
    (hemitted : ∀ fs ∈ emitted, fs ∈ emitted') (hsettled : ∀ n, settled n → settled' n)
    (hbound : bound ≤ bound') : Traffic emitted' settled' bound' bytes := by
  cases h with
  | frameSet fs hfs => exact .frameSet fs (hemitted fs hfs)
  | ack r h₁ h₂ hr => exact .ack r h₁ h₂ fun n hn => hsettled n (hr n hn)
  | nack n hn hb => exact .nack n hn (hb.trans_le hbound)

/-- **One side changes**: the invariant follows from the two directions and the datagrams that are
new, if the side only moves forward. -/
lemma Invariant.set {mtu : Side → UInt16} {l : Link} {emitted : Side → List FrameSet}
    (h : Invariant mtu l emitted) {a : Side} {e : Endpoint} {em : List FrameSet}
    (hmtu : e.session.mtu = (l a).session.mtu) (hemitted : ∀ fs ∈ emitted a, fs ∈ em)
    (hmin : (l a).queue.sendMin ≤ e.queue.sendMin) (htaken : ∀ k, (l a).taken k → e.taken k)
    (hout : Direction e (l a.peer) em) (hin : Direction (l a.peer) e (emitted a.peer))
    (hsent : ∀ packet ∈ e.session.udp, packet ∈ (l a).session.udp
      ∨ Traffic em ((l a.peer).queue.Settled (emitted a.peer) e.taken) (l a.peer).queue.sendMin
          packet.bytes) :
    Invariant mtu (l.set a e) (Function.update emitted a em) := by
  have hself : l.set a e a = e := by rw [Link.set, Function.update_self]
  have hpeer : l.set a e a.peer = l a.peer := by
    rw [Link.set, Function.update_of_ne a.peer_ne]
  have hemself : Function.update emitted a em a = em := by rw [Function.update_self]
  have hempeer : Function.update emitted a em a.peer = emitted a.peer := by
    rw [Function.update_of_ne a.peer_ne]
  refine ⟨fun side => ?_, fun side => ?_, fun side => ?_⟩
  · rcases a.eq_or_eq_peer side with rfl | rfl
    · rw [hself, hmtu, h.mtu_eq]
    · rw [hpeer, h.mtu_eq]
  · rcases a.eq_or_eq_peer side with rfl | rfl
    · rwa [hself, hpeer, hemself]
    · rwa [hpeer, Side.peer_peer, hself, hempeer]
  · rcases a.eq_or_eq_peer side with rfl | rfl
    · rw [hself, hpeer, hemself, hempeer]
      intro packet hpacket
      rcases hsent packet hpacket with hold | hnew
      · exact (h.sent side packet hold).mono hemitted
          (fun n hn => hn.mono le_rfl htaken fun _ hfs => hfs) le_rfl
      · exact hnew
    · rw [hpeer, Side.peer_peer, hself, hempeer, hemself]
      intro packet hpacket
      have hold := h.sent a.peer packet hpacket
      rw [Side.peer_peer] at hold
      exact hold.mono (fun _ hfs => hfs) (fun n hn => hn.mono hmin (fun _ hk => hk) hemitted) hmin

end Link

end ActixRaknet
