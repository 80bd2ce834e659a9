import ActixRaknet.Library.Run
import ActixRaknet.Session.Basic

/-!
`RakPing` of `ping.rs`: the actor that asks servers for their message of the day.

The actors it sends to are logs: `udp` collects the datagrams sent, `handler` the pongs for its
user.

* `RakPing` and its handlers, under the names of the source;
* `RakPing.step`: a call of the user or a datagram comes in;
* `exec_logs`: the two logs of a run, read off its actions.
-/

namespace ActixRaknet

open Fallible

/-- `Pong`. -/
structure Pong where
  addr : SocketAddr
  motd : String
  deriving DecidableEq, Repr

/-- `RakPing`. -/
structure RakPing where
  udp : List UdpPacket
  handler : List Pong
  deriving DecidableEq, Repr

namespace RakPing

/-- `RakPing::new`. -/
def new : RakPing where
  udp := []
  handler := []

/-- `Handler<ReceivedUdp> for RakPing`. -/
def handleReceivedUdp (p : RakPing) (msg : UdpPacket) : Except Panic RakPing := do
  let id ← index msg.bytes 0
  if id = Packet.ID UnconnectedPong then
    unwrapOrReturn UnconnectedPong msg.bytes p fun pong =>
      .ok { p with handler := p.handler ++ [⟨msg.addr, pong.motd⟩] }
  else
    .ok p

/-- `Handler<PingTo> for RakPing`, with the reading of the clock. -/
def handlePingTo (p : RakPing) (time : Int64) (addr : SocketAddr) : Except Panic RakPing := do
  let payload ← encode (UnconnectedPing.new time 0x0)
  return { p with udp := p.udp ++ [⟨payload, addr⟩] }

/-! ### Steps -/

/-- What can happen next. -/
inductive Action
  /-- A datagram comes in. -/
  | receivedUdp (msg : UdpPacket)
  /-- The user asks for a ping. -/
  | pingTo (time : Int64) (addr : SocketAddr)

/-- A step of the actor. -/
def step (p : RakPing) : Action → Except Panic RakPing
  | .receivedUdp msg => p.handleReceivedUdp msg
  | .pingTo time addr => p.handlePingTo time addr

/-! ### What is sent and told -/

/-- The bytes of `UnconnectedPing`. -/
def pingBytes (time : Int64) : Bytes :=
  0x01 :: (Endian.big.toBytes 8 time.toUInt64.toNat
    ++ (MAGIC ++ Endian.big.toBytes 8 (0 : UInt64).toNat))

lemma encode_ping (time : Int64) : encode (UnconnectedPing.new time 0) = .ok (pingBytes time) :=
  encode_eq ((Writer.writes_writeI64 _ _).bind
    ((Writer.writes_write _).bind (Writer.writes_writeU64 _ _)))

/-- The datagram that an action sends. -/
def ping? : Action → Option UdpPacket
  | .receivedUdp _ => none
  | .pingTo time addr => some ⟨pingBytes time, addr⟩

/-- The pong that an action tells the user. -/
def pong? : Action → Option Pong
  | .receivedUdp msg =>
    if msg.bytes.head? = some (Packet.ID UnconnectedPong) then
      match decode UnconnectedPong msg.bytes with
      | .ok (.ok pong) => some ⟨msg.addr, pong.motd⟩
      | _ => none
    else none
  | .pingTo _ _ => none

variable {p p' : RakPing}

lemma step_eq_ok {a : Action} (h : p.step a = .ok p') :
    p'.udp = p.udp ++ (ping? a).toList ∧ p'.handler = p.handler ++ (pong? a).toList := by
  cases a with
  | receivedUdp msg =>
      obtain ⟨id, hid, h⟩ := bind_eq_ok.mp h
      rw [index_zero_eq_ok] at hid
      simp only [ping?, pong?, hid, Option.some.injEq]
      split_ifs at h with hpong
      · rw [if_pos hpong]
        rw [unwrapOrReturn] at h
        cases hdecode : decode UnconnectedPong msg.bytes with
        | error panic =>
            rw [hdecode] at h
            cases h
        | ok result =>
            rw [hdecode] at h
            cases result with
            | error e =>
                obtain rfl := Except.ok.inj h
                exact ⟨(List.append_nil _).symm, (List.append_nil _).symm⟩
            | ok pong =>
                obtain rfl := Except.ok.inj h
                exact ⟨(List.append_nil _).symm, rfl⟩
      · rw [if_neg hpong]
        obtain rfl := Except.ok.inj h
        exact ⟨(List.append_nil _).symm, (List.append_nil _).symm⟩
  | pingTo time addr =>
      rw [step, handlePingTo, encode_ping, ok_bind, pure_eq_ok, Except.ok.injEq] at h
      subst h
      exact ⟨rfl, (List.append_nil _).symm⟩

/-- **What a run sends and tells**: a ping for each call, and each pong that decodes, in order. -/
theorem exec_logs {actions : List Action} (h : Run.exec step p actions = .ok p') :
    p'.udp = p.udp ++ actions.filterMap ping?
      ∧ p'.handler = p.handler ++ actions.filterMap pong? := by
  induction actions generalizing p with
  | nil =>
      obtain rfl := Except.ok.inj h
      exact ⟨(List.append_nil _).symm, (List.append_nil _).symm⟩
  | cons a actions ih =>
      obtain ⟨q, hq, hrest⟩ := Run.exec_cons.mp h
      obtain ⟨hudp, hhandler⟩ := step_eq_ok hq
      obtain ⟨hudp', hhandler'⟩ := ih hrest
      have hcons : ∀ {β : Type} (f : Action → Option β),
          (a :: actions).filterMap f = (f a).toList ++ actions.filterMap f := by
        intro β f
        rw [List.filterMap_cons]
        cases f a <;> rfl
      rw [hudp', hhandler', hudp, hhandler, List.append_assoc, List.append_assoc, hcons, hcons]
      exact ⟨rfl, rfl⟩

end RakPing

end ActixRaknet
