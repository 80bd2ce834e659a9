import ActixRaknet.EndToEnd.Exchange
import ActixRaknet.Session.Asides
import ActixRaknet.Udp.Actor

/-!
Two sessions with the actors of their sockets between them and the network.

* `UdpActor.Logs`, `step_logs`: what a step adds to the logs of a `UdpActor`;
* `Station`, `Stations`: a session with its `UdpActor`, which is asked to send what the session
  sends and forwards what comes in; two of them;
* `Stations.Admissible`: the network gives a socket only bytes that the other has sent;
* `Stations.Joined`: the sessions are an exchange, and each `UdpActor` is asked for what its session
  sends; `Joined.step`: every step keeps this;
* `Stations.joined_conveys`: the exchange conveys its messages.
-/

namespace ActixRaknet

open Fallible
open PacketQueue (Books)

namespace UdpActor

/-- The datagram that an action asks to send. -/
def Action.asks? : Action → Option UdpPacket
  | .sendUdp packet => some packet
  | _ => none

/-- The datagram that the socket gives in an action. -/
def Action.gives? : Action → Option UdpPacket
  | .receive packet => some packet
  | _ => none

variable {u u' : UdpActor}

/-- What a step adds to the logs: what it asks for, and perhaps what the socket has sent or
given. -/
structure Logs (u : UdpActor) (a : Action) (u' : UdpActor) : Prop where
  asked : u'.asked = u.asked ++ a.asks?.toList
  sent : u.sent <+: u'.sent
  taken : ∀ packet ∈ u'.taken, packet ∈ u.taken ∨ packet ∈ a.gives?

/-- A step that adds nothing. -/
lemma logs_of_eq {a : Action} (ha : a.asks? = none) (hasked : u'.asked = u.asked)
    (hsent : u'.sent = u.sent) (htaken : u'.taken = u.taken) : Logs u a u' where
  asked := by rw [hasked, ha, Option.toList_none, List.append_nil]
  sent := hsent ▸ List.prefix_rfl
  taken packet hpacket := Or.inl (htaken ▸ hpacket)

lemma logs_received (u : UdpActor) (packet : UdpPacket) :
    Logs u (.receive packet) (u.received packet) := by
  obtain ⟨hasked, hsent, htaken⟩ : (u.received packet).asked = u.asked
      ∧ (u.received packet).sent = u.sent ∧ (u.received packet).taken = u.taken ++ [packet] := by
    rw [received]
    split_ifs <;> exact ⟨rfl, rfl, rfl⟩
  refine ⟨hasked.trans (List.append_nil _).symm, hsent ▸ List.prefix_rfl, fun p hp => ?_⟩
  rcases List.mem_append.mp (htaken ▸ hp) with hp | hp
  · exact Or.inl hp
  · rw [List.mem_singleton.mp hp]
    exact Or.inr rfl

lemma logs_transmit (u : UdpActor) (task : ℕ) (ok : Bool) :
    Logs u (.transmit task ok) (u.transmit task ok) := by
  rw [transmit]
  split
  · exact logs_of_eq rfl rfl rfl rfl
  · cases ok with
    | true => exact ⟨(List.append_nil _).symm, List.prefix_append _ _, fun p hp => Or.inl hp⟩
    | false => exact logs_of_eq rfl rfl rfl rfl

/-- **The logs of a step.** -/
lemma step_logs {a : Action} (h : u.step a = .ok u') : Logs u a u' := by
  cases a with
  | start =>
      rw [step] at h
      split_ifs at h
      · obtain ⟨_, -, h⟩ := bind_eq_ok.mp h
        obtain rfl := Except.ok.inj h
        exact logs_of_eq rfl rfl rfl rfl
      · exact Except.ok.inj h ▸ logs_of_eq rfl rfl rfl rfl
  | receive packet =>
      have h := Except.ok.inj h
      split_ifs at h
      · exact h ▸ logs_received u packet
      · exact h ▸ logs_of_eq rfl rfl rfl rfl
  | receiveErr =>
      have h := Except.ok.inj h
      split_ifs at h <;> exact h ▸ logs_of_eq rfl rfl rfl rfl
  | sendErr =>
      have h := Except.ok.inj h
      split_ifs at h <;> exact h ▸ logs_of_eq rfl rfl rfl rfl
  | sendUdp packet =>
      obtain rfl := Except.ok.inj h
      exact ⟨rfl, List.prefix_rfl, fun p hp => Or.inl hp⟩
  | deliver =>
      rw [step] at h
      split at h
      · rename_i msg rest _ _
        obtain rfl := Except.ok.inj h
        cases msg <;> exact logs_of_eq rfl rfl rfl rfl
      · exact Except.ok.inj h ▸ logs_of_eq rfl rfl rfl rfl
  | transmit task ok => exact Except.ok.inj h ▸ logs_transmit u task ok
  | stop =>
      rw [step] at h
      split_ifs at h
      · obtain ⟨_, -, h⟩ := bind_eq_ok.mp h
        obtain rfl := Except.ok.inj h
        exact logs_of_eq rfl rfl rfl rfl
      · exact Except.ok.inj h ▸ logs_of_eq rfl rfl rfl rfl

/-- Datagrams are asked for, one after the other. -/
lemma exec_sendUdp {packets : List UdpPacket}
    (h : Run.exec step u (packets.map .sendUdp) = .ok u') :
    u'.asked = u.asked ++ packets ∧ u'.sent = u.sent ∧ u'.taken = u.taken := by
  induction packets generalizing u with
  | nil =>
      obtain rfl := Except.ok.inj h
      exact ⟨(List.append_nil _).symm, rfl, rfl⟩
  | cons packet packets ih =>
      obtain ⟨v, hv, hrest⟩ := Run.exec_cons.mp h
      obtain rfl := Except.ok.inj hv
      obtain ⟨hasked, hsent, htaken⟩ := ih hrest
      refine ⟨?_, hsent, htaken⟩
      rw [hasked, List.append_assoc]
      rfl

/-- **Run lemma**, for a run that is given. -/
lemma Conducts.of_exec (h : u.Conducts) {actions : List Action}
    (hu : Run.exec UdpActor.step u actions = .ok u') : u'.Conducts := by
  obtain ⟨v, hv, hconducts⟩ := h.exec actions
  obtain rfl := Except.ok.inj (hu.symm.trans hv)
  exact hconducts

end UdpActor

/-! ### A session behind its socket -/

/-- The call hands a datagram to the session. -/
def Session.Op.isHandle : Session.Op → Bool
  | .handle _ _ => true
  | _ => false

/-- One side with its socket. -/
structure Station where
  party : Party
  udp : UdpActor
  /-- How many of the datagrams that were forwarded the session has handled. -/
  handled : ℕ

namespace Station

/-- A call of the session, which asks for its datagrams to be sent. -/
def call (x : Station) (op : Session.Op) : Except Panic Station := do
  let party ← x.party.step op
  let sent := party.session.udp.drop x.party.session.udp.length
  let udp ← Run.exec UdpActor.step x.udp (sent.map .sendUdp)
  return { x with party := party, udp := udp }

/-- The session handles the next datagram that was forwarded. -/
def hand (x : Station) (env : Session.Env) : Except Panic Station :=
  match x.udp.handler[x.handled]? with
  | none => .ok x
  | some msg => call { x with handled := x.handled + 1 } (.handle env msg)

/-- What can happen next on a side. -/
inductive Action
  | call (op : Session.Op)
  | hand (env : Session.Env)
  | udp (a : UdpActor.Action)

/-- A step of a side. -/
def step (x : Station) : Action → Except Panic Station
  | .call op => x.call op
  | .hand env => x.hand env
  | .udp a => (fun udp => { x with udp := udp }) <$> x.udp.step a

end Station

/-- Two of them, joined by a network. -/
abbrev Stations := Side → Station

namespace Stations

/-- All actors are new. -/
def new (addr : Side → SocketAddr) (mtu : Side → UInt16) (ping receive : Side → Instant) :
    Stations :=
  fun side => ⟨Exchange.new addr mtu ping receive side, .new, 0⟩

/-- Something happens on one side. -/
def step (w : Stations) (a : Side × Station.Action) : Except Panic Stations :=
  Function.update w a.1 <$> (w a.1).step a.2

/-- The datagrams that a session handles come from its socket, and those that a socket is asked for
from the session; a socket takes in only bytes that the other has sent; system packets are short,
and no buffer is cut into no pieces. -/
def Admissible (w : Stations) : Side × Station.Action → Prop
  | (side, .call op) =>
    op.isHandle = false ∧ Session.Short op ∧ Session.Pieced (w side).party.session.mtu op
  | (_, .hand _) => True
  | (side, .udp a) => a.asks? = none
    ∧ ∀ packet ∈ a.gives?, ∃ sent ∈ (w side.peer).udp.sent, sent.bytes = packet.bytes

instance (w : Stations) : DecidablePred w.Admissible
  | (_, .call _) => inferInstanceAs (Decidable (_ ∧ _))
  | (_, .hand _) => isTrue trivial
  | (_, .udp _) => inferInstanceAs (Decidable (_ ∧ _))

/-- The two sessions. -/
def exchange (w : Stations) : Exchange := fun side => (w side).party

/-- **The sessions and their sockets**: the sessions are the two sides of an exchange, each socket
is asked for the datagrams of its session, which have room in the buffer of the other, and takes
in what the other has sent. -/
structure Joined (w : Stations) (b : Side → Books) : Prop where
  agrees : w.exchange.Agrees b
  conducts : ∀ side, (w side).udp.Conducts
  asked : ∀ side, (w side).udp.asked = (w side).party.session.udp
  slim : ∀ side, (w side).party.session.Slim ∧ (w side).party.session.mtu.toNat ≤ 2081
  taken : ∀ side, ∀ packet ∈ (w side).udp.taken,
    ∃ sent ∈ (w side.peer).udp.sent, sent.bytes = packet.bytes

lemma joined_new (addr : Side → SocketAddr) (mtu : Side → UInt16) (ping receive : Side → Instant)
    (hmtu : ∀ side, 200 ≤ (mtu side).toNat ∧ (mtu side).toNat ≤ 2081) :
    (new addr mtu ping receive).Joined fun _ => .blank where
  agrees := Exchange.agrees_new addr mtu ping receive fun side => (hmtu side).2.trans (by decide)
  conducts _ := UdpActor.conducts_new
  asked _ := rfl
  slim side := ⟨Session.slim_new _ _ _ (hmtu side).1, (hmtu side).2⟩
  taken _ _ h := absurd h List.not_mem_nil

variable {w w' : Stations} {b : Side → Books}

/-- **What is forwarded** to a session has the bytes of a datagram that the other has sent. -/
lemma Joined.forwarded (h : w.Joined b) {side : Side} {msg : UdpPacket}
    (hmsg : msg ∈ (w side).udp.handler) :
    ∃ packet ∈ (w side.peer).party.session.udp, packet.bytes = msg.bytes := by
  obtain ⟨-, taken, htaken, rfl⟩ := (h.conducts side).exists_taken hmsg
  obtain ⟨sent, hsent, hbytes⟩ := h.taken side taken htaken
  have hasked : sent ∈ (w side.peer).party.session.udp := by
    rw [← h.asked side.peer]
    exact (h.conducts side.peer).sends.subset (by simp [hsent])
  refine ⟨sent, hasked, ?_⟩
  obtain ⟨hslim, hmtu⟩ := h.slim side.peer
  have hle := hslim.within.sent sent hasked
  show sent.bytes = taken.bytes.take 2048
  rw [← hbytes, List.take_of_length_le (by omega)]

/-- One side changes. -/
lemma exchange_update (w : Stations) (side : Side) (x : Station) :
    exchange (Function.update w side x) = Function.update w.exchange side x.party := by
  funext a
  by_cases ha : a = side
  · subst ha
    rw [exchange, Function.update_self, Function.update_self]
  · rw [exchange, Function.update_of_ne ha, Function.update_of_ne ha, exchange]

/-- **One side changes**: it takes in no more than what the other has sent, and what it has sent
stays so. -/
lemma Joined.update (h : w.Joined b) {side : Side} {x : Station} {b' : Side → Books}
    (hagrees : Exchange.Agrees (Function.update w.exchange side x.party) b')
    (hconducts : x.udp.Conducts) (hasked : x.udp.asked = x.party.session.udp)
    (hslim : x.party.session.Slim ∧ x.party.session.mtu.toNat ≤ 2081)
    (hsent : (w side).udp.sent <+: x.udp.sent)
    (htaken : ∀ packet ∈ x.udp.taken, packet ∈ (w side).udp.taken
      ∨ ∃ sent ∈ (w side.peer).udp.sent, sent.bytes = packet.bytes) :
    Joined (Function.update w side x) b' := by
  have hkept : ∀ a, (w a).udp.sent ⊆ (Function.update w side x a).udp.sent := by
    intro a
    by_cases ha : a = side
    · subst ha
      rw [Function.update_self]
      exact hsent.subset
    · rw [Function.update_of_ne ha]
      exact List.Subset.refl _
  have hother : ∀ (a : Side) (packet : UdpPacket),
      (∃ sent ∈ (w a).udp.sent, sent.bytes = packet.bytes) →
        ∃ sent ∈ (Function.update w side x a).udp.sent, sent.bytes = packet.bytes :=
    fun a packet hex => hex.imp fun sent hsent => hsent.imp_left (hkept a ·)
  refine ⟨exchange_update w side x ▸ hagrees, fun a => ?_, fun a => ?_, fun a => ?_,
    fun a packet hpacket => ?_⟩
  all_goals by_cases ha : a = side
  · subst ha
    rwa [Function.update_self]
  · rw [Function.update_of_ne ha]
    exact h.conducts a
  · subst ha
    rwa [Function.update_self]
  · rw [Function.update_of_ne ha]
    exact h.asked a
  · subst ha
    rwa [Function.update_self]
  · rw [Function.update_of_ne ha]
    exact h.slim a
  · subst ha
    rw [Function.update_self] at hpacket
    rcases htaken packet hpacket with hpacket | hex
    · exact hother _ packet (h.taken a packet hpacket)
    · exact hother _ packet hex
  · rw [Function.update_of_ne ha] at hpacket
    exact hother _ packet (h.taken a packet hpacket)

/-- **A session is called**, by its owner or with a datagram that was forwarded. -/
lemma Joined.call (h : w.Joined b) {side : Side} {op : Session.Op} {n : ℕ} {x : Station}
    (hop : w.exchange.Admissible (side, op))
    (hx : Station.call { w side with handled := n } op = .ok x) :
    ∃ b', Joined (Function.update w side x) b' := by
  obtain ⟨party, hparty, hx⟩ := bind_eq_ok.mp hx
  obtain ⟨udp, hudp, hx⟩ := bind_eq_ok.mp hx
  obtain rfl := Except.ok.inj hx
  have hcall : Exchange.step w.exchange (side, op)
      = .ok (Function.update w.exchange side party) := map_eq_ok.mpr ⟨party, hparty, rfl⟩
  obtain ⟨b', hagrees, -⟩ := h.agrees.step hop hcall
  obtain ⟨hasked, hsent, htaken⟩ := UdpActor.exec_sendUdp hudp
  obtain ⟨s, hs, hsession, -, -, -⟩ := Exchange.party_step hparty
  have hturn : (w side).party.session.turn op = .ok party.session :=
    bind_eq_ok.mpr ⟨s, hs, congrArg Except.ok hsession.symm⟩
  obtain ⟨hslim, hmtu⟩ := h.slim side
  obtain ⟨hslim', hmtu'⟩ := hslim.turn hop.1 hturn
  have hprefix : (w side).party.session.udp <+: party.session.udp := by
    have hgrown : (w side).party.session.udp <+: s.udp :=
      Session.sent_step hslim.within.ready hs
    rwa [hsession]
  refine ⟨b', h.update hagrees ((h.conducts side).of_exec hudp) ?_ ⟨hslim', hmtu' ▸ hmtu⟩
    (hsent ▸ List.prefix_rfl) fun packet hpacket => Or.inl (htaken ▸ hpacket)⟩
  show udp.asked = party.session.udp
  rw [hasked, h.asked side]
  exact List.prefix_iff_eq_append.mp hprefix

/-- **Step lemma**: every step keeps the sessions joined. -/
lemma Joined.step (h : w.Joined b) {a : Side × Station.Action} (ha : w.Admissible a)
    (hs : Stations.step w a = .ok w') : ∃ b', w'.Joined b' := by
  obtain ⟨side, action⟩ := a
  obtain ⟨x, hx, rfl⟩ := map_eq_ok.mp hs
  cases action with
  | call op =>
      have hop : Session.Short op ∧ Session.Pieced (w side).party.session.mtu op
          ∧ Exchange.Sent (w side.peer).party.session.udp op := by
        refine ⟨ha.2.1, ha.2.2, ?_⟩
        cases op with
        | handle env msg => exact absurd ha.1 Bool.true_eq_false.mp
        | _ => trivial
      exact h.call (n := (w side).handled) hop hx
  | hand env =>
      rw [Station.step, Station.hand] at hx
      split at hx
      · obtain rfl := Except.ok.inj hx
        rw [Function.update_eq_self]
        exact ⟨b, h⟩
      · rename_i msg hmsg
        have hsent := h.forwarded (List.mem_of_getElem? hmsg)
        have hop : w.exchange.Admissible (side, .handle env msg) := ⟨trivial, trivial, hsent⟩
        exact h.call hop hx
  | udp a =>
      obtain ⟨udp, hudp, rfl⟩ := map_eq_ok.mp hx
      obtain ⟨hasked, hsent, htaken⟩ := UdpActor.step_logs hudp
      obtain ⟨hnone, hgives⟩ := ha
      rw [hnone, Option.toList_none, List.append_nil] at hasked
      have hconducts : udp.Conducts := (h.conducts side).of_exec (Run.exec_singleton.mpr hudp)
      refine ⟨b, h.update ?_ hconducts (hasked.trans (h.asked side)) (h.slim side) hsent
        fun packet hpacket => (htaken packet hpacket).imp_right (hgives packet)⟩
      show Exchange.Agrees (Function.update w.exchange side (w.exchange side)) b
      rw [Function.update_eq_self]
      exact h.agrees

/-- **Conveyance over sockets**: whatever the owners of the two sessions call, whatever the tasks
and the sockets do, and whatever the network does with the datagrams but make them up, each side
has been told exactly the plain messages of the other before the first one that is missing, in
order. -/
theorem joined_conveys (addr : Side → SocketAddr) (mtu : Side → UInt16)
    (ping receive : Side → Instant)
    (hmtu : ∀ side, 200 ≤ (mtu side).toNat ∧ (mtu side).toNat ≤ 2081)
    (actions : List (Side × Station.Action))
    (hadmissible : Run.Along step Admissible (new addr mtu ping receive) actions) :
    Run.Always step
      (fun w => ∀ side : Side, Exchange.Conveyed (w side).party (w side.peer).party)
      (new addr mtu ping receive) actions := by
  have halways := Run.always_of_along (P := fun w : Stations => ∃ b, w.Joined b)
    (fun w a w' hw ha hs => hw.elim fun b h => h.step ha hs)
    ⟨_, joined_new addr mtu ping receive hmtu⟩ hadmissible
  exact halways.mono fun w hw side => hw.elim fun b h => (h.agrees side).conveyed

/-- The theorem for a packet that the left side sends and the right socket is given after a failure,
and twice. -/
theorem joined_conveys_sample :
    let addr : SocketAddr := .v4 ⟨127, 0, 0, 1⟩ 19132
    let packet : UdpPacket := ⟨[132, 0, 0, 0, 96, 0, 16, 0, 0, 0, 0, 0, 0, 0, 7, 1], addr⟩
    let start := new (fun _ => addr) (fun _ => 1495) (fun _ => 0) fun _ => 0
    let actions : List (Side × Station.Action) := [(.left, .udp .start), (.right, .udp .start),
      (.left, .call (.sendTo default [7, 1])), (.left, .call (.update default)),
      (.left, .udp .deliver), (.left, .udp (.transmit 0 true)), (.right, .udp .receiveErr),
      (.right, .udp .sendErr), (.right, .udp .deliver), (.right, .udp (.receive packet)),
      (.right, .udp (.receive packet)), (.right, .udp .deliver), (.right, .udp .deliver),
      (.right, .hand default), (.right, .hand default)]
    (Run.exec step start actions).map (fun w => (w .right).party.frames.map Frame.data)
        = .ok [[7, 1]]
      ∧ Run.Always step
        (fun w => ∀ side : Side, Exchange.Conveyed (w side).party (w side.peer).party) start
        actions :=
  ⟨by decide +kernel, joined_conveys _ _ _ _ (by decide) _ (by decide +kernel)⟩

end Stations

end ActixRaknet
