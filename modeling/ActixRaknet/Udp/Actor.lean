import ActixRaknet.Library.Context
import ActixRaknet.Session.Bounds

/-!
`UdpActor` of `udp.rs`: the actor between the socket and the rest.

Its loop waits for the socket, and posts what comes in to the actor itself, which forwards it; every
datagram to send is a task of its own.  The order in which the tasks reach the socket is left open.

* `UdpActor` and its handlers, under the names of the source; `UdpActor.step`;
* `fit`: what the buffer of the loop holds of a datagram;
* `Conducts`: what has been forwarded, sent and waits; `Conducts.drained`: the actor gets back to
  the socket and forwards what it has taken in; `conducts`: so it is in every run, and none panics;
* `datagrams_pass`: what the handler is given was asked of another actor to send, byte for byte.
-/

namespace ActixRaknet

open Fallible

/-- The messages of a `UdpActor`: `UdpPacket`, which its loop posts, `SocketErr` and `SendUdp`. -/
inductive UdpMsg
  | udpPacket (packet : UdpPacket)
  | socketErr
  | sendUdp (packet : UdpPacket)
  deriving DecidableEq

/-- Where the loop of a `UdpActor` is: it waits for the socket, or for room in the mailbox for a
`SocketErr`, or for the answer; or it has been left. -/
inductive UdpLoop
  | recvFrom
  | send
  | answer
  | done
  deriving DecidableEq

/-- `UdpActor`, with its mailbox and the tasks it has spawned. -/
structure UdpActor where
  /-- The receiving half of the socket, until the loop has it. -/
  receiver : Option Unit
  recvHandle : Option UdpLoop
  mailbox : List UdpMsg
  /-- What has been forwarded to the handler. -/
  handler : List UdpPacket
  tasks : List UdpPacket
  /-- What the socket has sent, and what it has failed to send. -/
  sent : List UdpPacket
  failed : List UdpPacket
  /-- What the loop has taken from the socket. -/
  taken : List UdpPacket
  /-- What the actor has been asked to send. -/
  asked : List UdpPacket
  life : Life

namespace UdpActor

/-- `UdpActor::new`. -/
def new : UdpActor where
  receiver := some ()
  recvHandle := none
  mailbox := []
  handler := []
  tasks := []
  sent := []
  failed := []
  taken := []
  asked := []
  life := .created

/-- A message arrives. -/
def post (u : UdpActor) (msg : UdpMsg) : UdpActor := { u with mailbox := u.mailbox ++ [msg] }

/-- `UdpActor::started`. -/
def started (u : UdpActor) : Except Panic UdpActor := do
  let _ ← unwrap u.receiver
  return { u with receiver := none, recvHandle := some .recvFrom, life := .started }

/-- `UdpActor::stopped`. -/
def stopped (u : UdpActor) : Except Panic UdpActor := do
  let _ ← unwrap u.recvHandle
  return { u with recvHandle := none, life := .terminated }

/-- What `buff` holds of a datagram: its first 2048 bytes. -/
def fit (packet : UdpPacket) : UdpPacket := { packet with bytes := packet.bytes.take 2048 }

/-- `recv_from` has returned a datagram. -/
def received (u : UdpActor) (packet : UdpPacket) : UdpActor :=
  let u := { u with taken := u.taken ++ [packet] }
  if (fit packet).bytes.length ≠ 0 then u.post (.udpPacket (fit packet)) else u

/-- `Handler<SocketErr>`: whether to continue. -/
def handleSocketErr : Bool := true

/-- A message is handled. -/
def handle (u : UdpActor) : UdpMsg → UdpActor
  | .udpPacket packet => { u with handler := u.handler ++ [packet] }
  | .socketErr => { u with recvHandle := some (if handleSocketErr then .recvFrom else .done) }
  | .sendUdp packet => { u with tasks := u.tasks ++ [packet] }

/-- A task has got the sender, and the socket has sent the datagram, or failed to. -/
def transmit (u : UdpActor) (task : ℕ) (ok : Bool) : UdpActor :=
  match u.tasks[task]? with
  | none => u
  | some packet =>
    let u := { u with tasks := u.tasks.eraseIdx task }
    if ok then { u with sent := u.sent ++ [packet] } else { u with failed := u.failed ++ [packet] }

/-- What can happen next. -/
inductive Action
  | start
  /-- `recv_from` returns a datagram. -/
  | receive (packet : UdpPacket)
  /-- `recv_from` fails. -/
  | receiveErr
  /-- There is room for the `SocketErr`. -/
  | sendErr
  | sendUdp (packet : UdpPacket)
  | deliver
  | transmit (task : ℕ) (ok : Bool)
  | stop

/-- A step of the actor.  What cannot happen now changes nothing. -/
def step (u : UdpActor) : Action → Except Panic UdpActor
  | .start => if u.life = .created then u.started else .ok u
  | .receive packet => .ok (if u.recvHandle = some .recvFrom then u.received packet else u)
  | .receiveErr =>
    .ok (if u.recvHandle = some .recvFrom then { u with recvHandle := some .send } else u)
  | .sendErr =>
    .ok (if u.recvHandle = some .send then { u.post .socketErr with recvHandle := some .answer }
      else u)
  | .sendUdp packet => .ok { u.post (.sendUdp packet) with asked := u.asked ++ [packet] }
  | .deliver =>
    match u.life, u.mailbox with
    | .started, msg :: rest => .ok (handle { u with mailbox := rest } msg)
    | _, _ => .ok u
  | .transmit task ok => .ok (u.transmit task ok)
  | .stop => if u.life = .started then u.stopped else .ok u

end UdpActor

/-! ### Every state of every run -/

/-- The datagram in a message that the loop has posted. -/
@[simp] def UdpMsg.udpPacket? : UdpMsg → Option UdpPacket
  | .udpPacket packet => some packet
  | _ => none

/-- The datagram in a message that asks to send it. -/
@[simp] def UdpMsg.sendUdp? : UdpMsg → Option UdpPacket
  | .sendUdp packet => some packet
  | _ => none

namespace UdpActor

/-- What the handler is to be given of the datagrams: those that are not empty, as they fit. -/
def forwarded (packets : List UdpPacket) : List UdpPacket :=
  (packets.map fit).filter (·.bytes ≠ [])

/-- Where the loop is, by the life of the actor and the number of `SocketErr`s that wait. -/
inductive Listens : Life → Option UdpLoop → ℕ → Prop
  | created : Listens .created none 0
  | recvFrom : Listens .started (some .recvFrom) 0
  | send : Listens .started (some .send) 0
  | answer : Listens .started (some .answer) 1
  | terminated (n : ℕ) : Listens .terminated none n

/-- **What the actor does**: it forwards what it takes in, in order and once each, loses nothing
that it is asked to send but what the socket fails to send, and its loop is never left while it
runs. -/
structure Conducts (u : UdpActor) : Prop where
  forwards : u.handler ++ u.mailbox.filterMap UdpMsg.udpPacket? = forwarded u.taken
  sends : (u.sent ++ u.failed ++ u.tasks ++ u.mailbox.filterMap UdpMsg.sendUdp?).Perm u.asked
  listens : Listens u.life u.recvHandle (u.mailbox.count .socketErr)
  receiver : u.life = .created → u.receiver = some ()

lemma conducts_new : Conducts new := ⟨rfl, .refl _, .created, fun _ => rfl⟩

variable {u u' : UdpActor}

lemma Listens.of_recvFrom {life : Life} {n : ℕ} (h : Listens life (some .recvFrom) n) :
    life = .started ∧ n = 0 := by
  cases h
  exact ⟨rfl, rfl⟩

lemma Listens.of_send {life : Life} {n : ℕ} (h : Listens life (some .send) n) :
    life = .started ∧ n = 0 := by
  cases h
  exact ⟨rfl, rfl⟩

lemma Listens.answered {loop : Option UdpLoop} {n : ℕ} (h : Listens .started loop (n + 1)) :
    n = 0 := by
  cases h
  rfl

lemma Listens.of_created {loop : Option UdpLoop} {n : ℕ} (h : Listens .created loop n) :
    loop = none ∧ n = 0 := by
  cases h
  exact ⟨rfl, rfl⟩

lemma Listens.isSome {loop : Option UdpLoop} {n : ℕ} (h : Listens .started loop n) :
    ∃ l, loop = some l := by
  cases h <;> exact ⟨_, rfl⟩

/-- A datagram is taken in. -/
lemma Conducts.received (h : u.Conducts) (packet : UdpPacket) :
    (u.received packet).Conducts := by
  obtain ⟨hforwards, hsends, hlistens, hreceiver⟩ := h
  have happend : forwarded (u.taken ++ [packet]) = forwarded u.taken ++ forwarded [packet] := by
    simp [forwarded]
  rw [UdpActor.received]
  split_ifs with hlength
  · have hone : forwarded [packet] = [fit packet] := by
      simpa [forwarded] using List.length_eq_zero_iff.not.mp hlength
    refine ⟨?_, by simpa [post, List.filterMap_cons] using hsends,
      by simpa [post] using hlistens, hreceiver⟩
    show _ = forwarded (u.taken ++ [packet])
    rw [happend, hone, ← hforwards]
    simp [post]
  · have hnone : forwarded [packet] = [] := by
      simpa [forwarded] using List.length_eq_zero_iff.mp (not_not.mp hlength)
    refine ⟨?_, hsends, hlistens, hreceiver⟩
    show _ = forwarded (u.taken ++ [packet])
    rw [happend, hnone, List.append_nil]
    exact hforwards

/-- A message is handled. -/
lemma Conducts.handle (h : u.Conducts) (hlife : u.life = .started) {msg : UdpMsg}
    {rest : List UdpMsg} (hmail : u.mailbox = msg :: rest) :
    (UdpActor.handle { u with mailbox := rest } msg).Conducts := by
  obtain ⟨hforwards, hsends, hlistens, hreceiver⟩ := h
  rw [hmail] at hforwards hsends hlistens
  cases msg with
  | udpPacket packet =>
      refine ⟨?_, hsends, by simpa [UdpActor.handle] using hlistens, hreceiver⟩
      simpa [UdpActor.handle] using hforwards
  | socketErr =>
      rw [List.count_cons_self, hlife] at hlistens
      refine ⟨hforwards, hsends, ?_, hreceiver⟩
      show Listens u.life (some .recvFrom) (rest.count .socketErr)
      rw [hlife, hlistens.answered]
      exact .recvFrom
  | sendUdp packet =>
      refine ⟨hforwards, ?_, by simpa [UdpActor.handle] using hlistens, hreceiver⟩
      simpa [UdpActor.handle] using hsends

/-- A task reaches the socket. -/
lemma Conducts.transmit (h : u.Conducts) (task : ℕ) (ok : Bool) :
    (u.transmit task ok).Conducts := by
  rw [UdpActor.transmit]
  split
  · exact h
  · rename_i packet htask
    obtain ⟨hforwards, hsends, hlistens, hreceiver⟩ := h
    obtain ⟨hlt, hget⟩ := List.getElem?_eq_some_iff.mp htask
    have htasks : (packet :: u.tasks.eraseIdx task).Perm u.tasks :=
      hget ▸ List.getElem_cons_eraseIdx_perm hlt
    have hsends : (u.sent ++ u.failed ++ (packet :: u.tasks.eraseIdx task)
        ++ u.mailbox.filterMap UdpMsg.sendUdp?).Perm u.asked :=
      .trans ((htasks.append_left _).append_right _) hsends
    cases ok with
    | true =>
        refine ⟨hforwards, .trans (.append_right _ ?_) hsends, hlistens, hreceiver⟩
        -- the datagram goes from the tasks to those sent
        show ((u.sent ++ [packet]) ++ u.failed ++ u.tasks.eraseIdx task).Perm _
        simp only [List.append_assoc, List.singleton_append]
        exact List.perm_middle.symm.append_left _
    | false =>
        refine ⟨hforwards, .trans (.append_right _ ?_) hsends, hlistens, hreceiver⟩
        show (u.sent ++ (u.failed ++ [packet]) ++ u.tasks.eraseIdx task).Perm _
        rw [List.append_assoc, List.append_assoc, List.append_assoc]
        exact .refl _

/-- **Step lemma**: a step completes, and keeps to what the actor does. -/
lemma Conducts.step (h : u.Conducts) (a : Action) : ∃ u', u.step a = .ok u' ∧ u'.Conducts := by
  obtain ⟨hforwards, hsends, hlistens, hreceiver⟩ := h
  cases a with
  | start =>
      rw [UdpActor.step]
      split_ifs with hlife
      · rw [hlife] at hlistens
        rw [started, hreceiver hlife]
        refine ⟨_, rfl, hforwards, hsends, ?_, fun h => by cases h⟩
        show Listens .started _ (u.mailbox.count .socketErr)
        rw [hlistens.of_created.2]
        exact .recvFrom
      · exact ⟨u, rfl, hforwards, hsends, hlistens, hreceiver⟩
  | receive packet =>
      refine ⟨_, rfl, ?_⟩
      split_ifs
      · exact Conducts.received ⟨hforwards, hsends, hlistens, hreceiver⟩ packet
      · exact ⟨hforwards, hsends, hlistens, hreceiver⟩
  | receiveErr =>
      refine ⟨_, rfl, ?_⟩
      split_ifs with hrecv
      · rw [hrecv] at hlistens
        obtain ⟨hlife, hcount⟩ := hlistens.of_recvFrom
        refine ⟨hforwards, hsends, ?_, hreceiver⟩
        show Listens u.life _ (u.mailbox.count .socketErr)
        rw [hlife, hcount]
        exact .send
      · exact ⟨hforwards, hsends, hlistens, hreceiver⟩
  | sendErr =>
      refine ⟨_, rfl, ?_⟩
      split_ifs with hrecv
      · rw [hrecv] at hlistens
        obtain ⟨hlife, hcount⟩ := hlistens.of_send
        refine ⟨by simpa [post, List.filterMap_cons] using hforwards,
          by simpa [post, List.filterMap_cons] using hsends, ?_, hreceiver⟩
        show Listens u.life _ ((u.mailbox ++ [UdpMsg.socketErr]).count .socketErr)
        rw [List.count_append, hlife, hcount]
        exact .answer
      · exact ⟨hforwards, hsends, hlistens, hreceiver⟩
  | sendUdp packet =>
      refine ⟨_, rfl, by simpa [post, List.filterMap_cons] using hforwards, ?_,
        by simpa [post] using hlistens, hreceiver⟩
      simpa [post, List.filterMap_cons] using hsends.append_right [packet]
  | deliver =>
      rw [UdpActor.step]
      split
      · rename_i msg rest hlife hmail
        exact ⟨_, rfl, Conducts.handle ⟨hforwards, hsends, hlistens, hreceiver⟩ hlife hmail⟩
      · exact ⟨u, rfl, hforwards, hsends, hlistens, hreceiver⟩
  | transmit task ok =>
      exact ⟨_, rfl, Conducts.transmit ⟨hforwards, hsends, hlistens, hreceiver⟩ task ok⟩
  | stop =>
      rw [UdpActor.step]
      split_ifs with hlife
      · rw [hlife] at hlistens
        obtain ⟨loop, hloop⟩ := hlistens.isSome
        rw [stopped, hloop]
        exact ⟨_, rfl, hforwards, hsends, .terminated _, fun h => by cases h⟩
      · exact ⟨u, rfl, hforwards, hsends, hlistens, hreceiver⟩

/-- **Run lemma**: no run panics, and all keep to what the actor does. -/
lemma Conducts.exec (h : u.Conducts) (actions : List Action) :
    ∃ u', Run.exec UdpActor.step u actions = .ok u' ∧ u'.Conducts := by
  induction actions generalizing u with
  | nil => exact ⟨u, rfl, h⟩
  | cons a actions ih =>
      obtain ⟨v, hv, hconducts⟩ := h.step a
      obtain ⟨u', hu', hconducts'⟩ := ih hconducts
      exact ⟨u', Run.exec_cons.mpr ⟨v, hv, hu'⟩, hconducts'⟩

/-- The messages are handled until none waits. -/
lemma exec_deliver (hlife : u.life = .started) (hloop : u.recvHandle ≠ some .send) {n : ℕ}
    (hn : u.mailbox.length ≤ n) :
    ∃ u', Run.exec UdpActor.step u (List.replicate n .deliver) = .ok u' ∧ u'.mailbox = []
      ∧ u'.taken = u.taken ∧ u'.asked = u.asked ∧ u'.life = .started
      ∧ u'.recvHandle ≠ some .send := by
  induction n generalizing u with
  | zero => exact ⟨u, rfl, List.length_eq_zero_iff.mp (Nat.le_zero.mp hn), rfl, rfl, hlife, hloop⟩
  | succ n ih =>
      cases hmail : u.mailbox with
      | nil =>
          obtain ⟨u', hu', hrest⟩ := ih hlife hloop (by rw [hmail]; exact Nat.zero_le n)
          refine ⟨u', Run.exec_cons.mpr ⟨u, ?_, hu'⟩, hrest⟩
          simp only [UdpActor.step, hlife, hmail]
      | cons msg rest =>
          have hstep : u.step .deliver = .ok (UdpActor.handle { u with mailbox := rest } msg) := by
            simp only [UdpActor.step, hlife, hmail]
          obtain ⟨hmail', htaken, hasked, hlife', hloop'⟩ :
              (UdpActor.handle { u with mailbox := rest } msg).mailbox = rest
                ∧ (UdpActor.handle { u with mailbox := rest } msg).taken = u.taken
                ∧ (UdpActor.handle { u with mailbox := rest } msg).asked = u.asked
                ∧ (UdpActor.handle { u with mailbox := rest } msg).life = .started
                ∧ (UdpActor.handle { u with mailbox := rest } msg).recvHandle ≠ some .send := by
            cases msg with
            | udpPacket packet => exact ⟨rfl, rfl, rfl, hlife, hloop⟩
            | socketErr => exact ⟨rfl, rfl, rfl, hlife, by simp [UdpActor.handle, handleSocketErr]⟩
            | sendUdp packet => exact ⟨rfl, rfl, rfl, hlife, hloop⟩
          rw [hmail, List.length_cons] at hn
          obtain ⟨u', hu', hnil, htaken', hasked', hrest⟩ := ih hlife' hloop'
            (by rw [hmail']; omega)
          exact ⟨u', Run.exec_cons.mpr ⟨_, hstep, hu'⟩, hnil, htaken'.trans htaken,
            hasked'.trans hasked, hrest⟩

/-- **The actor gets back to the socket**: with room for a `SocketErr` and what waits handled, the
loop waits for a datagram, and all it has taken in has been forwarded. -/
lemma Conducts.drained (h : u.Conducts) (hlife : u.life = .started) :
    ∃ u', Run.exec UdpActor.step u
        (.sendErr :: List.replicate (u.mailbox.length + 1) .deliver) = .ok u'
      ∧ u'.recvHandle = some .recvFrom ∧ u'.handler = forwarded u.taken
      ∧ (u'.sent ++ u'.failed ++ u'.tasks).Perm u.asked := by
  obtain ⟨v, hv, hconducts⟩ := h.step .sendErr
  obtain ⟨hlife', hloop, htaken, hasked, hlength⟩ : v.life = .started ∧ v.recvHandle ≠ some .send
      ∧ v.taken = u.taken ∧ v.asked = u.asked ∧ v.mailbox.length ≤ u.mailbox.length + 1 := by
    obtain rfl := Except.ok.inj hv
    split_ifs with hsend
    · exact ⟨hlife, by simp, rfl, rfl, by simp [post]⟩
    · exact ⟨hlife, hsend, rfl, rfl, Nat.le_succ _⟩
  obtain ⟨u', hu', hmail, htaken', hasked', hlife'', hloop'⟩ := exec_deliver hlife' hloop hlength
  obtain ⟨w, hw, hconducts'⟩ := hconducts.exec (List.replicate (u.mailbox.length + 1) .deliver)
  obtain rfl := Except.ok.inj (hu'.symm.trans hw)
  obtain ⟨hforwards, hsends, hlistens, -⟩ := hconducts'
  rw [hmail] at hforwards hsends hlistens
  rw [hlife''] at hlistens
  refine ⟨u', Run.exec_cons.mpr ⟨v, hv, hu'⟩, ?_, ?_, ?_⟩
  · generalize u'.recvHandle = loop at hlistens hloop'
    generalize hn : ([] : List UdpMsg).count .socketErr = n at hlistens
    cases hlistens with
    | recvFrom => rfl
    | send => exact absurd rfl hloop'
    | answer => cases hn
  · rw [← htaken, ← htaken', ← hforwards]
    exact (List.append_nil _).symm
  · rw [← hasked, ← hasked']
    simpa using hsends

/-- **What the actor does in every run**, whatever the socket and the tasks do: it never panics;
what it forwards are the datagrams that have come in and are not empty, in order and once each, cut
to 2048 bytes; what it sends is what it was asked to send, each once at most; and no error of the
socket keeps it from the socket for good. -/
theorem conducts (actions : List Action) : ∃ u, Run.exec step new actions = .ok u ∧ u.Conducts
    ∧ (u.life = .started → ∃ u', Run.exec step u
        (.sendErr :: List.replicate (u.mailbox.length + 1) .deliver) = .ok u'
      ∧ u'.recvHandle = some .recvFrom ∧ u'.handler = forwarded u.taken
      ∧ (u'.sent ++ u'.failed ++ u'.tasks).Perm u.asked) := by
  obtain ⟨u, hu, hconducts⟩ := conducts_new.exec actions
  exact ⟨u, hu, hconducts, hconducts.drained⟩

/-! ### From one actor to another -/

/-- A datagram of the crate: a session whose mtu is at most 2076 has sent it, or it is short. -/
def Moderate (packet : UdpPacket) : Prop :=
  packet.bytes.length ≤ 2048 ∨ ∃ (addr : SocketAddr) (mtu : UInt16) (lastPing lastReceive : Instant)
    (ops : List Session.Op) (s : Session), 128 ≤ mtu.toNat ∧ mtu.toNat ≤ 2076
      ∧ (∀ op ∈ ops, Session.Usual op)
      ∧ Run.exec Session.step (.new addr mtu lastPing lastReceive) ops = .ok s ∧ packet ∈ s.udp

/-- The buffer of the loop has room for such a datagram. -/
lemma Moderate.fit {packet : UdpPacket} (h : Moderate packet) :
    packet.bytes.take 2048 = packet.bytes := by
  refine List.take_of_length_le ?_
  rcases h with hle | ⟨addr, mtu, lastPing, lastReceive, ops, s, hmtu, hmtu', hops, hs, hpacket⟩
  · exact hle
  · have hbound := Session.session_datagram_bound addr mtu lastPing lastReceive hmtu ops hops
    obtain ⟨-, -, hsent⟩ := Run.always_iff.mp hbound ops [] s (List.append_nil _).symm hs
    have hle := hsent packet hpacket
    omega

/-- What has been forwarded has come in. -/
lemma Conducts.exists_taken (h : u.Conducts) {packet : UdpPacket} (hpacket : packet ∈ u.handler) :
    packet.bytes ≠ [] ∧ ∃ taken ∈ u.taken, packet = UdpActor.fit taken := by
  have hmem : packet ∈ forwarded u.taken := by
    rw [← h.forwards]
    exact List.mem_append_left _ hpacket
  obtain ⟨hmem, hne⟩ := List.mem_filter.mp hmem
  obtain ⟨taken, htaken, rfl⟩ := List.mem_map.mp hmem
  exact ⟨by simpa using hne, taken, htaken, rfl⟩

/-- **From one handler to the other**: if a network makes no datagrams up, whatever the handler of
one actor is given was asked of the other to send, byte for byte, and is not empty, provided that
the other is asked to send datagrams of the crate. -/
theorem datagrams_pass {sender receiver : List Action} {a b : UdpActor}
    (ha : Run.exec step new sender = .ok a) (hb : Run.exec step new receiver = .ok b)
    (hnetwork : ∀ packet ∈ b.taken, ∃ sent ∈ a.sent, sent.bytes = packet.bytes)
    (hmoderate : ∀ packet ∈ a.asked, Moderate packet) :
    ∀ packet ∈ b.handler, packet.bytes ≠ [] ∧ ∃ asked ∈ a.asked, asked.bytes = packet.bytes := by
  obtain ⟨a', ha', hconducts⟩ := conducts_new.exec sender
  obtain rfl := Except.ok.inj (ha.symm.trans ha')
  obtain ⟨b', hb', hconducts'⟩ := conducts_new.exec receiver
  obtain rfl := Except.ok.inj (hb.symm.trans hb')
  intro packet hpacket
  obtain ⟨hne, taken, htaken, rfl⟩ := hconducts'.exists_taken hpacket
  obtain ⟨sent, hsent, hbytes⟩ := hnetwork taken htaken
  have hasked : sent ∈ a.asked := hconducts.sends.subset (by simp [hsent])
  refine ⟨hne, sent, hasked, ?_⟩
  show sent.bytes = taken.bytes.take 2048
  rw [← hbytes, (hmoderate sent hasked).fit]

/-- The theorem where a session sends a packet, and the receiving socket fails once and is then
given the datagram twice. -/
theorem datagrams_pass_sample :
    let addr : SocketAddr := .v4 ⟨127, 0, 0, 1⟩ 19132
    let packet : UdpPacket := ⟨[132, 0, 0, 0, 96, 0, 16, 0, 0, 0, 0, 0, 0, 0, 7, 1], addr⟩
    ∃ a b, Run.exec step new [.start, .sendUdp packet, .deliver, .transmit 0 true] = .ok a
      ∧ Run.exec step new [.start, .receiveErr, .sendErr, .deliver, .receive packet,
        .receive packet, .deliver] = .ok b
      ∧ b.handler = [packet]
      ∧ ∀ packet ∈ b.handler, packet.bytes ≠ []
        ∧ ∃ asked ∈ a.asked, asked.bytes = packet.bytes := by
  intro addr packet
  have hsession : (fun s : Session => s.udp) <$> Run.exec Session.step (.new addr 1495 0 0)
      [.sendTo default [7, 1], .forceFlush default] = .ok [packet] := by
    decide +kernel
  obtain ⟨s, hs, hudp⟩ := map_eq_ok.mp hsession
  have hmoderate : Moderate packet := by
    refine Or.inr ⟨addr, 1495, 0, 0, _, s, by decide, by decide, fun op hop => ?_, hs, ?_⟩
    · rw [List.mem_cons, List.mem_singleton] at hop
      rcases hop with rfl | rfl
      · exact .sendTo _ _
      · exact .forceFlush _
    · rw [hudp]
      exact List.mem_singleton_self packet
  have hsender : (fun a : UdpActor => (a.sent, a.asked)) <$> Run.exec step new
      [.start, .sendUdp packet, .deliver, .transmit 0 true] = .ok ([packet], [packet]) := by
    decide +kernel
  have hreceiver : (fun b : UdpActor => (b.taken, b.handler)) <$> Run.exec step new
      [.start, .receiveErr, .sendErr, .deliver, .receive packet, .receive packet, .deliver]
        = .ok ([packet, packet], [packet]) := by
    decide +kernel
  obtain ⟨a, ha, heq⟩ := map_eq_ok.mp hsender
  obtain ⟨hsent, hasked⟩ := Prod.mk.inj heq
  obtain ⟨b, hb, heq⟩ := map_eq_ok.mp hreceiver
  obtain ⟨htaken, hhandler⟩ := Prod.mk.inj heq
  refine ⟨a, b, ha, hb, hhandler, datagrams_pass ha hb ?_ ?_⟩
  · rw [htaken, hsent]
    decide
  · rw [hasked]
    exact fun p hp => List.mem_singleton.mp hp ▸ hmoderate

end UdpActor

end ActixRaknet
