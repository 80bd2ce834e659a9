import ActixRaknet.EndToEnd.Ledger
import ActixRaknet.Session.Recital
/-!
Two sessions joined by a network, under all their calls.

* `Party`, `Exchange`: a session with the messages it has said, the frames that have arrived and
  what it has told its owner; two of them;
* `Exchange.step`: any call of either session; `Exchange.Admissible`: the network loses, repeats,
  reorders and delays datagrams, but makes none up;
* `Flow`: what ties the two sides together in one direction; `Exchange.Agrees`, `Agrees.step`;
* `Conveyed`: what has been passed on, what has been released and what is on its way;
* `conveys`: this is so in every state of every run.
-/

namespace ActixRaknet

open Fallible ReceivedQueue
open PacketQueue (Books)

/-- One side of an exchange. -/
structure Party where
  session : Session
  /-- The messages that the session has given order indices to. -/
  said : List Message
  /-- The frames of the datagrams that the session has handled. -/
  arrived : List Frame
  /-- What the session has posted to the actor that owns it. -/
  told : List ParentMsg

namespace Party

/-- A call of the session, by the actor that owns it. -/
def step (p : Party) (op : Session.Op) : Except Panic Party := do
  let session ← p.session.step op
  return {
    session := { session with parent := [] }
    said := p.said ++ p.session.messages op
    arrived := p.arrived ++ op.incoming
    told := p.told ++ session.parent }

/-- The packet queue of the session. -/
abbrev queue (p : Party) : PacketQueue := p.session.packetQueue

/-- How many messages of the other side have been released. -/
abbrev released (p : Party) : ℕ := p.session.received.min

/-- The frames that the session has passed on. -/
def frames (p : Party) : List Frame := p.told.filterMap ParentMsg.frame?

end Party

/-- Two sessions joined by a network. -/
abbrev Exchange := Side → Party

namespace Exchange

/-- Both sessions are new. -/
def new (addr : Side → SocketAddr) (mtu : Side → UInt16) (ping receive : Side → Instant) :
    Exchange :=
  fun side => ⟨.new (addr side) (mtu side) (ping side) (receive side), [], [], []⟩

/-- A call on one side. -/
def step (e : Exchange) (a : Side × Session.Op) : Except Panic Exchange :=
  Function.update e a.1 <$> (e a.1).step a.2

/-- A datagram that is handled is on the wire. -/
def Sent (wire : List UdpPacket) : Session.Op → Prop
  | .handle _ msg => ∃ packet ∈ wire, packet.bytes = msg.bytes
  | _ => True

/-- The network makes no datagrams up, system packets are short, and no buffer is cut into no
pieces. -/
def Admissible (e : Exchange) (a : Side × Session.Op) : Prop :=
  Session.Short a.2 ∧ Session.Pieced (e a.1).session.mtu a.2 ∧ Sent (e a.1.peer).session.udp a.2

instance : DecidablePred Session.Short
  | @Session.Op.sendSystemPacket _ _ _ packet _ =>
    Run.decidableNext (encode packet) fun body => body.length ≤ 100
  | .update _ => isTrue trivial
  | .forceFlush _ => isTrue trivial
  | .handle _ _ => isTrue trivial
  | .disconnect _ => isTrue trivial
  | .sendTo _ _ => isTrue trivial

instance (mtu : UInt16) : DecidablePred (Session.Pieced mtu)
  | .sendTo _ _ => inferInstanceAs (Decidable (_ ∨ _))
  | @Session.Op.sendSystemPacket _ _ _ _ _ => isTrue trivial
  | .update _ => isTrue trivial
  | .forceFlush _ => isTrue trivial
  | .handle _ _ => isTrue trivial
  | .disconnect _ => isTrue trivial

instance (wire : List UdpPacket) : DecidablePred (Sent wire)
  | .handle _ _ => inferInstanceAs (Decidable (∃ _ ∈ _, _))
  | @Session.Op.sendSystemPacket _ _ _ _ _ => isTrue trivial
  | .update _ => isTrue trivial
  | .forceFlush _ => isTrue trivial
  | .disconnect _ => isTrue trivial
  | .sendTo _ _ => isTrue trivial

instance (e : Exchange) : DecidablePred e.Admissible := fun _ =>
  inferInstanceAs (Decidable (_ ∧ _))

/-! ### What ties the two sides together -/

/-- The frame has come in. -/
def Arrives (p : Party) (f : Frame) : Prop := f ∈ p.arrived

/-- **The messages from `x` to `y`**: `x` speaks them and keeps what has not arrived at `y`, which
listens to them and may acknowledge what has arrived. -/
structure Flow (x y : Party) (bx bz : Books) : Prop where
  speaks : x.session.Speaks x.session.mtu x.said
  ledger : x.session.Ledger (Arrives y) (bz.Confirmed (Arrives x)) bz.emitted.length bx
  complete : ∀ k < x.said.length, ∀ l : List Frame, (∀ f ∈ bx.added, f ∈ l) →
    Arrived (carriers x.said) (ordered l) k
  listens : y.session.Listens x.said (ordered y.arrived) y.frames
  recites : y.session.Recites (Arrives y) x.said y.frames

/-- The two sides agree, for the books of the two packet queues. -/
def Agrees (e : Exchange) (b : Side → Books) : Prop :=
  ∀ side, Flow (e side) (e side.peer) (b side) (b side.peer)

variable {e e' : Exchange} {b : Side → Books} {x x' y : Party} {bx bx' bz : Books}

lemma agrees_new (addr : Side → SocketAddr) (mtu : Side → UInt16) (ping receive : Side → Instant)
    (hmtu : ∀ side, (mtu side).toNat ≤ 8191) : (new addr mtu ping receive).Agrees fun _ => .blank :=
  fun side =>
    { speaks := Session.speaks_new _ _ _ (hmtu side)
      ledger := Session.ledger_new _ _ _ _ _ _
      complete := fun _ hk => absurd hk (Nat.not_lt_zero _)
      listens := Session.listens_new List.Pairwise.nil _ _ _ _
      recites := Session.recites_new _ _ _ _ _ _ }

lemma Agrees.ready (h : e.Agrees b) (side : Side) : (e side).session.Ready := by
  have hready := (h side.peer).listens.ready
  rwa [Side.peer_peer] at hready

/-- A message arrives with the frames that carried it before, or with those that are new. -/
lemma arrived_grown {said more : List Message} {l : List Frame} {k : ℕ} (hk : k < said.length)
    (h : Arrived (carriers said) l k) : Arrived (carriers (said ++ more)) l k := by
  rw [Arrived, carriers_append hk]
  exact h

/-- What a call of a party leads to. -/
lemma party_step {op : Session.Op} (hs : x.step op = .ok x') :
    ∃ s, x.session.step op = .ok s ∧ x'.session = { s with parent := [] }
      ∧ x'.said = x.said ++ x.session.messages op ∧ x'.arrived = x.arrived ++ op.incoming
      ∧ x'.told = x.told ++ s.parent := by
  obtain ⟨s, hstep, hx⟩ := bind_eq_ok.mp hs
  obtain rfl := Except.ok.inj hx
  exact ⟨s, hstep, rfl, rfl, rfl, rfl⟩

/-- The frames that come in with a datagram on the wire. -/
lemma Sent.exists_packet {wire : List UdpPacket} {op : Session.Op} (h : Sent wire op) :
    ∀ f ∈ op.incoming, ∃ packet ∈ wire, f ∈ Session.arrives packet.bytes := by
  intro f hf
  cases op with
  | handle env msg =>
      obtain ⟨packet, hpacket, hbytes⟩ := h
      exact ⟨packet, hpacket, hbytes ▸ hf⟩
  | update => cases hf
  | forceFlush => cases hf
  | disconnect => cases hf
  | sendSystemPacket => cases hf
  | sendTo => cases hf

/-- **The speaker is called**: it keeps what its new messages are made of. -/
lemma Flow.speak (h : Flow x y bx bz) (hback : Flow y x bz bx) {op : Session.Op}
    (hshort : Session.Short op) (hpieced : Session.Pieced x.session.mtu op)
    (hsent : Sent y.session.udp op) (hs : x.step op = .ok x') :
    ∃ bx', Flow x' y bx' bz ∧ bx.Grows bx' := by
  obtain ⟨s, hstep, hsession, hsaid, harrived, -⟩ := party_step hs
  have hgrow : ∀ f, Arrives x f → Arrives x' f := fun f hf => by
    rw [Arrives, harrived]
    exact List.mem_append_left _ hf
  have hspeaks := h.speaks.step hback.listens.ready hshort hstep
  have hmsg : ∀ env msg, op = .handle env msg →
      Link.Traffic bz.emitted (bx.Confirmed (Arrives y)) bx.emitted.length msg.bytes
        ∧ ∀ fs ∈ bz.emitted, msg.bytes = fs.layout →
          fs.sequenceNumber < bz.emitted.length ∧ bz.Confirmed (Arrives x') fs.sequenceNumber := by
    rintro env msg rfl
    obtain ⟨packet, hpacket, hbytes⟩ := hsent
    refine ⟨hbytes ▸ hback.ledger.sent packet hpacket, fun fs hfs hlayout => ?_⟩
    rw [hback.ledger.owes.length_emitted]
    refine ⟨(hback.ledger.owes.emitted_eq hfs).1, fs, hfs, rfl, fun f hf => ?_⟩
    rw [Arrives, harrived, Session.Op.incoming, hlayout, (hback.ledger.emitted fs hfs).arrives]
    exact List.mem_append_right _ hf
  have hmono := h.ledger.mono (fun _ hf => hf) (fun _ hn => hn.mono (.refl bz) hgrow) le_rfl
  obtain ⟨bx', hledger, hgrows, huttered⟩ :=
    hmono.step h.speaks hback.listens.ready hshort hback.ledger.emitted hmsg hstep
  refine ⟨bx', ⟨?_, ?_, fun k hk l hl => ?_, ?_, ?_⟩, hgrows⟩
  · rw [hsession, hsaid]
    exact { hspeaks with
      mtu_eq := rfl
      mtu_le := hspeaks.mtu_eq ▸ hspeaks.mtu_le
      bears := hspeaks.bears.relabel rfl rfl
      faithful := hspeaks.mtu_eq ▸ hspeaks.faithful }
  · rw [hsession]
    exact hledger.withQueue (hledger.bears.relabel rfl rfl) hledger.owes (.refl bx') rfl rfl rfl
  · rw [hsaid] at hk ⊢
    by_cases hold : k < x.said.length
    · exact arrived_grown hold (h.complete k hold l fun f hf => hl f (hgrows.mem hf))
    · exact Session.arrived_uttered x.session hpieced h.speaks.orderIndex
        (fun f hf => hl f (huttered f hf)) (not_lt.mp hold) hk
  · rw [hsaid]
    exact h.listens.extend hspeaks.apart
  · rw [hsaid]
    exact h.recites.extend h.listens.min_le _

/-- What comes in are frames of the messages. -/
lemma Flow.tells (h : Flow x y bx bz) {op : Session.Op} (hsent : Sent x.session.udp op) :
    ∀ f ∈ op.incoming, f.Tells x.said := by
  intro f hf
  obtain ⟨packet, hpacket, hin⟩ := hsent.exists_packet f hf
  exact h.speaks.bears.sent packet hpacket f hin

/-- **The listener is called.** -/
lemma Flow.hear (h : Flow x y bx bz) {y' : Party} {bz' : Books} (hgrows : bz.Grows bz')
    {op : Session.Op} (hsent : Sent x.session.udp op) (hs : y.step op = .ok y') :
    Flow x y' bx bz' := by
  obtain ⟨s, hstep, hsession, -, harrived, htold⟩ := party_step hs
  have hframes : y'.frames = y.frames ++ s.posted := by
    rw [Party.frames, htold, List.filterMap_append]
    rfl
  have hgrow : ∀ f, Arrives y f → Arrives y' f := fun f hf => by
    rw [Arrives, harrived]
    exact List.mem_append_left _ hf
  have henters : ∀ f ∈ op.incoming, Arrives y' f := fun f hf => by
    rw [Arrives, harrived]
    exact List.mem_append_right _ hf
  refine ⟨h.speaks, h.ledger.mono hgrow (fun _ hn => hn.mono hgrows fun _ hf => hf)
    hgrows.emitted.length_le, h.complete, ?_, ?_⟩
  · rw [hsession, harrived, hframes, ordered_append]
    exact h.listens.step (h.tells hsent) hstep
  · rw [hsession, hframes]
    exact (h.recites.mono hgrow).step h.listens (h.tells hsent) henters hstep

/-- **Step lemma**: an admissible call keeps the two sides together. -/
lemma Agrees.step (h : e.Agrees b) {a : Side × Session.Op} (ha : e.Admissible a)
    (hs : Exchange.step e a = .ok e') :
    ∃ b', e'.Agrees b' ∧ ∀ side, (b side).Grows (b' side) := by
  obtain ⟨side, op⟩ := a
  obtain ⟨hshort, hpieced, hsent⟩ := ha
  obtain ⟨p, hp, rfl⟩ := map_eq_ok.mp hs
  have hout := h side
  have hin := h side.peer
  rw [Side.peer_peer] at hin
  obtain ⟨b', hspeak, hgrows⟩ := hout.speak hin hshort hpieced hsent hp
  have hhear := hin.hear hgrows hsent hp
  refine ⟨Function.update b side b', fun c => ?_, fun c => ?_⟩
  · rcases Side.eq_or_eq_peer side c with rfl | rfl
    · simpa [Side.peer_ne] using hspeak
    · simpa [Side.peer_ne] using hhear
  · rcases Side.eq_or_eq_peer side c with rfl | rfl
    · simpa using hgrows
    · simpa [Side.peer_ne] using Books.Grows.refl (b side.peer)

/-- **Run lemma**: the two sides stay together, and their books grow. -/
lemma Agrees.always (h : e.Agrees b) {actions : List (Side × Session.Op)}
    (hadmissible : Run.Along Exchange.step Admissible e actions) :
    Run.Always Exchange.step (fun t => ∃ b', t.Agrees b' ∧ ∀ side, (b side).Grows (b' side)) e
      actions := by
  refine Run.always_of_along (fun t a t' ht ha hs => ?_) ⟨b, h, fun side => .refl _⟩ hadmissible
  obtain ⟨b₁, h₁, hgrows⟩ := ht
  obtain ⟨b₂, h₂, hgrows₂⟩ := h₁.step ha hs
  exact ⟨b₂, h₂, fun side => (hgrows side).trans (hgrows₂ side)⟩

lemma Agrees.exec (h : e.Agrees b) {actions : List (Side × Session.Op)}
    (hadmissible : Run.Along Exchange.step Admissible e actions)
    (hs : Run.exec Exchange.step e actions = .ok e') :
    ∃ b', e'.Agrees b' ∧ ∀ side, (b side).Grows (b' side) :=
  Run.always_iff.mp (h.always hadmissible) actions [] e' (List.append_nil _).symm hs

/-! ### Every state of every run -/

/-- **What has become of the messages of `x`**: `y` has passed on the plain ones of those it has
released, in order and no others; these are the messages before the first whose frames have not all
arrived; and the frames of every message have arrived or are held by the queue of `x`. -/
structure Conveyed (x y : Party) : Prop where
  passed : (ordered y.frames).map Frame.data
    = (payloads x.said y.released).filter (Session.Plain ·)
  released_le : y.released ≤ x.said.length
  released : ∀ k < y.released, Arrived (carriers x.said) (ordered y.arrived) k
  missing : ¬Arrived (carriers x.said) (ordered y.arrived) y.released
  held : ∀ k < x.said.length, ∀ l : List Frame, (∀ f ∈ y.arrived, f ∈ l) →
    (∀ f ∈ x.queue.held, f ∈ l) → Arrived (carriers x.said) (ordered l) k
  faithful : ∀ m ∈ x.said, m.Faithful x.session.mtu

lemma Flow.conveyed (h : Flow x y bx bz) : Conveyed x y where
  passed := h.recites.recited
  released_le := h.listens.min_le
  released k hk := by
    obtain ⟨released, hs⟩ := h.listens.assembled
    exact hs.window.below k hk
  missing := by
    obtain ⟨released, hs⟩ := h.listens.assembled
    exact hs.least
  held k hk l harrived hheld := h.complete k hk l fun f hf =>
    (h.ledger.owes.arrived_or_held hf).elim (harrived f) (hheld f)
  faithful := h.speaks.faithful

/-- **Conveyance**: whatever calls the owners make, and whatever the network does with the datagrams
but make them up, each side has been told exactly the plain messages of the other that come before
the first one that is missing, and what has not arrived of a message is held. -/
theorem conveys (addr : Side → SocketAddr) (mtu : Side → UInt16) (ping receive : Side → Instant)
    (hmtu : ∀ side, (mtu side).toNat ≤ 8191) (actions : List (Side × Session.Op))
    (hadmissible : Run.Along step Admissible (new addr mtu ping receive) actions) :
    Run.Always step (fun e => ∀ side : Side, Conveyed (e side) (e side.peer))
      (new addr mtu ping receive) actions :=
  ((agrees_new addr mtu ping receive hmtu).always hadmissible).mono
    fun _ ⟨_, hb, _⟩ side => (hb side).conveyed

/-- A message of one datagram and one of three, whose datagrams arrive in another order and one of
them twice: they have been passed on in theirs, and the queue is empty once they are acknowledged.
-/
theorem conveys_sample :
    let addr : SocketAddr := .v4 ⟨127, 0, 0, 1⟩ 19132
    let whole : UdpPacket := ⟨[132, 3, 0, 0, 96, 0, 16, 0, 0, 0, 0, 0, 0, 0, 7, 1], addr⟩
    let part (i bits : UInt8) (body : Bytes) : UdpPacket :=
      ⟨[140, i, 0, 0, 112, 0, bits, i + 1, 0, 0, 1, 0, 0, 0, 0, 0, 0, 3, 0, 0, 0, 0, 0, i] ++ body,
        addr⟩
    let full := List.replicate 9 9
    let actions := [(Side.left, .sendTo default [7, 1]),
      (.left, .sendTo default (List.replicate 25 9)), (.left, .update default),
      (.right, .handle default (part 2 56 (List.replicate 7 9))),
      (.right, .handle default (part 0 72 full)), (.right, .handle default whole),
      (.right, .handle default (part 0 72 full)), (.right, .handle default (part 1 72 full)),
      (.right, .update default), (.left, .handle default ⟨[0xc0, 0, 1, 0, 0, 0, 0, 3, 0, 0], addr⟩)]
    let start := new (fun _ => addr) (fun _ => 70) (fun _ => 0) fun _ => 0
    (Run.exec step start actions).map (fun e =>
          ((e .right).frames.map Frame.data, (e .left).queue.queue.entries.length))
        = .ok ([[7, 1], List.replicate 25 9], 0)
      ∧ Run.Always step (fun e => ∀ side : Side, Conveyed (e side) (e side.peer)) start actions :=
  ⟨by decide +kernel, conveys _ _ _ _ (by decide) _ (by decide +kernel)⟩

end Exchange

end ActixRaknet
