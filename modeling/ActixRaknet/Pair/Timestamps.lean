import ActixRaknet.Pair.Origins

/-!
The addresses and the timestamps of the handshake.

* `Opening`, `Lane.opening?`: the first message that the connection takes for one of the handshake;
* `Pair.Handshaken`: the new incoming connection for which the server tells `Connected` has the
  address that the client has dialled, and the pair of an accept that answers a request of the
  client;
* `Pair.Punctual`: the two timestamps of the accept that the client takes up are equal;
  `Pair.Candid`: no packet of a user is made up as one of the handshake, and the client's user
  does not dial another address in between;
* `Pair.Vouched`: whatever comes first is a new incoming connection as it should be, `Vouched.step`;
* `handshaken_of_punctual`: so it is when the connection is told.
-/

namespace ActixRaknet

open Fallible ReceivedQueue

/-! ### The first message of the handshake -/

/-- A pending connection acts on the bytes: they are those of a connection request, or of a new
incoming connection. -/
def Opening (body : Bytes) : Prop :=
  (body.head? = some (Packet.ID ConnectionRequest)
      ∧ ∃ request, decode ConnectionRequest body = .ok (.ok request))
    ∨ body.head? = some (Packet.ID NewIncomingConnection)
      ∧ ∃ connected, decode NewIncomingConnection body = .ok (.ok connected)

instance : DecidablePred Opening := fun _ => inferInstanceAs (Decidable ((_ ∧ _) ∨ _ ∧ _))

lemma Opening.plain {body : Bytes} (h : Opening body) : Session.Plain body := by
  have hother : ∀ id, body.head? = some id → id ≠ Packet.ID ConnectedPing →
      id ≠ Packet.ID ConnectedPong → id ≠ Packet.ID Disconnected → Session.Plain body := by
    intro id hid hping hpong hdisconnected
    rw [Session.Plain, hid]
    exact ⟨mt Option.some.inj hping, mt Option.some.inj hpong, mt Option.some.inj hdisconnected⟩
  rcases h with ⟨hid, -⟩ | ⟨hid, -⟩
  · exact hother _ hid (by decide) (by decide) (by decide)
  · exact hother _ hid (by decide) (by decide) (by decide)

/-- The first message of the lane that is an opening. -/
def Lane.opening? (l : Lane) : Option Bytes := (l.said.map Message.payload).find? (Opening ·)

lemma Lane.opening?_eq_none {l : Lane} :
    l.opening? = none ↔ ∀ m ∈ l.said, ¬Opening m.payload := by
  rw [Lane.opening?, List.find?_map, Option.map_eq_none_iff, List.find?_eq_none]
  exact forall₂_congr fun m _ => by rw [Function.comp, decide_eq_true_eq]

lemma Lane.opening?_append {l l' : Lane} {more : List Message} (h : l'.said = l.said ++ more) :
    l'.opening? = l.opening?.or ((more.map Message.payload).find? (Opening ·)) := by
  rw [Lane.opening?, h, List.map_append, List.find?_append, Lane.opening?]

/-- A new incoming connection, if nothing has come before. -/
lemma Lane.opening?_incoming {l l' : Lane} (hnone : l.opening? = none) {body : Bytes}
    {connected : NewIncomingConnection} (hid : body.head? = some (Packet.ID NewIncomingConnection))
    (hdecode : decode NewIncomingConnection body = .ok (.ok connected))
    (h : l'.said = l.said ++ [.system body]) : l'.opening? = some body := by
  have hopening : Opening body := Or.inr ⟨hid, connected, hdecode⟩
  rw [Lane.opening?_append h, hnone, Option.none_or, List.map_singleton]
  exact List.find?_cons_of_pos (p := fun body => decide (Opening body)) (decide_eq_true hopening)

/-- The new incoming connection is the only message of the two calls. -/
lemma Session.spoken_incoming (s : Session) (env : Env) {connected : NewIncomingConnection}
    {body : Bytes} (hbody : encode connected = .ok body) :
    s.spoken [.sendSystemPacket env NewIncomingConnection connected .reliableOrdered,
      .forceFlush env] = [.system body] := by
  rw [spoken, messages, hbody]
  cases s.turn (.sendSystemPacket env NewIncomingConnection connected .reliableOrdered) with
  | error e => rfl
  | ok t => exact congrArg _ (t.spoken_singleton _)

section Opening

variable {out inn : Lane} {s : Session} {log : List Frame}

/-- The first opening that is passed on in order is the first one of the messages. -/
lemma Traced.opening?_eq (h : Traced out inn s log) {body : Bytes}
    (hbody : ((ordered log).map Frame.data).find? (Opening ·) = some body) :
    inn.opening? = some body := by
  rw [h.recites.recited, List.find?_filter] at hbody
  have hopening : (fun body => decide (decide (Session.Plain body) = true
      ∧ decide (Opening body) = true)) = fun body => decide (Opening body) := by
    funext body
    exact decide_eq_decide.mpr ⟨fun hboth => of_decide_eq_true hboth.2,
      fun hopening => ⟨decide_eq_true hopening.plain, decide_eq_true hopening⟩⟩
  rw [hopening] at hbody
  rw [Lane.opening?, ← List.take_append_drop s.received.min inn.said, List.map_append,
    List.find?_append]
  exact Option.or_eq_some_iff.mpr (Or.inl hbody)

/-- An ordered frame that is an opening shows that there is a first one. -/
lemma Traced.opening?_ne_none (h : Traced out inn s log) {f : Frame} (hf : f ∈ log)
    (hordered : f.reliability.sequencedOrOrdered = true) (hopening : Opening f.data) :
    inn.opening? ≠ none := by
  obtain ⟨m, hm, hpayload⟩ := h.recites.exists_message hf hordered
  intro hnone
  exact Lane.opening?_eq_none.mp hnone m hm (hpayload ▸ hopening)

end Opening

namespace Pair

/-! ### What is agreed on -/

/-- The server has sent the accept. -/
def Accepted (p : Pair) (accept : ConnectionRequestAccepted) : Prop :=
  ∃ m ∈ p.down.said, m.user = false
    ∧ m.body.head? = some (Packet.ID ConnectionRequestAccepted)
    ∧ decode ConnectionRequestAccepted m.body = .ok (.ok accept)

/-- The client has sent a connection request at the time: it is on the wire, outside the order of
the messages. -/
def Requested (p : Pair) (time : Int64) : Prop :=
  ∃ f request, p.up.OnWire f ∧ f.reliability.sequencedOrOrdered = false
    ∧ f.data.head? = some (Packet.ID ConnectionRequest)
    ∧ decode ConnectionRequest f.data = .ok (.ok request) ∧ request.time = time

/-- The new incoming connection has the address that the client has dialled, and the pair of one
accept of the server, which answers a request of the client. -/
def Answers (p : Pair) (dialled : SocketAddr) (connected : NewIncomingConnection) : Prop :=
  connected.serverAddress = dialled
    ∧ ∃ accept, p.Accepted accept ∧ accept.requestTimestamp = connected.requestTimestamp
      ∧ accept.acceptedTimestamp = connected.acceptedTimestamp
      ∧ p.Requested accept.requestTimestamp

/-- **The two sides agree on the handshake**: when a turn of the connection tells `Connected`, the
new incoming connection that it has decoded is as it should be. -/
def Handshaken (dialled : SocketAddr) (p : Pair) : Prop :=
  ∀ op conn handle, p.conn.turn op = .ok conn →
    conn.sent = p.conn.sent ++ [.event (.connected handle)] →
    ∃ connected, p.conn.incoming? = some connected ∧ p.Answers dialled connected

/-! ### The steps -/

/-- The client awaits an accept. -/
def Awaiting (p : Pair) : Prop := p.session.isSome ∧ p.client.disconnectHandle.isSome

instance (p : Pair) : Decidable p.Awaiting := inferInstanceAs (Decidable (_ ∧ _))

/-- While the client awaits an accept, its user sends nothing that the connection would act on, and
does not have it connect to another address; and the user of the server sends nothing before it is
told `Connected`, which gives it the handle to send with. -/
def Candid (dialled : SocketAddr) (p : Pair) : Action → Prop
  | .client (.call _ (.connect addr)) => p.Awaiting → addr = dialled
  | .client (.call _ (.packet bytes)) => p.Awaiting →
    ∀ s ∈ p.session, ¬Opening (s.carrierOf bytes).payload
  | .conn (.act (.deliver _)) => p.conn.disconnectHandle.isSome → p.conn.nextPacket? = none
  | _ => True

instance (dialled : SocketAddr) (p : Pair) : DecidablePred (p.Candid dialled)
  | .client (.call _ (.packet _)) => inferInstanceAs (Decidable (_ → ∀ _ ∈ _, ¬_))
  | .client (.call _ (.connect _)) => inferInstanceAs (Decidable (_ → _))
  | .client (.call _ .disconnect) => inferInstanceAs (Decidable True)
  | .client (.receivedUdp _ _) => inferInstanceAs (Decidable True)
  | .client (.deliver _) => inferInstanceAs (Decidable True)
  | .client (.fire _ _) => inferInstanceAs (Decidable True)
  | .client (.mediator _ _) => inferInstanceAs (Decidable True)
  | .conn (.receive _) => inferInstanceAs (Decidable True)
  | .conn (.act .start) => inferInstanceAs (Decidable True)
  | .conn (.act (.deliver _)) => inferInstanceAs (Decidable (_ → _))
  | .conn (.act (.fire _ _)) => inferInstanceAs (Decidable True)
  | .conn (.act (.send _)) => inferInstanceAs (Decidable True)
  | .conn (.act .disconnect) => inferInstanceAs (Decidable True)

/-- The client takes up an accept only with two timestamps that are equal. -/
def Punctual (p : Pair) : Action → Prop
  | .client a => p.session.isSome →
    ∀ accept ∈ p.client.accept? a, accept.acceptedTimestamp = accept.requestTimestamp
  | .conn _ => True

instance (p : Pair) : DecidablePred p.Punctual
  | .client _ => inferInstanceAs (Decidable (_ → ∀ _ ∈ _, _))
  | .conn _ => inferInstanceAs (Decidable True)

/-- **The handshake begins**: the client has just got its session, for an IPv4 address that it has
dialled, no accept of an earlier session waits in its mailbox, and the user of the server has sent
it nothing. -/
structure Fresh (dialled : SocketAddr) (p : Pair) : Prop where
  opened : p.Opened
  remote : p.client.remote = some dialled
  ipv4 : dialled.isIpv4 = true
  addr : p.conn.addr.isIpv4 = true
  waiting : ∀ f ∈ p.client.waiting, ¬f.Accepts
  unused : ∀ m ∈ p.down.said, m.user = false

/-! ### What the two sides can vouch for -/

/-- **The handshake is vouched for**: the first opening of the client is a new incoming connection
as it should be; until there is one the client awaits an accept of the address that it has dialled;
and until then every accept answers a request of the client. -/
structure Vouched (dialled : SocketAddr) (p : Pair) : Prop where
  addr : p.conn.addr.isIpv4 = true
  ipv4 : dialled.isIpv4 = true
  first : ∀ body, p.up.opening? = some body → body.head? = some (Packet.ID NewIncomingConnection)
    ∧ ∃ connected, decode NewIncomingConnection body = .ok (.ok connected)
      ∧ p.Answers dialled connected
  awaits : p.Awaiting → p.up.opening? = none ∧ p.client.remote = some dialled
  accepts : p.up.opening? = none → ∀ m ∈ p.down.said,
    m.payload.head? = some (Packet.ID ConnectionRequestAccepted) → m.user = false
      ∧ ∀ accept, decode ConnectionRequestAccepted m.payload = .ok (.ok accept) →
        p.Requested accept.requestTimestamp

variable {handle : ConnectionHandle} {earlier : List Bytes} {dialled : SocketAddr} {p p' : Pair}

/-- The accepts and the requests of before are there. -/
lemma Answers.mono {connected : NewIncomingConnection} (h : p.Answers dialled connected)
    (hsaid : p.down.said ⊆ p'.down.said) (honwire : ∀ f, p.up.OnWire f → p'.up.OnWire f) :
    p'.Answers dialled connected := by
  obtain ⟨haddr, accept, ⟨m, hm, haccept⟩, hrequest, haccepted, f, request, hf, hrequested⟩ := h
  exact ⟨haddr, accept, ⟨m, hsaid hm, haccept⟩, hrequest, haccepted, f, request, honwire f hf,
    hrequested⟩

lemma Requested.mono {time : Int64} (h : p.Requested time)
    (honwire : ∀ f, p.up.OnWire f → p'.up.OnWire f) : p'.Requested time := by
  obtain ⟨f, request, hf, hrequested⟩ := h
  exact ⟨f, request, honwire f hf, hrequested⟩

/-- **A new incoming connection that a pending connection takes up** is the first opening. -/
lemma Vouched.opening?_of_announces (h : p.Vouched dialled) (htraces : p.Traces)
    (hserved : p.Served handle) (hlife : p.conn.life = .started)
    (hpending : p.conn.disconnectHandle.isSome) {frame : Frame}
    (hnext : p.conn.nextFrame? = some frame) (hframe : frame.Announces) :
    p.up.opening? = some frame.data := by
  obtain ⟨before, waiting, hframes, hbefore⟩ := hserved.frames_of_pending hlife hpending hnext
  have hframe_mem : frame ∈ p.conn.view.frames := by
    rw [hframes]
    exact List.mem_append_right _ List.mem_cons_self
  have hordered := htraces.toSourced.ordered_of_announces hframe_mem hframe
  have hsplit : (ordered p.conn.view.frames).map Frame.data
      = (ordered before).map Frame.data ++ frame.data :: (ordered waiting).map Frame.data := by
    have htake : ordered (frame :: waiting) = frame :: ordered waiting :=
      List.filter_cons_of_pos hordered
    calc (ordered p.conn.view.frames).map Frame.data
        = (ordered before ++ ordered (frame :: waiting)).map Frame.data := by
          rw [hframes, ordered_append]
      _ = (ordered before).map Frame.data ++ frame.data :: (ordered waiting).map Frame.data := by
          rw [htake, List.map_append, List.map_cons]
  refine htraces.conn.opening?_eq ?_
  rw [hsplit, List.find?_append]
  cases hfirst : ((ordered before).map Frame.data).find? (Opening ·) with
  | none =>
      have hopening : Opening frame.data := Or.inr hframe
      exact List.find?_cons_of_pos (p := fun body => decide (Opening body))
        (decide_eq_true hopening)
  -- an opening before would be the first, and so announce the connection
  | some body =>
      have hopening : p.up.opening? = some body := by
        refine htraces.conn.opening?_eq ?_
        rw [hsplit, List.find?_append, hfirst]
        rfl
      obtain ⟨hid, connected, hdecode, -⟩ := h.first body hopening
      obtain ⟨f, hf, rfl⟩ := List.mem_map.mp (List.mem_of_find?_eq_some hfirst)
      exact absurd ⟨hid, connected, hdecode⟩ (hbefore f (List.mem_of_mem_filter hf))

/-- **What the connection tells**: the new incoming connection is as it should be. -/
lemma Vouched.handshaken (h : p.Vouched dialled) (htraces : p.Traces) (hserved : p.Served handle) :
    p.Handshaken dialled := by
  intro op conn connectedHandle hturn hsent
  obtain ⟨frame, connected, hlife, hpending, hnext, hid, hdecode⟩ :=
    ServerConn.turn_connected hturn hsent
  have hopening := h.opening?_of_announces htraces hserved hlife hpending hnext
    ⟨hid, connected, hdecode⟩
  obtain ⟨-, connected', hdecode', hanswers⟩ := h.first _ hopening
  obtain rfl : connected = connected' :=
    Except.ok.inj (Except.ok.inj (hdecode.symm.trans hdecode'))
  refine ⟨connected, ?_, hanswers⟩
  rw [ServerConn.incoming?, hnext]
  simp only [hdecode]

/-! ### A turn of the connection -/

/-- What the connection takes up of a frame that is an opening, before the client has said one, is a
connection request on the wire. -/
lemma requested_of_nextFrame? (htraces : p.Traces) (hserved : p.Served handle)
    (hnone : p.up.opening? = none) (hlife : p.conn.life = .started)
    (hpending : p.conn.disconnectHandle.isSome) {frame : Frame} {request : ConnectionRequest}
    (hnext : p.conn.nextFrame? = some frame)
    (hid : frame.data.head? = some (Packet.ID ConnectionRequest))
    (hdecode : decode ConnectionRequest frame.data = .ok (.ok request)) :
    p.Requested request.time := by
  obtain ⟨before, waiting, hframes, -⟩ := hserved.frames_of_pending hlife hpending hnext
  have hframe : frame ∈ p.conn.view.frames := by
    rw [hframes]
    exact List.mem_append_right _ List.mem_cons_self
  have hordered : frame.reliability.sequencedOrOrdered = false := by
    by_contra hnot
    exact htraces.conn.opening?_ne_none hframe (eq_true_of_ne_false hnot)
      (Or.inl ⟨hid, request, hdecode⟩) hnone
  have hwire := htraces.conn.recites.others frame hframe hordered
  exact ⟨frame, request, hwire, hordered, hid, hdecode, rfl⟩

/-- Before the client has said an opening, a living connection is pending. -/
lemma pending_of_opening? (htraces : p.Traces) (hserved : p.Served handle)
    (hnone : p.up.opening? = none) (hlife : p.conn.life = .started) :
    p.conn.disconnectHandle.isSome := by
  by_contra hnot
  have halive : p.conn.life ≠ .terminated := by rw [hlife]; decide
  obtain ⟨before, f, after, hview, -, hf⟩ := hserved.telling.2.of_connected
    (ServerConn.view_alive halive) (ServerConn.view_pending (Option.not_isSome_iff_eq_none.mp hnot))
  have hframe : f ∈ p.conn.view.frames := by
    rw [congrArg ServerConn.View.frames hview]
    exact List.mem_append_right _ List.mem_cons_self
  have hordered := htraces.toSourced.ordered_of_announces hframe hf
  exact htraces.conn.opening?_ne_none hframe hordered (Or.inr hf) hnone

/-- A turn of the connection: its accepts answer requests of the client. -/
lemma Vouched.conn_step (h : p.Vouched dialled) (htraces : p.Traces) (hserved : p.Served handle)
    {op : ServerConn.Op} (hcandid : p.Candid dialled (.conn op))
    (hs : p.step (.conn op) = .ok p') : p'.Vouched dialled := by
  obtain ⟨conn, hconn, hp⟩ := bind_eq_ok.mp hs
  rw [RakClient.mapError_eq_ok] at hconn
  obtain rfl := Except.ok.inj hp
  have hsaid : p.down.said ⊆ (p.connMoves (p.conn.sessionOps op) conn).down.said :=
    List.subset_append_left _ _
  refine ⟨?_, h.ipv4, fun body hbody => ?_, h.awaits, fun hnone m hm hid => ?_⟩
  · exact (congrArg _ (ServerConn.turn_conducts hconn).1.2).trans h.addr
  · obtain ⟨hid, connected, hdecode, hanswers⟩ := h.first body hbody
    exact ⟨hid, connected, hdecode, hanswers.mono hsaid fun _ hf => hf⟩
  · rcases List.mem_append.mp hm with hm' | hm'
    · exact h.accepts hnone m hm' hid
    · rcases ServerConn.mem_spoken hm' with rfl | ⟨huser, hlife, hnext, env, rfl⟩
        | ⟨env, frame, request, body, hlife, hpending, hnext, hrequest, hdecode, hbody, rfl⟩
      · cases hid
      · have hpending := pending_of_opening? htraces hserved hnone hlife
        cases (hcandid hpending).symm.trans hnext
      · refine ⟨rfl, fun accept haccept => ?_⟩
        have hrequested :=
          requested_of_nextFrame? htraces hserved hnone hlife hpending hnext hrequest hdecode
        let answer := ConnectionRequestAccepted.new p.conn.addr request.time env.acceptTime
        have hread : decode ConnectionRequestAccepted body = .ok (.ok answer) := by
          rw [← Except.ok.inj ((encode_eq (writes_accepted answer)).symm.trans hbody)]
          exact read_accepted (p := answer) h.addr _
        obtain rfl : answer = accept := Except.ok.inj (Except.ok.inj (hread.symm.trans haccept))
        exact hrequested

/-! ### A step of the client -/

/-- The client has announced the connection, or it awaits an accept. -/
lemma awaiting_of_opening? (hagrees : p.Agrees earlier handle) (hsession : p.session.isSome)
    (hnone : p.up.opening? = none) : p.Awaiting := by
  refine ⟨hsession, Option.ne_none_iff_isSome.mp fun haccepted => ?_⟩
  obtain ⟨m, hm, body, connected, rfl, hdecode⟩ := hagrees.announced hsession haccepted
  exact Lane.opening?_eq_none.mp hnone _ hm (Or.inr ⟨List.head?_cons, connected, hdecode⟩)

/-- The accept that the client takes up is one that the server has sent for a request of the client.
-/
lemma Vouched.accepted (h : p.Vouched dialled) (htraces : p.Traces)
    (hagrees : p.Agrees earlier handle) {s : Session} (hsession : p.session = some s)
    (hnone : p.up.opening? = none) {frame : Frame} {accept : ConnectionRequestAccepted}
    (hframe : frame ∈ p.client.waiting) (hid : frame.IsAccept)
    (hdecode : decode ConnectionRequestAccepted frame.data = .ok (.ok accept)) :
    p.Accepted accept ∧ p.Requested accept.requestTimestamp := by
  obtain ⟨log, htraced, hwaiting⟩ := htraces.client s hsession
  have hpassed := hwaiting frame hframe ⟨hid, accept, hdecode⟩
  have hordered : frame.reliability.sequencedOrOrdered = true := by
    by_contra hnot
    have hwire := htraced.recites.others frame hpassed (eq_false_of_ne_true hnot)
    exact hnot ((htraces.down frame hwire).ordered_of_accepts ⟨hid, accept, hdecode⟩)
  obtain ⟨m, hm, hpayload⟩ := htraced.recites.exists_message hpassed hordered
  rw [Frame.IsAccept, ← hpayload] at hid
  rw [← hpayload] at hdecode
  obtain ⟨huser, hrequested⟩ := h.accepts hnone m hm hid
  have hbody := (hagrees.down.faithful m hm).whole (Or.inl huser)
  exact ⟨⟨m, hm, huser, hbody ▸ hid, hbody ▸ hdecode⟩, hrequested accept hdecode⟩

/-- Without an accept the client says no opening, before it has said one. -/
lemma not_opening_of_accept?_eq_none (hawaiting : p.Awaiting) {a : RakClient.Action}
    (hcandid : p.Candid dialled (.client a)) {client : RakClient}
    (hclient : p.client.step a = .ok client) (hsuccess : p.client.success? a = none)
    (haccept : p.client.accept? a = none) {s : Session} (hsession : p.session = some s)
    {m : Message} (hm : m ∈ s.spoken (p.client.sessionOps a)) : ¬Opening m.payload := by
  obtain ⟨t, op, hop, hmessage⟩ := Session.mem_spoken hm
  have hquiet := (RakClient.step_of_accept?_eq_none haccept hsuccess hclient).2 op hop
  rcases hquiet.messages hmessage with rfl | ⟨env, buff, rfl, -⟩
  · rintro (⟨hid, -⟩ | ⟨hid, -⟩) <;> cases hid
  · obtain ⟨env', rfl⟩ := RakClient.call_of_sendTo hop
    rw [RakClient.sessionOps, Session.spoken_singleton] at hm
    obtain rfl := List.mem_singleton.mp hm
    exact hcandid hawaiting s hsession

section Moves

variable {a : RakClient.Action} {client : RakClient} {s : Session}

/-- **The client takes up an accept**: its first opening is the new incoming connection. -/
lemma Vouched.accept_step (h : p.Vouched dialled) (htraces : p.Traces)
    (hagrees : p.Agrees earlier handle) {accept : ConnectionRequestAccepted}
    (haccept : p.client.accept? a = some accept) (hpunctual : p.Punctual (.client a))
    (hclient : p.client.step a = .ok client) (hsession : p.session = some s)
    (hp' : p'.client = client) (hconn : p'.conn = p.conn)
    (hup : p'.up.said = p.up.said ++ s.spoken (p.client.sessionOps a))
    (hdown : p'.down.said = p.down.said) (honwire : ∀ f, p.up.OnWire f → p'.up.OnWire f) :
    p'.Vouched dialled := by
  have hisSome : p.session.isSome := Option.isSome_of_mem hsession
  obtain ⟨env, remote, hremote, hcancelled, ⟨frame, hframe, hid, hdecode⟩, hops⟩ :=
    RakClient.step_accept haccept hclient
  obtain ⟨_, _, _, _, timer, -, htimer, -⟩ := RakClient.accept?_eq_some.mp haccept
  obtain ⟨hnone, hdialled⟩ := h.awaits ⟨hisSome, Option.isSome_of_mem htimer⟩
  obtain rfl := Option.some.inj (hremote.symm.trans hdialled)
  obtain ⟨⟨m, hm, haccepted⟩, hrequested⟩ :=
    h.accepted htraces hagrees hsession hnone hframe hid hdecode
  let connected : NewIncomingConnection :=
    ⟨remote, accept.requestTimestamp, accept.requestTimestamp⟩
  have hbody := encode_eq (writes_incoming connected)
  have hread : decode NewIncomingConnection (Packet.ID NewIncomingConnection
      :: connected.layout (List.replicate 10 0x6)) = .ok (.ok connected) :=
    read_incoming (p := connected) h.ipv4 _
  rw [hops, s.spoken_incoming env hbody] at hup
  have hopening := Lane.opening?_incoming hnone List.head?_cons hread hup
  refine ⟨hconn ▸ h.addr, h.ipv4, fun body hfirst => ?_, fun hawaiting => ?_, fun hnone' => ?_⟩
  · obtain rfl := Option.some.inj (hopening.symm.trans hfirst)
    exact ⟨List.head?_cons, connected, hread, rfl, accept, ⟨m, hdown ▸ hm, haccepted⟩, rfl,
      hpunctual hisSome accept haccept, hrequested.mono honwire⟩
  · have hhandle := hawaiting.2
    rw [hp', hcancelled] at hhandle
    cases hhandle
  · cases hopening.symm.trans hnone'

/-- **Else** there is no new opening. -/
lemma Vouched.quiet_step (h : p.Vouched dialled) (hagrees : p.Agrees earlier handle)
    (haccept : p.client.accept? a = none) (hcandid : p.Candid dialled (.client a))
    (hclient : p.client.step a = .ok client) (hsuccess : p.client.success? a = none)
    (hsession : p.session = some s) (hp' : p'.client = client) (hconn : p'.conn = p.conn)
    (hup : p'.up.said = p.up.said ++ s.spoken (p.client.sessionOps a))
    (hdown : p'.down.said = p.down.said) (honwire : ∀ f, p.up.OnWire f → p'.up.OnWire f) :
    p'.Vouched dialled := by
  have hisSome : p.session.isSome := Option.isSome_of_mem hsession
  obtain ⟨hhandle, -⟩ := RakClient.step_of_accept?_eq_none haccept hsuccess hclient
  have hopening : p'.up.opening? = p.up.opening? := by
    rw [Lane.opening?_append hup]
    cases hold : p.up.opening? with
    | some body => exact Option.some_or
    | none =>
        refine Option.none_or.trans (List.find?_eq_none.mpr fun body hbody hopening => ?_)
        obtain ⟨m, hm, rfl⟩ := List.mem_map.mp hbody
        have hawaiting := awaiting_of_opening? hagrees hisSome hold
        exact not_opening_of_accept?_eq_none hawaiting hcandid hclient hsuccess haccept hsession hm
          (of_decide_eq_true hopening)
  have hsaid : p.down.said ⊆ p'.down.said := hdown ▸ List.Subset.refl _
  refine ⟨hconn ▸ h.addr, h.ipv4, fun body hfirst => ?_, fun hawaiting => ?_,
    fun hnone m hm hid => ?_⟩
  · obtain ⟨hid, connected, hdecode, hanswers⟩ := h.first body (hopening.symm.trans hfirst)
    exact ⟨hid, connected, hdecode, hanswers.mono hsaid honwire⟩
  · have hsome := isSome_session hawaiting.1
    rw [Awaiting, hp', hhandle] at hawaiting
    have hawaited : p.Awaiting := ⟨hisSome, hawaiting.2⟩
    obtain ⟨hnone, hremote⟩ := h.awaits hawaited
    rw [hp'] at hsome ⊢
    refine ⟨hopening.trans hnone, ?_⟩
    rcases RakClient.remote_step hclient hsome with hsame | ⟨env, addr, rfl, haddr⟩
    · exact hsame.trans hremote
    · rw [haddr, hcandid hawaited]
  · obtain ⟨huser, hrequested⟩ := h.accepts (hopening.symm.trans hnone) m (hdown ▸ hm) hid
    exact ⟨huser, fun accept haccept => (hrequested accept haccept).mono honwire⟩

end Moves

/-- A step of the client. -/
lemma Vouched.client_step (h : p.Vouched dialled) (htraces : p.Traces)
    (hagrees : p.Agrees earlier handle) {a : RakClient.Action}
    (hadmissible : p.Admissible (.client a)) (hcandid : p.Candid dialled (.client a))
    (hpunctual : p.Punctual (.client a)) (hs : p.step (.client a) = .ok p') :
    p'.Vouched dialled := by
  obtain ⟨client, hclient, hp⟩ := bind_eq_ok.mp hs
  rw [RakClient.mapError_eq_ok] at hclient
  obtain rfl := Except.ok.inj hp
  have honwire := (htraces.client_step hagrees hadmissible hclient).2
  rcases clientMoves_cases hclient with
    ⟨s, s', hsession, hsession', -, hsuccess, -, hmoves⟩ | ⟨hlost, hmoves⟩
  · rw [hmoves] at honwire ⊢
    cases haccept : p.client.accept? a with
    | some accept =>
        exact h.accept_step htraces hagrees haccept hpunctual hclient hsession rfl rfl rfl rfl
          honwire
    | none =>
        exact h.quiet_step hagrees haccept hcandid hclient hsuccess hsession rfl rfl rfl rfl honwire
  · rw [hmoves]
    refine ⟨h.addr, h.ipv4, h.first, fun hawaiting => ?_, h.accepts⟩
    rw [Awaiting, hlost] at hawaiting
    cases hawaiting.1

/-- **Step lemma**: a step that is candid and punctual keeps the handshake vouched for. -/
lemma Vouched.step (h : p.Vouched dialled) (htraces : p.Traces) (hagrees : p.Agrees earlier handle)
    {a : Action} (hadmissible : p.Admissible a) (hcandid : p.Candid dialled a)
    (hpunctual : p.Punctual a) (hs : p.step a = .ok p') : p'.Vouched dialled := by
  cases a with
  | client a => exact h.client_step htraces hagrees hadmissible hcandid hpunctual hs
  | conn op => exact h.conn_step htraces hagrees.toServed hcandid hs

/-- When the handshake begins, nothing has been said that bears on it. -/
lemma Fresh.vouched (h : p.Fresh dialled) : p.Traces ∧ p.Vouched dialled := by
  obtain ⟨htraces, hfarewell⟩ := h.opened.traces h.waiting
  obtain ⟨_, -, hsaid⟩ := h.opened.agrees
  have hnone : p.up.opening? = none := by
    rw [Lane.opening?, hsaid]
    rfl
  refine ⟨htraces, h.addr, h.ipv4, fun body hfirst => ?_, fun _ => ⟨hnone, h.remote⟩,
    fun _ m hm hid => ?_⟩
  · cases hnone.symm.trans hfirst
  · rw [hfarewell m hm (h.unused m hm)] at hid
    cases hid

/-- **The handshake is agreed on** in every run in which the accept that the client takes up has two
timestamps that are equal, and no packet of a user passes for one of the handshake. -/
theorem handshaken_of_punctual (hp : p.Fresh dialled) {actions : List Action}
    (h : Run.Along Pair.step (fun p a => p.Admissible a ∧ p.Candid dialled a ∧ p.Punctual a) p
      actions) :
    Run.Always Pair.step (Handshaken dialled) p actions := by
  obtain ⟨handle, hagrees, -⟩ := hp.opened.agrees
  obtain ⟨htraces, hvouched⟩ := hp.vouched
  have halways := Run.always_of_along
    (P := fun q => q.Agrees p.client.told handle ∧ q.Traces ∧ q.Vouched dialled)
    (fun q a q' hq ha hs => ⟨hq.1.step ha.1 hs, (hq.2.1.step hq.1 ha.1 hs).1,
      hq.2.2.step hq.2.1 hq.1 ha.1 ha.2.1 ha.2.2 hs⟩) ⟨hagrees, htraces, hvouched⟩ h
  exact halways.mono fun q hq => hq.2.2.handshaken hq.2.1 hq.1.toServed

/-- The address of the server, in the handshake of `Handshake.opening`. -/
def serverAddr : SocketAddr := .v4 ⟨127, 0, 0, 1⟩ 19132

lemma fresh_joined :
    ∃ c, Run.exec RakClient.step (.init 7) (Handshake.opening ++ [.deliver default])
    = .ok c ∧ (joined c).Fresh serverAddr := by
  obtain ⟨c, hc, hopened⟩ := opened_joined
  have hrun : ∀ c,
      Run.exec RakClient.step (.init 7) (Handshake.opening ++ [.deliver default]) = .ok c →
      c.remote = some serverAddr ∧ ∀ f ∈ c.waiting, ¬f.Accepts := by
    decide +kernel
  obtain ⟨hremote, hwaiting⟩ := hrun c hc
  exact ⟨c, hc, hopened, hremote, rfl, rfl, hwaiting, fun _ hm => absurd hm List.not_mem_nil⟩

/-- The theorem where both clocks stand still. -/
theorem handshaken_of_punctual_sample :
    ∃ p q : Pair, p.Fresh serverAddr
      ∧ Run.Always Pair.step (Handshaken serverAddr) p
        (accepting ++ toClient acceptBytes ++ toConn (incomingBytes 1 0))
      ∧ Run.exec Pair.step p (accepting ++ toClient acceptBytes ++ toConn (incomingBytes 1 0))
        = .ok q
      ∧ q.conn.sent = [.event (.connected q.conn.myHandle)] := by
  obtain ⟨c, hc, hfresh⟩ := fresh_joined
  let actions : List Action := accepting ++ toClient acceptBytes ++ toConn (incomingBytes 1 0)
  have hrun : ∀ c,
      Run.exec RakClient.step (.init 7) (Handshake.opening ++ [.deliver default]) = .ok c →
      Run.Along Pair.step (fun p a => p.Admissible a ∧ p.Candid serverAddr a ∧ p.Punctual a)
          (joined c) actions
        ∧ (fun q : Pair => decide (q.conn.sent = [.event (.connected q.conn.myHandle)]))
          <$> Run.exec Pair.step (joined c) actions = .ok true := by
    decide +kernel
  obtain ⟨halong, hexec⟩ := hrun c hc
  obtain ⟨q, hq, hsent⟩ := map_eq_ok.mp hexec
  exact ⟨joined c, q, hfresh, handshaken_of_punctual hfresh halong, hq, of_decide_eq_true hsent⟩

/-- The accept of a server whose clock is five milliseconds ahead: the client takes it up, and the
new incoming connection has the first timestamp twice. -/
theorem handshaken_counterexample :
    ∃ (p q : Pair) (actions : List Action), p.Fresh serverAddr
      ∧ Run.Along Pair.step (fun p a => p.Admissible a ∧ p.Candid serverAddr a) p actions
      ∧ Run.exec Pair.step p actions = .ok q
      ∧ q.conn.incoming? = some ⟨serverAddr, 0, 0⟩
      ∧ (∀ accept, q.Accepted accept → accept = ⟨clientAddr, 0, 0, 5⟩)
      ∧ ¬q.Handshaken serverAddr := by
  obtain ⟨c, hc, hfresh⟩ := fresh_joined
  let actions : List Action := [.conn (.act .start), .client (.fire default 1),
      .conn (.receive ⟨requestBytes, clientAddr⟩), .conn (.act (.deliver default)),
      .conn (.act (.deliver { (default : ServerConn.Env) with acceptTime := 5 })),
      .conn (.act (.fire default 1))]
    ++ toClient (acceptBytes.dropLast ++ [5])
    ++ [.conn (.receive ⟨incomingBytes 1 0, clientAddr⟩), .conn (.act (.deliver default))]
  have hrun : ∀ c,
      Run.exec RakClient.step (.init 7) (Handshake.opening ++ [.deliver default]) = .ok c →
      Run.Along Pair.step (fun p a => p.Admissible a ∧ p.Candid serverAddr a) (joined c) actions
        ∧ (fun q : Pair => decide (q.conn.incoming? = some ⟨serverAddr, 0, 0⟩
            ∧ (∀ m ∈ q.down.said, decode ConnectionRequestAccepted m.body
              = .ok (.ok ⟨clientAddr, 0, 0, 5⟩))
            ∧ (fun conn : ServerConn =>
                decide (conn.sent = q.conn.sent ++ [.event (.connected q.conn.myHandle)]))
              <$> q.conn.turn (.act (.deliver default)) = .ok true))
          <$> Run.exec Pair.step (joined c) actions = .ok true := by
    decide +kernel
  obtain ⟨halong, hexec⟩ := hrun c hc
  obtain ⟨q, hq, heq⟩ := map_eq_ok.mp hexec
  obtain ⟨hincoming, hdecode, hturn⟩ := of_decide_eq_true heq
  obtain ⟨conn, hconn, hsent⟩ := map_eq_ok.mp hturn
  have haccepted : ∀ accept, q.Accepted accept → accept = ⟨clientAddr, 0, 0, 5⟩ := by
    rintro accept ⟨m, hm, -, -, haccept⟩
    exact Except.ok.inj (Except.ok.inj (haccept.symm.trans (hdecode m hm)))
  refine ⟨joined c, q, actions, hfresh, halong, hq, hincoming, haccepted, fun hhandshaken => ?_⟩
  obtain ⟨connected, hincoming', -, accept, haccept, -, htime, -⟩ :=
    hhandshaken _ conn _ hconn (of_decide_eq_true hsent)
  obtain rfl := Option.some.inj (hincoming.symm.trans hincoming')
  rw [haccepted accept haccept] at htime
  exact absurd htime (by decide)

end Pair

end ActixRaknet
