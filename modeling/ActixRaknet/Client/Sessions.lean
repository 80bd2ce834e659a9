import ActixRaknet.Client.Effects
import ActixRaknet.Packets.RoundTrip
import ActixRaknet.Session.Listening

/-!
The session of the client, as the steps of the client move it.

* `RakClient.sessionOps`: the calls of the session in a step;
* `step_session`: a step calls the session so, or leaves the client without one;
* `told`: what the user has been given, or will be, and `step_conducts`: a step adds what the
  session posts in it;
* `RakClient.success?`, `step_success`: but a success gives it a new one, with a connection request;
* `short_sessionOps`, `step_accepted`: what system packets a step queues.
-/

namespace ActixRaknet

open Fallible

namespace RakClient

/-- The calls of the session when the client handles a datagram of it. -/
def acceptOps (c : RakClient) (env : Env) (frame : Frame) : List Session.Op :=
  match c.disconnectHandle, c.remote, decode ConnectionRequestAccepted frame.data with
  | some _, some serverAddress, .ok (.ok accept) =>
    if frame.IsAccept then
      let connected : NewIncomingConnection :=
        ⟨serverAddress, accept.requestTimestamp, accept.requestTimestamp⟩
      [.sendSystemPacket env.session NewIncomingConnection connected .reliableOrdered,
        .forceFlush env.session]
    else []
  | _, _, _ => []

/-- The calls of the session in a step. -/
def sessionOps (c : RakClient) : Action → List Session.Op
  | .call env (.packet bytes) => [.sendTo env.session bytes]
  | .call env .disconnect => [.disconnect env.session]
  | .call _ (.connect _) => []
  | .receivedUdp env msg =>
    if c.remote = some msg.addr ∧ c.mediator = none then [.handle env.session msg] else []
  | .deliver env =>
    match c.ctx.mailbox with
    | .session _ (.receivedDatagram frame) :: _ => c.acceptOps env frame
    | _ => []
  | .fire env handle =>
    match c.ctx.future? handle with
    | some ⟨_, (_, .update), _⟩ => [.update env.session]
    | _ => []
  | .mediator _ _ => []

/-- The mtu of the success that is handled in a step, and gives the client a session. -/
def success? (c : RakClient) : Action → Option UInt16
  | .deliver _ =>
    match c.ctx.mailbox, c.mediator with
    | .mediator _ (.success mtu) :: _, some _ => some mtu
    | _, _ => none
  | _ => none

/-- The session of the client is called. -/
def Calls (c c' : RakClient) (ops : List Session.Op) : Prop :=
  ∃ s s', c.session = some s ∧ Run.exec Session.turn s ops = .ok s' ∧ c'.session = some s'

/-- The client has a new session, which has queued a connection request. -/
def Opens (c c' : RakClient) (mtu : UInt16) : Prop :=
  ∃ (env : Env) (remote : SocketAddr) (s : Session), c.remote = some remote
    ∧ (Session.new remote mtu env.lastPing env.lastReceive).turn (.sendSystemPacket env.session
        ConnectionRequest (.new c.guid env.requestTime false) .reliable) = .ok s
    ∧ c'.session = some s

/-! ### What the user is given -/

end RakClient

/-- The bytes of a packet that the user is given. -/
def RakClientEvent.packet? : RakClientEvent → Option Bytes
  | .packet bytes => some bytes
  | _ => none

/-- The frame that a message of the mailbox carries. -/
def RakClientMail.frame? : RakClientMail → Option Frame
  | .session _ msg => msg.frame?
  | _ => none

/-- Of the messages of a session, the frames are those that it has posted. -/
lemma filterMap_frame?_session (attempt : ℕ) (ms : List ParentMsg) :
    (ms.map (RakClientMail.session attempt)).filterMap RakClientMail.frame?
      = ms.filterMap ParentMsg.frame? := by
  rw [List.filterMap_map]
  rfl

/-- The events of a mediator carry none. -/
lemma filterMap_frame?_mediator (attempt : ℕ) (events : List MediatorEvent) :
    (events.map (RakClientMail.mediator attempt)).filterMap RakClientMail.frame? = [] := by
  refine List.filterMap_eq_nil_iff.mpr fun mail hmail => ?_
  obtain ⟨event, -, rfl⟩ := List.mem_map.mp hmail
  rfl

namespace RakClient

/-- The bodies of the frames that are passed on to the user: the client keeps the accepts. -/
def given (frames : List Frame) : List Bytes :=
  (frames.filter fun f => ¬f.IsAccept).map Frame.data

/-- The bytes that the user has been given, and those that wait to be. -/
def told (c : RakClient) : List Bytes :=
  c.handler.filterMap RakClientEvent.packet? ++ given (c.ctx.mailbox.filterMap RakClientMail.frame?)

/-- What calls of the session give the user. -/
def heard (c : RakClient) (ops : List Session.Op) : List Bytes :=
  match c.session with
  | none => []
  | some s => given ((s.reports ops).filterMap ParentMsg.frame?)

/-- The session of the client is called, or the client has none after it, and the client takes what
the session posts. -/
structure Conducts (c c' : RakClient) (ops : List Session.Op) : Prop where
  calls : Calls c c' ops ∨ c'.session = none
  told : c'.told = c.told ++ c.heard ops

variable {c c' : RakClient}

lemma given_append (fs gs : List Frame) : given (fs ++ gs) = given fs ++ given gs := by
  rw [given, List.filter_append, List.map_append, given, given]

lemma told_putSession (c : RakClient) (s : Session) :
    (c.putSession s).told = c.told ++ given (s.parent.filterMap ParentMsg.frame?) := by
  simp only [told, putSession, Context.mailbox_post, List.filterMap_append,
    filterMap_frame?_session, given_append, List.append_assoc]

lemma told_emit {event : RakClientEvent} (h : event.packet? = none) :
    (c.emit event).told = c.told := by
  rw [told, emit, List.filterMap_append, List.filterMap_cons, h, List.filterMap_nil,
    List.append_nil, told]

/-- A message that gives the user nothing is taken. -/
lemma told_popped {mail : RakClientMail} {rest : List RakClientMail}
    (hmail : c.ctx.mailbox = mail :: rest) (h : ∀ f, mail.frame? = some f → f.IsAccept) :
    (c.popped rest).told = c.told := by
  rw [told, told, popped, Context.mailbox_withMailbox, hmail, List.filterMap_cons]
  cases hf : mail.frame? with
  | none => rfl
  | some f =>
      simp only
      rw [given, given, List.filter_cons_of_neg (by simpa using h f hf)]

/-- A frame is taken, and its body is given to the user. -/
lemma told_packet {attempt : ℕ} {frame : Frame} {rest : List RakClientMail}
    (hmail : c.ctx.mailbox = .session attempt (.receivedDatagram frame) :: rest)
    (hframe : ¬frame.IsAccept) : ((c.popped rest).emit (.packet frame.data)).told = c.told := by
  have hfirst : given (c.ctx.mailbox.filterMap RakClientMail.frame?)
      = frame.data :: given (rest.filterMap RakClientMail.frame?) := by
    rw [hmail, List.filterMap_cons]
    simp only [RakClientMail.frame?, ParentMsg.frame?]
    rw [given, List.filter_cons_of_pos (by simpa using hframe)]
    rfl
  rw [told, told, hfirst, List.append_cons]
  exact congrArg (· ++ _) List.filterMap_append

lemma conducts_nil (h : c'.session = c.session) (htold : c'.told = c.told) : Conducts c c' [] := by
  refine ⟨?_, ?_⟩
  · rw [Calls, h]
    cases c.session with
    | none => exact Or.inr rfl
    | some s => exact Or.inl ⟨s, s, rfl, rfl, rfl⟩
  · rw [htold, heard]
    cases c.session <;> exact (List.append_nil _).symm

lemma calls_withSession {f : Session → Except Panic Session} (op : Session.Op)
    (hf : ∀ s, f s = s.step op) (h : c.withSession f = .ok c') :
    Calls c c' [op] ∧ c'.told = c.told ++ c.heard [op] := by
  obtain ⟨s, s', hs, hs', rfl⟩ := withSession_eq_ok.mp h
  rw [hf] at hs'
  refine ⟨⟨s, { s' with parent := [] }, hs, Run.exec_singleton.mpr ?_, rfl⟩, ?_⟩
  · rw [Session.turn, hs', ok_bind, pure_eq_ok]
  · rw [told_putSession, heard, hs]
    simp only [Session.reports_singleton hs']

lemma conducts_withSession {f : Session → Except Panic Session} (op : Session.Op)
    (hf : ∀ s, f s = s.step op) (h : c.withSession f = .ok c') : Conducts c c' [op] :=
  ⟨Or.inl (calls_withSession op hf h).1, (calls_withSession op hf h).2⟩

lemma conducts_ifSession {f : Session → Except Panic Session} {op : Session.Op}
    (hf : ∀ s, f s = s.step op)
    (h : (if c.session.isSome then c.withSession f else .ok c) = .ok c') : Conducts c c' [op] := by
  split_ifs at h with hs
  · exact conducts_withSession op hf h
  · obtain rfl := Except.ok.inj h
    have hnone := Option.not_isSome_iff_eq_none.mp hs
    refine ⟨Or.inr hnone, ?_⟩
    rw [heard, hnone]
    exact (List.append_nil _).symm

lemma calls_append {c'' : RakClient} {ops ops' : List Session.Op} (h : Calls c c' ops)
    (h' : Calls c' c'' ops') :
    Calls c c'' (ops ++ ops') ∧ c.heard (ops ++ ops') = c.heard ops ++ c'.heard ops' := by
  obtain ⟨s, s₁, hs, hops, hs₁⟩ := h
  obtain ⟨t, s₂, ht, hops', hs₂⟩ := h'
  obtain rfl := Option.some.inj (hs₁.symm.trans ht)
  refine ⟨⟨s, s₂, hs, Run.exec_append.mpr ⟨s₁, hops, hops'⟩, hs₂⟩, ?_⟩
  rw [heard, heard, heard, hs, hs₁]
  simp only [Session.reports_append hops, List.filterMap_append, given_append]

lemma handleReceivedUdp_session {env : Env} {msg : UdpPacket}
    (h : c.handleReceivedUdp env msg = .ok c') :
    Conducts c c' (c.sessionOps (.receivedUdp env msg)) := by
  rw [handleReceivedUdp] at h
  rw [sessionOps]
  cases hremote : c.remote with
  | none =>
      rw [hremote] at h
      rw [if_neg (by rintro ⟨⟨⟩, -⟩)]
      obtain rfl := Except.ok.inj h
      exact conducts_nil rfl rfl
  | some remote =>
      simp only [hremote] at h
      by_cases haddr : remote = msg.addr
      · rw [if_neg (not_not.mpr haddr)] at h
        cases hm : c.mediator with
        | some mediator =>
            rw [hm] at h
            rw [if_neg (by rintro ⟨-, ⟨⟩⟩)]
            obtain rfl := Except.ok.inj h
            exact conducts_nil rfl rfl
        | none =>
            rw [hm] at h
            rw [if_pos ⟨congrArg some haddr, rfl⟩]
            exact conducts_ifSession (f := (·.handle env.session msg)) (fun _ => rfl) h
      · rw [if_pos haddr] at h
        rw [if_neg fun h => haddr (Option.some.inj h.1)]
        obtain rfl := Except.ok.inj h
        exact conducts_nil rfl rfl

lemma handleReceivedDatagram_session {env : Env} {attempt : ℕ} {frame : Frame}
    {rest : List RakClientMail}
    (hmail : c.ctx.mailbox = .session attempt (.receivedDatagram frame) :: rest)
    (h : (c.popped rest).handleReceivedDatagram env frame = .ok c') :
    Conducts c c' (c.acceptOps env frame) := by
  obtain ⟨id, hid, h⟩ := bind_eq_ok.mp h
  have hiff := isAccept_iff (mapError_eq_ok.mp hid)
  rw [acceptOps]
  split_ifs at h with haccept
  · have hframe := hiff.mp haccept
    have hpopped : (c.popped rest).told = c.told :=
      told_popped hmail fun f hf => Option.some.inj hf ▸ hframe
    cases hh : c.disconnectHandle with
    | none =>
        rw [show (c.popped rest).disconnectHandle = none from hh] at h
        obtain rfl := Except.ok.inj h
        exact conducts_nil rfl hpopped
    | some handle =>
        rw [show (c.popped rest).disconnectHandle = some handle from hh] at h
        obtain ⟨result, hdecode, h⟩ := bind_eq_ok.mp h
        rw [mapError_eq_ok.mp hdecode]
        cases result with
        | error e =>
            obtain rfl := Except.ok.inj h
            split
            · rename_i heq
              cases heq
            · exact conducts_nil rfl hpopped
        | ok accept =>
            simp only [accepted, bind_eq_ok, mapError_eq_ok, unwrap_eq_ok, pure_eq_ok,
              Except.ok.injEq] at h
            obtain ⟨remote, hremote, c₁, hsend, c₂, hflush, rfl⟩ := h
            simp only [show c.remote = some remote from hremote, if_pos hframe]
            obtain ⟨hcalls₁, htold₁⟩ := calls_withSession (.sendSystemPacket env.session
              NewIncomingConnection _ .reliableOrdered) (fun _ => rfl) hsend
            obtain ⟨hcalls₂, htold₂⟩ :=
              calls_withSession (.forceFlush env.session) (fun _ => rfl) hflush
            obtain ⟨hcalls, hheard⟩ := calls_append hcalls₁ hcalls₂
            refine ⟨Or.inl hcalls, ?_⟩
            rw [told_emit rfl, htold₂, htold₁, List.append_assoc, ← hheard]
            exact congrArg (· ++ _) hpopped
  · have hframe := mt hiff.mpr haccept
    obtain rfl := Except.ok.inj h
    simp only [if_neg hframe]
    split
    all_goals exact conducts_nil rfl (told_packet hmail hframe)

/-- An event that is no success leaves the session as it is. -/
lemma handleMediatorEvent_session {env : Env} {attempt : ℕ} {event : MediatorEvent}
    (hevent : c.mediator.isSome → ∀ mtu, event ≠ .success mtu)
    (h : c.handleMediatorEvent env attempt event = .ok c') :
    c'.session = c.session ∧ c'.told = c.told := by
  rw [handleMediatorEvent] at h
  cases hm : c.mediator with
  | none =>
      rw [hm] at h
      exact Except.ok.inj h ▸ ⟨rfl, rfl⟩
  | some mediator =>
      rw [hm] at h
      obtain ⟨c₁, hc₁, h⟩ := bind_eq_ok.mp h
      obtain rfl := Except.ok.inj h
      have hfailed : ∀ reason, c₁ = c.emit (.connectionFailed reason) →
          c₁.session = c.session ∧ c₁.told = c.told := by
        rintro reason rfl
        exact ⟨rfl, told_emit rfl⟩
      cases event with
      | success mtu => exact absurd rfl (hevent (Option.isSome_of_mem hm) mtu)
      | alreadyConnected => exact hfailed _ (Except.ok.inj hc₁).symm
      | differentVersion => exact hfailed _ (Except.ok.inj hc₁).symm
      | timeout => exact hfailed _ (Except.ok.inj hc₁).symm

lemma step_success_eq {a : Action} {mtu : UInt16} (hmtu : c.success? a = some mtu)
    (h : c.step a = .ok c') :
    ∃ (rest : List RakClientMail) (env : Env) (attempt mediator : ℕ) (remote : SocketAddr)
      (s : Session), c.ctx.mailbox = .mediator attempt (.success mtu) :: rest
        ∧ c.remote = some remote
        ∧ (Session.new remote mtu env.lastPing env.lastReceive).step (.sendSystemPacket env.session
            ConnectionRequest (.new c.guid env.requestTime false) .reliable) = .ok s
        ∧ c' = (putSession { c.popped rest with attempt := attempt } s).startTimers.dropMediator
            mediator := by
  cases a with
  | deliver env =>
      rw [success?] at hmtu
      split at hmtu
      · rename_i attempt mtu' rest mediator hmail hm
        obtain rfl := Option.some.inj hmtu
        rw [step, hmail] at h
        change RakClient.handleMediatorEvent (c.popped rest) env attempt (.success mtu') = _ at h
        rw [handleMediatorEvent, show (c.popped rest).mediator = some mediator from hm] at h
        simp only [handleEvent, handleSuccess, bind_eq_ok, mapError_eq_ok, unwrap_eq_ok,
          pure_eq_ok, Except.ok.injEq] at h
        obtain ⟨_, ⟨remote, hremote, s, hs, rfl⟩, rfl⟩ := h
        exact ⟨rest, env, attempt, mediator, remote, s, hmail, hremote, hs, rfl⟩
      · cases hmtu
  | _ => cases hmtu

/-- **A success** opens a session. -/
lemma step_success {a : Action} {mtu : UInt16} (hmtu : c.success? a = some mtu)
    (h : c.step a = .ok c') : Opens c c' mtu := by
  obtain ⟨rest, env, attempt, mediator, remote, s, -, hremote, hs, rfl⟩ := step_success_eq hmtu h
  refine ⟨env, remote, { s with parent := [] }, hremote, ?_, rfl⟩
  rw [Session.turn, hs, ok_bind, pure_eq_ok]

/-- With a new session, an accept is awaited. -/
lemma step_success_awaits {a : Action} {mtu : UInt16} (hmtu : c.success? a = some mtu)
    (h : c.step a = .ok c') : c'.disconnectHandle ≠ none := by
  obtain ⟨rest, env, attempt, mediator, remote, s, -, -, -, rfl⟩ := step_success_eq hmtu h
  exact Option.some_ne_none _

lemma step_conducts {a : Action} (hnone : c.success? a = none) (h : c.step a = .ok c') :
    Conducts c c' (c.sessionOps a) := by
  cases a with
  | call env msg =>
      cases msg with
      | connect addr =>
          obtain rfl := Except.ok.inj h
          exact conducts_nil rfl rfl
      | packet bytes =>
          exact conducts_ifSession (f := (·.sendTo env.session bytes)) (fun _ => rfl) h
      | disconnect => exact conducts_ifSession (f := (·.disconnect env.session)) (fun _ => rfl) h
  | receivedUdp env msg => exact handleReceivedUdp_session h
  | deliver env =>
      rw [step] at h
      rw [sessionOps]
      cases hmail : c.ctx.mailbox with
      | nil =>
          rw [hmail] at h
          obtain rfl := Except.ok.inj h
          exact conducts_nil rfl rfl
      | cons mail rest =>
          rw [hmail] at h
          rcases mail with ⟨attempt, event⟩ | ⟨attempt, frame | _⟩
          · obtain ⟨hsession, htold⟩ := handleMediatorEvent_session (c := c.popped rest)
              (fun hm mtu he => by
                obtain ⟨mediator, hm⟩ := Option.isSome_iff_exists.mp hm
                rw [success?, hmail, he, show c.mediator = some mediator from hm] at hnone
                cases hnone) h
            exact conducts_nil hsession (htold.trans (told_popped hmail (by rintro _ ⟨⟩)))
          · exact handleReceivedDatagram_session hmail h
          · obtain rfl := Except.ok.inj h
            refine ⟨Or.inr rfl, ?_⟩
            have hpopped : (c.popped rest).told = c.told :=
              told_popped hmail (by rintro _ ⟨⟩)
            have htold : (c.popped rest).handleSessionEnd.told = c.told :=
              (told_emit rfl).trans hpopped
            rw [heard]
            cases c.session <;> exact htold.trans (List.append_nil _).symm
  | fire env handle =>
      rw [step] at h
      rw [sessionOps]
      cases hf : c.ctx.future? handle with
      | none =>
          rw [hf] at h
          obtain rfl := Except.ok.inj h
          exact conducts_nil rfl rfl
      | some f =>
          obtain ⟨handle', ⟨attempt, timer⟩, repeats⟩ := f
          rw [hf] at h
          have hfired : ∀ f, (c.fired f).told = c.told := fun f => by
            rw [told, told, fired, Context.mailbox_fired]
          cases timer with
          | connectionTimeout =>
              obtain rfl := Except.ok.inj h
              exact conducts_nil rfl ((told_emit rfl).trans (hfired _))
          | update =>
              simp only [callback, update] at h
              split_ifs at h with hs
              · obtain ⟨hcalls, htold⟩ := conducts_withSession (c := c.fired _)
                  (.update env.session) (fun _ => rfl) h
                exact ⟨hcalls, htold.trans (congrArg (· ++ _) (hfired _))⟩
              · obtain ⟨tick, -, h⟩ := bind_eq_ok.mp h
                obtain rfl := Except.ok.inj h
                have hnone := Option.not_isSome_iff_eq_none.mp hs
                refine ⟨Or.inr hnone, ?_⟩
                rw [heard, show c.session = none from hnone]
                exact (hfired _).trans (List.append_nil _).symm
  | mediator attempt action =>
      obtain rfl := Except.ok.inj h
      obtain ⟨mediators, posted, heq, -⟩ := c.mediatorStep_eq attempt action
      rw [heq]
      refine conducts_nil rfl ?_
      rw [told, told, Context.mailbox_post, List.filterMap_append, filterMap_frame?_mediator,
        List.append_nil]

/-- **What a step does to the session**, if it opens none: it makes the calls listed, or the client
has none after it. -/
lemma step_session {a : Action} (hnone : c.success? a = none) (h : c.step a = .ok c') :
    Calls c c' (c.sessionOps a) ∨ c'.session = none := (step_conducts hnone h).calls

/-- **What new sessions have and calls keep** the session of a client has. -/
lemma keeps_session {P : Session → Prop}
    (hnew : ∀ addr mtu lastPing lastReceive, P (.new addr mtu lastPing lastReceive))
    (hturn : ∀ s op s', P s → Session.turn s op = .ok s' → P s') {a : Action}
    (hc : ∀ s ∈ c.session, P s) (h : c.step a = .ok c') : ∀ s ∈ c'.session, P s := by
  intro s' hs'
  cases hsuccess : c.success? a with
  | some mtu =>
      obtain ⟨env, remote, s, -, hs, hsession⟩ := step_success hsuccess h
      obtain rfl := Option.some.inj (hsession.symm.trans hs')
      exact hturn _ _ _ (hnew remote mtu env.lastPing env.lastReceive) hs
  | none =>
      rcases step_session hsuccess h with ⟨s, t, hs, hexec, ht⟩ | hnone
      · obtain rfl := Option.some.inj (ht.symm.trans hs')
        exact Run.invariant hturn (hc s hs) hexec
      · cases hnone.symm.trans hs'

/-- A new incoming connection is the only system packet of the client in a session. -/
lemma short_sessionOps (c : RakClient) (a : Action) :
    ∀ sop ∈ c.sessionOps a, Session.Short sop := by
  have haccept : ∀ env frame, ∀ sop ∈ c.acceptOps env frame, Session.Short sop := by
    intro env frame sop hsop
    rw [acceptOps] at hsop
    split at hsop
    · split_ifs at hsop
      · rcases List.mem_cons.mp hsop with rfl | hsop
        · exact fun body hbody => (length_incoming _ hbody).trans (by decide)
        · exact List.mem_singleton.mp hsop ▸ trivial
      · cases hsop
    · cases hsop
  intro sop hsop
  cases a with
  | call env msg =>
      cases msg with
      | connect addr => cases hsop
      | packet bytes => exact List.mem_singleton.mp hsop ▸ trivial
      | disconnect => exact List.mem_singleton.mp hsop ▸ trivial
  | receivedUdp env msg =>
      rw [sessionOps] at hsop
      split_ifs at hsop
      · exact List.mem_singleton.mp hsop ▸ trivial
      · cases hsop
  | deliver env =>
      rw [sessionOps] at hsop
      split at hsop
      · exact haccept env _ sop hsop
      · cases hsop
  | fire env handle =>
      rw [sessionOps] at hsop
      split at hsop
      · exact List.mem_singleton.mp hsop ▸ trivial
      · cases hsop
  | mediator attempt action => cases hsop

/-- `send_to` is called for the packets of the user. -/
lemma call_of_sendTo {a : Action} {env : Session.Env} {buff : Bytes}
    (h : Session.Op.sendTo env buff ∈ c.sessionOps a) :
    ∃ env', a = .call env' (.packet buff) := by
  cases a with
  | call env' msg =>
      cases msg with
      | packet bytes =>
          cases List.mem_singleton.mp h
          exact ⟨env', rfl⟩
      | connect addr => cases h
      | disconnect => cases List.mem_singleton.mp h
  | receivedUdp env' msg =>
      rw [sessionOps] at h
      split_ifs at h
      · cases List.mem_singleton.mp h
      · cases h
  | deliver env' =>
      rw [sessionOps] at h
      split at h
      · rw [acceptOps] at h
        split at h
        · split_ifs at h
          · rcases List.mem_cons.mp h with h | h
            · cases h
            · cases List.mem_singleton.mp h
          · cases h
        · cases h
      · cases h
  | fire env' handle =>
      rw [sessionOps] at h
      split at h
      · cases List.mem_singleton.mp h
      · cases h
  | mediator attempt action => cases h

/-- **The accept that the client awaits** makes its session announce the connection. -/
lemma step_accepted {a : Action} (h : c.step a = .ok c') (hawaited : c.disconnectHandle ≠ none)
    (haccepted : c'.disconnectHandle = none) :
    ∃ env connected ops, c.sessionOps a = Session.Op.sendSystemPacket env NewIncomingConnection
      connected .reliableOrdered :: ops := by
  cases step_effect h with
  | accepted env attempt frame rest handle session session' hmail hframe hh hremote hs =>
      obtain ⟨remote, hremote⟩ := Option.isSome_iff_exists.mp hremote
      obtain ⟨haccept, accept, hdecode⟩ := hframe
      rw [sessionOps, hmail]
      simp only [acceptOps, hh, hremote, hdecode, if_pos haccept]
      exact ⟨_, _, _, rfl⟩
  | mediator attempt action =>
      obtain ⟨mediators, posted, heq, -⟩ := c.mediatorStep_eq attempt action
      rw [heq] at haccepted
      exact absurd haccepted hawaited
  | success env attempt mtu rest mediator session hmail hm hremote => cases haccepted
  | _ => exact absurd haccepted hawaited

end RakClient

end ActixRaknet
