import ActixRaknet.Client.Basic

/-!
What a step of the client can do.

* `RakClient.Effect`: the ways a step changes the client, one for each branch of its handlers, with
  the guards of the branch;
* `step_effect`: a step that completes is one of them;
* `Effect.mediators_length`, `Effect.futures`: which steps create a mediator, or start a timer.
-/

namespace ActixRaknet

open Fallible

/-- The reason that an event other than `Success` makes the client give. -/
def MediatorEvent.failure : MediatorEvent → Option ConnectionFailedReason
  | .alreadyConnected => some .alreadyConnected
  | .differentVersion => some .differentVersion
  | .timeout => some .timeout
  | .success _ => none

/-- The frame carries a packet with the id of a `ConnectionRequestAccepted`. -/
def Frame.IsAccept (f : Frame) : Prop := f.data.head? = some (Packet.ID ConnectionRequestAccepted)

instance : DecidablePred Frame.IsAccept := fun _ => inferInstanceAs (Decidable (_ = _))

/-- The frame carries a well-formed `ConnectionRequestAccepted`. -/
def Frame.Accepts (f : Frame) : Prop :=
  f.IsAccept ∧ ∃ accept, ActixRaknet.decode ConnectionRequestAccepted f.data = .ok (.ok accept)

instance : DecidablePred Frame.Accepts := fun _ => inferInstanceAs (Decidable (_ ∧ _))

namespace RakClient

/-- The client with the first message of its mailbox taken. -/
def popped (c : RakClient) (rest : List RakClientMail) : RakClient :=
  { c with ctx := c.ctx.withMailbox rest }

/-- The client with a timer that has fired. -/
def fired (c : RakClient) (f : Future (ℕ × RakClientTimer)) : RakClient :=
  { c with ctx := c.ctx.fired f }

/-- The mediator is told to terminate and forgotten. -/
def dropMediator (c : RakClient) (mediator : ℕ) : RakClient :=
  { c.sendMediator mediator .terminateMediator with mediator := none }

/-- A call other than `Connect`, or a datagram, comes in. -/
def External : Action → Prop
  | .call _ (.connect _) => False
  | .call _ _ => True
  | .receivedUdp _ _ => True
  | _ => False

/-- The action comes in and is dropped, or cannot happen. -/
def Idle (c : RakClient) : Action → Prop
  | .deliver _ => c.ctx.mailbox = []
  | .fire _ handle => c.ctx.future? handle = none
  | a => External a

/-- What a step does. -/
inductive Effect (c : RakClient) : Action → RakClient → Prop
  | idle (a) (ha : c.Idle a) : Effect c a c
  | connect (env addr) : Effect c (.call env (.connect addr)) { c with
      remote := some addr
      mediator := some c.mediators.length
      mediators := c.mediators ++ [.new c.guid addr] }
  /-- The session works on what comes in. -/
  | work (a session) (ha : External a) (hs : c.session.isSome) : Effect c a (c.putSession session)
  /-- A datagram goes to the mediator. -/
  | relay (env msg mediator) (hm : c.mediator = some mediator) :
      Effect c (.receivedUdp env msg) (c.sendMediator mediator (.receivedUdp msg))
  | mediator (attempt action) : Effect c (.mediator attempt action) (c.mediatorStep attempt action)
  /-- The event of a mediator comes when there is none. -/
  | late (env attempt event rest) (hmail : c.ctx.mailbox = .mediator attempt event :: rest)
      (hm : c.mediator = none) : Effect c (.deliver env) (c.popped rest)
  | refused (env attempt event rest reason mediator)
      (hmail : c.ctx.mailbox = .mediator attempt event :: rest) (hm : c.mediator = some mediator)
      (hreason : event.failure = some reason) :
      Effect c (.deliver env)
        (((c.popped rest).emit (.connectionFailed reason)).dropMediator mediator)
  | success (env attempt mtu rest mediator session)
      (hmail : c.ctx.mailbox = .mediator attempt (.success mtu) :: rest)
      (hm : c.mediator = some mediator) (hremote : c.remote.isSome) :
      Effect c (.deliver env)
        ((putSession { c.popped rest with attempt := attempt } session).startTimers.dropMediator
          mediator)
  /-- An accept that is not awaited, or that does not decode. -/
  | ignored (env attempt frame rest)
      (hmail : c.ctx.mailbox = .session attempt (.receivedDatagram frame) :: rest)
      (hframe : frame.IsAccept) (hh : ¬ (frame.Accepts ∧ c.disconnectHandle.isSome)) :
      Effect c (.deliver env) (c.popped rest)
  | accepted (env attempt frame rest handle session session')
      (hmail : c.ctx.mailbox = .session attempt (.receivedDatagram frame) :: rest)
      (hframe : frame.Accepts) (hh : c.disconnectHandle = some handle)
      (hremote : c.remote.isSome) (hs : c.session.isSome) :
      Effect c (.deliver env) ((putSession (putSession { c.popped rest with
          ctx := (c.popped rest).ctx.cancelFuture handle
          disconnectHandle := none } session) session').emit .connected)
  | packet (env attempt frame rest)
      (hmail : c.ctx.mailbox = .session attempt (.receivedDatagram frame) :: rest)
      (hframe : ¬ frame.IsAccept) :
      Effect c (.deliver env) ((c.popped rest).emit (.packet frame.data))
  | ended (env attempt rest) (hmail : c.ctx.mailbox = .session attempt .sessionEnd :: rest) :
      Effect c (.deliver env) (c.popped rest).handleSessionEnd
  | timedOut (env handle f) (hf : c.ctx.future? handle = some f)
      (htimer : f.callback.2 = .connectionTimeout) :
      Effect c (.fire env handle) (c.fired f).connectionTimeout
  | tick (env handle f session) (hf : c.ctx.future? handle = some f)
      (htimer : f.callback.2 = .update) (hs : c.session.isSome) :
      Effect c (.fire env handle) ((c.fired f).putSession session)
  /-- There is nothing to update: the tick is cancelled. -/
  | untick (env handle f tick) (hf : c.ctx.future? handle = some f)
      (htimer : f.callback.2 = .update) (hs : c.session = none) (htick : c.tickHandle = some tick) :
      Effect c (.fire env handle) { c.fired f with ctx := (c.fired f).ctx.cancelFuture tick }

/-! ### The handlers -/

lemma mapError_eq_ok {ε ε' α : Type*} {x : Except ε α} {f : ε → ε'} {a : α} :
    x.mapError f = .ok a ↔ x = .ok a := by
  cases x <;> simp [Except.mapError]

lemma withSession_eq_ok {c c' : RakClient} {f : Session → Except Panic Session} :
    c.withSession f = .ok c'
      ↔ ∃ s s', c.session = some s ∧ f s = .ok s' ∧ c' = c.putSession s' := by
  simp only [withSession, bind_eq_ok, mapError_eq_ok, unwrap_eq_ok, pure_eq_ok, Except.ok.injEq]
  constructor
  · rintro ⟨s, hs, s', hs', rfl⟩
    exact ⟨s, s', hs, hs', rfl⟩
  · rintro ⟨s, s', hs, hs', rfl⟩
    exact ⟨s, hs, s', hs', rfl⟩

/-- A call on the session, if there is one, is work or nothing. -/
lemma effect_ifSession {c c' : RakClient} {a : Action} {f : Session → Except Panic Session}
    (ha : External a) (hidle : c.Idle a)
    (h : (if c.session.isSome then c.withSession f else .ok c) = .ok c') : c.Effect a c' := by
  split_ifs at h with hs
  · obtain ⟨s, s', -, -, rfl⟩ := withSession_eq_ok.mp h
    exact .work a s' ha hs
  · obtain rfl := Except.ok.inj h
    exact .idle a hidle

lemma handleMsg_effect {c c' : RakClient} {env : Env} {msg : RakClientMsg}
    (h : c.handleMsg env msg = .ok c') : c.Effect (.call env msg) c' := by
  cases msg with
  | connect addr =>
      obtain rfl := Except.ok.inj h
      exact .connect env addr
  | packet bytes => exact effect_ifSession trivial trivial h
  | disconnect => exact effect_ifSession trivial trivial h

lemma handleReceivedUdp_effect {c c' : RakClient} {env : Env} {msg : UdpPacket}
    (h : c.handleReceivedUdp env msg = .ok c') : c.Effect (.receivedUdp env msg) c' := by
  rw [handleReceivedUdp] at h
  cases hremote : c.remote with
  | none =>
      rw [hremote] at h
      obtain rfl := Except.ok.inj h
      exact .idle _ trivial
  | some remote =>
      rw [hremote] at h
      by_cases haddr : remote ≠ msg.addr
      · obtain rfl := Except.ok.inj ((if_pos haddr).symm.trans h)
        exact .idle _ trivial
      · replace h := (if_neg haddr).symm.trans h
        cases hm : c.mediator with
        | some mediator =>
            rw [hm] at h
            obtain rfl := Except.ok.inj h
            exact .relay env msg mediator hm
        | none =>
            rw [hm] at h
            exact effect_ifSession trivial trivial h

lemma handleSuccess_eq_ok {c c' : RakClient} {env : Env} {attempt : ℕ} {mtu : UInt16}
    (h : c.handleSuccess env attempt mtu = .ok c') : c.remote.isSome ∧ ∃ session,
      c' = (putSession { c with attempt := attempt } session).startTimers := by
  simp only [handleSuccess, bind_eq_ok, mapError_eq_ok, unwrap_eq_ok, pure_eq_ok,
    Except.ok.injEq] at h
  obtain ⟨remote, hremote, session, -, rfl⟩ := h
  exact ⟨Option.isSome_of_mem hremote, session, rfl⟩

lemma handleMediatorEvent_effect {c c' : RakClient} {env : Env} {attempt : ℕ}
    {event : MediatorEvent} {rest : List RakClientMail}
    (hmail : c.ctx.mailbox = .mediator attempt event :: rest)
    (h : (c.popped rest).handleMediatorEvent env attempt event = .ok c') :
    c.Effect (.deliver env) c' := by
  rw [handleMediatorEvent] at h
  cases hm : c.mediator with
  | none =>
      rw [show (c.popped rest).mediator = none from hm] at h
      obtain rfl := Except.ok.inj h
      exact .late env attempt event rest hmail hm
  | some mediator =>
      rw [show (c.popped rest).mediator = some mediator from hm] at h
      obtain ⟨c₁, hevent, h⟩ := bind_eq_ok.mp h
      obtain rfl := Except.ok.inj h
      cases event with
      | success mtu =>
          obtain ⟨hremote, session, rfl⟩ := handleSuccess_eq_ok hevent
          exact .success env attempt mtu rest mediator session hmail hm hremote
      | alreadyConnected =>
          obtain rfl := Except.ok.inj hevent
          exact .refused env attempt _ rest _ mediator hmail hm rfl
      | differentVersion =>
          obtain rfl := Except.ok.inj hevent
          exact .refused env attempt _ rest _ mediator hmail hm rfl
      | timeout =>
          obtain rfl := Except.ok.inj hevent
          exact .refused env attempt _ rest _ mediator hmail hm rfl

lemma accepted_eq_ok {c c' : RakClient} {env : Env} {handle : ℕ}
    {accept : ConnectionRequestAccepted} (h : c.accepted env handle accept = .ok c') :
    c.remote.isSome ∧ c.session.isSome ∧ ∃ session session',
      c' = (putSession (putSession { c with
          ctx := c.ctx.cancelFuture handle
          disconnectHandle := none } session) session').emit .connected := by
  simp only [accepted, bind_eq_ok, mapError_eq_ok, unwrap_eq_ok, pure_eq_ok, Except.ok.injEq,
    withSession_eq_ok] at h
  obtain ⟨remote, hremote, _, ⟨s, s₁, hs, -, rfl⟩, _, ⟨_, s₂, -, -, rfl⟩, rfl⟩ := h
  exact ⟨Option.isSome_of_mem hremote, Option.isSome_of_mem hs, s₁, s₂, rfl⟩

lemma isAccept_iff {frame : Frame} {id : UInt8} (hid : index frame.data 0 = .ok id) :
    id = Packet.ID ConnectionRequestAccepted ↔ frame.IsAccept := by
  rw [Frame.IsAccept]
  cases hdata : frame.data with
  | nil =>
      rw [hdata] at hid
      cases hid
  | cons b payload =>
      rw [hdata] at hid
      obtain rfl := Except.ok.inj hid
      rw [List.head?_cons, Option.some.injEq]

lemma handleReceivedDatagram_effect {c c' : RakClient} {env : Env} {attempt : ℕ} {frame : Frame}
    {rest : List RakClientMail}
    (hmail : c.ctx.mailbox = .session attempt (.receivedDatagram frame) :: rest)
    (h : (c.popped rest).handleReceivedDatagram env frame = .ok c') :
    c.Effect (.deliver env) c' := by
  obtain ⟨id, hid, h⟩ := bind_eq_ok.mp h
  rw [mapError_eq_ok] at hid
  have hiff := isAccept_iff hid
  split_ifs at h with haccept
  · have hframe := hiff.mp haccept
    cases hh : c.disconnectHandle with
    | none =>
        rw [show (c.popped rest).disconnectHandle = none from hh] at h
        obtain rfl := Except.ok.inj h
        exact .ignored env attempt frame rest hmail hframe fun hc => by simp [hh] at hc
    | some handle =>
        rw [show (c.popped rest).disconnectHandle = some handle from hh] at h
        obtain ⟨result, hdecode, h⟩ := bind_eq_ok.mp h
        rw [mapError_eq_ok] at hdecode
        cases result with
        | error e =>
            obtain rfl := Except.ok.inj h
            refine .ignored env attempt frame rest hmail hframe ?_
            rintro ⟨⟨-, accept, haccept⟩, -⟩
            cases hdecode.symm.trans haccept
        | ok accept =>
            obtain ⟨hremote, hs, session, session', rfl⟩ := accepted_eq_ok h
            exact .accepted env attempt frame rest handle session session' hmail
              ⟨hframe, accept, hdecode⟩ hh hremote hs
  · obtain rfl := Except.ok.inj h
    exact .packet env attempt frame rest hmail (mt hiff.mpr haccept)

/-- **A step that completes** does one of the things listed. -/
lemma step_effect {c c' : RakClient} {a : Action} (h : c.step a = .ok c') : c.Effect a c' := by
  cases a with
  | call env msg => exact handleMsg_effect h
  | receivedUdp env msg => exact handleReceivedUdp_effect h
  | deliver env =>
      rw [step] at h
      cases hmail : c.ctx.mailbox with
      | nil =>
          rw [hmail] at h
          obtain rfl := Except.ok.inj h
          exact .idle _ hmail
      | cons mail rest =>
          rw [hmail] at h
          rcases mail with ⟨attempt, event⟩ | ⟨attempt, frame | _⟩
          · exact handleMediatorEvent_effect hmail h
          · exact handleReceivedDatagram_effect hmail h
          · obtain rfl := Except.ok.inj h
            exact .ended env attempt rest hmail
  | fire env handle =>
      rw [step] at h
      cases hf : c.ctx.future? handle with
      | none =>
          rw [hf] at h
          obtain rfl := Except.ok.inj h
          exact .idle _ hf
      | some f =>
          simp only [hf] at h
          cases htimer : f.callback.2 with
          | connectionTimeout =>
              rw [htimer] at h
              obtain rfl := Except.ok.inj h
              exact .timedOut env handle f hf htimer
          | update =>
              rw [htimer, callback, update] at h
              split_ifs at h with hs
              · obtain ⟨s, s', -, -, rfl⟩ := withSession_eq_ok.mp h
                exact .tick env handle f s' hf htimer hs
              · simp only [bind_eq_ok, mapError_eq_ok, unwrap_eq_ok, pure_eq_ok,
                  Except.ok.injEq] at h
                obtain ⟨tick, htick, rfl⟩ := h
                exact .untick env handle f tick hf htimer (Option.not_isSome_iff_eq_none.mp hs)
                  htick
  | mediator attempt action =>
      obtain rfl := Except.ok.inj h
      exact .mediator attempt action

/-! ### Attempts and timers -/

/-- The user asks for a connection. -/
def Action.isConnect : Action → Bool
  | .call _ (.connect _) => true
  | _ => false

/-- **A step of a mediator** changes no other mediator, and the client gets events of it at most. -/
lemma mediatorStep_eq (c : RakClient) (attempt : ℕ) (action : ClientMediator.Action) :
    ∃ (mediators : List ClientMediator) (posted : List MediatorEvent),
      c.mediatorStep attempt action = { c with
        mediators := mediators
        ctx := c.ctx.post (posted.map (.mediator attempt)) }
      ∧ mediators.length = c.mediators.length
      ∧ ∀ j, j ≠ attempt → mediators[j]? = c.mediators[j]? := by
  rw [mediatorStep]
  split
  · exact ⟨c.mediators, [], by rw [List.map_nil, Context.post_nil], rfl, fun _ _ => rfl⟩
  · split
    · exact ⟨_, [], by rw [List.map_nil, Context.post_nil], List.length_set,
        fun j hj => List.getElem?_set_ne hj.symm⟩
    · exact ⟨_, _, rfl, List.length_set, fun j hj => List.getElem?_set_ne hj.symm⟩

lemma length_mediatorStep (c : RakClient) (attempt : ℕ) (action : ClientMediator.Action) :
    (c.mediatorStep attempt action).mediators.length = c.mediators.length := by
  obtain ⟨mediators, posted, heq, hlength, -⟩ := c.mediatorStep_eq attempt action
  rw [heq, hlength]

lemma futures_mediatorStep (c : RakClient) (attempt : ℕ) (action : ClientMediator.Action) :
    (c.mediatorStep attempt action).ctx.futures = c.ctx.futures := by
  obtain ⟨mediators, posted, heq, -⟩ := c.mediatorStep_eq attempt action
  rw [heq, Context.futures_post]

/-- Every connect is an attempt, with a mediator of its own, and nothing else is. -/
lemma Effect.mediators_length {c c' : RakClient} {a : Action} (h : c.Effect a c') :
    c'.mediators.length = c.mediators.length + if a.isConnect then 1 else 0 := by
  have hexternal : ∀ {a}, External a → a.isConnect = false := by
    rintro (⟨env, addr | bytes | _⟩ | _ | _ | _ | _) ha
    all_goals first | rfl | exact ha.elim
  cases h with
  | idle a ha =>
      cases a with
      | call env msg => rw [hexternal (show External (.call env msg) from ha)]; rfl
      | _ => rfl
  | connect env addr => simp [Action.isConnect]
  | work a session ha hs => rw [hexternal ha]; rfl
  | relay env msg mediator hm => simp [sendMediator, Action.isConnect]
  | mediator attempt action => exact length_mediatorStep c attempt action
  | refused env attempt event rest reason mediator hmail hm hreason =>
      simp [dropMediator, sendMediator, emit, popped, Action.isConnect]
  | success env attempt mtu rest mediator session hmail hm hremote =>
      simp [dropMediator, sendMediator, startTimers, putSession, popped, Action.isConnect]
  | _ => rfl

/-- The timers that a step starts: one that fires once, and a tick. -/
lemma Effect.futures {c c' : RakClient} {a : Action} (h : c.Effect a c')
    {f : Future (ℕ × RakClientTimer)} (hf : f ∈ c'.ctx.futures) :
    f ∈ c.ctx.futures ∨ f.repeats = decide (f.callback.2 = .update) := by
  cases h with
  | mediator attempt action => exact Or.inl (futures_mediatorStep c attempt action ▸ hf)
  | success env attempt mtu rest mediator session hmail hm hremote =>
      have hf : f ∈ (c.ctx.futures ++ [_]) ++ [_] := hf
      rcases List.mem_append.mp hf with hf | hf
      · rcases List.mem_append.mp hf with hf | hf
        · exact Or.inl hf
        · rw [List.mem_singleton.mp hf]
          exact Or.inr rfl
      · rw [List.mem_singleton.mp hf]
        exact Or.inr rfl
  | accepted env attempt frame rest handle session session' hmail hframe hh hremote hs =>
      exact Or.inl (Context.mem_cancelFuture.mp hf).1
  | timedOut env handle f' hf' htimer => exact Or.inl (Context.mem_of_mem_fired hf)
  | tick env handle f' session hf' htimer hs => exact Or.inl (Context.mem_of_mem_fired hf)
  | untick env handle f' tick hf' htimer hs htick =>
      exact Or.inl (Context.mem_of_mem_fired (Context.mem_cancelFuture.mp hf).1)
  | _ => exact Or.inl hf

end RakClient

end ActixRaknet
