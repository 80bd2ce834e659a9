import ActixRaknet.Client.Effects
import ActixRaknet.Library.Run

/-!
The events that a client with one connection attempt sends to its user.

* `FollowsProtocol`: the events are a prefix of one failure, or of a connection, packets and a
  disconnection;
* `Phase`, `phase`: the same as an automaton (`followsProtocol_iff`);
* `Timely`: when the session's messages may be handled;
* `Stage`: the stages that an attempt goes through while its steps are timely;
* `events_iff`: the events follow the protocol exactly in the runs whose steps are timely.
-/

namespace ActixRaknet

open Fallible

/-! ### The protocol -/

/-- The events are a prefix of one `ConnectionFailed`, or of `Connected`, any number of `Packet`s
and a `Disconnected`. -/
def FollowsProtocol (events : List RakClientEvent) : Prop :=
  (∃ reason, events <+: [.connectionFailed reason])
    ∨ ∃ packets : List Bytes, events <+: .connected :: (packets.map .packet ++ [.disconnected])

/-- How far an attempt has come, for its user. -/
inductive Phase
  | silent
  | failed
  | connected
  | disconnected
  deriving DecidableEq, Repr

/-- The phase after an event, if the event may follow. -/
def Phase.next : Phase → RakClientEvent → Option Phase
  | .silent, .connectionFailed _ => some .failed
  | .silent, .connected => some .connected
  | .connected, .packet _ => some .connected
  | .connected, .disconnected => some .disconnected
  | _, _ => none

/-- The phase after a list of events. -/
def phase (events : List RakClientEvent) : Option Phase :=
  events.foldl (fun p event => p.bind (·.next event)) (some .silent)

@[simp] lemma phase_concat (events : List RakClientEvent) (event : RakClientEvent) :
    phase (events ++ [event]) = (phase events).bind (·.next event) := by
  rw [phase, List.foldl_append]
  rfl

/-- The events that lead to a phase. -/
def Phase.Reached : Phase → List RakClientEvent → Prop
  | .silent, events => events = []
  | .failed, events => ∃ reason, events = [.connectionFailed reason]
  | .connected, events => ∃ packets : List Bytes, events = .connected :: packets.map .packet
  | .disconnected, events =>
    ∃ packets : List Bytes, events = .connected :: (packets.map .packet ++ [.disconnected])

lemma Phase.Reached.next {p p' : Phase} {events : List RakClientEvent} {event : RakClientEvent}
    (h : p.Reached events) (hnext : p.next event = some p') : p'.Reached (events ++ [event]) := by
  cases p with
  | silent =>
      obtain rfl : events = [] := h
      cases event with
      | connectionFailed reason =>
          cases hnext
          exact ⟨reason, rfl⟩
      | connected =>
          cases hnext
          exact ⟨[], rfl⟩
      | _ => cases hnext
  | connected =>
      obtain ⟨packets, rfl⟩ := h
      cases event with
      | packet bytes =>
          cases hnext
          exact ⟨packets ++ [bytes], by simp⟩
      | disconnected =>
          cases hnext
          exact ⟨packets, rfl⟩
      | _ => cases hnext
  | _ => cases event <;> cases hnext

lemma reached_of_phase {p : Phase} {events : List RakClientEvent} (h : phase events = some p) :
    p.Reached events := by
  induction events using List.reverseRecOn generalizing p with
  | nil =>
      obtain rfl := Option.some.inj h
      rfl
  | append_singleton events event ih =>
      rw [phase_concat, Option.bind_eq_some_iff] at h
      obtain ⟨p₀, hp₀, hnext⟩ := h
      exact (ih hp₀).next hnext

lemma phase_packets (packets : List Bytes) :
    phase (.connected :: packets.map .packet) = some .connected := by
  induction packets using List.reverseRecOn with
  | nil => rfl
  | append_singleton packets bytes ih =>
      rw [List.map_append, List.map_singleton, ← List.cons_append, phase_concat, ih]
      rfl

/-- A prefix of events that may follow one another. -/
lemma isSome_phase_of_prefix {events events' : List RakClientEvent} (h : events <+: events')
    (hphase : (phase events').isSome) : (phase events).isSome := by
  obtain ⟨rest, rfl⟩ := h
  induction rest using List.reverseRecOn with
  | nil => rwa [List.append_nil] at hphase
  | append_singleton rest event ih =>
      rw [← List.append_assoc, phase_concat, Option.isSome_bind] at hphase
      exact ih (Option.isSome_of_any hphase)

/-- **The protocol as an automaton.** -/
lemma followsProtocol_iff {events : List RakClientEvent} :
    FollowsProtocol events ↔ (phase events).isSome := by
  constructor
  · rintro (⟨reason, h⟩ | ⟨packets, h⟩)
    · exact isSome_phase_of_prefix h rfl
    · refine isSome_phase_of_prefix h ?_
      rw [← List.cons_append, phase_concat, phase_packets]
      rfl
  · intro h
    obtain ⟨p, hp⟩ := Option.isSome_iff_exists.mp h
    cases p with
    | silent =>
        rw [show events = [] from reached_of_phase hp]
        exact Or.inl ⟨.timeout, List.nil_prefix⟩
    | failed =>
        obtain ⟨reason, rfl⟩ := reached_of_phase hp
        exact Or.inl ⟨reason, List.prefix_rfl⟩
    | connected =>
        obtain ⟨packets, rfl⟩ := reached_of_phase hp
        refine Or.inr ⟨packets, ?_⟩
        rw [← List.cons_append]
        exact List.prefix_append _ _
    | disconnected =>
        obtain ⟨packets, rfl⟩ := reached_of_phase hp
        exact Or.inr ⟨packets, List.prefix_rfl⟩

namespace RakClient

/-! ### Stages of an attempt -/

/-- The handles of the accept timers that run. -/
def timeouts (c : RakClient) : List ℕ :=
  (c.ctx.futures.filter (·.callback.2 = .connectionTimeout)).map (·.handle)

/-- What the stage of an attempt depends on. -/
structure View where
  attempted : Bool
  mediating : Bool
  inSession : Bool
  awaiting : Option ℕ
  timeouts : List ℕ
  phase : Option Phase

/-- What the stage of the client depends on. -/
def view (c : RakClient) : View :=
  ⟨c.mediators.length != 0, c.mediator.isSome, c.session.isSome, c.disconnectHandle, c.timeouts,
    phase c.handler⟩

/-- The stages of an attempt: before it, while its mediator works, refused, while an accept is
awaited, after the accept timer has fired, connected, and disconnected. -/
inductive Stage : View → Prop
  | idle : Stage ⟨false, false, false, none, [], some .silent⟩
  | mediating : Stage ⟨true, true, false, none, [], some .silent⟩
  | refused : Stage ⟨true, false, false, none, [], some .failed⟩
  | awaiting (handle) : Stage ⟨true, false, true, some handle, [handle], some .silent⟩
  | timedOut (handle) : Stage ⟨true, false, true, some handle, [], some .failed⟩
  | connected : Stage ⟨true, false, true, none, [], some .connected⟩
  | disconnected : Stage ⟨true, false, false, none, [], some .disconnected⟩

/-- An accept timer fires once. -/
def FiresOnce (c : RakClient) : Prop :=
  ∀ f ∈ c.ctx.futures, f.callback.2 = .connectionTimeout → f.repeats = false

/-- When the messages of a session may be handled: its end, and its packets, while it is there and
its accept has been handled; and a well-formed accept that is awaited, while the accept timer
runs. -/
def TimelyMail (c : RakClient) : RakClientMail → Prop
  | .mediator _ _ => True
  | .session _ .sessionEnd => c.session.isSome ∧ c.disconnectHandle = none
  | .session _ (.receivedDatagram frame) =>
    (frame.Accepts → ∀ handle ∈ c.disconnectHandle, handle ∈ c.timeouts)
      ∧ (¬ frame.IsAccept → c.session.isSome ∧ c.disconnectHandle = none)

instance (c : RakClient) : ∀ mail, Decidable (c.TimelyMail mail)
  | .mediator _ _ => isTrue trivial
  | .session _ .sessionEnd => inferInstanceAs (Decidable (_ ∧ _))
  | .session _ (.receivedDatagram _) => inferInstanceAs (Decidable (_ ∧ _))

/-- The message that is handled, if one is, is timely. -/
def Timely (c : RakClient) : Action → Prop
  | .deliver _ => ∀ mail ∈ c.ctx.mailbox.head?, c.TimelyMail mail
  | _ => True

instance (c : RakClient) : ∀ a, Decidable (c.Timely a)
  | .deliver _ => inferInstanceAs (Decidable (∀ mail ∈ c.ctx.mailbox.head?, c.TimelyMail mail))
  | .call _ _ | .receivedUdp _ _ | .fire _ _ | .mediator _ _ => isTrue trivial

lemma timely_deliver {c : RakClient} {env : Env} {mail : RakClientMail}
    {rest : List RakClientMail} (hmail : c.ctx.mailbox = mail :: rest) :
    c.Timely (.deliver env) ↔ c.TimelyMail mail := by
  rw [Timely, hmail]
  simp

/-- A connect is the first one. -/
def SingleConnect (c : RakClient) (a : Action) : Prop := a.isConnect → c.mediators = []

lemma timeouts_cancelFuture (c : RakClient) (handle : ℕ) :
    timeouts { c with ctx := c.ctx.cancelFuture handle } = c.timeouts.filter (· ≠ handle) := by
  simp only [timeouts, Context.cancelFuture, List.filter_filter, List.filter_map]
  congr 1
  refine List.filter_congr fun f _ => ?_
  simp [Bool.and_comm]

/-- A tick that fires stops no accept timer. -/
lemma timeouts_fired_update {c : RakClient} {f : Future (ℕ × RakClientTimer)}
    (hf : f ∈ c.ctx.futures) (hupdate : f.callback.2 = .update) :
    (c.fired f).timeouts = c.timeouts := by
  rw [fired, Context.fired]
  split_ifs with hrepeats
  · rfl
  · rw [timeouts_cancelFuture, List.filter_eq_self]
    intro handle hmem
    obtain ⟨g, hg, rfl⟩ := List.mem_map.mp hmem
    obtain ⟨hg, htimer⟩ := List.mem_filter.mp hg
    refine decide_eq_true fun heq => ?_
    rw [Context.eq_of_handle_eq hg hf heq, hupdate] at htimer
    cases htimer

lemma timeouts_fired_timeout {c : RakClient} {f : Future (ℕ × RakClientTimer)}
    (hrepeats : f.repeats = false) : (c.fired f).timeouts = c.timeouts.filter (· ≠ f.handle) := by
  rw [fired, Context.fired, hrepeats]
  exact timeouts_cancelFuture c f.handle

/-! ### How the view changes -/

@[simp] lemma view_popped (c : RakClient) (rest : List RakClientMail) :
    (c.popped rest).view = c.view := rfl

@[simp] lemma view_emit (c : RakClient) (event : RakClientEvent) :
    (c.emit event).view = { c.view with phase := c.view.phase.bind (·.next event) } := by
  simp only [view, emit, phase_concat]
  rfl

@[simp] lemma view_putSession (c : RakClient) (session : Session) :
    (c.putSession session).view = { c.view with inSession := true } := rfl

@[simp] lemma view_withAttempt (c : RakClient) (attempt : ℕ) :
    view { c with attempt := attempt } = c.view := rfl

@[simp] lemma view_sendMediator (c : RakClient) (mediator : ℕ) (msg : MediatorMsg) :
    (c.sendMediator mediator msg).view = c.view := by
  simp only [view, sendMediator, List.length_modify]
  rfl

@[simp] lemma view_dropMediator (c : RakClient) (mediator : ℕ) :
    (c.dropMediator mediator).view = { c.view with mediating := false } := by
  rw [← view_sendMediator c mediator .terminateMediator]
  rfl

@[simp] lemma view_mediatorStep (c : RakClient) (attempt : ℕ) (action : ClientMediator.Action) :
    (c.mediatorStep attempt action).view = c.view := by
  obtain ⟨mediators, posted, heq, hlength, -⟩ := c.mediatorStep_eq attempt action
  rw [heq, view, hlength]
  rfl

@[simp] lemma view_startTimers (c : RakClient) : c.startTimers.view = { c.view with
    awaiting := some c.ctx.spawned
    timeouts := c.view.timeouts ++ [c.ctx.spawned] } := by
  simp [view, startTimers, timeouts]

@[simp] lemma view_handleSessionEnd (c : RakClient) : c.handleSessionEnd.view = { c.view with
    inSession := false
    phase := c.view.phase.bind (·.next .disconnected) } := by
  rw [handleSessionEnd, view_emit]
  rfl

@[simp] lemma view_connect (c : RakClient) (addr : SocketAddr) : view { c with
      remote := some addr
      mediator := some c.mediators.length
      mediators := c.mediators ++ [.new c.guid addr] }
    = { c.view with attempted := true, mediating := true } := by
  simp [view, timeouts]

lemma view_cancelFuture (c : RakClient) (handle : ℕ) :
    view { c with ctx := c.ctx.cancelFuture handle }
      = { c.view with timeouts := c.view.timeouts.filter (· ≠ handle) } := by
  rw [view, timeouts_cancelFuture]
  rfl

@[simp] lemma view_cancelAccept (c : RakClient) (handle : ℕ) :
    view { c with ctx := c.ctx.cancelFuture handle, disconnectHandle := none } = { c.view with
      awaiting := none
      timeouts := c.view.timeouts.filter (· ≠ handle) } := by
  calc view { c with ctx := c.ctx.cancelFuture handle, disconnectHandle := none }
      = { view { c with ctx := c.ctx.cancelFuture handle } with awaiting := none } := rfl
    _ = _ := by rw [view_cancelFuture]

lemma view_fired (c : RakClient) (f : Future (ℕ × RakClientTimer)) :
    (c.fired f).view = { c.view with timeouts := (c.fired f).timeouts } := rfl

/-! ### Steps -/

lemma Stage.of_mediating {v : View} (h : Stage v) (hm : v.mediating = true) :
    v = ⟨true, true, false, none, [], some .silent⟩ := by
  cases h <;> first | rfl | cases hm

lemma Stage.of_connected {v : View} (h : Stage v) (hs : v.inSession = true)
    (ha : v.awaiting = none) : v = ⟨true, false, true, none, [], some .connected⟩ := by
  cases h with
  | connected => rfl
  | awaiting | timedOut => cases ha
  | _ => cases hs

lemma Stage.of_timeout {v : View} (h : Stage v) {handle : ℕ} (hmem : handle ∈ v.timeouts) :
    v = ⟨true, false, true, some handle, [handle], some .silent⟩ := by
  cases h with
  | awaiting handle' => rw [List.mem_singleton.mp hmem]
  | _ => cases hmem

/-- A view that is timely for the end of a session, or its packets, and one that is not. -/
lemma Stage.connected_or {v : View} (h : Stage v) :
    (v.inSession = true ∧ v.awaiting = none)
      ∨ ∀ event, event = .disconnected ∨ (∃ bytes, event = .packet bytes) →
          v.phase.bind (·.next event) = none := by
  cases h with
  | connected => exact Or.inl ⟨rfl, rfl⟩
  | _ => exact Or.inr (by rintro event (rfl | ⟨bytes, rfl⟩) <;> rfl)

lemma Stage.timeouts_of_not_inSession {v : View} (h : Stage v) (hs : v.inSession = false) :
    v.timeouts = [] := by
  cases h <;> first | rfl | cases hs

/-- **Step lemma**: a timely step takes an attempt from stage to stage. -/
lemma Stage.step {c c' : RakClient} {a : Action} (h : Stage c.view) (honce : c.FiresOnce)
    (hsingle : c.SingleConnect a) (htimely : c.Timely a) (hstep : c.step a = .ok c') :
    Stage c'.view := by
  cases step_effect hstep with
  | idle a ha => exact h
  | connect env addr =>
      have hnone : c.mediators = [] := hsingle rfl
      have hv : c.view = ⟨false, false, false, none, [], some .silent⟩ := by
        generalize hview : c.view = v at h
        have hattempted : v.attempted = false := by rw [← hview, view, hnone]; rfl
        cases h <;> first | rfl | cases hattempted
      simp only [view_connect, hv]
      exact .mediating
  | work a session ha hs =>
      have hsession : c.view.inSession = true := hs
      rwa [view_putSession, ← hsession]
  | relay env msg mediator hm => rwa [view_sendMediator]
  | mediator attempt action => rwa [view_mediatorStep]
  | late env attempt event rest hmail hm => exact h
  | refused env attempt event rest reason mediator hmail hm hreason =>
      have hv := h.of_mediating (show c.mediator.isSome = true by rw [hm]; rfl)
      simp only [view_dropMediator, view_emit, view_popped, hv]
      exact .refused
  | success env attempt mtu rest mediator session hmail hm hremote =>
      have hv := h.of_mediating (show c.mediator.isSome = true by rw [hm]; rfl)
      simp only [view_dropMediator, view_startTimers, view_putSession, view_withAttempt,
        view_popped, hv]
      exact .awaiting _
  | ignored env attempt frame rest hmail hframe hh => exact h
  | accepted env attempt frame rest handle session session' hmail hframe hh hremote hs =>
      rw [timely_deliver hmail] at htimely
      have hmem : handle ∈ c.timeouts := htimely.1 hframe handle hh
      have hv := h.of_timeout hmem
      simp only [view_emit, view_putSession, view_cancelAccept, view_popped, hv]
      simpa [Phase.next] using Stage.connected
  | packet env attempt frame rest hmail hframe =>
      rw [timely_deliver hmail] at htimely
      have hv := h.of_connected (htimely.2 hframe).1 (htimely.2 hframe).2
      simp only [view_emit, view_popped, hv]
      exact .connected
  | ended env attempt rest hmail =>
      rw [timely_deliver hmail] at htimely
      have hv := h.of_connected htimely.1 htimely.2
      simp only [view_handleSessionEnd, view_popped, hv]
      exact .disconnected
  | timedOut env handle f hf htimer =>
      have hmem := (Context.future?_eq_some hf).1
      have htimeout : f.handle ∈ c.timeouts :=
        List.mem_map_of_mem (List.mem_filter.mpr ⟨hmem, decide_eq_true htimer⟩)
      have hv := h.of_timeout htimeout
      have htimeouts : (c.fired f).timeouts = [] := by
        rw [timeouts_fired_timeout (honce f hmem htimer), show c.timeouts = [f.handle] from
          congrArg View.timeouts hv]
        simp
      rw [connectionTimeout, view_emit, view_fired, htimeouts, hv]
      exact .timedOut _
  | tick env handle f session hf htimer hs =>
      have hsession : c.view.inSession = true := hs
      rw [view_putSession, view_fired,
        timeouts_fired_update (Context.future?_eq_some hf).1 htimer, ← hsession]
      exact h
  | untick env handle f tick hf htimer hs htick =>
      have hnone : c.view.timeouts = [] :=
        h.timeouts_of_not_inSession (by rw [view, hs]; rfl)
      rw [view_cancelFuture, view_fired,
        timeouts_fired_update (Context.future?_eq_some hf).1 htimer]
      simp only [show c.timeouts = [] from hnone, List.filter_nil]
      rw [← hnone]
      exact h

lemma FiresOnce.step {c c' : RakClient} {a : Action} (h : c.FiresOnce) (hstep : c.step a = .ok c') :
    c'.FiresOnce := by
  intro f hf htimer
  rcases (step_effect hstep).futures hf with hf | hrepeats
  · exact h f hf htimer
  · rw [hrepeats, htimer]
    rfl

/-- **A step that is not timely** sends an event that may not follow. -/
lemma Stage.breaks {c c' : RakClient} {a : Action} (h : Stage c.view) (htimely : ¬ c.Timely a)
    (hstep : c.step a = .ok c') : phase c'.handler = none := by
  have hbreak : ∀ {event}, event = .disconnected ∨ (∃ bytes, event = .packet bytes) →
      ¬ (c.session.isSome ∧ c.disconnectHandle = none) →
      phase (c.handler ++ [event]) = none := by
    intro event hevent hnot
    rw [phase_concat]
    exact h.connected_or.resolve_left hnot event hevent
  cases step_effect hstep with
  | idle a ha =>
      cases a with
      | deliver env =>
          rw [Timely, show c.ctx.mailbox = [] from ha] at htimely
          exact absurd (fun mail hmail => nomatch hmail) htimely
      | _ => exact absurd trivial htimely
  | work a session ha hs =>
      cases a with
      | deliver env => exact ha.elim
      | _ => exact absurd trivial htimely
  | late env attempt event rest hmail hm =>
      rw [timely_deliver hmail] at htimely
      exact absurd trivial htimely
  | refused env attempt event rest reason mediator hmail hm hreason =>
      rw [timely_deliver hmail] at htimely
      exact absurd trivial htimely
  | success env attempt mtu rest mediator session hmail hm hremote =>
      rw [timely_deliver hmail] at htimely
      exact absurd trivial htimely
  | ignored env attempt frame rest hmail hframe hh =>
      rw [timely_deliver hmail] at htimely
      refine absurd ⟨fun haccepts handle hmem => ?_, fun hnot => absurd hframe hnot⟩ htimely
      exact absurd ⟨haccepts, Option.isSome_of_mem hmem⟩ hh
  | accepted env attempt frame rest handle session session' hmail hframe hh hremote hs =>
      rw [timely_deliver hmail] at htimely
      have hout : handle ∉ c.timeouts := by
        refine fun hmem => htimely ⟨fun _ handle' hh' => ?_, fun hnot => absurd hframe.1 hnot⟩
        obtain rfl := Option.some.inj (hh.symm.trans hh')
        exact hmem
      -- the accept timer has fired: the attempt has failed already
      show phase (c.handler ++ [.connected]) = none
      have hphase : c.view.phase.bind (·.next .connected) = none := by
        have hawaiting : c.view.awaiting = some handle := hh
        have hout : handle ∉ c.view.timeouts := hout
        generalize c.view = v at h hawaiting hout
        cases h with
        | awaiting handle' =>
            obtain rfl := Option.some.inj hawaiting
            exact absurd List.mem_cons_self hout
        | timedOut handle' => rfl
        | _ => cases hawaiting
      rw [phase_concat]
      exact hphase
  | packet env attempt frame rest hmail hframe =>
      rw [timely_deliver hmail] at htimely
      refine hbreak (Or.inr ⟨frame.data, rfl⟩) fun hc => htimely ⟨fun haccepts => ?_, fun _ => hc⟩
      exact absurd haccepts.1 hframe
  | ended env attempt rest hmail =>
      rw [timely_deliver hmail] at htimely
      exact hbreak (Or.inl rfl) htimely
  | _ => exact absurd trivial htimely

/-- A run with one connect makes it first. -/
lemma along_singleConnect {c : RakClient} {actions : List Action}
    (h : c.mediators.length + actions.countP Action.isConnect ≤ 1) :
    Run.Along step SingleConnect c actions := by
  induction actions generalizing c with
  | nil => trivial
  | cons a actions ih =>
      intro c' hstep
      have hlength := (step_effect hstep).mediators_length
      rw [List.countP_cons] at h
      refine ⟨fun hconnect => List.length_eq_zero_iff.mp ?_, ih (by omega)⟩
      rw [if_pos hconnect] at h
      omega

/-- **The events of a single connection attempt** follow the protocol in exactly the runs in which
the end of a session, and a packet, is handled only while the session is there and accepted, and
an accept that is awaited only while the accept timer runs. -/
theorem events_iff (guid : UInt64) (actions : List Action)
    (hsingle : actions.countP Action.isConnect ≤ 1) :
    Run.Always step (fun c => FollowsProtocol c.handler) (init guid) actions
      ↔ Run.Along step Timely (init guid) actions := by
  have hstage : Stage (init guid).view := .idle
  have hsingle : Run.Along step SingleConnect (init guid) actions :=
    along_singleConnect (by simpa [init] using hsingle)
  refine Run.always_iff_along (I := fun c => Stage c.view ∧ c.FiresOnce) ?_ ?_
    ⟨hstage, fun f hf => absurd hf List.not_mem_nil⟩ (followsProtocol_iff.mpr rfl) hsingle
  · rintro c a c' ⟨hstage, honce⟩ - hsingle htimely hstep
    have hstage' := hstage.step honce hsingle htimely hstep
    refine ⟨⟨hstage', honce.step hstep⟩, followsProtocol_iff.mpr ?_⟩
    have hsome : c'.view.phase.isSome := by
      generalize c'.view = v at hstage'
      cases hstage' <;> rfl
    exact hsome
  · rintro c a c' ⟨hstage, honce⟩ - hsingle htimely hstep
    rw [followsProtocol_iff, hstage.breaks htimely hstep]
    exact fun h => nomatch h

/-- The accept arrives in time, then a packet, then the goodbye of the server. -/
theorem events_iff_sample :
    let addr : SocketAddr := .v4 ⟨127, 0, 0, 1⟩ 19132
    let actions := handshake 0 addr
      ++ [.receivedUdp default ⟨[0x84, 0, 0, 0, 0, 0, 0xd0] ++ acceptBody, addr⟩, .deliver default,
        .receivedUdp default ⟨[0x84, 1, 0, 0, 0, 0, 0x08, 0xfe, 0, 0, 0x08, 0x15], addr⟩,
        .deliver default, .deliver default]
    (Run.exec step (init 0) actions).map (·.handler)
        = .ok [.connected, .packet [0xfe], .disconnected]
      ∧ Run.Always step (fun c => FollowsProtocol c.handler) (init 0) actions :=
  ⟨by decide +kernel, (events_iff 0 _ (by decide)).mpr (by decide +kernel)⟩

/-- The accept timer fires, and the accept arrives after it: the attempt has failed and succeeds. -/
theorem events_counterexample :
    let addr : SocketAddr := .v4 ⟨127, 0, 0, 1⟩ 19132
    let actions := handshake 0 addr
      ++ [.fire default 0,
        .receivedUdp default ⟨[0x84, 0, 0, 0, 0, 0, 0xd0] ++ acceptBody, addr⟩, .deliver default]
    actions.countP Action.isConnect = 1
      ∧ (Run.exec step (init 0) actions).map (·.handler)
        = .ok [.connectionFailed .timeout, .connected]
      ∧ ¬ FollowsProtocol [.connectionFailed .timeout, .connected] :=
  ⟨by decide, by decide +kernel, by rw [followsProtocol_iff]; decide⟩

end RakClient

end ActixRaknet
