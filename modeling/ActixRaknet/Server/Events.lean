import ActixRaknet.Library.Run
import ActixRaknet.Session.Receive
import ActixRaknet.Server.Conn

/-!
The events of one connection of the server, over every run of it.

* `ServerConn.Op`, `turn`: a datagram arrives for the connection, or it does something;
* `View`, `Told`: what the events depend on, and the states it can be in: before
  `NewIncomingConnection`, after it, and terminated;
* `Effect`, `turn_effect`: what a turn does to the view, `Told.effect`: it leads from one of these
  states to another;
* `Lawful`, `events_lawful`: the order of the events and the bodies they carry;
* `announced_iff`: when a `Disconnected` has a `Connected` before it.
-/

namespace ActixRaknet

open Fallible

/-- The frame carries a well-formed `NewIncomingConnection`. -/
def Frame.Announces (f : Frame) : Prop :=
  f.data.head? = some (Packet.ID NewIncomingConnection)
    ∧ ∃ packet, ActixRaknet.decode NewIncomingConnection f.data = .ok (.ok packet)

instance : DecidablePred Frame.Announces := fun _ => inferInstanceAs (Decidable (_ ∧ _))

/-- The frame that a message of a connection carries. -/
def ServerConnMsg.frame? : ServerConnMsg → Option Frame
  | .session msg => msg.frame?
  | _ => none

/-- The frames behind the first one that carries a `NewIncomingConnection`. -/
def afterIncoming (frames : List Frame) : List Frame :=
  (frames.dropWhile fun f => ¬f.Announces).tail

lemma afterIncoming_eq {before after : List Frame} {f : Frame}
    (hbefore : ∀ g ∈ before, ¬g.Announces) (hf : f.Announces) :
    afterIncoming (before ++ f :: after) = after := by
  rw [afterIncoming, List.dropWhile_append_of_pos (by simpa using hbefore),
    List.dropWhile_cons_of_neg (by simpa using hf), List.tail_cons]

/-- The frames behind any frame with a `NewIncomingConnection` are behind the first one. -/
lemma suffix_afterIncoming (before after : List Frame) {f : Frame} (hf : f.Announces) :
    after <:+ afterIncoming (before ++ f :: after) := by
  rw [afterIncoming, List.dropWhile_append]
  split_ifs with hnone
  · rw [List.dropWhile_cons_of_neg (by simpa using hf), List.tail_cons]
  · obtain ⟨g, rest, hrest⟩ := List.exists_cons_of_ne_nil
      (l := before.dropWhile fun f => ¬f.Announces) (by simpa using hnone)
    rw [hrest, List.cons_append, List.tail_cons]
    exact ((List.suffix_cons f after).trans (List.suffix_append rest (f :: after)))

/-- The bytes of a packet that the user is given. -/
def ServerConnOut.packet? : ServerConnOut → Option Bytes
  | .event (.packet _ bytes) => some bytes
  | _ => none

namespace ServerConn

/-- A datagram arrives for the connection, or it does something. -/
inductive Op
  | receive (msg : UdpPacket)
  | act (action : Action)

/-- A step of a connection on its own. -/
def turn (c : ServerConn) : Op → Except Panic ServerConn
  | .receive msg => .ok (c.post (.receivedUdp msg))
  | .act action => c.step action

/-! ### What the events depend on -/

/-- What the events depend on: whether the connection lives, whether it waits for a
`NewIncomingConnection`, what it has sent, the frames its session has passed on, and those of them
that wait in the mailbox. -/
structure View where
  alive : Bool
  pending : Bool
  sent : List ServerConnOut
  frames : List Frame
  waiting : List Frame

/-- The view of a connection. -/
def view (c : ServerConn) : View where
  alive := c.life != .terminated
  pending := c.disconnectHandle.isSome
  sent := c.sent
  frames := c.passed.filterMap ParentMsg.frame?
  waiting := c.ctx.mailbox.filterMap ServerConnMsg.frame?

/-- The bytes that the user has been given, and those of the frames that wait. -/
def View.told (v : View) : List Bytes :=
  v.sent.filterMap ServerConnOut.packet? ++ v.waiting.map Frame.data

/-- The session passes frames on. -/
def View.pass (v : View) (frames : List Frame) : View :=
  { v with frames := v.frames ++ frames, waiting := v.waiting ++ frames }

@[simp] lemma View.pass_nil (v : View) : v.pass [] = v := by
  simp [View.pass]

lemma view_putSession (c : ServerConn) (session : Session) :
    (c.putSession session).view = c.view.pass (session.parent.filterMap ParentMsg.frame?) := by
  have hframes : (session.parent.map ServerConnMsg.session).filterMap ServerConnMsg.frame?
      = session.parent.filterMap ParentMsg.frame? := by
    rw [List.filterMap_map]
    rfl
  simp only [view, View.pass, putSession, Context.mailbox_post, List.filterMap_append, hframes]

lemma view_withSession {c c' : ServerConn} {f : Session → Except Panic Session}
    (h : c.withSession f = .ok c') : ∃ frames, c'.view = c.view.pass frames := by
  obtain ⟨session, -, hc⟩ := bind_eq_ok.mp h
  obtain rfl := Except.ok.inj hc
  exact ⟨_, view_putSession c session⟩

/-- The view after an event, which does not go out when the user has stopped. -/
def View.event (v : View) (env : Env) (event : RakServerEvent) : View :=
  if env.handlerClosed then { v with alive := false }
  else { v with sent := v.sent ++ [.event event] }

lemma view_event (c : ServerConn) (env : Env) (event : RakServerEvent) :
    (c.event env event).view = c.view.event env event := by
  rw [ServerConn.event, View.event]
  split_ifs <;> rfl

/-- What ends a connection: the message to the server and the event. -/
def closing (handle : ConnectionHandle) : List ServerConnOut :=
  [.connectionEnd ⟨handle.address, handle.guid⟩,
    .event (.disconnected handle.address handle.guid)]

/-- The event of a frame that is passed to the user. -/
def packetOf (handle : ConnectionHandle) (frame : Frame) : ServerConnOut :=
  .event (.packet handle frame.data)

/-! ### What a turn does -/

/-- The end of the session is handled while the user and the server are there. -/
def EndsOpenly (c : ServerConn) : Op → Prop
  | .act (.deliver env) => c.life = .started ∧ c.ctx.mailbox.head? = some (.session .sessionEnd)
    ∧ env.serverClosed = false ∧ env.handlerClosed = false
  | _ => False

/-- **Everything a turn can do to the view.**  `openly` is whether the turn ends the connection
while the user and the server are there. -/
inductive Effect (handle : ConnectionHandle) (openly : Prop) (v : View) : View → Prop
  /-- The session passes frames on, perhaps none. -/
  | passes (frames) : Effect handle openly v (v.pass frames)
  /-- A frame is handled before the `NewIncomingConnection`. -/
  | ignored (f waiting frames) : v.pending = true → v.waiting = f :: waiting → ¬f.Announces →
    Effect handle openly v (View.pass { v with waiting := waiting } frames)
  /-- The `NewIncomingConnection` is handled. -/
  | connected (f waiting env) : v.pending = true → v.waiting = f :: waiting → f.Announces →
    Effect handle openly v { View.event { v with waiting := waiting } env (.connected handle) with
      pending := false }
  /-- A frame behind it is handled. -/
  | packet (f waiting env) : v.pending = false → v.waiting = f :: waiting →
    Effect handle openly v (View.event { v with waiting := waiting } env (.packet handle f.data))
  /-- The end of the session is handled. -/
  | ended (tail) : tail <+: closing handle → (tail = closing handle → openly) →
    Effect handle openly v { v with alive := false, sent := v.sent ++ tail }

lemma Effect.refl (handle : ConnectionHandle) (openly : Prop) (v : View) :
    Effect handle openly v v := by
  have h : Effect handle openly v (v.pass []) := .passes []
  rwa [View.pass_nil] at h

/-- A frame is handled before the `NewIncomingConnection`. -/
lemma handleHandshake_view {c c' : ServerConn} {env : Env} {timer : ℕ} {frame : Frame}
    (h : c.handleHandshake env timer frame = .ok c') :
    (¬frame.Announces ∧ ∃ frames, c'.view = c.view.pass frames)
      ∨ (frame.Announces ∧ c'.view = { c.view.event env (.connected c.myHandle) with
          pending := false }) := by
  obtain ⟨id, hid, h⟩ := bind_eq_ok.mp h
  rw [index_zero_eq_ok] at hid
  have hnot : id ≠ Packet.ID NewIncomingConnection → ¬frame.Announces := by
    rintro hne ⟨hhead, -⟩
    exact hne (Option.some.inj (hid.symm.trans hhead))
  split_ifs at h with hrequest hincoming
  · refine Or.inl ⟨hnot (by rw [hrequest]; decide), ?_⟩
    rcases unwrapOrReturn_eq_ok h with rfl | ⟨request, -, h⟩
    · exact ⟨[], c'.view.pass_nil.symm⟩
    · exact view_withSession h
  · rw [unwrapOrReturn] at h
    split at h
    · cases h
    · rename_i e hdecode
      obtain rfl := Except.ok.inj h
      refine Or.inl ⟨?_, [], c.view.pass_nil.symm⟩
      rintro ⟨-, packet, hpacket⟩
      cases hdecode.symm.trans hpacket
    · rename_i packet hdecode
      obtain rfl := Except.ok.inj h
      refine Or.inr ⟨⟨hincoming ▸ hid, packet, hdecode⟩, ?_⟩
      have hview := view_event c env (.connected c.myHandle)
      rw [← hview]
      rfl
  · obtain rfl := Except.ok.inj h
    exact Or.inl ⟨hnot hincoming, [], c.view.pass_nil.symm⟩

/-- The connection once the first message has been taken. -/
def popped (c : ServerConn) (rest : List ServerConnMsg) : ServerConn :=
  { c with ctx := c.ctx.withMailbox rest }

/-- The end of the session: nothing if the server has stopped, else what the user gets of it. -/
lemma view_handleSessionEnd (c : ServerConn) (env : Env) :
    (env.serverClosed = true ∧ (c.handleSessionEnd env).view = c.view)
      ∨ (env.serverClosed = false ∧ env.handlerClosed = true ∧ (c.handleSessionEnd env).view
        = { c.view with alive := false, sent := c.view.sent ++ [.connectionEnd ⟨c.addr, c.guid⟩] })
      ∨ (env.serverClosed = false ∧ env.handlerClosed = false ∧ (c.handleSessionEnd env).view
        = { c.view with alive := false, sent := c.view.sent ++ closing c.myHandle }) := by
  rw [handleSessionEnd]
  cases env.serverClosed with
  | true => exact Or.inl ⟨rfl, rfl⟩
  | false =>
      rw [event]
      cases env.handlerClosed with
      | true => exact Or.inr (Or.inl ⟨rfl, rfl, rfl⟩)
      | false =>
          refine Or.inr (Or.inr ⟨rfl, rfl, ?_⟩)
          simp only [view, sendServer, closing, myHandle, List.append_assoc, List.cons_append,
            List.nil_append]
          rfl

/-- A message that is handled has one of the effects. -/
lemma handle_effect {c c' : ServerConn} {env : Env} {msg : ServerConnMsg}
    {rest : List ServerConnMsg} (hmail : c.ctx.mailbox = msg :: rest)
    (h : (c.popped rest).handle env msg = .ok c') {openly : Prop}
    (hopenly : msg = .session .sessionEnd → env.serverClosed = false → env.handlerClosed = false →
      openly) : Effect c.myHandle openly c.view c'.view := by
  have hpopped : msg.frame? = none → (c.popped rest).view = c.view := by
    intro hnone
    simp only [view, popped, hmail, Context.mailbox_withMailbox, List.filterMap_cons, hnone]
  have hquiet : ∀ f, msg.frame? = none → (c.popped rest).withSession f = .ok c' →
      Effect c.myHandle openly c.view c'.view := by
    intro f hnone hf
    obtain ⟨frames, hview⟩ := view_withSession hf
    rw [hview, hpopped hnone]
    exact .passes frames
  rcases msg with msg | ⟨frame | _⟩ | bytes | _
  · exact hquiet (·.handle env.session msg) rfl h
  · have hwaiting : c.view.waiting = frame :: rest.filterMap ServerConnMsg.frame? := by
      simp only [view, hmail, List.filterMap_cons]
      rfl
    have hview : (c.popped rest).view
        = { c.view with waiting := rest.filterMap ServerConnMsg.frame? } := rfl
    rw [handle, handleReceivedDatagram] at h
    split at h
    · rename_i timer htimer
      have hpending : c.view.pending = true := by
        change c.disconnectHandle.isSome = true
        rw [show c.disconnectHandle = some timer from htimer]
        rfl
      rcases handleHandshake_view h with ⟨hnot, frames, hview'⟩ | ⟨hannounces, hview'⟩
      · rw [hview', hview]
        exact .ignored frame _ frames hpending hwaiting hnot
      · rw [hview', hview]
        exact .connected frame _ env hpending hwaiting hannounces
    · rename_i htimer
      obtain rfl := Except.ok.inj h
      have hpending : c.view.pending = false := by
        change c.disconnectHandle.isSome = false
        rw [show c.disconnectHandle = none from htimer]
        rfl
      rw [view_event, hview]
      exact .packet frame _ env hpending hwaiting
  · obtain rfl := Except.ok.inj h
    rcases view_handleSessionEnd (c.popped rest) env with ⟨-, hview⟩ | ⟨-, -, hview⟩
      | ⟨hserver, huser, hview⟩
    · rw [hview, hpopped rfl]
      exact .refl _ _ _
    · rw [hview, hpopped rfl]
      exact .ended _ ⟨[_], rfl⟩ fun hall => absurd (congrArg List.length hall) (by simp [closing])
    · rw [hview, hpopped rfl]
      exact .ended _ List.prefix_rfl fun _ => hopenly rfl hserver huser
  · exact hquiet (·.sendTo env.session bytes) rfl h
  · exact hquiet (·.disconnect env.session) rfl h

/-- **A turn** changes nothing that the events depend on, or the connection runs and the turn has
one of the effects. -/
lemma turn_effect {c c' : ServerConn} {op : Op} (h : c.turn op = .ok c') :
    c'.view = c.view
      ∨ (c.life = .started ∧ Effect c.myHandle (c.EndsOpenly op) c.view c'.view) := by
  have hpost : ∀ msg : ServerConnMsg, msg.frame? = none → (c.post msg).view = c.view := by
    intro msg hmsg
    simp only [view, post, Context.mailbox_post, List.filterMap_append, List.filterMap_cons, hmsg,
      List.filterMap_nil, List.append_nil]
  rcases op with msg | (_ | env | ⟨env, timer⟩ | bytes | _)
  · obtain rfl := Except.ok.inj h
    exact Or.inl (hpost _ rfl)
  · obtain rfl := Except.ok.inj h
    split_ifs with hlife
    · simp only [view, started, Context.mailbox_spawn, hlife]
      exact Or.inl rfl
    · exact Or.inl rfl
  · rw [turn, step] at h
    split at h
    · rename_i msg rest hlife hmail
      refine Or.inr ⟨hlife, handle_effect hmail h fun hmsg hserver huser => ?_⟩
      exact ⟨hlife, by rw [hmail, hmsg]; rfl, hserver, huser⟩
    · exact Or.inl (Except.ok.inj h ▸ rfl)
  · rw [turn, step] at h
    split at h
    · rename_i f hlife hf
      have hview : view { c with ctx := c.ctx.fired f } = c.view := by
        simp only [view, Context.mailbox_fired]
      refine Or.inr ⟨hlife, ?_⟩
      obtain ⟨frames, hframes⟩ : ∃ frames, c'.view = c.view.pass frames := by
        cases htimer : f.callback with
        | disconnect =>
            rw [htimer] at h
            exact hview ▸ view_withSession (f := (·.disconnect env.session)) h
        | update =>
            rw [htimer] at h
            exact hview ▸ view_withSession (f := (·.update env.session)) h
      rw [hframes]
      exact .passes frames
    · exact Or.inl (Except.ok.inj h ▸ rfl)
  · obtain rfl := Except.ok.inj h
    exact Or.inl (hpost _ rfl)
  · obtain rfl := Except.ok.inj h
    exact Or.inl (hpost _ rfl)

/-! ### The states of a connection -/

/-- **What a connection has told**: nothing before the `NewIncomingConnection`, then `Connected` and
the bodies of the frames behind it; and what ends it comes last. -/
inductive Told (handle : ConnectionHandle) : View → Prop
  | pending (before waiting) : (∀ f ∈ before, ¬f.Announces) →
    Told handle ⟨true, true, [], before ++ waiting, waiting⟩
  | connected (before f after waiting) : (∀ f ∈ before, ¬f.Announces) → f.Announces →
    Told handle ⟨true, false, .event (.connected handle) :: after.map (packetOf handle),
      before ++ f :: (after ++ waiting), waiting⟩
  | terminated {pending sent frames waiting} (pending' waiting' tail) :
    Told handle ⟨true, pending, sent, frames, waiting⟩ → tail <+: closing handle →
    Told handle ⟨false, pending', sent ++ tail, frames, waiting'⟩

section Told

variable {handle : ConnectionHandle} {v v' : View}

/-- A connection that lives and waits has told nothing. -/
lemma Told.of_pending (h : Told handle v) (halive : v.alive = true) (hpending : v.pending = true) :
    ∃ before, v = ⟨true, true, [], before ++ v.waiting, v.waiting⟩
      ∧ ∀ f ∈ before, ¬f.Announces := by
  cases h with
  | pending before waiting hbefore => exact ⟨before, rfl, hbefore⟩
  | connected => cases hpending
  | terminated => cases halive

/-- A connection that lives and waits no more has told the bodies of the frames since. -/
lemma Told.of_connected (h : Told handle v) (halive : v.alive = true)
    (hpending : v.pending = false) :
    ∃ before f after, v = ⟨true, false, .event (.connected handle) :: after.map (packetOf handle),
        before ++ f :: (after ++ v.waiting), v.waiting⟩
      ∧ (∀ f ∈ before, ¬f.Announces) ∧ f.Announces := by
  cases h with
  | pending => cases hpending
  | connected before f after waiting hbefore hf => exact ⟨before, f, after, rfl, hbefore, hf⟩
  | terminated => cases halive

lemma Told.pass (h : Told handle v) (halive : v.alive = true) (frames : List Frame) :
    Told handle (v.pass frames) := by
  cases h with
  | pending before waiting hbefore =>
      simpa only [View.pass, List.append_assoc]
        using Told.pending before (waiting ++ frames) hbefore
  | connected before f after waiting hbefore hf =>
      simpa only [View.pass, List.append_assoc, List.cons_append] using
        Told.connected before f after (waiting ++ frames) hbefore hf
  | terminated => cases halive

/-- **Step lemma**: the effects lead from one of the states to another. -/
lemma Told.effect (h : Told handle v) (halive : v.alive = true) {openly : Prop}
    (heffect : Effect handle openly v v') :
    Told handle v' := by
  have hterm : ∀ tail, tail <+: closing handle → ∀ pending waiting,
      Told handle ⟨false, pending, v.sent ++ tail, v.frames, waiting⟩ := by
    intro tail htail pending waiting
    have hv : Told handle ⟨true, v.pending, v.sent, v.frames, v.waiting⟩ := by
      rw [← halive]
      exact h
    exact .terminated pending waiting tail hv htail
  have hsilent : ∀ pending waiting, Told handle ⟨false, pending, v.sent, v.frames, waiting⟩ := by
    intro pending waiting
    have h := hterm [] List.nil_prefix pending waiting
    rwa [List.append_nil] at h
  cases heffect with
  | passes frames => exact h.pass halive frames
  | ignored f waiting frames hpending hwaiting hnot =>
      obtain ⟨before, hv, hbefore⟩ := h.of_pending halive hpending
      rw [hv, hwaiting, List.append_cons]
      refine Told.pass (.pending (before ++ [f]) waiting fun g hg => ?_) rfl frames
      rcases List.mem_append.mp hg with hg | hg
      · exact hbefore g hg
      · rwa [List.mem_singleton.mp hg]
  | connected f waiting env hpending hwaiting hf =>
      rw [View.event]
      split_ifs with hclosed
      · exact hsilent _ _
      · obtain ⟨before, hv, hbefore⟩ := h.of_pending halive hpending
        rw [hv, hwaiting]
        exact .connected before f [] waiting hbefore hf
  | packet f waiting env hpending hwaiting =>
      rw [View.event]
      split_ifs with hclosed
      · exact hsilent _ _
      · obtain ⟨before, g, after, hv, hbefore, hg⟩ := h.of_connected halive hpending
        rw [hv, hwaiting, List.append_cons after]
        have hnext : Told handle _ := .connected before g (after ++ [f]) waiting hbefore hg
        rw [List.map_append] at hnext
        exact hnext
  | ended tail htail _ => exact hterm tail htail _ _

/-- The order of what a connection has told, and the bodies it carries. -/
lemma Told.sent_order (h : Told handle v) :
    v.sent <+: closing handle ∨ ∃ packets : List Bytes,
      packets <+: (afterIncoming v.frames).map Frame.data
        ∧ v.sent <+: .event (.connected handle)
          :: (packets.map (fun bytes => .event (.packet handle bytes)) ++ closing handle) := by
  have hconnected : ∀ {before f} after waiting {tail}, (∀ f ∈ before, ¬f.Announces) → f.Announces →
      tail <+: closing handle → ∃ packets : List Bytes,
        packets <+: (afterIncoming (before ++ f :: (after ++ waiting))).map Frame.data
          ∧ (.event (.connected handle) :: after.map (packetOf handle)) ++ tail
            <+: .event (.connected handle)
              :: (packets.map (fun bytes => .event (.packet handle bytes)) ++ closing handle) := by
    intro before f after waiting tail hbefore hf htail
    refine ⟨after.map Frame.data, ?_, ?_⟩
    · rw [afterIncoming_eq hbefore hf, List.map_append]
      exact List.prefix_append _ _
    · rw [List.map_map, List.cons_append, List.prefix_cons_inj]
      exact (List.prefix_append_right_inj _).mpr htail
  cases h with
  | pending => exact Or.inl List.nil_prefix
  | connected before f after waiting hbefore hf =>
      have h := hconnected after waiting hbefore hf List.nil_prefix
      rw [List.append_nil] at h
      exact Or.inr h
  | terminated pending' waiting' tail h htail =>
      cases h with
      | pending => exact Or.inl htail
      | connected before f after waiting hbefore hf =>
          exact Or.inr (hconnected after _ hbefore hf htail)

/-- A connection that lives waits for its `NewIncomingConnection` until it has told `Connected`. -/
lemma Told.pending_iff (h : Told handle v) (halive : v.alive = true) :
    v.pending = true ↔ .event (.connected handle) ∉ v.sent := by
  cases hpending : v.pending with
  | true =>
      obtain ⟨before, hv, -⟩ := h.of_pending halive hpending
      rw [hv]
      exact iff_of_true rfl List.not_mem_nil
  | false =>
      obtain ⟨before, f, after, hv, -⟩ := h.of_connected halive hpending
      rw [hv]
      exact iff_of_false Bool.false_ne_true (not_not_intro List.mem_cons_self)

/-- While the connection lives, the bodies it has told and those that wait are all there are. -/
lemma Told.bodies (h : Told handle v) (halive : v.alive = true) (hpending : v.pending = false) :
    ∃ packets : List Bytes, v.sent = .event (.connected handle)
        :: packets.map (fun bytes => .event (.packet handle bytes))
      ∧ packets ++ v.waiting.map Frame.data = (afterIncoming v.frames).map Frame.data := by
  obtain ⟨before, f, after, hv, hbefore, hf⟩ := h.of_connected halive hpending
  rw [hv]
  refine ⟨after.map Frame.data, ?_, ?_⟩
  · rw [List.map_map]
    rfl
  · rw [afterIncoming_eq hbefore hf, List.map_append]

/-- While the connection lives, the bodies of all frames behind the `NewIncomingConnection` have
been told or wait. -/
lemma Told.sublist_told (h : Told handle v) (halive : v.alive = true) :
    ((afterIncoming v.frames).map Frame.data).Sublist v.told := by
  cases hpending : v.pending with
  | true =>
      obtain ⟨before, hv, hbefore⟩ := h.of_pending halive hpending
      rw [hv, View.told, List.filterMap_nil, List.nil_append, afterIncoming,
        List.dropWhile_append_of_pos (by simpa using hbefore)]
      exact ((List.tail_sublist _).trans (List.dropWhile_sublist _)).map _
  | false =>
      obtain ⟨packets, hsent, hbodies⟩ := h.bodies halive hpending
      have hpackets : v.sent.filterMap ServerConnOut.packet? = packets := by
        rw [hsent, List.filterMap_cons, List.filterMap_map]
        exact List.filterMap_some
      rw [← hbodies, View.told, hpackets]

end Told

/-! ### Runs -/

/-- **The order of the events of a connection.**  `Connected`, `Packet`s, the message to the server
that the connection has ended, and `Disconnected`, in this order, or without the `Connected` and the
`Packet`s.  As long as the connection lives, a `NewIncomingConnection` that has been handled is told
as `Connected`, and then the bodies of the `Packet`s are those of the frames that the session has
passed on behind it: as many of them, from the first, as have been handled, and the others wait in
the mailbox. -/
structure Lawful (handle : ConnectionHandle) (c : ServerConn) : Prop where
  order : c.sent <+: closing handle ∨ ∃ packets : List Bytes,
    packets <+: (afterIncoming c.view.frames).map Frame.data
      ∧ c.sent <+: .event (.connected handle)
        :: (packets.map (fun bytes => .event (.packet handle bytes)) ++ closing handle)
  awaits : c.life ≠ .terminated → .event (.connected handle) ∉ c.sent → ∃ before : List Frame,
    c.view.frames = before ++ c.view.waiting ∧ ∀ f ∈ before, ¬f.Announces
  bodies : c.life ≠ .terminated → .event (.connected handle) ∈ c.sent → ∃ packets : List Bytes,
    c.sent = .event (.connected handle)
        :: packets.map (fun bytes => .event (.packet handle bytes))
      ∧ packets ++ c.view.waiting.map Frame.data = (afterIncoming c.view.frames).map Frame.data

lemma view_alive {c : ServerConn} (h : c.life ≠ .terminated) : c.view.alive = true :=
  bne_iff_ne.mpr h

lemma view_pending {c : ServerConn} (h : c.disconnectHandle = none) : c.view.pending = false := by
  rw [view, h]
  rfl

lemma told_new (mtu : UInt16) (guid : UInt64) (addr : SocketAddr)
    (lastPing lastReceive : Instant) :
    Told ⟨addr, guid⟩ (new mtu guid addr lastPing lastReceive).view :=
  .pending [] [] fun _ hf => absurd hf List.not_mem_nil

lemma myHandle_turn {c c' : ServerConn} {op : Op} (h : c.turn op = .ok c') :
    c'.myHandle = c.myHandle := by
  cases op with
  | receive msg => rw [← Except.ok.inj h]; rfl
  | act action =>
      rcases step_spec h with hsame | hended
      · rw [myHandle, hsame.addr, hsame.guid, myHandle]
      · rw [myHandle, hended.addr, hended.guid, myHandle]

/-- The connection has told what it should, under its handle. -/
def Telling (handle : ConnectionHandle) (c : ServerConn) : Prop :=
  c.myHandle = handle ∧ Told handle c.view

lemma Telling.turn {handle : ConnectionHandle} {c c' : ServerConn} {op : Op}
    (h : Telling handle c) (hc : c.turn op = .ok c') : Telling handle c' := by
  refine ⟨(myHandle_turn hc).trans h.1, ?_⟩
  rcases turn_effect hc with hview | ⟨hlife, heffect⟩
  · rw [hview]
    exact h.2
  · rw [h.1] at heffect
    exact h.2.effect (view_alive (by rw [hlife]; decide)) heffect

/-- **The events of a connection are in order throughout every run**, whatever it receives and
whenever its timers fire. -/
theorem events_lawful (mtu : UInt16) (guid : UInt64) (addr : SocketAddr)
    (lastPing lastReceive : Instant) (ops : List Op) :
    Run.Always turn (Lawful ⟨addr, guid⟩) (new mtu guid addr lastPing lastReceive) ops := by
  have htelling : Run.Always turn (Telling ⟨addr, guid⟩)
      (new mtu guid addr lastPing lastReceive) ops :=
    Run.always_of_along (fun c op c' hc _ hturn => hc.turn hturn)
      ⟨rfl, told_new mtu guid addr lastPing lastReceive⟩ Run.along_true
  refine htelling.mono fun c hc => ⟨hc.2.sent_order, fun hlife hnot => ?_, fun hlife hmem => ?_⟩
  · have hpending := (hc.2.pending_iff (view_alive hlife)).mpr hnot
    obtain ⟨before, hv, hbefore⟩ := hc.2.of_pending (view_alive hlife) hpending
    exact ⟨before, congrArg View.frames hv, hbefore⟩
  · have hpending := mt (hc.2.pending_iff (view_alive hlife)).mp (not_not_intro hmem)
    exact hc.2.bodies (view_alive hlife) (Bool.eq_false_of_not_eq_true hpending)

/-! ### Announced connections -/

/-- Every `Disconnected` has a `Connected` of the same connection before it. -/
def Announced (sent : List ServerConnOut) : Prop :=
  ∀ pre post addr guid, sent = pre ++ .event (.disconnected addr guid) :: post →
    .event (.connected ⟨addr, guid⟩) ∈ pre

/-- The end of a session that the user gets to know is handled behind the
`NewIncomingConnection`. -/
def EndsConnected (c : ServerConn) (op : Op) : Prop :=
  c.EndsOpenly op → c.disconnectHandle = none

lemma not_announced_closing (handle : ConnectionHandle) : ¬Announced (closing handle) := by
  intro h
  have hmem := h [.connectionEnd ⟨handle.address, handle.guid⟩] [] handle.address handle.guid rfl
  rw [List.mem_singleton] at hmem
  cases hmem

/-- Whether a connection was announced: the end is not all it has told. -/
lemma Told.announces_iff {handle : ConnectionHandle} {v : View} (h : Told handle v) :
    Announced v.sent ↔ v.sent ≠ closing handle := by
  refine ⟨fun hannounced hsent => not_announced_closing handle (hsent ▸ hannounced), ?_⟩
  intro hne pre post addr guid hsent
  have hmem : .event (.disconnected addr guid) ∈ v.sent := by
    rw [hsent]
    exact List.mem_append_right _ List.mem_cons_self
  rcases h.sent_order with hfront | ⟨packets, -, hfront⟩
  · exfalso
    have hfront : v.sent <+: [.connectionEnd ⟨handle.address, handle.guid⟩] := by
      have hconcat := List.prefix_concat_iff.mp
        (show v.sent <+: [.connectionEnd ⟨handle.address, handle.guid⟩]
          ++ [.event (.disconnected handle.address handle.guid)] from hfront)
      exact hconcat.resolve_left hne
    have hin := hfront.subset hmem
    rw [List.mem_singleton] at hin
    cases hin
  · have hhead := hfront
    have hin := hfront.subset hmem
    rw [hsent] at hhead
    have hhandle : (⟨addr, guid⟩ : ConnectionHandle) = handle := by
      simp only [closing, List.mem_cons, List.mem_append, List.mem_map, ServerConnOut.event.injEq,
        reduceCtorEq, RakServerEvent.disconnected.injEq, and_false, exists_false, false_or,
        List.not_mem_nil, or_false] at hin
      rw [hin.1, hin.2]
    cases pre with
    | nil =>
        rw [List.nil_append, List.cons_prefix_cons] at hhead
        cases hhead.1
    | cons out pre =>
        rw [List.cons_append, List.cons_prefix_cons] at hhead
        rw [hhead.1, hhandle]
        exact List.mem_cons_self

/-- A turn after which the end is all a connection has told has ended it before it was
announced. -/
lemma Telling.eq_closing {handle : ConnectionHandle} {c c' : ServerConn} {op : Op}
    (h : Telling handle c) (hc : c.turn op = .ok c') (hsent : c'.sent = closing handle) :
    c.sent = closing handle ∨ ¬c.EndsConnected op := by
  have hlast : ∀ event, (∀ addr guid, event ≠ .disconnected addr guid) →
      c.sent ++ [.event event] ≠ closing handle := by
    intro event hevent heq
    have hlast := congrArg List.getLast? heq
    rw [List.getLast?_concat] at hlast
    exact hevent _ _ (ServerConnOut.event.inj (Option.some.inj hlast))
  have hevent : ∀ (v : View) env event, v.sent = c.sent →
      (∀ addr guid, event ≠ .disconnected addr guid) →
      (v.event env event).sent = closing handle → c.sent = closing handle := by
    intro v env event hv hne heq
    rw [View.event] at heq
    split_ifs at heq
    · exact hv.symm.trans heq
    · exact absurd (hv ▸ heq) (hlast event hne)
  rcases turn_effect hc with hview | ⟨hlife, heffect⟩
  · exact Or.inl ((congrArg View.sent hview).symm.trans hsent)
  have halive : c.view.alive = true := view_alive (by rw [hlife]; decide)
  generalize hv' : c'.view = v' at heffect
  replace hsent : v'.sent = closing handle := hv' ▸ hsent
  cases heffect with
  | passes frames => exact Or.inl hsent
  | ignored f waiting frames => exact Or.inl hsent
  | connected f waiting env =>
      exact Or.inl (hevent _ env (.connected c.myHandle) rfl (fun _ _ => by simp) hsent)
  | packet f waiting env =>
      exact Or.inl (hevent _ env (.packet c.myHandle f.data) rfl (fun _ _ => by simp) hsent)
  | ended tail htail hopenly =>
      refine Or.inr fun hconnected => ?_
      cases hpending : c.view.pending with
      | true =>
          obtain ⟨before, hv, -⟩ := h.2.of_pending halive hpending
          have hempty : c.view.sent = [] := congrArg View.sent hv
          have htail : tail = closing c.myHandle := by
            rw [h.1, ← hsent, hempty, List.nil_append]
          have hnone := hconnected (hopenly htail)
          rw [view_pending hnone] at hpending
          cases hpending
      | false =>
          obtain ⟨before, f, after, hv, -⟩ := h.2.of_connected halive hpending
          have htold := congrArg View.sent hv
          simp only at htold hsent
          rw [htold, List.cons_append, closing, List.cons.injEq] at hsent
          cases hsent.1

/-- An end that is handled before the connection was announced is all the connection tells. -/
lemma Telling.closing_of_not_endsConnected {handle : ConnectionHandle} {c c' : ServerConn} {op : Op}
    (h : Telling handle c) (hnot : ¬c.EndsConnected op) (hc : c.turn op = .ok c') :
    c'.sent = closing handle := by
  rw [EndsConnected, Classical.not_imp] at hnot
  obtain ⟨hopenly, hpending⟩ := hnot
  rcases op with msg | (_ | env | _ | _ | _)
  case act.deliver =>
    obtain ⟨hlife, hhead, hserver, huser⟩ := hopenly
    obtain ⟨rest, hmail⟩ := List.head?_eq_some_iff.mp hhead
    have hend : c.turn (.act (.deliver env)) = .ok ((c.popped rest).handleSessionEnd env) := by
      rw [ServerConn.turn, step]
      simp only [hmail]
      split
      · rename_i heq
        cases heq
        rfl
      · rename_i hne
        exact absurd rfl (hne _ _ hlife)
    obtain rfl := Except.ok.inj (hend.symm.trans hc)
    obtain ⟨before, hv, -⟩ := h.2.of_pending (view_alive (by rw [hlife]; decide))
      (Option.isSome_iff_ne_none.mpr hpending)
    have hempty : c.view.sent = [] := congrArg View.sent hv
    rcases view_handleSessionEnd (c.popped rest) env with ⟨hclosed, -⟩ | ⟨-, hclosed, -⟩
      | ⟨-, -, hview⟩
    · rw [hserver] at hclosed
      cases hclosed
    · rw [huser] at hclosed
      cases hclosed
    · have hsent : _ = c.view.sent ++ closing c.myHandle := congrArg View.sent hview
      rwa [hempty, List.nil_append, h.1] at hsent
  all_goals exact hopenly.elim

/-- **When every `Disconnected` has a `Connected` before it**: in a run of a connection whose ends,
if the user and the server are there to be told, are handled behind the `NewIncomingConnection`. -/
theorem announced_iff (mtu : UInt16) (guid : UInt64) (addr : SocketAddr)
    (lastPing lastReceive : Instant) (ops : List Op) :
    Run.Always turn (fun c => Announced c.sent) (new mtu guid addr lastPing lastReceive) ops
      ↔ Run.Along turn EndsConnected (new mtu guid addr lastPing lastReceive) ops := by
  have htold := told_new mtu guid addr lastPing lastReceive
  refine Run.always_iff_along (I := Telling ⟨addr, guid⟩) (fun c op c' hI hP _ hC hc => ?_)
    (fun c op c' hI _ _ hC hc => ?_) ⟨rfl, htold⟩ ?_ Run.along_true
  · refine ⟨hI.turn hc, (hI.turn hc).2.announces_iff.mpr fun hsent => ?_⟩
    rcases hI.eq_closing hc hsent with hclosing | hnot
    · exact hI.2.announces_iff.mp hP hclosing
    · exact hnot hC
  · intro hP
    exact (hI.turn hc).2.announces_iff.mp hP (hI.closing_of_not_endsConnected hC hc)
  · exact htold.announces_iff.mpr (List.cons_ne_nil _ _).symm

/-- Nothing arrives for five seconds: the accept timer ends the session, and its end is told. -/
theorem announced_counterexample :
    ¬Run.Always turn (fun c => Announced c.sent) (new 1400 7 (.v4 ⟨127, 0, 0, 1⟩ 19132) 0 0)
      [.act .start, .act (.fire default 0), .act (.deliver default)] := by
  intro h
  have hrun : (·.sent) <$> Run.exec turn (new 1400 7 (.v4 ⟨127, 0, 0, 1⟩ 19132) 0 0)
      [.act .start, .act (.fire default 0), .act (.deliver default)]
        = .ok (closing ⟨.v4 ⟨127, 0, 0, 1⟩ 19132, 7⟩) := by
    decide +kernel
  obtain ⟨c, hexec, hsent⟩ := map_eq_ok.mp hrun
  have hannounced := Run.always_iff.mp h _ [] c (List.append_nil _).symm hexec
  exact not_announced_closing _ (hsent ▸ hannounced)

end ServerConn

end ActixRaknet
