import ActixRaknet.Client.Safety
import ActixRaknet.Client.Sessions
import ActixRaknet.Session.Counters

/-!
Whether the connection attempts of one client stay apart.

* `RakClient.origin`: the attempt that a message, a timer or a mediator comes from;
* `Untouched`: the attempts after the `i`-th are as they were, and no outcome has been told;
  `Isolated`: what an earlier attempt has left behind does no more, and does not panic;
* `Apart`: when what an earlier attempt has left behind may happen;
* `Fit`: the invariant: the session of a client is counted and posts no empty frame; with it,
  `exists_step_of_apart`: what keeps apart does not panic;
* `attempts_apart`: if every step keeps apart, every step is isolated, and conversely except for
  ticks.
-/

namespace ActixRaknet

open Fallible

/-- The attempt that a message comes from. -/
def RakClientMail.attempt : RakClientMail → ℕ
  | .mediator attempt _ => attempt
  | .session attempt _ => attempt

/-- An event that tells the user how an attempt has come out. -/
def RakClientEvent.isOutcome : RakClientEvent → Bool
  | .packet _ => false
  | _ => true

namespace RakClient

/-- The attempt that an action comes from, if it comes from one. -/
def origin (c : RakClient) : Action → Option ℕ
  | .deliver _ => c.ctx.mailbox.head?.map (·.attempt)
  | .fire _ handle => (c.ctx.future? handle).map (·.callback.1)
  | .mediator attempt _ => some attempt
  | _ => none

/-! ### Later attempts -/

/-- The session, if it is of a later attempt than `i`. -/
def laterSession (i : ℕ) (c : RakClient) : Option Session :=
  if i < c.attempt then c.session else none

/-- The timers of later attempts. -/
def laterTimers (i : ℕ) (c : RakClient) : List (Future (ℕ × RakClientTimer)) :=
  c.ctx.futures.filter (i < ·.callback.1)

/-- The messages of later attempts. -/
def laterMail (i : ℕ) (c : RakClient) : List RakClientMail := c.ctx.mailbox.filter (i < ·.attempt)

/-- The outcomes told to the user. -/
def outcomes (c : RakClient) : List RakClientEvent := c.handler.filter (·.isOutcome)

/-- Nothing that belongs to a later attempt than `i` has changed, and no outcome has been told.  The
remote, the mediator and the two handles are those of the last attempt. -/
structure Untouched (i : ℕ) (c c' : RakClient) : Prop where
  remote : c'.remote = c.remote
  mediator : c'.mediator = c.mediator
  disconnectHandle : c'.disconnectHandle = c.disconnectHandle
  tickHandle : c'.tickHandle = c.tickHandle
  session : c'.laterSession i = c.laterSession i
  timers : c'.laterTimers i = c.laterTimers i
  mail : c'.laterMail i = c.laterMail i
  mediators : ∀ j, i < j → c'.mediators[j]? = c.mediators[j]?
  outcomes : c'.outcomes = c.outcomes

/-- A step that comes from an attempt completes and leaves the later ones, if there are any,
untouched.  A panic would take them along with the client. -/
def Isolated (c : RakClient) (a : Action) : Prop :=
  ∀ i ∈ c.origin a, i + 1 < c.mediators.length → ∃ c', c.step a = .ok c' ∧ Untouched i c c'

/-! ### The condition -/

end RakClient

/-- The packet that the frame carries is refused by the decoder of `ConnectionRequestAccepted`. -/
def Frame.Refused (f : Frame) : Prop :=
  ∃ e, ActixRaknet.decode ConnectionRequestAccepted f.data = .ok (.error e)

/-- An update finds the session ended, or its packet queue sound and counters that have room. -/
def Session.Updatable (s : Session) (env : Session.Env) : Prop :=
  s.disconnected = false → s.packetQueue.Sound ∧ s.Spared (.update env)

lemma Session.Updatable.exists_update {s : Session} {env : Session.Env} (h : s.Updatable env)
    (hs : s.Counted) : ∃ s', s.update env = .ok s' := by
  cases hended : s.disconnected with
  | true => exact ⟨s, by rw [Session.update, if_pos hended]⟩
  | false =>
      obtain ⟨hsound, hspared⟩ := h hended
      exact hs.exists_update hsound hspared.affords hspared.flushable

namespace RakClient

/-- A message of an earlier attempt may be handled: an event of its mediator when there is no
mediator, its session's packets, and its accept only if none is awaited or the decoder refuses
it. -/
def ApartMail (c : RakClient) : RakClientMail → Prop
  | .mediator _ _ => c.mediator = none
  | .session _ .sessionEnd => False
  | .session _ (.receivedDatagram frame) =>
    frame.IsAccept → c.disconnectHandle.isSome → frame.Refused

/-- A timer of the earlier attempt `i` may fire: a tick that finds a session of its own attempt or
an earlier one which can be updated, or no session and no tick of a later attempt. -/
def ApartTimer (c : RakClient) (i : ℕ) (env : Env) : RakClientTimer → Prop
  | .connectionTimeout => False
  | .update => (∀ s ∈ c.session, c.attempt ≤ i ∧ s.Updatable env.session) ∧ (c.session = none →
      ∀ f ∈ c.ctx.futures, c.tickHandle = some f.handle → f.callback.1 ≤ i)

/-- What the attempt `i` has left behind happens where it may. -/
def ApartAction (c : RakClient) (i : ℕ) : Action → Prop
  | .deliver _ => ∀ mail ∈ c.ctx.mailbox.head?, c.ApartMail mail
  | .fire env handle => ∀ f ∈ c.ctx.future? handle, c.ApartTimer i env f.callback.2
  | _ => True

/-- What an attempt has left behind happens, once there is a later attempt, only where it may. -/
def Apart (c : RakClient) (a : Action) : Prop :=
  ∀ i ∈ c.origin a, i + 1 < c.mediators.length → c.ApartAction i a

/-- The action is a tick. -/
def IsTick (c : RakClient) : Action → Prop
  | .fire _ handle => ∃ f ∈ c.ctx.future? handle, f.callback.2 = .update
  | _ => False

/-! ### What keeps apart does not panic -/

variable {c : RakClient} {i : ℕ}

/-- **The invariant**: the session of the client is counted, and no frame that waits or was passed
to the user is empty. -/
structure Fit (c : RakClient) : Prop where
  session : ∀ s ∈ c.session, s.Counted ∧ s.posted = []
  told : ∀ bytes ∈ c.told, bytes ≠ []

lemma fit_init (guid : UInt64) : Fit (init guid) where
  session _ hs := nomatch hs
  told _ h := absurd h List.not_mem_nil

/-- A success takes a message from the mailbox and gives the user nothing. -/
lemma told_success {c' : RakClient} {a : Action} {mtu : UInt16} (hmtu : c.success? a = some mtu)
    (h : c.step a = .ok c') : c'.told = c.told := by
  obtain ⟨rest, env, attempt, mediator, remote, s, hmail, -, hs, rfl⟩ := step_success_eq hmtu h
  -- queueing the request posts nothing
  have hposted : s.parent.filterMap ParentMsg.frame? = [] := by
    obtain ⟨_, -, -, -, _, -, rfl⟩ := Session.sendSystemPacket_eq_ok.mp hs
    rfl
  have hput := told_putSession { c.popped rest with attempt := attempt } s
  rw [hposted] at hput
  exact hput.trans ((List.append_nil _).trans (told_popped hmail (by rintro _ ⟨⟩)))

/-- **Step lemma** for the invariant. -/
lemma Fit.step {c' : RakClient} (h : c.Fit) {a : Action} (hc : c.step a = .ok c') : c'.Fit where
  session := by
    refine keeps_session (P := fun s => s.Counted ∧ s.posted = []) (fun addr mtu ping receive =>
      ⟨Session.counted_new addr mtu ping receive, rfl⟩) (fun s op s' hs hturn => ?_) h.session hc
    refine ⟨hs.1.turn hturn, ?_⟩
    obtain ⟨t, -, ht⟩ := bind_eq_ok.mp hturn
    exact Except.ok.inj ht ▸ rfl
  told := by
    intro bytes hbytes
    cases hsuccess : c.success? a with
    | some mtu => exact h.told bytes (told_success hsuccess hc ▸ hbytes)
    | none =>
        rw [(step_conducts hsuccess hc).told] at hbytes
        rcases List.mem_append.mp hbytes with hbytes | hbytes
        · exact h.told bytes hbytes
        · rw [heard] at hbytes
          cases hs : c.session with
          | none =>
              rw [hs] at hbytes
              exact absurd hbytes List.not_mem_nil
          | some s =>
              rw [hs] at hbytes
              obtain ⟨f, hf, rfl⟩ := List.mem_map.mp hbytes
              obtain ⟨hcounted, hposted⟩ := h.session s hs
              exact Session.reports_ne_nil hcounted.ready hposted (List.mem_of_mem_filter hf)

/-- A frame that waits is not empty. -/
lemma Fit.data_ne_nil (h : c.Fit) {attempt : ℕ} {frame : Frame} {rest : List RakClientMail}
    (hmail : c.ctx.mailbox = .session attempt (.receivedDatagram frame) :: rest) :
    frame.data ≠ [] := by
  intro hnil
  by_cases hframe : frame.IsAccept
  · rw [Frame.IsAccept, hnil] at hframe
    cases hframe
  · refine h.told frame.data ?_ hnil
    rw [RakClient.told, hmail, given]
    refine List.mem_append_right _ (List.mem_map_of_mem ?_)
    exact List.mem_filter.mpr ⟨List.mem_cons_self, by simpa using hframe⟩

/-- A frame is handled without a panic if no accept is awaited or the decoder refuses it. -/
lemma exists_handleReceivedDatagram {env : Env} {frame : Frame} (hdata : frame.data ≠ [])
    (h : frame.IsAccept → c.disconnectHandle.isSome → frame.Refused) :
    ∃ c', c.handleReceivedDatagram env frame = .ok c' := by
  obtain ⟨id, payload, hframe⟩ := List.exists_cons_of_ne_nil hdata
  have hid : index frame.data 0 = .ok id := by rw [hframe, index_cons_zero]
  have hiff := isAccept_iff hid
  rw [handleReceivedDatagram, hid]
  simp only [Except.mapError, ok_bind]
  split_ifs with haccept
  · cases hh : c.disconnectHandle with
    | none => exact ⟨c, rfl⟩
    | some handle =>
        obtain ⟨e, hdecode⟩ := h (hiff.mp haccept) (by rw [hh]; rfl)
        simp only [hdecode]
        exact ⟨c, rfl⟩
  · exact ⟨_, rfl⟩

/-- **What keeps apart does not panic.** -/
lemma Fit.exists_step_of_apart (h : c.Fit)
    (htick : ∀ f ∈ c.ctx.futures, f.callback.2 = .update → c.tickHandle.isSome) {a : Action}
    (hi : c.origin a = some i) (ha : c.ApartAction i a) : ∃ c', c.step a = .ok c' := by
  cases a with
  | call env msg => cases hi
  | receivedUdp env msg => cases hi
  | mediator attempt action => exact ⟨_, rfl⟩
  | deliver env =>
      rw [RakClient.step]
      cases hmail : c.ctx.mailbox with
      | nil => exact ⟨c, rfl⟩
      | cons mail rest =>
          have hapart : c.ApartMail mail := ha mail (by rw [hmail]; rfl)
          rcases mail with ⟨attempt, event⟩ | ⟨attempt, frame | _⟩
          · have hnone : (c.popped rest).mediator = none := hapart
            refine ⟨c.popped rest, ?_⟩
            change (c.popped rest).handleMediatorEvent env attempt event = _
            rw [handleMediatorEvent, hnone]
          · exact exists_handleReceivedDatagram (c := c.popped rest) (h.data_ne_nil hmail) hapart
          · exact hapart.elim
  | fire env handle =>
      rw [RakClient.step]
      cases hf : c.ctx.future? handle with
      | none => exact ⟨c, rfl⟩
      | some f =>
          have hapart := ha f hf
          cases htimer : f.callback.2 with
          | connectionTimeout =>
              rw [htimer] at hapart
              exact hapart.elim
          | update =>
              rw [htimer] at hapart
              simp only [htimer, callback]
              cases hs : c.session with
              | none =>
                  obtain ⟨tick, htick⟩ := Option.isSome_iff_exists.mp
                    (htick f (Context.future?_eq_some hf).1 htimer)
                  simp only [update, htick]
                  exact ⟨_, rfl⟩
              | some s =>
                  obtain ⟨s', hs'⟩ := (hapart.1 s hs).2.exists_update (h.session s hs).1
                  refine ⟨(c.fired f).putSession s', ?_⟩
                  simp only [update, Option.isSome_some, if_true]
                  exact withSession_eq_ok.mpr ⟨s, s', rfl, hs', by rw [fired, hs]⟩

/-! ### Steps -/

/-- A message of the attempt has been taken. -/
lemma laterMail_popped {mail : RakClientMail} {rest : List RakClientMail}
    (hmail : c.ctx.mailbox = mail :: rest) (hi : mail.attempt = i) :
    (c.popped rest).laterMail i = c.laterMail i := by
  rw [laterMail, laterMail, hmail, List.filter_cons_of_neg (by simp [hi])]
  rfl

/-- Only timers of the attempt and earlier ones have been stopped. -/
lemma laterTimers_cancelFuture {handle : ℕ}
    (h : ∀ f ∈ c.ctx.futures, f.handle = handle → f.callback.1 ≤ i) :
    laterTimers i { c with ctx := c.ctx.cancelFuture handle } = c.laterTimers i := by
  simp only [laterTimers, Context.cancelFuture, List.filter_filter]
  refine List.filter_congr fun f hf => ?_
  by_cases hhandle : f.handle = handle
  · have hle := h f hf hhandle
    simp [hle]
  · simp [hhandle]

/-- A timer of the attempt has fired. -/
lemma laterTimers_fired {f : Future (ℕ × RakClientTimer)} (hf : f ∈ c.ctx.futures)
    (hi : f.callback.1 = i) : (c.fired f).laterTimers i = c.laterTimers i := by
  rw [fired, Context.fired]
  split_ifs
  · rfl
  · refine laterTimers_cancelFuture fun g hg hhandle => ?_
    rw [Context.eq_of_handle_eq hg hf hhandle, hi]

/-- A session of the attempt, or of an earlier one, has worked. -/
lemma untouched_putSession (hi : c.attempt ≤ i) (session : Session) :
    Untouched i c (c.putSession session) where
  remote := rfl
  mediator := rfl
  disconnectHandle := rfl
  tickHandle := rfl
  session := by
    rw [laterSession, laterSession, if_neg hi.not_gt]
    exact if_neg hi.not_gt
  timers := rfl
  mail := by
    have hnone : (session.parent.map (RakClientMail.session c.attempt)).filter
        (fun mail => decide (i < mail.attempt)) = [] := by
      refine List.filter_eq_nil_iff.mpr fun mail hmail => ?_
      obtain ⟨msg, -, rfl⟩ := List.mem_map.mp hmail
      exact Bool.not_eq_true _ ▸ decide_eq_false hi.not_gt
    rw [laterMail, putSession, Context.mailbox_post, List.filter_append, hnone, List.append_nil]
    rfl
  mediators _ _ := rfl
  outcomes := rfl

lemma Untouched.trans {c₁ c₂ : RakClient} (h : Untouched i c c₁) (h' : Untouched i c₁ c₂) :
    Untouched i c c₂ where
  remote := h'.remote.trans h.remote
  mediator := h'.mediator.trans h.mediator
  disconnectHandle := h'.disconnectHandle.trans h.disconnectHandle
  tickHandle := h'.tickHandle.trans h.tickHandle
  session := h'.session.trans h.session
  timers := h'.timers.trans h.timers
  mail := h'.mail.trans h.mail
  mediators j hj := (h'.mediators j hj).trans (h.mediators j hj)
  outcomes := h'.outcomes.trans h.outcomes

lemma untouched_popped {mail : RakClientMail} {rest : List RakClientMail}
    (hmail : c.ctx.mailbox = mail :: rest) (hi : mail.attempt = i) :
    Untouched i c (c.popped rest) :=
  ⟨rfl, rfl, rfl, rfl, rfl, rfl, laterMail_popped hmail hi, fun _ _ => rfl, rfl⟩

lemma untouched_packet (bytes : Bytes) : Untouched i c (c.emit (.packet bytes)) := by
  refine ⟨rfl, rfl, rfl, rfl, rfl, rfl, rfl, fun _ _ => rfl, ?_⟩
  rw [outcomes, emit, List.filter_append]
  exact List.append_nil _

lemma untouched_fired {f : Future (ℕ × RakClientTimer)} (hf : f ∈ c.ctx.futures)
    (hi : f.callback.1 = i) : Untouched i c (c.fired f) :=
  ⟨rfl, rfl, rfl, rfl, rfl, laterTimers_fired hf hi, by
    rw [laterMail, fired, Context.mailbox_fired]
    rfl, fun _ _ => rfl, rfl⟩

/-- A mediator changes nothing but itself and what it has posted. -/
lemma untouched_mediatorStep (c : RakClient) (i : ℕ) (action : ClientMediator.Action) :
    Untouched i c (c.mediatorStep i action) := by
  obtain ⟨mediators, posted, heq, -, hothers⟩ := c.mediatorStep_eq i action
  rw [heq]
  refine ⟨rfl, rfl, rfl, rfl, rfl, rfl, ?_, fun j hj => hothers j hj.ne', rfl⟩
  have hnone : (posted.map (RakClientMail.mediator i)).filter
      (fun mail => decide (i < mail.attempt)) = [] := by
    refine List.filter_eq_nil_iff.mpr fun mail hmail => ?_
    obtain ⟨event, -, rfl⟩ := List.mem_map.mp hmail
    simp [RakClientMail.attempt]
  rw [laterMail, Context.mailbox_post, List.filter_append, hnone, List.append_nil]
  rfl

lemma origin_external {a : Action} (ha : External a) : c.origin a = none := by
  cases a with
  | call env msg => rfl
  | receivedUdp env msg => rfl
  | _ => exact ha.elim

lemma origin_deliver {env : Env} {mail : RakClientMail} {rest : List RakClientMail}
    (hmail : c.ctx.mailbox = mail :: rest) (hi : c.origin (.deliver env) = some i) :
    mail.attempt = i := by
  rw [origin, hmail] at hi
  exact Option.some.inj hi

lemma origin_fire {env : Env} {handle : ℕ} {f : Future (ℕ × RakClientTimer)}
    (hf : c.ctx.future? handle = some f) (hi : c.origin (.fire env handle) = some i) :
    f.callback.1 = i := by
  rw [origin, hf] at hi
  exact Option.some.inj hi

/-- A step that keeps apart leaves the later attempts untouched. -/
lemma untouched_of_apart {a : Action} {c' : RakClient} (hi : c.origin a = some i)
    (h : c.ApartAction i a) (hstep : c.step a = .ok c') : Untouched i c c' := by
  cases step_effect hstep with
  | idle a ha => exact ⟨rfl, rfl, rfl, rfl, rfl, rfl, rfl, fun _ _ => rfl, rfl⟩
  | connect env addr => cases hi
  | work a session ha hs =>
      rw [origin_external ha] at hi
      cases hi
  | relay env msg mediator hm => cases hi
  | mediator attempt action =>
      obtain rfl := Option.some.inj hi
      exact untouched_mediatorStep c attempt action
  | late env attempt event rest hmail hm => exact untouched_popped hmail (origin_deliver hmail hi)
  | refused env attempt event rest reason mediator hmail hm hreason =>
      have hnone : c.mediator = none := h (.mediator attempt event) (by rw [hmail]; rfl)
      cases hnone.symm.trans hm
  | success env attempt mtu rest mediator session hmail hm hremote =>
      have hnone : c.mediator = none := h (.mediator attempt (.success mtu)) (by rw [hmail]; rfl)
      cases hnone.symm.trans hm
  | ignored env attempt frame rest hmail hframe hh =>
      exact untouched_popped hmail (origin_deliver hmail hi)
  | accepted env attempt frame rest handle session session' hmail hframe hh hremote hs =>
      have hrefused := h (.session attempt (.receivedDatagram frame)) (by rw [hmail]; rfl)
      obtain ⟨hid, accept, hdecode⟩ := hframe
      obtain ⟨e, herror⟩ := hrefused hid (Option.isSome_of_mem hh)
      cases hdecode.symm.trans herror
  | packet env attempt frame rest hmail hframe =>
      exact (untouched_popped hmail (origin_deliver hmail hi)).trans (untouched_packet _)
  | ended env attempt rest hmail =>
      exact (h (.session attempt .sessionEnd) (by rw [hmail]; rfl)).elim
  | timedOut env handle f hf htimer =>
      have hfalse := h f hf
      rw [htimer] at hfalse
      exact hfalse.elim
  | tick env handle f session hf htimer hs =>
      have htick := h f hf
      rw [htimer] at htick
      obtain ⟨s, hs⟩ := Option.isSome_iff_exists.mp hs
      exact (untouched_fired (Context.future?_eq_some hf).1 (origin_fire hf hi)).trans
        (untouched_putSession (c := c.fired f) (htick.1 s hs).1 session)
  | untick env handle f tick hf htimer hs htick =>
      have hapart := h f hf
      rw [htimer] at hapart
      have hfired := untouched_fired (Context.future?_eq_some hf).1 (origin_fire hf hi)
      refine hfired.trans ⟨rfl, rfl, rfl, rfl, rfl, ?_, rfl, fun _ _ => rfl, rfl⟩
      refine laterTimers_cancelFuture fun g hg hhandle => ?_
      exact hapart.2 hs g (Context.mem_of_mem_fired hg) (by rw [htick, hhandle])

/-- **A step that keeps apart** is isolated. -/
lemma Fit.isolated_of_apart (h : c.Fit)
    (htick : ∀ f ∈ c.ctx.futures, f.callback.2 = .update → c.tickHandle.isSome) {a : Action}
    (ha : c.Apart a) : c.Isolated a := by
  intro i hi hlater
  have hapart := ha i hi hlater
  obtain ⟨c', hc'⟩ := h.exists_step_of_apart htick hi hapart
  exact ⟨c', hc', untouched_of_apart hi hapart hc'⟩

lemma not_untouched_of_outcome {c' : RakClient} {event : RakClientEvent}
    (hhandler : c'.handler = c.handler ++ [event]) (hevent : event.isOutcome = true) :
    ¬ Untouched i c c' := by
  intro h
  have houtcomes := h.outcomes
  rw [outcomes, outcomes, hhandler, List.filter_append, List.filter_cons_of_pos hevent] at houtcomes
  simp at houtcomes

/-- An accept that is awaited, and handled without a panic, decodes or is refused. -/
lemma refused_of_step {c' : RakClient} {env : Env} {attempt : ℕ} {frame : Frame}
    {rest : List RakClientMail}
    (hmail : c.ctx.mailbox = .session attempt (.receivedDatagram frame) :: rest)
    (hframe : frame.IsAccept) (hh : c.disconnectHandle.isSome) (hnot : ¬frame.Accepts)
    (h : c.step (.deliver env) = .ok c') : frame.Refused := by
  obtain ⟨handle, hh⟩ := Option.isSome_iff_exists.mp hh
  rw [step, hmail] at h
  change (c.popped rest).handleReceivedDatagram env frame = .ok c' at h
  obtain ⟨id, hid, h⟩ := bind_eq_ok.mp h
  rw [if_pos ((isAccept_iff (mapError_eq_ok.mp hid)).mpr hframe),
    show (c.popped rest).disconnectHandle = some handle from hh] at h
  obtain ⟨result, hresult, -⟩ := bind_eq_ok.mp h
  rw [mapError_eq_ok] at hresult
  cases result with
  | error e => exact ⟨e, hresult⟩
  | ok accept => exact absurd ⟨hframe, accept, hresult⟩ hnot

/-- A step, other than a tick, that does not keep apart touches a later attempt or panics. -/
lemma apart_of_isolated {a : Action} (h : c.Isolated a) : c.Apart a ∨ c.IsTick a := by
  by_cases htick : c.IsTick a
  · exact Or.inr htick
  refine Or.inl fun i hi hlater => ?_
  obtain ⟨c', hstep, huntouched⟩ := h i hi hlater
  cases step_effect hstep with
  | idle a ha =>
      cases a with
      | deliver env =>
          intro mail hmail
          rw [show c.ctx.mailbox = [] from ha] at hmail
          cases hmail
      | fire env handle =>
          intro f hf
          cases (show c.ctx.future? handle = none from ha).symm.trans hf
      | _ => trivial
  | connect env addr => trivial
  | work a session ha hs =>
      rw [origin_external ha] at hi
      cases hi
  | relay env msg mediator hm => trivial
  | mediator attempt action => trivial
  | late env attempt event rest hmail hm =>
      intro mail hhead
      rw [hmail] at hhead
      obtain rfl := Option.some.inj hhead
      exact hm
  | refused env attempt event rest reason mediator hmail hm hreason =>
      exact absurd (huntouched.mediator.trans hm) (fun hc => nomatch hc)
  | success env attempt mtu rest mediator session hmail hm hremote =>
      exact absurd (huntouched.mediator.trans hm) (fun hc => nomatch hc)
  | ignored env attempt frame rest hmail hframe hh =>
      intro mail hhead
      rw [hmail] at hhead
      obtain rfl := Option.some.inj hhead
      exact fun _ hsome => refused_of_step hmail hframe hsome (fun hc => hh ⟨hc, hsome⟩) hstep
  | accepted env attempt frame rest handle session session' hmail hframe hh hremote hs =>
      exact absurd huntouched (not_untouched_of_outcome rfl rfl)
  | packet env attempt frame rest hmail hframe =>
      intro mail hhead
      rw [hmail] at hhead
      obtain rfl := Option.some.inj hhead
      exact fun hc => absurd hc hframe
  | ended env attempt rest hmail =>
      exact absurd huntouched (not_untouched_of_outcome rfl rfl)
  | timedOut env handle f hf htimer =>
      exact absurd huntouched (not_untouched_of_outcome rfl rfl)
  | tick env handle f session hf htimer hs => exact absurd ⟨f, hf, htimer⟩ htick
  | untick env handle f tick hf htimer hs htick' => exact absurd ⟨f, hf, htimer⟩ htick

/-- **The attempts of a run stay apart** if what an earlier attempt has left behind is handled, or
fires, only where it may; and apart from ticks, which may find nothing to do, only then. -/
theorem attempts_apart (guid : UInt64) (actions : List Action) :
    (Run.Attempted step Apart (init guid) actions →
        Run.Attempted step Isolated (init guid) actions)
      ∧ (Run.Attempted step Isolated (init guid) actions →
        Run.Attempted step (fun c a => c.Apart a ∨ c.IsTick a) (init guid) actions) := by
  constructor
  · intro h
    have hlogged : Run.Attempted (Run.logged step marks) (fun s a => Apart s.1 a)
        (init guid, []) actions := Run.attempted_logged.mpr h
    refine Run.attempted_logged.mp (hlogged.mono_of_invariant (I := fun s => Tracks s ∧ s.1.Fit)
      (D := fun s a => Isolated s.1 a) ?_ (fun s a hI => hI.2.isolated_of_apart hI.1.tick)
      ⟨tracks_init guid, fit_init guid⟩)
    rintro s a ⟨c', history⟩ hI - hs
    obtain ⟨hstep, rfl⟩ := Run.logged_eq_ok.mp hs
    exact ⟨hI.1.step hstep, hI.2.step hstep⟩
  · intro h
    exact h.mono_of_invariant (I := fun _ => True) (fun _ _ _ _ _ _ => trivial)
      (fun _ _ _ => apart_of_isolated) trivial

/-- A second connect, and then the time of the first one runs out: its event ends the second
mediator and tells the user of a failure. -/
theorem attempts_counterexample :
    let addr : SocketAddr := .v4 ⟨127, 0, 0, 1⟩ 19132
    let actions := [.call default (.connect addr), .mediator 0 .start,
      .call default (.connect addr), .mediator 0 (.fire 0), .deliver default]
    (Run.exec step (init 0) actions).map (fun c => (c.mediator, c.mediators.length, c.handler))
        = .ok (none, 2, [.connectionFailed .timeout])
      ∧ ¬ Run.Attempted step Isolated (init 0) actions := by
  intro addr actions
  refine ⟨by decide +kernel, fun h => ?_⟩
  have hbefore : (fun c => (c.mediator, c.mediators.length, c.ctx.mailbox))
      <$> Run.exec step (init 0) (actions.take 4) = .ok (some 1, 2, [.mediator 0 .timeout]) := by
    decide +kernel
  obtain ⟨c, hc, heq⟩ := map_eq_ok.mp hbefore
  obtain ⟨hmediator, hlength, hmail⟩ : c.mediator = some 1 ∧ c.mediators.length = 2
      ∧ c.ctx.mailbox = [.mediator 0 .timeout] := by
    simpa only [Prod.mk.injEq] using heq
  have hsplit : Run.Attempted step Isolated (init 0) (actions.take 4 ++ [.deliver default]) := h
  have hlast : Run.Attempted step Isolated c [.deliver default] := hsplit.tail hc
  have horigin : c.origin (.deliver default) = some 0 := by rw [origin, hmail]; rfl
  rcases apart_of_isolated hlast.1 with hapart | htick
  · have hnone : c.mediator = none :=
      hapart 0 horigin (by omega) (.mediator 0 .timeout) (by rw [hmail]; rfl)
    cases hmediator.symm.trans hnone
  · exact htick.elim

end RakClient

end ActixRaknet
