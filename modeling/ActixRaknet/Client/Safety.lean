import ActixRaknet.Client.Effects
import ActixRaknet.Library.Run

/-!
Where the handlers of the client unwrap `None`.

* `RakClient.UnwrapsNone`, `step_eq_unwrapNone`: the three ways it can happen;
* `Mark`, `marks`: the connects, successes and ends of sessions a run has handled, and `Since`, the
  marks since the last end;
* `Tracks`: which slots are filled, from the marks alone (`tracks_step`);
* `unwraps_iff`: no handler unwraps `None` exactly when a success follows its connect, and an accept
  both of them, without the end of a session between.
-/

namespace ActixRaknet

open Fallible

namespace RakClient

/-- The next step unwraps `None` in a handler of the client. -/
def UnwrapsNone (c : RakClient) : Action → Prop
  | .deliver _ =>
    match c.ctx.mailbox with
    | .mediator _ (.success _) :: _ => c.mediator.isSome ∧ c.remote = none
    | .session _ (.receivedDatagram frame) :: _ =>
      frame.Accepts ∧ c.disconnectHandle.isSome ∧ (c.remote = none ∨ c.session = none)
    | _ => False
  | .fire _ handle => ∃ f, c.ctx.future? handle = some f ∧ f.callback.2 = .update
      ∧ c.session = none ∧ c.tickHandle = none
  | _ => False

/-! ### How the handlers fail -/

lemma mapError_client_eq_error {α : Type*} {x : Except Panic α} {panic : Panic} :
    x.mapError Fault.client = .error (.client panic) ↔ x = .error panic := by
  cases x <;> simp [Except.mapError]

lemma mapError_session_ne_client {α : Type*} {x : Except Panic α} {panic : Panic} :
    x.mapError Fault.session ≠ .error (.client panic) := by
  cases x <;> simp [Except.mapError]

lemma unwrap_eq_error {α : Type*} {o : Option α} : unwrap o = .error .unwrapNone ↔ o = none := by
  cases o <;> simp

lemma withSession_eq_unwrapNone {c : RakClient} {f : Session → Except Panic Session} :
    c.withSession f = .error (.client .unwrapNone) ↔ c.session = none := by
  rw [withSession, bind_eq_error, mapError_client_eq_error, unwrap_eq_error]
  refine or_iff_left ?_
  rintro ⟨s, -, h⟩
  rw [bind_eq_error] at h
  rcases h with h | ⟨_, -, h⟩
  · exact mapError_session_ne_client h
  · cases h

lemma ifSession_ne_unwrapNone {c : RakClient} {f : Session → Except Panic Session} :
    (if c.session.isSome then c.withSession f else .ok c) ≠ .error (.client .unwrapNone) := by
  split_ifs with hs
  · rw [Ne, withSession_eq_unwrapNone]
    exact Option.isSome_iff_ne_none.mp hs
  · exact fun h => nomatch h

lemma handleMsg_ne_unwrapNone {c : RakClient} {env : Env} {msg : RakClientMsg} :
    c.handleMsg env msg ≠ .error (.client .unwrapNone) := by
  cases msg with
  | connect addr => exact fun h => nomatch h
  | packet bytes => exact ifSession_ne_unwrapNone
  | disconnect => exact ifSession_ne_unwrapNone

lemma handleReceivedUdp_ne_unwrapNone {c : RakClient} {env : Env} {msg : UdpPacket} :
    c.handleReceivedUdp env msg ≠ .error (.client .unwrapNone) := by
  rw [handleReceivedUdp]
  cases c.remote with
  | none =>
      intro h
      cases h
  | some remote =>
      intro h
      by_cases haddr : remote ≠ msg.addr
      · cases (if_pos haddr).symm.trans h
      · replace h := (if_neg haddr).symm.trans h
        cases hm : c.mediator with
        | some mediator =>
            rw [hm] at h
            cases h
        | none =>
            rw [hm] at h
            exact ifSession_ne_unwrapNone h

lemma handleSuccess_eq_unwrapNone {c : RakClient} {env : Env} {attempt : ℕ} {mtu : UInt16} :
    c.handleSuccess env attempt mtu = .error (.client .unwrapNone) ↔ c.remote = none := by
  rw [handleSuccess, bind_eq_error, mapError_client_eq_error, unwrap_eq_error]
  refine or_iff_left ?_
  rintro ⟨remote, -, h⟩
  rw [bind_eq_error] at h
  rcases h with h | ⟨_, -, h⟩
  · exact mapError_session_ne_client h
  · cases h

lemma accepted_eq_unwrapNone {c : RakClient} {env : Env} {handle : ℕ}
    {accept : ConnectionRequestAccepted} :
    c.accepted env handle accept = .error (.client .unwrapNone)
      ↔ c.remote = none ∨ c.session = none := by
  rw [accepted, bind_eq_error, mapError_client_eq_error, unwrap_eq_error]
  cases hremote : c.remote with
  | none => simp
  | some remote =>
      simp only [reduceCtorEq, false_or, unwrap_some, bind_eq_error, withSession_eq_unwrapNone]
      constructor
      · rintro ⟨_, -, h | ⟨c₁, h₁, h | ⟨c₂, -, h⟩⟩⟩
        · exact h
        · obtain ⟨_, _, -, -, rfl⟩ := withSession_eq_ok.mp h₁
          cases h
        · cases h
      · exact fun h => ⟨remote, rfl, Or.inl h⟩

/-- An accept that does not decode fails on a length, never on `None`. -/
lemma decode_accept_ne_unwrapNone (buff : Bytes) :
    decode ConnectionRequestAccepted buff ≠ .error .unwrapNone := by
  cases buff with
  | nil => exact fun h => nomatch h
  | cons b payload =>
      rw [decode_cons, Packet.read]
      intro h
      simp only [instPacketConnectionRequestAccepted] at h
      split at h
      · cases h
      · rw [bind_eq_error] at h
        rcases h with h | ⟨_, -, h⟩
        · simp only [readTimestamps, usizeSub, bind_eq_error] at h
          rcases h with h | ⟨_, -, h | ⟨_, -, h⟩⟩
          · split_ifs at h
            cases h
          · split_ifs at h
            cases h
          · cases h
        · cases h

lemma handleMediatorEvent_eq_unwrapNone {c : RakClient} {env : Env} {attempt : ℕ}
    {event : MediatorEvent} :
    c.handleMediatorEvent env attempt event = .error (.client .unwrapNone)
      ↔ (∃ mtu, event = .success mtu) ∧ c.mediator.isSome ∧ c.remote = none := by
  rw [handleMediatorEvent]
  cases hm : c.mediator with
  | none => simp
  | some mediator =>
      rw [bind_eq_error, or_iff_left (by rintro ⟨_, -, h⟩; cases h)]
      cases event with
      | success mtu =>
          rw [handleEvent, handleSuccess_eq_unwrapNone]
          simp
      | alreadyConnected => simp [handleEvent]
      | differentVersion => simp [handleEvent]
      | timeout => simp [handleEvent]

lemma handleReceivedDatagram_eq_unwrapNone {c : RakClient} {env : Env} {frame : Frame} :
    c.handleReceivedDatagram env frame = .error (.client .unwrapNone)
      ↔ frame.Accepts ∧ c.disconnectHandle.isSome ∧ (c.remote = none ∨ c.session = none) := by
  rw [handleReceivedDatagram, bind_eq_error, mapError_client_eq_error]
  have hindex : index frame.data 0 ≠ .error .unwrapNone := by
    rw [index]
    split <;> exact fun h => nomatch h
  rw [or_iff_right hindex]
  constructor
  · rintro ⟨id, hid, h⟩
    rw [mapError_eq_ok] at hid
    split_ifs at h with haccept
    · have hframe := (isAccept_iff hid).mp haccept
      cases hh : c.disconnectHandle with
      | none =>
          rw [hh] at h
          cases h
      | some handle =>
          rw [hh] at h
          rcases bind_eq_error.mp h with h | ⟨result, hdecode, h⟩
          · exact absurd (mapError_client_eq_error.mp h) (decode_accept_ne_unwrapNone _)
          · rw [mapError_eq_ok] at hdecode
            cases result with
            | error e => cases h
            | ok accept => exact ⟨⟨hframe, accept, hdecode⟩, rfl, accepted_eq_unwrapNone.mp h⟩
    · cases h
  · rintro ⟨⟨hframe, accept, hdecode⟩, hh, hnone⟩
    obtain ⟨handle, hh⟩ := Option.isSome_iff_exists.mp hh
    obtain ⟨payload, hdata⟩ := List.head?_eq_some_iff.mp hframe
    have hid : index frame.data 0 = .ok (Packet.ID ConnectionRequestAccepted) := by
      rw [hdata, index_cons_zero]
    refine ⟨_, mapError_eq_ok.mpr hid, ?_⟩
    rw [if_pos rfl, hh, hdecode]
    exact accepted_eq_unwrapNone.mpr hnone

lemma callback_eq_unwrapNone {c : RakClient} {env : Env} {timer : RakClientTimer} :
    c.callback env timer = .error (.client .unwrapNone)
      ↔ timer = .update ∧ c.session = none ∧ c.tickHandle = none := by
  cases timer with
  | connectionTimeout => simp [callback]
  | update =>
      rw [callback, update]
      split_ifs with hs
      · rw [withSession_eq_unwrapNone]
        simp [Option.isSome_iff_ne_none.mp hs]
      · rw [bind_eq_error, mapError_client_eq_error, unwrap_eq_error,
          or_iff_left (by rintro ⟨_, -, h⟩; cases h)]
        simp [Option.not_isSome_iff_eq_none.mp hs]

/-- **A handler unwraps `None`** in these three ways only. -/
lemma step_eq_unwrapNone {c : RakClient} {a : Action} :
    c.step a = .error (.client .unwrapNone) ↔ c.UnwrapsNone a := by
  cases a with
  | call env msg => exact iff_false_intro handleMsg_ne_unwrapNone
  | receivedUdp env msg => exact iff_false_intro handleReceivedUdp_ne_unwrapNone
  | deliver env =>
      rw [step, UnwrapsNone]
      rcases c.ctx.mailbox with _ | ⟨⟨attempt, event⟩ | ⟨attempt, frame | _⟩, rest⟩
      · refine iff_of_false ?_ id
        intro h
        cases h
      · refine handleMediatorEvent_eq_unwrapNone.trans ?_
        cases event <;> simp
      · exact handleReceivedDatagram_eq_unwrapNone
      · refine iff_of_false ?_ id
        intro h
        cases h
  | fire env handle =>
      rw [step, UnwrapsNone]
      cases c.ctx.future? handle with
      | none => simp
      | some f =>
          simp only [callback_eq_unwrapNone, Option.some.injEq, exists_eq_left']
  | mediator attempt action =>
      refine iff_of_false ?_ id
      intro h
      cases h

/-! ### Marks -/

/-- What a run has handled, as far as the slots of the client depend on it. -/
inductive Mark
  | connect
  | success
  | sessionEnd
  deriving DecidableEq, Repr

/-- The marks of a step. -/
def marks (c : RakClient) : Action → List Mark
  | .call _ (.connect _) => [.connect]
  | .deliver _ =>
    match c.ctx.mailbox, c.mediator with
    | .mediator _ (.success _) :: _, some _ => [.success]
    | .session _ .sessionEnd :: _, _ => [.sessionEnd]
    | _, _ => []
  | _ => []

/-- The mark has been handled after the last end of a session. -/
def Since (mark : Mark) (history : List Mark) : Prop :=
  mark ∈ history.takeWhile (· ≠ .sessionEnd)

lemma since_end (mark : Mark) (history : List Mark) : ¬ Since mark (.sessionEnd :: history) := by
  simp [Since]

lemma since_cons {mark new : Mark} {history : List Mark} (hnew : new ≠ .sessionEnd) :
    Since mark (new :: history) ↔ mark = new ∨ Since mark history := by
  simp [Since, hnew]

/-- Which slots are filled: the remote since its connect, the session since its success, and the
handle of the tick while a tick runs. -/
structure Tracks (s : RakClient × List Mark) : Prop where
  remote : s.1.remote.isSome ↔ Since .connect s.2
  session : s.1.session.isSome ↔ Since .success s.2
  tick : ∀ f ∈ s.1.ctx.futures, f.callback.2 = .update → s.1.tickHandle.isSome

lemma tracks_init (guid : UInt64) : Tracks (init guid, []) where
  remote := by simp [init, Since]
  session := by simp [init, Since]
  tick f hf := absurd hf List.not_mem_nil

/-- A step that leaves no mark, fills no slot and starts no timer. -/
lemma Tracks.quiet {s s' : RakClient × List Mark} (h : Tracks s) (hmarks : s'.2 = s.2)
    (hremote : s'.1.remote = s.1.remote) (hsession : s'.1.session.isSome = s.1.session.isSome)
    (htick : s'.1.tickHandle = s.1.tickHandle)
    (hfutures : ∀ f ∈ s'.1.ctx.futures, f ∈ s.1.ctx.futures) : Tracks s' where
  remote := by rw [hremote, hmarks, h.remote]
  session := by rw [hsession, hmarks, h.session]
  tick f hf hupdate := htick ▸ h.tick f (hfutures f hf) hupdate

lemma slots_mediatorStep (c : RakClient) (attempt : ℕ) (action : ClientMediator.Action) :
    (c.mediatorStep attempt action).remote = c.remote
      ∧ (c.mediatorStep attempt action).session = c.session
      ∧ (c.mediatorStep attempt action).tickHandle = c.tickHandle := by
  obtain ⟨mediators, posted, heq, -⟩ := c.mediatorStep_eq attempt action
  rw [heq]
  exact ⟨rfl, rfl, rfl⟩

lemma marks_external {c : RakClient} {a : Action} (ha : External a) : c.marks a = [] := by
  rcases a with ⟨env, addr | bytes | _⟩ | ⟨env, msg⟩ | env | ⟨env, handle⟩ | ⟨attempt, action⟩
  all_goals first | rfl | exact ha.elim

lemma marks_idle {c : RakClient} {a : Action} (ha : c.Idle a) : c.marks a = [] := by
  cases a with
  | call env msg => exact marks_external ha
  | receivedUdp env msg => rfl
  | deliver env => rw [marks, show c.ctx.mailbox = [] from ha]
  | fire env handle => rfl
  | mediator attempt action => rfl

/-- **Step lemma**: the marks of a step tell which slots it fills and clears. -/
lemma Tracks.step {s : RakClient × List Mark} (h : Tracks s) {a : Action} {c' : RakClient}
    (hstep : s.1.step a = .ok c') : Tracks (c', s.1.marks a ++ s.2) := by
  obtain ⟨c, history⟩ := s
  have heffect : c.Effect a c' := step_effect hstep
  have hfired : ∀ f, ∀ g ∈ (c.fired f).ctx.futures, g ∈ c.ctx.futures :=
    fun f g hg => Context.mem_of_mem_fired hg
  cases heffect with
  | idle a ha =>
      rw [marks_idle ha]
      exact h
  | connect env addr =>
      refine ⟨?_, ?_, h.tick⟩
      · simp [marks, since_cons]
      · simpa [marks, since_cons] using h.session
  | work a session ha hs =>
      exact h.quiet (by rw [marks_external ha]; rfl) rfl hs.symm rfl fun _ hf => hf
  | relay env msg mediator hm => exact h.quiet rfl rfl rfl rfl fun _ hf => hf
  | mediator attempt action =>
      obtain ⟨hremote, hsession, htick⟩ := slots_mediatorStep c attempt action
      exact h.quiet rfl hremote (congrArg _ hsession) htick
        fun f hf => futures_mediatorStep c attempt action ▸ hf
  | late env attempt event rest hmail hm =>
      refine h.quiet ?_ rfl rfl rfl fun _ hf => hf
      cases event <;> simp [marks, hmail, hm]
  | refused env attempt event rest reason mediator hmail hm hreason =>
      refine h.quiet ?_ rfl rfl rfl fun _ hf => hf
      cases event with
      | success mtu => cases hreason
      | _ => simp [marks, hmail]
  | success env attempt mtu rest mediator session hmail hm hremote =>
      have hmarks : c.marks (.deliver env) = [.success] := by simp [marks, hmail, hm]
      refine ⟨h.remote.trans ?_, iff_of_true rfl ?_, fun _ _ _ => rfl⟩
      · rw [hmarks]
        simp [since_cons]
      · rw [hmarks]
        simp [since_cons]
  | ignored env attempt frame rest hmail hframe hh =>
      exact h.quiet (by simp [marks, hmail]) rfl rfl rfl fun _ hf => hf
  | accepted env attempt frame rest handle session session' hmail hframe hh hremote hs =>
      exact h.quiet (by simp [marks, hmail]) rfl hs.symm rfl
        fun f hf => (Context.mem_cancelFuture.mp hf).1
  | packet env attempt frame rest hmail hframe =>
      exact h.quiet (by simp [marks, hmail]) rfl rfl rfl fun _ hf => hf
  | ended env attempt rest hmail =>
      have hmarks : c.marks (.deliver env) = [.sessionEnd] := by simp [marks, hmail]
      refine ⟨?_, ?_, h.tick⟩
      · rw [hmarks]
        exact iff_of_false (fun hr => nomatch hr) (since_end _ _)
      · rw [hmarks]
        exact iff_of_false (fun hr => nomatch hr) (since_end _ _)
  | timedOut env handle f hf htimer => exact h.quiet rfl rfl rfl rfl (hfired f)
  | tick env handle f session hf htimer hs => exact h.quiet rfl rfl hs.symm rfl (hfired f)
  | untick env handle f tick hf htimer hs htick =>
      exact h.quiet rfl rfl rfl rfl fun g hg => hfired f g (Context.mem_cancelFuture.mp hg).1

/-! ### Exact condition -/

/-- What the handlers rely on: a success that finds its mediator finds a remote, and a well-formed
accept that is awaited finds a remote and a session. -/
def SlotsFilled (c : RakClient) : Action → Prop
  | .deliver _ =>
    match c.ctx.mailbox with
    | .mediator _ (.success _) :: _ => c.mediator.isSome → c.remote.isSome
    | .session _ (.receivedDatagram frame) :: _ =>
      frame.Accepts → c.disconnectHandle.isSome → c.remote.isSome ∧ c.session.isSome
    | _ => True
  | _ => True

/-- The order in which messages are handled: no session has ended between the last connect and a
success that finds its mediator, nor between the last connect, or the last success, and a
well-formed accept that is awaited. -/
def InOrder (s : RakClient × List Mark) : Action → Prop
  | .deliver _ =>
    match s.1.ctx.mailbox with
    | .mediator _ (.success _) :: _ => s.1.mediator.isSome → Since .connect s.2
    | .session _ (.receivedDatagram frame) :: _ => frame.Accepts → s.1.disconnectHandle.isSome →
        Since .connect s.2 ∧ Since .success s.2
    | _ => True
  | _ => True

lemma Tracks.slotsFilled_iff {s : RakClient × List Mark} (h : Tracks s) (a : Action) :
    s.1.SlotsFilled a ↔ InOrder s a := by
  cases a with
  | deliver env =>
      rw [SlotsFilled, InOrder]
      rcases s.1.ctx.mailbox with _ | ⟨⟨attempt, _ | _ | _ | mtu⟩ | ⟨attempt, frame | _⟩, rest⟩
      · exact Iff.rfl
      · exact Iff.rfl
      · exact Iff.rfl
      · exact Iff.rfl
      · simp only [h.remote]
      · simp only [h.remote, h.session]
      · exact Iff.rfl
  | _ => exact Iff.rfl

lemma Tracks.unwrapsNone_iff {s : RakClient × List Mark} (h : Tracks s) (a : Action) :
    s.1.UnwrapsNone a ↔ ¬ InOrder s a := by
  rw [← h.slotsFilled_iff]
  cases a with
  | deliver env =>
      rw [SlotsFilled, UnwrapsNone]
      rcases s.1.ctx.mailbox with _ | ⟨⟨attempt, _ | _ | _ | mtu⟩ | ⟨attempt, frame | _⟩, rest⟩
      · simp
      · simp
      · simp
      · simp
      · simp
      · simp only [Classical.not_imp, not_and_or, Option.not_isSome_iff_eq_none]
      · simp
  | fire env handle =>
      refine iff_of_false ?_ (not_not_intro trivial)
      rintro ⟨f, hf, hupdate, -, htick⟩
      have hsome := h.tick f (Context.future?_eq_some hf).1 hupdate
      rw [htick] at hsome
      cases hsome
  | _ => exact iff_of_false id (not_not_intro trivial)

/-- **The handlers of the client unwrap no `None`**, and a success and an accept find their slots
filled, in exactly the runs in which no end of a session is handled between a connect and its
success, or between these and the accept. -/
theorem unwraps_iff (guid : UInt64) (actions : List Action) :
    (Run.exec step (init guid) actions ≠ .error (.client .unwrapNone)
        ∧ Run.Attempted step SlotsFilled (init guid) actions)
      ↔ Run.Attempted (Run.logged step marks) InOrder (init guid, []) actions := by
  have hkeep : ∀ s a s', Tracks s → Run.logged step marks s a = .ok s' → Tracks s' := by
    rintro s a ⟨c', history⟩ hs hstep
    obtain ⟨hstep, rfl⟩ := Run.logged_eq_ok.mp hstep
    exact hs.step hstep
  have hexec : Run.exec step (init guid) actions ≠ .error (.client .unwrapNone)
      ↔ Run.Attempted (Run.logged step marks) InOrder (init guid, []) actions := by
    rw [← Run.exec_ne_error_iff_attempted (e := .client .unwrapNone) hkeep (fun s a hs => ?_)
      (tracks_init guid)]
    · exact (Run.exec_logged_eq_error (s := (init guid, []))).not.symm
    · rw [Run.logged_eq_error, step_eq_unwrapNone, hs.unwrapsNone_iff]
  rw [hexec, and_iff_left_iff_imp]
  intro hattempted
  have hlogged : Run.Attempted (Run.logged step marks) (fun s a => SlotsFilled s.1 a)
      (init guid, []) actions :=
    hattempted.mono_of_invariant (fun s a s' hs _ => hkeep s a s' hs)
      (fun s a hs => (hs.slotsFilled_iff a).mpr) (tracks_init guid)
  exact Run.attempted_logged.mp hlogged

/-- The server says goodbye and accepts in one datagram: the accept finds no remote any more. -/
theorem unwraps_counterexample :
    let addr : SocketAddr := .v4 ⟨127, 0, 0, 1⟩ 19132
    let datagram : UdpPacket :=
      ⟨[0x84, 0, 0, 0, 0, 0, 0x08, 0x15, 0, 0, 0xd0] ++ acceptBody, addr⟩
    Run.exec step (init 0) (handshake 0 addr
      ++ [.receivedUdp default datagram, .deliver default, .deliver default])
        = .error (.client .unwrapNone) := by
  decide +kernel

end RakClient

end ActixRaknet
