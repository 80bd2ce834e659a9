import ActixRaknet.Client.Sessions
import ActixRaknet.Packets.Decoding
import ActixRaknet.Session.Asides

/-!
What a step of the client does with the frames that wait, and with an accept.

* `RakClient.waiting`: the frames in the mailbox, and `collects_step`: a step adds those that the
  session posts in it;
* `RakClient.accept?`: the accept that a step takes up; `step_accept`, `step_of_accept?_eq_none`:
  with one the session announces the connection, and without one it sends no packet of its own;
* `remote_step`: the address stays as long as the session does.
-/

namespace ActixRaknet

open Fallible

/-- An accept is longer than an aside. -/
lemma Frame.Slight.ordered_of_accepts {f : Frame} (h : f.Slight) (hf : f.Accepts) :
    f.reliability.sequencedOrOrdered = true := by
  obtain ⟨hid, accept, hdecode⟩ := hf
  refine h.ordered (length_of_decode_accepted hdecode) ?_
  rw [show f.data.head? = some (Packet.ID ConnectionRequestAccepted) from hid]
  decide

namespace RakClient

/-- The frames that wait in the mailbox. -/
def waiting (c : RakClient) : List Frame := c.ctx.mailbox.filterMap RakClientMail.frame?

/-- The frames that calls of the session post. -/
def reported (c : RakClient) (ops : List Session.Op) : List Frame :=
  match c.session with
  | none => []
  | some s => (s.reports ops).filterMap ParentMsg.frame?

/-- The accept that the client takes up in a step. -/
def accept? (c : RakClient) : Action → Option ConnectionRequestAccepted
  | .deliver _ =>
    match c.disconnectHandle, c.ctx.mailbox with
    | some _, .session _ (.receivedDatagram frame) :: _ =>
      match decode ConnectionRequestAccepted frame.data with
      | .ok (.ok accept) => if frame.IsAccept then some accept else none
      | _ => none
    | _, _ => none
  | _ => none

variable {c c' : RakClient}

/-! ### What waits -/

lemma waiting_withSession {f : Session → Except Panic Session} (op : Session.Op)
    (hf : ∀ s, f s = s.step op) (h : c.withSession f = .ok c') :
    c'.waiting = c.waiting ++ c.reported [op] := by
  obtain ⟨s, s', hs, hs', rfl⟩ := withSession_eq_ok.mp h
  rw [hf] at hs'
  rw [reported, hs]
  simp only [waiting, putSession, Context.mailbox_post, List.filterMap_append,
    filterMap_frame?_session, Session.reports_singleton hs']

lemma waiting_ifSession {f : Session → Except Panic Session} (op : Session.Op)
    (hf : ∀ s, f s = s.step op)
    (h : (if c.session.isSome then c.withSession f else .ok c) = .ok c') :
    c'.waiting = c.waiting ++ c.reported [op] := by
  split_ifs at h with hs
  · exact waiting_withSession op hf h
  · obtain rfl := Except.ok.inj h
    rw [reported, Option.not_isSome_iff_eq_none.mp hs]
    exact (List.append_nil _).symm

/-- A message is taken from the mailbox. -/
lemma waiting_popped {mail : RakClientMail} {rest : List RakClientMail}
    (hmail : c.ctx.mailbox = mail :: rest) : (c.popped rest).waiting ⊆ c.waiting := by
  rw [waiting, waiting, popped, Context.mailbox_withMailbox, hmail]
  exact ((List.sublist_cons_self mail rest).filterMap _).subset

lemma reported_append {c'' : RakClient} {ops ops' : List Session.Op} (h : Calls c c' ops)
    (h' : Calls c' c'' ops') : c.reported (ops ++ ops') = c.reported ops ++ c'.reported ops' := by
  obtain ⟨s, s₁, hs, hops, hs₁⟩ := h
  obtain ⟨t, s₂, ht, -, -⟩ := h'
  obtain rfl := Option.some.inj (hs₁.symm.trans ht)
  rw [reported, reported, reported, hs, hs₁]
  simp only [Session.reports_append hops, List.filterMap_append]

/-- An accept is taken up: what waits is what the two calls of the session post. -/
lemma waiting_accepted {env : Env} {handle : ℕ} {accept : ConnectionRequestAccepted}
    {remote : SocketAddr} (hremote : c.remote = some remote)
    (h : c.accepted env handle accept = .ok c') :
    c'.waiting = c.waiting ++ c.reported [.sendSystemPacket env.session NewIncomingConnection
      ⟨remote, accept.requestTimestamp, accept.requestTimestamp⟩ .reliableOrdered,
      .forceFlush env.session] := by
  simp only [accepted, bind_eq_ok, mapError_eq_ok, unwrap_eq_ok, pure_eq_ok, Except.ok.injEq] at h
  obtain ⟨remote', hremote', c₁, hsend, c₂, hflush, rfl⟩ := h
  obtain rfl := Option.some.inj (hremote.symm.trans hremote')
  let connected : NewIncomingConnection :=
    ⟨remote, accept.requestTimestamp, accept.requestTimestamp⟩
  let op : Session.Op :=
    .sendSystemPacket env.session NewIncomingConnection connected .reliableOrdered
  have hwaiting₁ := waiting_withSession op (fun _ => rfl) hsend
  have hwaiting₂ := waiting_withSession (.forceFlush env.session) (fun _ => rfl) hflush
  have hcalls₁ := (calls_withSession op (fun _ => rfl) hsend).1
  have hcalls₂ := (calls_withSession (.forceFlush env.session) (fun _ => rfl) hflush).1
  have hboth := reported_append hcalls₁ hcalls₂
  have hcancelled : RakClient.waiting { c with
      ctx := c.ctx.cancelFuture handle, disconnectHandle := none } = c.waiting := by
    rw [waiting, Context.mailbox_cancelFuture, waiting]
  change c₂.waiting = c.waiting ++ RakClient.reported { c with
    ctx := c.ctx.cancelFuture handle, disconnectHandle := none } ([op] ++ [.forceFlush env.session])
  rw [hboth, hwaiting₂, hwaiting₁, hcancelled, List.append_assoc]

/-! ### The accept of a step -/

lemma accept?_eq_some {a : Action} {accept : ConnectionRequestAccepted} :
    c.accept? a = some accept ↔ ∃ env attempt frame rest handle, a = .deliver env
      ∧ c.disconnectHandle = some handle
      ∧ c.ctx.mailbox = .session attempt (.receivedDatagram frame) :: rest ∧ frame.IsAccept
      ∧ decode ConnectionRequestAccepted frame.data = .ok (.ok accept) := by
  constructor
  · intro h
    cases a with
    | deliver env =>
        rw [accept?] at h
        split at h
        · rename_i handle attempt frame rest hh hmail
          split at h
          · rename_i accept' hdecode
            split_ifs at h with hframe
            obtain rfl := Option.some.inj h
            exact ⟨env, attempt, frame, rest, handle, rfl, hh, hmail, hframe, hdecode⟩
          · cases h
        · cases h
    | _ => cases h
  · rintro ⟨env, attempt, frame, rest, handle, rfl, hh, hmail, hframe, hdecode⟩
    simp only [accept?, hh, hmail, hdecode, if_pos hframe]

/-- The accept goes to `accepted`. -/
lemma step_eq_accepted {a : Action} {accept : ConnectionRequestAccepted}
    (ha : c.accept? a = some accept) (h : c.step a = .ok c') :
    ∃ (env : Env) (rest : List RakClientMail) (handle : ℕ) (remote : SocketAddr) (frame : Frame)
      (attempt : ℕ), c.ctx.mailbox = .session attempt (.receivedDatagram frame) :: rest
        ∧ frame.IsAccept ∧ decode ConnectionRequestAccepted frame.data = .ok (.ok accept)
        ∧ c.remote = some remote ∧ (c.popped rest).accepted env handle accept = .ok c'
        ∧ c.sessionOps a = [.sendSystemPacket env.session NewIncomingConnection
          ⟨remote, accept.requestTimestamp, accept.requestTimestamp⟩ .reliableOrdered,
          .forceFlush env.session] := by
  obtain ⟨env, attempt, frame, rest, handle, rfl, hh, hmail, hframe, hdecode⟩ :=
    accept?_eq_some.mp ha
  rw [step, hmail] at h
  change (c.popped rest).handleReceivedDatagram env frame = .ok c' at h
  obtain ⟨id, hid, h⟩ := bind_eq_ok.mp h
  rw [if_pos ((isAccept_iff (mapError_eq_ok.mp hid)).mpr hframe),
    show (c.popped rest).disconnectHandle = some handle from hh] at h
  obtain ⟨result, hresult, h⟩ := bind_eq_ok.mp h
  rw [mapError_eq_ok, hdecode, Except.ok.injEq] at hresult
  subst hresult
  obtain ⟨remote, hremote⟩ := Option.isSome_iff_exists.mp (accepted_eq_ok h).1
  have hremote : c.remote = some remote := hremote
  refine ⟨env, rest, handle, remote, frame, attempt, hmail, hframe, hdecode, hremote, h, ?_⟩
  rw [sessionOps, hmail]
  simp only [acceptOps, hh, hremote, hdecode, if_pos hframe]

/-- **The client takes up an accept** that waits: its session announces the connection, with the
address that the client has connected to and twice the first timestamp of the accept. -/
lemma step_accept {a : Action} {accept : ConnectionRequestAccepted} (ha : c.accept? a = some accept)
    (h : c.step a = .ok c') : ∃ env remote, c.remote = some remote ∧ c'.disconnectHandle = none
      ∧ (∃ frame ∈ c.waiting, frame.IsAccept
        ∧ decode ConnectionRequestAccepted frame.data = .ok (.ok accept))
      ∧ c.sessionOps a = [.sendSystemPacket env NewIncomingConnection
        ⟨remote, accept.requestTimestamp, accept.requestTimestamp⟩ .reliableOrdered,
        .forceFlush env] := by
  obtain ⟨env, rest, handle, remote, frame, attempt, hmail, hframe, hdecode, hremote, haccepted,
    hops⟩ :=
    step_eq_accepted ha h
  obtain ⟨-, -, session, session', rfl⟩ := accepted_eq_ok haccepted
  refine ⟨env.session, remote, hremote, rfl, ⟨frame, ?_, hframe, hdecode⟩, hops⟩
  rw [waiting, hmail]
  exact List.mem_filterMap.mpr ⟨_, List.mem_cons_self, rfl⟩

/-- **Else** its session sends no packet of its own, and an accept is awaited as before. -/
lemma step_of_accept?_eq_none {a : Action} (ha : c.accept? a = none) (hnone : c.success? a = none)
    (h : c.step a = .ok c') :
    c'.disconnectHandle = c.disconnectHandle ∧ ∀ op ∈ c.sessionOps a, Session.Quiet op := by
  have hquiet : ∀ env attempt frame rest, a = .deliver env →
      c.ctx.mailbox = .session attempt (.receivedDatagram frame) :: rest →
      c.acceptOps env frame = [] := by
    intro env attempt frame rest hdeliver hmail
    rw [acceptOps]
    split
    · rename_i handle remote accept hh hremote hdecode
      refine if_neg fun hframe => ?_
      have hsome := accept?_eq_some.mpr
        ⟨env, attempt, frame, rest, handle, hdeliver, hh, hmail, hframe, hdecode⟩
      cases ha.symm.trans hsome
    · rfl
  refine ⟨?_, fun op hop => ?_⟩
  · cases step_effect h with
    | accepted env attempt frame rest handle session session' hmail hframe hh hremote hs =>
        obtain ⟨hframe, accept, hdecode⟩ := hframe
        have hsome := accept?_eq_some.mpr
          ⟨env, attempt, frame, rest, handle, rfl, hh, hmail, hframe, hdecode⟩
        cases ha.symm.trans hsome
    | success env attempt mtu rest mediator session hmail hm hremote =>
        rw [success?, hmail, hm] at hnone
        cases hnone
    | mediator attempt action =>
        obtain ⟨mediators, posted, heq, -⟩ := c.mediatorStep_eq attempt action
        rw [heq]
    | _ => rfl
  · cases a with
    | call env msg =>
        cases msg with
        | connect addr => cases hop
        | packet bytes => exact List.mem_singleton.mp hop ▸ trivial
        | disconnect => exact List.mem_singleton.mp hop ▸ trivial
    | receivedUdp env msg =>
        rw [sessionOps] at hop
        split_ifs at hop
        · exact List.mem_singleton.mp hop ▸ trivial
        · cases hop
    | deliver env =>
        rw [sessionOps] at hop
        split at hop
        · rename_i hmail
          rw [hquiet env _ _ _ rfl hmail] at hop
          cases hop
        · cases hop
    | fire env handle =>
        rw [sessionOps] at hop
        split at hop
        · exact List.mem_singleton.mp hop ▸ trivial
        · cases hop
    | mediator attempt action => cases hop

/-- The client keeps the address while it keeps its session, or it is told to connect to another. -/
lemma remote_step {a : Action} (h : c.step a = .ok c') (hsession : c'.session.isSome) :
    c'.remote = c.remote
      ∨ ∃ env addr, a = .call env (.connect addr) ∧ c'.remote = some addr := by
  cases step_effect h with
  | connect env addr => exact Or.inr ⟨env, addr, rfl, rfl⟩
  | ended env attempt rest hmail => cases hsession
  | mediator attempt action =>
      obtain ⟨mediators, posted, heq, -⟩ := c.mediatorStep_eq attempt action
      rw [heq]
      exact Or.inl rfl
  | _ => exact Or.inl rfl

/-! ### What waits after a step -/

/-- What waits afterwards waited before, or calls of the session have posted it. -/
def Collects (c c' : RakClient) (ops : List Session.Op) : Prop :=
  ∀ f ∈ c'.waiting, f ∈ c.waiting ∨ f ∈ c.reported ops

lemma collects_of_subset {ops : List Session.Op} (h : c'.waiting ⊆ c.waiting) :
    Collects c c' ops := fun _ hf => Or.inl (h hf)

lemma collects_of_eq {ops : List Session.Op} (h : c'.waiting = c.waiting ++ c.reported ops) :
    Collects c c' ops := fun _ hf => List.mem_append.mp (h ▸ hf)

/-- A datagram comes in. -/
lemma collects_receivedUdp {env : Env} {msg : UdpPacket}
    (h : c.step (.receivedUdp env msg) = .ok c') :
    Collects c c' (c.sessionOps (.receivedUdp env msg)) := by
  rw [step, handleReceivedUdp] at h
  split at h
  · obtain rfl := Except.ok.inj h
    exact collects_of_subset (List.Subset.refl _)
  · rename_i remote hremote
    by_cases haddr : remote = msg.addr
    · rw [if_neg (not_not.mpr haddr)] at h
      split at h
      · obtain rfl := Except.ok.inj h
        exact collects_of_subset (List.Subset.refl _)
      · rename_i hm
        rw [sessionOps, if_pos ⟨by rw [hremote, haddr], hm⟩]
        exact collects_of_eq (waiting_ifSession (.handle env.session msg) (fun _ => rfl) h)
    · rw [if_pos haddr] at h
      obtain rfl := Except.ok.inj h
      exact collects_of_subset (List.Subset.refl _)

/-- A message is taken from the mailbox. -/
lemma collects_deliver {env : Env} (hnone : c.success? (.deliver env) = none)
    (h : c.step (.deliver env) = .ok c') : Collects c c' (c.sessionOps (.deliver env)) := by
  cases haccept : c.accept? (.deliver env) with
  | some accept =>
      obtain ⟨env', rest, handle, remote, frame, attempt, hmail, -, -, hremote, haccepted, hops⟩ :=
        step_eq_accepted haccept h
      have hwaiting := waiting_accepted (c := c.popped rest) hremote haccepted
      rw [← hops] at hwaiting
      intro f hf
      rw [hwaiting] at hf
      exact (List.mem_append.mp hf).imp_left (waiting_popped hmail ·)
  | none =>
      cases step_effect h with
      | idle _ ha => exact collects_of_subset (List.Subset.refl _)
      | late env attempt event rest hmail hm => exact collects_of_subset (waiting_popped hmail)
      | refused env attempt event rest reason mediator hmail hm hreason =>
          exact collects_of_subset (waiting_popped hmail)
      | success env attempt mtu rest mediator session hmail hm hremote =>
          rw [success?, hmail, hm] at hnone
          cases hnone
      | ignored env attempt frame rest hmail hframe hh =>
          exact collects_of_subset (waiting_popped hmail)
      | accepted env attempt frame rest handle session session' hmail hframe hh hremote hs =>
          obtain ⟨hframe, accept, hdecode⟩ := hframe
          have hsome := accept?_eq_some.mpr
            ⟨env, attempt, frame, rest, handle, rfl, hh, hmail, hframe, hdecode⟩
          cases haccept.symm.trans hsome
      | packet env attempt frame rest hmail hframe =>
          exact collects_of_subset (waiting_popped hmail)
      | ended env attempt rest hmail => exact collects_of_subset (waiting_popped hmail)
      | work _ session ha hs => exact ha.elim

/-- A timer calls back. -/
lemma collects_fire {env : Env} {handle : ℕ} (h : c.step (.fire env handle) = .ok c') :
    Collects c c' (c.sessionOps (.fire env handle)) := by
  have hfired : ∀ timer, (c.fired timer).waiting = c.waiting := fun timer => by
    rw [waiting, fired, Context.mailbox_fired, waiting]
  rw [step] at h
  split at h
  · obtain rfl := Except.ok.inj h
    exact collects_of_subset (List.Subset.refl _)
  · rename_i timer htimer
    obtain ⟨_, ⟨attempt, callback⟩, repeats⟩ := timer
    cases callback with
    | connectionTimeout =>
        obtain rfl := Except.ok.inj h
        exact collects_of_subset ((hfired _) ▸ List.Subset.refl _)
    | update =>
        change (c.fired _).update env = .ok c' at h
        rw [RakClient.update] at h
        split_ifs at h with hs
        · have hwaiting := waiting_withSession (.update env.session) (fun _ => rfl) h
          rw [hfired] at hwaiting
          simp only [sessionOps, htimer]
          exact collects_of_eq hwaiting
        · obtain ⟨tick, -, h⟩ := bind_eq_ok.mp h
          obtain rfl := Except.ok.inj h
          refine collects_of_subset ?_
          rw [waiting, Context.mailbox_cancelFuture, ← waiting, hfired]
          exact List.Subset.refl _

/-- **What waits after a step** waited before, or the session has posted it in the step. -/
lemma collects_step {a : Action} (hnone : c.success? a = none) (h : c.step a = .ok c') :
    Collects c c' (c.sessionOps a) := by
  cases a with
  | call env msg =>
      cases msg with
      | connect addr =>
          obtain rfl := Except.ok.inj h
          exact collects_of_subset (List.Subset.refl _)
      | packet bytes =>
          exact collects_of_eq (waiting_ifSession (.sendTo env.session bytes) (fun _ => rfl) h)
      | disconnect =>
          exact collects_of_eq (waiting_ifSession (.disconnect env.session) (fun _ => rfl) h)
  | receivedUdp env msg => exact collects_receivedUdp h
  | deliver env => exact collects_deliver hnone h
  | fire env handle => exact collects_fire h
  | mediator attempt action =>
      obtain rfl := Except.ok.inj h
      obtain ⟨mediators, posted, heq, -⟩ := c.mediatorStep_eq attempt action
      rw [heq]
      refine collects_of_subset ?_
      rw [waiting, Context.mailbox_post, List.filterMap_append, filterMap_frame?_mediator,
        List.append_nil, waiting]
      exact List.Subset.refl _

end RakClient

end ActixRaknet
