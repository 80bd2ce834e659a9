import ActixRaknet.Packets.RoundTrip
import ActixRaknet.Server.Events
import ActixRaknet.Session.Listening

/-!
The session of a connection of the server, as the turns of the connection move it.

* `ServerConn.sessionOps`: the calls of the session in a turn, `turn_session`, and what the
  connection takes of them, `turn_conducts`;
* `short_sessionOps`: the system packets among them are short;
* `slim_turn`: a session that keeps to its size keeps to it in every turn.
-/

namespace ActixRaknet

open Fallible

namespace ServerConn

/-- The calls of the session when a datagram of it is handled before the connection is
established. -/
def requestOps (c : ServerConn) (env : Env) (frame : Frame) : List Session.Op :=
  match c.disconnectHandle, decode ConnectionRequest frame.data with
  | some _, .ok (.ok request) =>
    if frame.data.head? = some (Packet.ID ConnectionRequest) then
      [.sendSystemPacket env.session ConnectionRequestAccepted
        (.new c.addr request.time env.acceptTime) .reliableOrdered]
    else []
  | _, _ => []

/-- The calls of the session when a message is handled. -/
def handleOps (c : ServerConn) (env : Env) : ServerConnMsg → List Session.Op
  | .receivedUdp msg => [.handle env.session msg]
  | .session (.receivedDatagram frame) => c.requestOps env frame
  | .session .sessionEnd => []
  | .sendPacket bytes => [.sendTo env.session bytes]
  | .disconnectConn => [.disconnect env.session]

/-- The calls of the session in a turn. -/
def sessionOps (c : ServerConn) : Op → List Session.Op
  | .receive _ => []
  | .act (.deliver env) =>
    match c.life, c.ctx.mailbox with
    | .started, msg :: _ => c.handleOps env msg
    | _, _ => []
  | .act (.fire env handle) =>
    match c.life, c.ctx.future? handle with
    | .started, some f =>
      match f.callback with
      | .disconnect => [.disconnect env.session]
      | .update => [.update env.session]
    | _, _ => []
  | .act _ => []

/-- The session of the connection is called. -/
def Calls (c c' : ServerConn) (ops : List Session.Op) : Prop :=
  Run.exec Session.turn c.session ops = .ok c'.session ∧ c'.addr = c.addr

/-- The session of the connection is called, and the connection takes what it posts. -/
structure Conducts (c c' : ServerConn) (ops : List Session.Op) : Prop where
  calls : Calls c c' ops
  passed : c'.passed = c.passed ++ c.session.reports ops

variable {c c' : ServerConn}

lemma conducts_nil (h : c'.session = c.session) (haddr : c'.addr = c.addr)
    (hpassed : c'.passed = c.passed) : Conducts c c' [] :=
  ⟨⟨congrArg Except.ok h.symm, haddr⟩, hpassed.trans (List.append_nil _).symm⟩

lemma conducts_withSession {f : Session → Except Panic Session} {op : Session.Op}
    (hf : ∀ s, f s = s.step op) (h : c.withSession f = .ok c') : Conducts c c' [op] := by
  obtain ⟨s, hs, hc⟩ := bind_eq_ok.mp h
  obtain rfl := Except.ok.inj hc
  rw [hf] at hs
  refine ⟨⟨Run.exec_singleton.mpr ?_, rfl⟩, ?_⟩
  · rw [Session.turn, hs, ok_bind, pure_eq_ok]
    rfl
  · rw [Session.reports_singleton hs]
    rfl

lemma event_session (c : ServerConn) (env : Env) (event : RakServerEvent) :
    (c.event env event).session = c.session ∧ (c.event env event).passed = c.passed := by
  rw [ServerConn.event]
  split_ifs <;> exact ⟨rfl, rfl⟩

lemma conducts_event (c : ServerConn) (env : Env) (event : RakServerEvent) :
    Conducts c (c.event env event) [] :=
  conducts_nil (event_session c env event).1 (same_event c env event).addr
    (event_session c env event).2

lemma handleReceivedDatagram_session {env : Env} {frame : Frame}
    (h : c.handleReceivedDatagram env frame = .ok c') : Conducts c c' (c.requestOps env frame) := by
  rw [handleReceivedDatagram] at h
  rw [requestOps]
  cases hh : c.disconnectHandle with
  | none =>
      rw [hh] at h
      obtain rfl := Except.ok.inj h
      exact conducts_event c env _
  | some handle =>
      rw [hh] at h
      obtain ⟨id, hid, h⟩ := bind_eq_ok.mp h
      simp only [index_zero_eq_ok.mp hid, Option.some.injEq]
      split_ifs at h with hrequest hincoming
      · simp only [if_pos hrequest]
        rw [unwrapOrReturn] at h
        split at h
        · cases h
        · rename_i hdecode
          rw [hdecode]
          obtain rfl := Except.ok.inj h
          exact conducts_nil rfl rfl rfl
        · rename_i hdecode
          rw [hdecode]
          exact conducts_withSession (fun _ => rfl) h
      · simp only [if_neg hrequest]
        have hnil : Conducts c c' [] := by
          rcases unwrapOrReturn_eq_ok h with rfl | ⟨-, -, h⟩
          · exact conducts_nil rfl rfl rfl
          · obtain rfl := Except.ok.inj h
            obtain ⟨⟨hsession, haddr⟩, hpassed⟩ := conducts_event c env (.connected c.myHandle)
            exact ⟨⟨hsession, haddr⟩, hpassed⟩
        split <;> exact hnil
      · simp only [if_neg hrequest]
        obtain rfl := Except.ok.inj h
        split <;> exact conducts_nil rfl rfl rfl

lemma handle_session {env : Env} {msg : ServerConnMsg} (h : c.handle env msg = .ok c') :
    Conducts c c' (c.handleOps env msg) := by
  rcases msg with msg | ⟨frame | _⟩ | bytes | _
  · exact conducts_withSession (f := (·.handle env.session msg)) (fun _ => rfl) h
  · exact handleReceivedDatagram_session h
  · obtain rfl := Except.ok.inj h
    rw [handleSessionEnd]
    split_ifs
    · exact conducts_nil rfl rfl rfl
    · obtain ⟨⟨hsession, haddr⟩, hpassed⟩ :=
        conducts_event c.sendServer env (.disconnected c.addr c.guid)
      exact ⟨⟨hsession, haddr⟩, hpassed⟩
  · exact conducts_withSession (f := (·.sendTo env.session bytes)) (fun _ => rfl) h
  · exact conducts_withSession (f := (·.disconnect env.session)) (fun _ => rfl) h

lemma turn_conducts {op : Op} (h : c.turn op = .ok c') : Conducts c c' (c.sessionOps op) := by
  rcases op with msg | _ | env | ⟨env, handle⟩ | bytes | _
  · obtain rfl := Except.ok.inj h
    exact conducts_nil rfl rfl rfl
  · obtain rfl := Except.ok.inj h
    split_ifs <;> exact conducts_nil rfl rfl rfl
  · rw [turn, step] at h
    split at h
    · rename_i rest hlife hmail
      rw [sessionOps, hlife, hmail]
      obtain ⟨⟨hsession, haddr⟩, hpassed⟩ :=
        handle_session (c := { c with ctx := c.ctx.withMailbox rest }) h
      exact ⟨⟨hsession, haddr⟩, hpassed⟩
    · rename_i hnone
      obtain rfl := Except.ok.inj h
      rw [sessionOps]
      split
      · rename_i hlife hmail
        exact (hnone _ _ hlife hmail).elim
      · exact conducts_nil rfl rfl rfl
  · rw [turn, step] at h
    split at h
    · rename_i f hlife hf
      simp only [sessionOps, hlife, hf]
      have hfired : ∀ {g : Session → Except Panic Session} {op : Session.Op},
          (∀ s, g s = s.step op) → withSession { c with ctx := c.ctx.fired f } g = .ok c' →
          Conducts c c' [op] := by
        intro g op hg hc
        obtain ⟨⟨hsession, haddr⟩, hpassed⟩ := conducts_withSession hg hc
        exact ⟨⟨hsession, haddr⟩, hpassed⟩
      cases hcallback : f.callback with
      | disconnect =>
          rw [hcallback] at h
          exact hfired (g := (·.disconnect env.session)) (fun _ => rfl) h
      | update =>
          rw [hcallback] at h
          exact hfired (g := (·.update env.session)) (fun _ => rfl) h
    · rename_i hnone
      obtain rfl := Except.ok.inj h
      rw [sessionOps]
      split
      · rename_i hlife hf
        exact (hnone _ hlife hf).elim
      · exact conducts_nil rfl rfl rfl
  · obtain rfl := Except.ok.inj h
    exact conducts_nil rfl rfl rfl
  · obtain rfl := Except.ok.inj h
    exact conducts_nil rfl rfl rfl

/-- **What a turn does to the session**: it makes the calls listed. -/
lemma turn_session {op : Op} (h : c.turn op = .ok c') : Calls c c' (c.sessionOps op) :=
  (turn_conducts h).calls

/-- An accept is the only system packet of a connection. -/
lemma short_sessionOps (c : ServerConn) (op : Op) : ∀ sop ∈ c.sessionOps op, Session.Short sop := by
  have hrequest : ∀ env frame, ∀ sop ∈ c.requestOps env frame, Session.Short sop := by
    intro env frame sop hsop
    rw [requestOps] at hsop
    split at hsop
    · split_ifs at hsop
      · rw [List.mem_singleton.mp hsop]
        exact fun body hbody => (length_accepted _ hbody).trans (by decide)
      · cases hsop
    · cases hsop
  intro sop hsop
  rcases op with msg | _ | env | ⟨env, handle⟩ | bytes | _
  · cases hsop
  · cases hsop
  · rw [sessionOps] at hsop
    split at hsop
    · rename_i msg rest hlife hmail
      rcases msg with msg | ⟨frame | _⟩ | bytes | _
      · exact List.mem_singleton.mp hsop ▸ trivial
      · exact hrequest env frame sop hsop
      · cases hsop
      · exact List.mem_singleton.mp hsop ▸ trivial
      · exact List.mem_singleton.mp hsop ▸ trivial
    · cases hsop
  · rw [sessionOps] at hsop
    split at hsop
    · split at hsop <;> exact List.mem_singleton.mp hsop ▸ trivial
    · cases hsop
  · cases hsop
  · cases hsop

/-- **A connection keeps its session to its size.** -/
lemma slim_turn (h : c.session.Slim) {op : Op} (hc : c.turn op = .ok c') :
    c'.session.Slim ∧ c'.session.mtu = c.session.mtu := by
  have hshort := c.short_sessionOps op
  obtain ⟨hops, -⟩ := turn_session hc
  exact foldlM_induction (P := fun s => s.Slim ∧ s.mtu = c.session.mtu)
    (fun s sop s' hsop hs hstep => (hs.1.turn (hshort sop hsop) hstep).imp_right (·.trans hs.2))
    ⟨h, rfl⟩ hops

end ServerConn

end ActixRaknet
