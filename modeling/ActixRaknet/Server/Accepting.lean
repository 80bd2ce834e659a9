import ActixRaknet.Packets.Decoding
import ActixRaknet.Server.Sessions
import ActixRaknet.Session.Asides

/-!
What a turn of a connection does with the packets of the handshake.

* `ServerConn.nextFrame?`: the frame in the next message; `mem_sessionOps`, `mem_spoken`: a turn
  sends an accept if that is a connection request, and no other packet of its own;
* `nextPacket?`: what the user sends with the next message;
* `ServerConn.incoming?`: the new incoming connection in the next message, `turn_connected`: it is
  there when the connection tells `Connected`.
-/

namespace ActixRaknet

open Fallible

/-- A new incoming connection is longer than an aside. -/
lemma Frame.Slight.ordered_of_announces {f : Frame} (h : f.Slight) (hf : f.Announces) :
    f.reliability.sequencedOrOrdered = true := by
  obtain ⟨hid, connected, hdecode⟩ := hf
  refine h.ordered (length_of_decode_incoming hdecode) ?_
  rw [hid]
  decide

namespace ServerConn

/-- The frame in the next message. -/
def nextFrame? (c : ServerConn) : Option Frame :=
  match c.ctx.mailbox with
  | .session (.receivedDatagram frame) :: _ => some frame
  | _ => none

/-- The new incoming connection that the next message carries. -/
def incoming? (c : ServerConn) : Option NewIncomingConnection :=
  match c.nextFrame? with
  | none => none
  | some frame =>
    match decode NewIncomingConnection frame.data with
    | .ok (.ok connected) => some connected
    | _ => none

/-- The bytes that the user sends with the next message. -/
def nextPacket? (c : ServerConn) : Option Bytes :=
  match c.ctx.mailbox with
  | .sendPacket bytes :: _ => some bytes
  | _ => none

variable {c c' : ServerConn}

lemma nextFrame?_eq_some {frame : Frame} : c.nextFrame? = some frame
    ↔ ∃ rest, c.ctx.mailbox = .session (.receivedDatagram frame) :: rest := by
  rw [nextFrame?]
  constructor
  · intro h
    split at h
    · rename_i hmail
      obtain rfl := Option.some.inj h
      exact ⟨_, hmail⟩
    · cases h
  · rintro ⟨rest, hmail⟩
    rw [hmail]

/-- The frame in the next message is the first one that waits. -/
lemma waiting_of_nextFrame? {frame : Frame} (h : c.nextFrame? = some frame) :
    ∃ waiting, c.view.waiting = frame :: waiting := by
  obtain ⟨rest, hmail⟩ := nextFrame?_eq_some.mp h
  refine ⟨rest.filterMap ServerConnMsg.frame?, ?_⟩
  rw [view, hmail, List.filterMap_cons]
  rfl

/-- **The calls of the session in a turn** are quiet, and what the user sends goes out in its turn;
but for the accept that answers a connection request in the next message. -/
lemma mem_sessionOps {op : Op} {sop : Session.Op} (h : sop ∈ c.sessionOps op) :
    (Session.Quiet sop ∧ ∀ env buff, sop = .sendTo env buff → c.life = .started
        ∧ c.nextPacket? = some buff ∧ ∃ env', op = .act (.deliver env'))
      ∨ ∃ (env : Env) (frame : Frame) (request : ConnectionRequest),
        c.life = .started ∧ c.disconnectHandle.isSome ∧ c.nextFrame? = some frame
        ∧ frame.data.head? = some (Packet.ID ConnectionRequest)
        ∧ decode ConnectionRequest frame.data = .ok (.ok request)
        ∧ sop = .sendSystemPacket env.session ConnectionRequestAccepted
          (.new c.addr request.time env.acceptTime) .reliableOrdered := by
  rcases op with msg | _ | env | ⟨env, handle⟩ | bytes | _
  · cases h
  · cases h
  · rw [sessionOps] at h
    split at h
    · rename_i msg rest hlife hmail
      rcases msg with msg | ⟨frame | _⟩ | bytes | _
      · obtain rfl := List.mem_singleton.mp h
        exact Or.inl ⟨trivial, by rintro _ _ ⟨⟩⟩
      · change sop ∈ c.requestOps env frame at h
        rw [requestOps] at h
        split at h
        · rename_i handle request hh hdecode
          split_ifs at h with hrequest
          · exact Or.inr ⟨env, frame, request, hlife, Option.isSome_of_mem hh,
              nextFrame?_eq_some.mpr ⟨rest, hmail⟩, hrequest, hdecode, List.mem_singleton.mp h⟩
          · cases h
        · cases h
      · cases h
      · obtain rfl := List.mem_singleton.mp h
        refine Or.inl ⟨trivial, ?_⟩
        rintro _ _ ⟨⟩
        exact ⟨hlife, by rw [nextPacket?, hmail], env, rfl⟩
      · obtain rfl := List.mem_singleton.mp h
        exact Or.inl ⟨trivial, by rintro _ _ ⟨⟩⟩
    · cases h
  · rw [sessionOps] at h
    split at h
    · split at h <;>
      · obtain rfl := List.mem_singleton.mp h
        exact Or.inl ⟨trivial, by rintro _ _ ⟨⟩⟩
    · cases h
  · cases h
  · cases h

/-- **The messages of a turn**: the farewell, what the user sends, or an accept. -/
lemma mem_spoken {op : Op} {m : Message} (hm : m ∈ c.session.spoken (c.sessionOps op)) :
    m = .farewell
      ∨ (m.user = true ∧ c.life = .started ∧ c.nextPacket? = some m.body
        ∧ ∃ env, op = .act (.deliver env))
      ∨ ∃ (env : Env) (frame : Frame) (request : ConnectionRequest) (body : Bytes),
        c.life = .started ∧ c.disconnectHandle.isSome ∧ c.nextFrame? = some frame
          ∧ frame.data.head? = some (Packet.ID ConnectionRequest)
          ∧ decode ConnectionRequest frame.data = .ok (.ok request)
          ∧ encode (ConnectionRequestAccepted.new c.addr request.time env.acceptTime) = .ok body
          ∧ m = .system body := by
  obtain ⟨t, sop, hsop, hm⟩ := Session.mem_spoken hm
  rcases mem_sessionOps hsop with
    ⟨hquiet, hsend⟩ | ⟨env, frame, request, hlife, hpending, hnext, hid, hdecode, rfl⟩
  · rcases hquiet.messages hm with rfl | ⟨env, buff, rfl, rfl⟩
    · exact Or.inl rfl
    · exact Or.inr (Or.inl ⟨rfl, hsend env buff rfl⟩)
  · rw [Session.messages] at hm
    split at hm
    · rename_i body hordered hbody
      exact Or.inr (Or.inr ⟨env, frame, request, body, hlife, hpending, hnext, hid, hdecode, hbody,
        List.mem_singleton.mp hm⟩)
    · cases hm

/-- A call of the session tells the user nothing. -/
lemma sent_withSession {f : Session → Except Panic Session} (h : c.withSession f = .ok c') :
    c'.sent = c.sent := by
  obtain ⟨session, -, hc⟩ := bind_eq_ok.mp h
  exact Except.ok.inj hc ▸ rfl

/-- An event goes out, unless the user has stopped. -/
lemma sent_event (c : ServerConn) (env : Env) (event : RakServerEvent) :
    (c.event env event).sent = c.sent ∨ (c.event env event).sent = c.sent ++ [.event event] := by
  rw [ServerConn.event]
  split_ifs
  · exact Or.inl rfl
  · exact Or.inr rfl

/-- The end of the session is not announced as `Connected`. -/
lemma sent_handleSessionEnd (c : ServerConn) (env : Env) (handle : ConnectionHandle) :
    (c.handleSessionEnd env).sent ≠ c.sent ++ [.event (.connected handle)] := by
  intro hsent
  rw [handleSessionEnd] at hsent
  split_ifs at hsent with hserver
  · exact absurd (congrArg List.length hsent) (by simp)
  · have hend : (c.sendServer).sent = c.sent ++ [.connectionEnd ⟨c.addr, c.guid⟩] := rfl
    rcases sent_event c.sendServer env (.disconnected c.addr c.guid) with heq | heq
    · have hlast := (heq.symm.trans hsent).symm.trans hend
      cases List.singleton_inj.mp (List.append_cancel_left hlast)
    · have hlast := congrArg List.length (heq.symm.trans hsent)
      rw [hend] at hlast
      simp at hlast

/-- **When the connection tells `Connected`**, it has awaited the new incoming connection that the
next message carries. -/
lemma turn_connected {op : Op} {handle : ConnectionHandle} (h : c.turn op = .ok c')
    (hsent : c'.sent = c.sent ++ [.event (.connected handle)]) :
    ∃ frame connected, c.life = .started ∧ c.disconnectHandle.isSome ∧ c.nextFrame? = some frame
      ∧ frame.data.head? = some (Packet.ID NewIncomingConnection)
      ∧ decode NewIncomingConnection frame.data = .ok (.ok connected) := by
  have hsame : c'.sent ≠ c.sent := fun heq =>
    absurd (congrArg List.length (heq.symm.trans hsent)) (by simp)
  rcases op with msg | (_ | env | ⟨env, timer⟩ | bytes | _)
  · exact absurd (Except.ok.inj h ▸ rfl) hsame
  · obtain rfl := Except.ok.inj h
    exact absurd (by split_ifs <;> rfl) hsame
  · rw [turn, step] at h
    split at h
    · rename_i msg rest hlife hmail
      change (c.popped rest).handle env msg = .ok c' at h
      rcases msg with msg | ⟨frame | _⟩ | bytes | _
      · exact absurd (sent_withSession (f := (·.handle env.session msg)) h) hsame
      · change (c.popped rest).handleReceivedDatagram env frame = .ok c' at h
        rw [handleReceivedDatagram] at h
        split at h
        · rename_i timer htimer
          obtain ⟨id, hid, h⟩ := bind_eq_ok.mp h
          rw [index_zero_eq_ok] at hid
          split_ifs at h with hrequest hincoming
          · rcases unwrapOrReturn_eq_ok h with rfl | ⟨request, -, h⟩
            · exact absurd rfl hsame
            · exact absurd (sent_withSession h) hsame
          · rcases unwrapOrReturn_eq_ok h with rfl | ⟨connected, hdecode, -⟩
            · exact absurd rfl hsame
            · exact ⟨frame, connected, hlife, Option.isSome_of_mem htimer,
                nextFrame?_eq_some.mpr ⟨rest, hmail⟩, hincoming ▸ hid, hdecode⟩
          · exact absurd (Except.ok.inj h ▸ rfl) hsame
        · obtain rfl := Except.ok.inj h
          rcases sent_event (c.popped rest) env (.packet c.myHandle frame.data) with heq | heq
          · exact absurd heq hsame
          · cases List.singleton_inj.mp (List.append_cancel_left (heq.symm.trans hsent))
      · obtain rfl := Except.ok.inj h
        exact absurd hsent (sent_handleSessionEnd (c.popped rest) env handle)
      · exact absurd (sent_withSession (f := (·.sendTo env.session bytes)) h) hsame
      · exact absurd (sent_withSession (f := (·.disconnect env.session)) h) hsame
    · exact absurd (Except.ok.inj h ▸ rfl) hsame
  · rw [turn, step] at h
    split at h
    · rename_i f hlife hf
      cases hcallback : f.callback with
      | disconnect =>
          rw [hcallback] at h
          exact absurd (sent_withSession (f := (·.disconnect env.session)) h) hsame
      | update =>
          rw [hcallback] at h
          exact absurd (sent_withSession (f := (·.update env.session)) h) hsame
    · exact absurd (Except.ok.inj h ▸ rfl) hsame
  · exact absurd (Except.ok.inj h ▸ rfl) hsame
  · exact absurd (Except.ok.inj h ▸ rfl) hsame

end ServerConn

end ActixRaknet
