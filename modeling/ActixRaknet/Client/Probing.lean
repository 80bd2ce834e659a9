import ActixRaknet.Client.Mediator
import ActixRaknet.Handshake.Datagrams
import ActixRaknet.Library.Run

/-!
How long a mediator goes on asking.

* `ClientMediator.Event`, `receive`: messages of any content come for a mediator, and it acts, in
  any order;
* `Bounded`: the bounds on what is pending and what has been sent;
* `Probing`: the invariant behind them, and what the functions of a mediator keep of it;
* `Concludes`: a reply that ends the handshake is accepted; `Settled`: the mediator asks no more;
* `bounded_probing`: the bounds hold in every run, and behind such a reply nothing is sent.
-/

namespace ActixRaknet

open Fallible

/-- The event is a success. -/
def MediatorEvent.isSuccess : MediatorEvent → Bool
  | .success _ => true
  | _ => false

namespace ClientMediator

/-- What happens to a mediator: a message comes for it, or it does something. -/
inductive Event
  | post (msg : MediatorMsg)
  | act (action : Action)

/-- An event, as a step of the mediator. -/
def receive (m : ClientMediator) : Event → Except Panic ClientMediator
  | .post msg => .ok { m with ctx := m.ctx.post [msg] }
  | .act action => m.step action

/-- The timers of the next request that run. -/
def pending (m : ClientMediator) : List (Future MediatorTimer) :=
  m.ctx.futures.filter (·.callback = .request1)

/-- The requests for a size that have been sent. -/
def probes (m : ClientMediator) : List UdpPacket :=
  m.udp.filter (·.bytes.head? = some (Packet.ID OpenConnectionRequest1))

/-- At most one timer of the next request runs, and its handle is the one that is kept; at most 13
requests for a size have been sent, none longer than those before it; and at most one success has
been reported. -/
structure Bounded (m : ClientMediator) : Prop where
  single : m.pending.length ≤ 1
  stored : ∀ f ∈ m.pending, m.nextRequest1Handle = some f.handle
  probes_le : m.probes.length ≤ 13
  antitone : (m.probes.map (·.bytes.length)).Pairwise (· ≥ ·)
  success : m.parent.countP (·.isSuccess) ≤ 1

/-- The datagram is a reply that ends the handshake, and it decodes. -/
def EndsHandshake (bytes : Bytes) : Prop :=
  (bytes.head? = some (Packet.ID OpenConnectionReply2)
      ∧ ∃ packet, decode OpenConnectionReply2 bytes = .ok (.ok packet))
    ∨ (bytes.head? = some (Packet.ID AlreadyConnected)
      ∧ ∃ packet, decode AlreadyConnected bytes = .ok (.ok packet))
    ∨ (bytes.head? = some (Packet.ID IncompatibleProtocolVersion)
      ∧ ∃ packet, decode IncompatibleProtocolVersion bytes = .ok (.ok packet))

/-- A reply that ends the handshake is accepted: it is the next message, and a request is
pending. -/
def Concludes (m : ClientMediator) : Event → Prop
  | .act .deliver => m.life = .started ∧ m.nextRequest1Handle.isSome = true
    ∧ ∃ msg rest, m.ctx.mailbox = .receivedUdp msg :: rest ∧ EndsHandshake msg.bytes
  | _ => False

/-- From here on the mediator sends nothing, however the run goes on. -/
def Final (m : ClientMediator) (event : Event) : Prop :=
  m.Concludes event → ∀ events m', Run.exec receive m (event :: events) = .ok m' → m'.udp = m.udp

/-! ### The invariant -/

/-- The `i`-th request for a size. -/
def probeBytes (i : ℕ) : Bytes := probe RAKNET_PROTOCOL_VERSION ((mtuSize i).getD 0)

/-- The requests sent are those up to the count, the handle kept is that of the next one, and a
success has been reported only if no timeout is kept. -/
structure Probing (m : ClientMediator) : Prop where
  fresh : m.life = .created → m.ctx.futures = []
  once : ∀ f ∈ m.ctx.futures, f.repeats = false
  stored : ∀ f ∈ m.ctx.futures, f.callback = .request1 → m.nextRequest1Handle = some f.handle
  count_le : m.request1Count ≤ 13
  probes_eq : m.probes.map (·.bytes) = (List.range m.request1Count).map probeBytes
  success_le : m.parent.countP (·.isSuccess) ≤ 1
  awaited : m.life = .created ∨ m.disconnectTimer.isSome = true →
    m.parent.countP (·.isSuccess) = 0

/-- No timer of the next request runs. -/
def Idle (m : ClientMediator) : Prop := ∀ f ∈ m.ctx.futures, f.callback ≠ .request1

variable {m m' : ClientMediator}

lemma probing_new (guid : UInt64) (address : SocketAddr) : Probing (new guid address) where
  fresh _ := rfl
  once _ h := absurd h List.not_mem_nil
  stored _ h := absurd h List.not_mem_nil
  count_le := Nat.zero_le _
  probes_eq := rfl
  success_le := Nat.zero_le _
  awaited _ := rfl

lemma lt_of_mtuSize {n : ℕ} {size : UInt16} (h : mtuSize n = some size) :
    n < 13 ∧ 50 ≤ size.toNat := by
  rw [mtuSize] at h
  split_ifs at h with h₁ h₂ h₃
  · obtain rfl := Option.some.inj h
    exact ⟨by omega, by decide⟩
  · obtain rfl := Option.some.inj h
    exact ⟨by omega, by decide⟩
  · obtain rfl := Option.some.inj h
    exact ⟨h₃.2, by decide⟩

lemma length_probeBytes {n : ℕ} (hn : n < 13) : (probeBytes n).length
    = if n < 4 then 1464 else if n < 8 then 1172 else 552 := by
  rw [probeBytes, mtuSize]
  split_ifs with h₁ h₂ h₃ h₄ h₅
  · exact Nat.add_right_cancel (length_probe _ (by decide))
  · exact Nat.add_right_cancel (length_probe _ (by decide))
  · omega
  · omega
  · exact Nat.add_right_cancel (length_probe _ (by decide))
  · omega
  · omega

/-- A later request for a size is not longer. -/
lemma length_probeBytes_le {i j : ℕ} (hij : i ≤ j) (hj : j < 13) :
    (probeBytes j).length ≤ (probeBytes i).length := by
  rw [length_probeBytes (hij.trans_lt hj), length_probeBytes hj]
  split_ifs <;> omega

/-- **The bounds** follow from the invariant. -/
lemma Probing.bounded (h : m.Probing) : m.Bounded := by
  have hstored : ∀ f ∈ m.pending, m.nextRequest1Handle = some f.handle := by
    intro f hf
    obtain ⟨hmem, hcallback⟩ := List.mem_filter.mp hf
    exact h.stored f hmem (of_decide_eq_true hcallback)
  have hlen := congrArg List.length h.probes_eq
  rw [List.length_map, List.length_map, List.length_range] at hlen
  refine ⟨?_, hstored, hlen.trans_le h.count_le, ?_, h.success_le⟩
  · have hdistinct : m.pending.Pairwise fun f g => f.handle ≠ g.handle := m.ctx.distinct.filter _
    rcases hpending : m.pending with _ | ⟨f, _ | ⟨g, l⟩⟩
    · exact Nat.zero_le 1
    · exact le_rfl
    · -- two pending timers would have the same handle
      rw [hpending] at hdistinct hstored
      have hf := hstored f List.mem_cons_self
      have hg := hstored g (List.mem_cons_of_mem _ List.mem_cons_self)
      exact absurd (Option.some.inj (hf.symm.trans hg))
        (List.rel_of_pairwise_cons hdistinct List.mem_cons_self)
  · have hmap : m.probes.map (·.bytes.length)
        = (List.range m.request1Count).map fun i => (probeBytes i).length := by
      have := congrArg (List.map List.length) h.probes_eq
      rwa [List.map_map, List.map_map] at this
    rw [hmap, List.pairwise_map]
    refine List.pairwise_lt_range.imp_of_mem fun hi hj hij => ?_
    have hlt := List.mem_range.mp hj
    exact length_probeBytes_le hij.le (hlt.trans_le h.count_le)

/-! ### The functions -/

/-- Timers that stop do no harm. -/
lemma Probing.withContext (h : m.Probing) {ctx : Context MediatorMsg MediatorTimer}
    (hctx : ctx.futures ⊆ m.ctx.futures) : Probing { m with ctx := ctx } where
  fresh hlife := List.eq_nil_of_subset_nil (h.fresh hlife ▸ hctx)
  once f hf := h.once f (hctx hf)
  stored f hf := h.stored f (hctx hf)
  count_le := h.count_le
  probes_eq := h.probes_eq
  success_le := h.success_le
  awaited := h.awaited

/-- An event that is no success. -/
lemma Probing.event (h : m.Probing) {event : MediatorEvent} (he : event.isSuccess = false) :
    (m.event event).Probing := by
  have hcount : (m.parent ++ [event]).countP (·.isSuccess) = m.parent.countP (·.isSuccess) := by
    rw [List.countP_append, List.countP_singleton, he]
    rfl
  exact ⟨h.fresh, h.once, h.stored, h.count_le, h.probes_eq, hcount.trans_le h.success_le,
    fun ha => hcount.trans (h.awaited ha)⟩

/-- A timer is started when none runs, and its handle is kept. -/
lemma Probing.schedule (h : m.Probing) (hidle : m.Idle) (hlife : m.life ≠ .created) :
    m.scheduleRequest1.Probing where
  fresh hcreated := absurd hcreated hlife
  once f hf := by
    rcases List.mem_append.mp hf with hf | hf
    · exact h.once f hf
    · rw [List.mem_singleton.mp hf]
  stored f hf hcallback := by
    rcases List.mem_append.mp hf with hf | hf
    · exact absurd hcallback (hidle f hf)
    · rw [List.mem_singleton.mp hf]
      rfl
  count_le := h.count_le
  probes_eq := h.probes_eq
  success_le := h.success_le
  awaited := h.awaited

/-- What `request1` does: it sends the next request and starts its timer, or it gives up. -/
lemma request1_eq_ok (hm : m.request1 = .ok m') : m' = m.timeout
    ∨ m.request1Count < 13 ∧ m' = (sendUdp { m with request1Count := m.request1Count + 1 }
      (probeBytes m.request1Count)).scheduleRequest1 := by
  rw [request1] at hm
  cases hsize : mtuSize m.request1Count with
  | none =>
      rw [hsize] at hm
      exact Or.inl (Except.ok.inj hm).symm
  | some size =>
      rw [hsize] at hm
      obtain ⟨hlt, hroom⟩ := lt_of_mtuSize hsize
      simp only [encode_request1 _ hroom, bind_eq_ok, u32Add_eq_ok, pure_eq_ok,
        Except.ok.injEq] at hm
      obtain ⟨_, ⟨-, rfl⟩, _, rfl, rfl⟩ := hm
      refine Or.inr ⟨hlt, ?_⟩
      rw [probeBytes, hsize]
      rfl

lemma Probing.request1 (h : m.Probing) (hidle : m.Idle) (hlife : m.life ≠ .created)
    (hm : m.request1 = .ok m') : m'.Probing := by
  rcases request1_eq_ok hm with rfl | ⟨hlt, rfl⟩
  · exact h.event rfl
  · refine
      Probing.schedule ⟨h.fresh, h.once, h.stored, hlt, ?_, h.success_le, h.awaited⟩ hidle hlife
    have hmap : (m.probes ++ [UdpPacket.mk (probeBytes m.request1Count) m.address]).map (·.bytes)
        = (List.range (m.request1Count + 1)).map probeBytes := by
      rw [List.map_append, h.probes_eq, List.range_succ, List.map_append]
      rfl
    exact (congrArg _ (List.filter_append _ _)).trans hmap

/-- What `request2` does: it sends a request that is none for a size, and starts the timer. -/
lemma Probing.request2 (h : m.Probing) (hidle : m.Idle) (hlife : m.life ≠ .created) {mtu : UInt16}
    (hm : m.request2 mtu = .ok m') : m'.Probing := by
  rw [ClientMediator.request2, encode_request2, ok_bind, pure_eq_ok, Except.ok.injEq] at hm
  subst hm
  refine Probing.schedule ⟨h.fresh, h.once, h.stored, h.count_le, ?_, h.success_le, h.awaited⟩ hidle
    hlife
  have hprobes : (m.sendUdp (request2Bytes m.address mtu m.guid)).probes = m.probes :=
    (List.filter_append _ _).trans (List.append_nil _)
  exact (congrArg _ hprobes).trans h.probes_eq

/-- A success is reported once: the timeout is not kept any more. -/
lemma Probing.success (h : m.Probing) (mtu : UInt16) (hlife : m.life ≠ .created) :
    (m.success mtu).Probing := by
  rw [ClientMediator.success]
  cases htimer : m.disconnectTimer with
  | none => exact h
  | some handle =>
      have hnone := h.awaited (Or.inr (by rw [htimer]; rfl))
      have hcancel : Probing { m with ctx := m.ctx.cancelFuture handle } :=
        h.withContext fun f hf => (Context.mem_cancelFuture.mp hf).1
      have hcount : (m.parent ++ [MediatorEvent.success mtu]).countP (·.isSuccess) = 1 := by
        rw [List.countP_append, hnone]
        rfl
      refine ⟨hcancel.fresh, hcancel.once, hcancel.stored, h.count_le, h.probes_eq, hcount.le, ?_⟩
      rintro (hcreated | hsome)
      · exact absurd hcreated hlife
      · cases hsome

/-- A reply that is taken cancels the timer of the next request. -/
lemma Probing.cancelled (h : m.Probing) {handle : ℕ}
    (hhandle : m.nextRequest1Handle = some handle) :
    Probing { m with ctx := m.ctx.cancelFuture handle, nextRequest1Handle := none }
      ∧ Idle { m with ctx := m.ctx.cancelFuture handle, nextRequest1Handle := none } := by
  have hidle : Idle { m with ctx := m.ctx.cancelFuture handle, nextRequest1Handle := none } := by
    intro f hf hcallback
    obtain ⟨hmem, hne⟩ := Context.mem_cancelFuture.mp hf
    have hstored := h.stored f hmem hcallback
    exact hne (Option.some.inj (hstored.symm.trans hhandle))
  have hcancel : Probing { m with ctx := m.ctx.cancelFuture handle } :=
    h.withContext fun f hf => (Context.mem_cancelFuture.mp hf).1
  exact ⟨⟨hcancel.fresh, hcancel.once, fun f hf hcallback => absurd hcallback (hidle f hf),
    h.count_le, h.probes_eq, h.success_le, h.awaited⟩, hidle⟩

lemma Probing.receivedUdp (h : m.Probing) (hlife : m.life ≠ .created) {msg : UdpPacket}
    (hm : m.handleReceivedUdp msg = .ok m') : m'.Probing := by
  obtain ⟨id, -, hm⟩ := bind_eq_ok.mp hm
  split_ifs at hm
  · rcases onReply_eq_ok hm with rfl | ⟨handle, reply1, hhandle, -, hm⟩
    · exact h
    · obtain ⟨hcancel, hidle⟩ := h.cancelled hhandle
      exact hcancel.request2 hidle hlife hm
  · rcases onReply_eq_ok hm with rfl | ⟨handle, reply2, hhandle, -, hm⟩
    · exact h
    · obtain ⟨mtu, -, hm⟩ := bind_eq_ok.mp hm
      exact Except.ok.inj hm ▸ (h.cancelled hhandle).1.success _ hlife
  · rcases onReply_eq_ok hm with rfl | ⟨handle, packet, hhandle, -, hm⟩
    · exact h
    · exact Except.ok.inj hm ▸ (h.cancelled hhandle).1.event rfl
  · rcases onReply_eq_ok hm with rfl | ⟨handle, packet, hhandle, -, hm⟩
    · exact h
    · exact Except.ok.inj hm ▸ (h.cancelled hhandle).1.event rfl
  · exact Except.ok.inj hm ▸ h

/-- A timer that has fired runs no more. -/
lemma Probing.fired (h : m.Probing) {f : Future MediatorTimer} (hf : f ∈ m.ctx.futures) :
    Probing { m with ctx := m.ctx.fired f }
      ∧ (f.callback = .request1 → Idle { m with ctx := m.ctx.fired f }) := by
  have hfired : m.ctx.fired f = m.ctx.cancelFuture f.handle := by
    rw [Context.fired, h.once f hf]
    rfl
  refine ⟨h.withContext fun g => Context.mem_of_mem_fired, fun hcallback g hg hcallback' => ?_⟩
  rw [hfired] at hg
  obtain ⟨hmem, hne⟩ := Context.mem_cancelFuture.mp hg
  exact hne (Option.some.inj ((h.stored g hmem hcallback').symm.trans (h.stored f hf hcallback)))

/-- A mediator starts with no timer but the timeout. -/
lemma Probing.started (h : m.Probing) (hlife : m.life = .created) (hm : m.started = .ok m') :
    m'.Probing := by
  have hnil := h.fresh hlife
  have hspawn : (m.ctx.spawn .timeout false).futures
      = [⟨m.ctx.spawned, .timeout, false⟩] := by
    rw [Context.futures_spawn, hnil]
    rfl
  have hidle : ∀ f ∈ (m.ctx.spawn MediatorTimer.timeout false).futures, f.callback ≠ .request1 := by
    intro f hf
    rw [hspawn, List.mem_singleton] at hf
    rw [hf]
    exact MediatorTimer.noConfusion
  refine Probing.request1 (m := { m with
      life := .started
      ctx := m.ctx.spawn .timeout false
      disconnectTimer := some m.ctx.spawned }) ⟨fun hcreated => ?_, fun f hf => ?_,
    fun f hf hcallback => ?_, h.count_le, h.probes_eq, h.success_le,
    fun _ => h.awaited (Or.inl hlife)⟩ hidle Life.noConfusion hm
  · cases hcreated
  · rw [hspawn, List.mem_singleton] at hf
    rw [hf]
  · exact absurd hcallback (hidle f hf)

lemma Probing.withMailbox (h : m.Probing) (rest : List MediatorMsg) :
    Probing { m with ctx := m.ctx.withMailbox rest } := h.withContext (List.Subset.refl _)

/-- **Step lemma.** -/
lemma Probing.receive (h : m.Probing) {event : Event} (hm : m.receive event = .ok m') :
    m'.Probing := by
  cases event with
  | post msg => exact Except.ok.inj hm ▸ h.withContext (List.Subset.refl _)
  | act action =>
      cases action with
      | start =>
          rw [ClientMediator.receive, step] at hm
          split_ifs at hm with hlife
          · exact h.started hlife hm
          · exact Except.ok.inj hm ▸ h
      | deliver =>
          rw [ClientMediator.receive, step] at hm
          split at hm
          · rename_i msg rest hlife hmail
            have hpopped := h.withMailbox rest
            cases msg with
            | receivedUdp msg =>
                exact hpopped.receivedUdp (by rw [hlife]; exact Life.noConfusion) hm
            | terminateMediator =>
                obtain rfl := Except.ok.inj hm
                refine ⟨fun hcreated => ?_, hpopped.once, hpopped.stored, h.count_le, h.probes_eq,
                  h.success_le, fun ha => h.awaited (Or.inr (ha.resolve_left Life.noConfusion))⟩
                cases hcreated
          · exact Except.ok.inj hm ▸ h
      | fire handle =>
          rw [ClientMediator.receive, step] at hm
          split at hm
          · rename_i f hlife hfuture
            obtain ⟨hmem, -⟩ := Context.future?_eq_some hfuture
            obtain ⟨hfired, hidle⟩ := h.fired hmem
            cases hcallback : f.callback with
            | timeout =>
                rw [hcallback] at hm
                exact Except.ok.inj hm ▸ hfired.event rfl
            | request1 =>
                rw [hcallback] at hm
                exact hfired.request1 (hidle hcallback) (by rw [hlife]; exact Life.noConfusion) hm
          · exact Except.ok.inj hm ▸ h

/-! ### The end of the handshake -/

/-- The mediator has started, it waits for no reply, and no timer of a request runs. -/
structure Settled (m : ClientMediator) : Prop where
  started : m.life ≠ .created
  handle : m.nextRequest1Handle = none
  idle : m.Idle

lemma Settled.withContext (h : m.Settled) {ctx : Context MediatorMsg MediatorTimer}
    (hctx : ctx.futures ⊆ m.ctx.futures) : Settled { m with ctx := ctx } :=
  ⟨h.started, h.handle, fun f hf => h.idle f (hctx hf)⟩

/-- A reply is not taken any more. -/
lemma Settled.receivedUdp (h : m.Settled) {msg : UdpPacket}
    (hm : m.handleReceivedUdp msg = .ok m') : m' = m := by
  have hreply : ∀ {P : Type} [Packet P] {next : ClientMediator → P → Except Panic ClientMediator},
      m.onReply P msg.bytes next = .ok m' → m' = m := by
    intro P _ next hm
    rcases onReply_eq_ok hm with rfl | ⟨handle, -, hhandle, -⟩
    · rfl
    · rw [h.handle] at hhandle
      cases hhandle
  obtain ⟨id, -, hm⟩ := bind_eq_ok.mp hm
  split_ifs at hm
  · exact hreply hm
  · exact hreply hm
  · exact hreply hm
  · exact hreply hm
  · exact (Except.ok.inj hm).symm

/-- **Step lemma**: a settled mediator sends nothing and stays settled. -/
lemma Settled.receive (h : m.Settled) {event : Event} (hm : m.receive event = .ok m') :
    m'.Settled ∧ m'.udp = m.udp := by
  cases event with
  | post msg => exact Except.ok.inj hm ▸ ⟨h.withContext (List.Subset.refl _), rfl⟩
  | act action =>
      cases action with
      | start =>
          rw [ClientMediator.receive, step, if_neg h.started] at hm
          exact Except.ok.inj hm ▸ ⟨h, rfl⟩
      | deliver =>
          rw [ClientMediator.receive, step] at hm
          split at hm
          · rename_i msg rest hlife hmail
            have hpopped : Settled { m with ctx := m.ctx.withMailbox rest } :=
              h.withContext (List.Subset.refl _)
            cases msg with
            | receivedUdp msg => exact hpopped.receivedUdp hm ▸ ⟨hpopped, rfl⟩
            | terminateMediator =>
                exact Except.ok.inj hm ▸ ⟨⟨Life.noConfusion, h.handle, hpopped.idle⟩, rfl⟩
          · exact Except.ok.inj hm ▸ ⟨h, rfl⟩
      | fire handle =>
          rw [ClientMediator.receive, step] at hm
          split at hm
          · rename_i f hlife hfuture
            obtain ⟨hmem, -⟩ := Context.future?_eq_some hfuture
            have hfired : Settled { m with ctx := m.ctx.fired f } :=
              h.withContext fun g => Context.mem_of_mem_fired
            cases hcallback : f.callback with
            | timeout =>
                rw [hcallback] at hm
                exact Except.ok.inj hm ▸ ⟨⟨hfired.started, hfired.handle, hfired.idle⟩, rfl⟩
            | request1 => exact absurd hcallback (h.idle f hmem)
          · exact Except.ok.inj hm ▸ ⟨h, rfl⟩

lemma Settled.exec (h : m.Settled) {events : List Event}
    (hm : Run.exec ClientMediator.receive m events = .ok m') : m'.udp = m.udp :=
  (Run.invariant (P := fun t => t.Settled ∧ t.udp = m.udp) (fun _ _ _ ht hstep =>
    (ht.1.receive hstep).imp_right fun hudp => hudp.trans ht.2) ⟨h, rfl⟩ hm).2

/-- A reply that is taken and followed by no request settles the mediator. -/
lemma Probing.settled (h : m.Probing) (hlife : m.life ≠ .created)
    (hpending : m.nextRequest1Handle.isSome = true) {P : Type} [Packet P] {bytes : Bytes}
    {packet : P}
    (hdecode : decode P bytes = .ok (.ok packet))
    {next : ClientMediator → P → Except Panic ClientMediator}
    (hnext : ∀ t, t.Settled → next t packet = .ok m' → m'.Settled ∧ m'.udp = t.udp)
    (hm : m.onReply P bytes next = .ok m') : m'.Settled ∧ m'.udp = m.udp := by
  obtain ⟨handle, hhandle⟩ := Option.isSome_iff_exists.mp hpending
  rw [onReply, hhandle] at hm
  simp only [unwrapOrReturn, hdecode] at hm
  exact hnext { m with ctx := m.ctx.cancelFuture handle, nextRequest1Handle := none }
    ⟨hlife, rfl, (h.cancelled hhandle).2⟩ hm

lemma Settled.event (h : m.Settled) (event : MediatorEvent) :
    (m.event event).Settled ∧ (m.event event).udp = m.udp := ⟨⟨h.started, h.handle, h.idle⟩, rfl⟩

lemma Settled.success (h : m.Settled) (mtu : UInt16) :
    (m.success mtu).Settled ∧ (m.success mtu).udp = m.udp := by
  rw [ClientMediator.success]
  split
  · exact ⟨h, rfl⟩
  · rename_i handle _
    have hcancel : Settled { m with ctx := m.ctx.cancelFuture handle } :=
      h.withContext fun f hf => (Context.mem_cancelFuture.mp hf).1
    exact ⟨⟨h.started, h.handle, hcancel.idle⟩, rfl⟩

lemma Probing.concluded_receivedUdp (h : m.Probing) (hlife : m.life ≠ .created)
    (hpending : m.nextRequest1Handle.isSome = true) {msg : UdpPacket}
    (hreply : EndsHandshake msg.bytes) (hm : m.handleReceivedUdp msg = .ok m') :
    m'.Settled ∧ m'.udp = m.udp := by
  obtain ⟨id, hid, hm⟩ := bind_eq_ok.mp hm
  rw [index_zero_eq_ok] at hid
  rcases hreply with ⟨hhead, packet, hdecode⟩ | ⟨hhead, packet, hdecode⟩ | ⟨hhead, packet, hdecode⟩
  · obtain rfl := Option.some.inj (hid.symm.trans hhead)
    rw [if_neg (by decide), if_pos rfl] at hm
    refine h.settled hlife hpending hdecode (fun t ht hnext => ?_) hm
    obtain ⟨mtu, -, hnext⟩ := bind_eq_ok.mp hnext
    exact Except.ok.inj hnext ▸ ht.success _
  · obtain rfl := Option.some.inj (hid.symm.trans hhead)
    rw [if_neg (by decide), if_neg (by decide), if_pos rfl] at hm
    refine h.settled hlife hpending hdecode (fun t ht hnext => ?_) hm
    exact Except.ok.inj hnext ▸ ht.event _
  · obtain rfl := Option.some.inj (hid.symm.trans hhead)
    rw [if_neg (by decide), if_neg (by decide), if_neg (by decide), if_pos rfl] at hm
    refine h.settled hlife hpending hdecode (fun t ht hnext => ?_) hm
    exact Except.ok.inj hnext ▸ ht.event _

/-- The reply that ends the handshake settles the mediator. -/
lemma Probing.concluded (h : m.Probing) {event : Event} (hevent : m.Concludes event)
    (hm : m.receive event = .ok m') : m'.Settled ∧ m'.udp = m.udp := by
  cases event with
  | post msg => exact hevent.elim
  | act action =>
      cases action with
      | start => exact hevent.elim
      | fire handle => exact hevent.elim
      | deliver =>
          obtain ⟨hlife, hpending, msg, rest, hmail, hreply⟩ := hevent
          have hcreated : m.life ≠ .created := by
            rw [hlife]
            exact Life.noConfusion
          rw [ClientMediator.receive, step] at hm
          split at hm
          · rename_i msg' rest' _ hmail'
            obtain ⟨rfl, rfl⟩ := List.cons.inj (hmail'.symm.trans hmail)
            exact (h.withMailbox rest').concluded_receivedUdp hcreated hpending hreply hm
          · rename_i hnot
            exact absurd hmail (hnot _ _ hlife)

/-- **Bounded probing.**  Whatever messages come, and in whatever order a mediator takes them and
its timers fire: in every state of the run the bounds hold, and once a reply that ends the handshake
has been accepted nothing is sent any more. -/
theorem bounded_probing (guid : UInt64) (address : SocketAddr) (events : List Event) :
    Run.Always receive Bounded (new guid address) events
      ∧ Run.Attempted receive Final (new guid address) events := by
  have hnew := probing_new guid address
  constructor
  · have halways : Run.Always receive Probing (new guid address) events :=
      Run.always_of_along (C := fun _ _ => True) (fun _ _ _ h _ hm => h.receive hm) hnew
        Run.along_true
    exact halways.mono fun m h => h.bounded
  · refine Run.attempted_of_invariant (I := Probing) (fun _ _ _ h hm => h.receive hm)
      (fun m event h hconcludes events' m' hm => ?_) hnew
    obtain ⟨m₁, hm₁, hrest⟩ := Run.exec_cons.mp hm
    obtain ⟨hsettled, hudp⟩ := h.concluded hconcludes hm₁
    exact (hsettled.exec hrest).trans hudp

end ClientMediator

end ActixRaknet
