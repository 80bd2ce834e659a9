import ActixRaknet.Library.Run
import ActixRaknet.Server.Basic

/-!
The registry of the server: four containers that name the same connections.

* `RakServer.Consistent`: the connections by address, the guids, the slots of the workers and their
  counts agree, and stay so when an address comes or goes (`Consistent.insert`, `Consistent.erase`);
* `Sound`: besides, a connection is registered under its own address until its `ConnectionEnd` is
  handled, and at most one waits for each;
* `Removes`, `Exact`: a `ConnectionEnd` takes out its own connection and nothing else, and a new
  connection goes to a worker of minimal count;
* `registry_consistent`: all this holds throughout every run.
-/

namespace ActixRaknet

open Fallible HashMap

namespace RakServer

/-- The connection registered under an address. -/
def registered (s : RakServer) (addr : SocketAddr) : Option ServerConn :=
  (s.conns.lookup addr).bind fun conn => s.connections[conn]?

/-- The guid registered under an address. -/
def guidAt (s : RakServer) (addr : SocketAddr) : Option UInt64 :=
  (s.registered addr).map (·.guid)

/-- The four containers name the same connections, no guid twice, and the counts are right. -/
structure Consistent (s : RakServer) : Prop where
  addresses : ∀ addr, addr ∈ s.conns ↔ addr ∈ s.sessionWorker.session
  nodup : s.connectedId.Nodup
  guids : ∀ guid, guid ∈ s.connectedId ↔ ∃ addr, s.guidAt addr = some guid
  unique : ∀ addr addr' guid, s.guidAt addr = some guid → s.guidAt addr' = some guid → addr = addr'
  balanced : s.sessionWorker.Balanced

/-- The connections stand behind the registry: each is registered under its own address as long as
it lives, and one whose end waits to be handled is registered still. -/
structure Sound (s : RakServer) : Prop extends s.Consistent where
  own : ∀ addr conn, s.conns.lookup addr = some conn →
    ∃ c, s.connections[conn]? = some c ∧ c.addr = addr
  alive : ∀ conn c, s.connections[conn]? = some c → c.life ≠ .terminated →
    s.conns.lookup c.addr = some conn
  once : (s.mailbox.map Prod.fst).Nodup
  waiting : ∀ conn msg, (conn, msg) ∈ s.mailbox → ∃ c, s.connections[conn]? = some c
    ∧ c.life = .terminated ∧ msg = ⟨c.addr, c.guid⟩ ∧ s.conns.lookup c.addr = some conn
  told : ∀ (conn : ℕ) c, s.connections[conn]? = some c → c.server = []

lemma sound_new (guid : UInt64) (motd : String) (thread : ℕ) : Sound (new guid motd thread) where
  addresses _ := Iff.rfl
  nodup := List.nodup_nil
  guids _ := iff_of_false List.not_mem_nil fun ⟨_, h⟩ => nomatch h
  unique _ _ _ h := nomatch h
  balanced := SessionWorker.balanced_new thread
  own _ _ h := nomatch h
  alive _ _ h := nomatch h
  once := List.nodup_nil
  waiting _ _ h := absurd h List.not_mem_nil
  told _ _ h := nomatch h

/-! ### The containers -/

/-- A new address with a new guid goes into the containers. -/
lemma Consistent.insert {s s' : RakServer} (h : s.Consistent) {addr : SocketAddr} {guid : UInt64}
    (haddr : s.guidAt addr = none) (hguid : guid ∉ s.connectedId)
    (haddresses : ∀ addr', addr' ∈ s'.conns ↔ addr' ∈ s'.sessionWorker.session)
    (hids : s'.connectedId = s.connectedId ++ [guid])
    (hguids : ∀ addr', s'.guidAt addr' = if addr' = addr then some guid else s.guidAt addr')
    (hbalanced : s'.sessionWorker.Balanced) : s'.Consistent := by
  have hfresh : ∀ addr', s.guidAt addr' ≠ some guid := fun addr' hg =>
    hguid ((h.guids guid).mpr ⟨addr', hg⟩)
  refine ⟨haddresses, ?_, fun guid' => ?_, fun addr₁ addr₂ guid' => ?_, hbalanced⟩
  · rw [hids, List.nodup_append]
    refine ⟨h.nodup, List.nodup_singleton _, fun guid₁ hg₁ guid₂ hg₂ => ?_⟩
    rw [List.mem_singleton.mp hg₂]
    rintro rfl
    exact hguid hg₁
  · simp only [hids, hguids, List.mem_append, List.mem_singleton, h.guids]
    constructor
    · rintro (⟨addr', haddr'⟩ | rfl)
      · refine ⟨addr', ?_⟩
        rw [if_neg, haddr']
        rintro rfl
        cases haddr.symm.trans haddr'
      · exact ⟨addr, if_pos rfl⟩
    · rintro ⟨addr', haddr'⟩
      split_ifs at haddr'
      · exact Or.inr (Option.some.inj haddr').symm
      · exact Or.inl ⟨addr', haddr'⟩
  · rw [hguids, hguids]
    intro hg₁ hg₂
    split_ifs at hg₁ hg₂ with h₁ h₂ h₂
    · exact h₁.trans h₂.symm
    · exact absurd (hg₂.trans hg₁.symm) (hfresh addr₂)
    · exact absurd (hg₁.trans hg₂.symm) (hfresh addr₁)
    · exact h.unique addr₁ addr₂ guid' hg₁ hg₂

/-- An address and its guid are taken out of the containers. -/
lemma Consistent.erase {s s' : RakServer} (h : s.Consistent) {addr : SocketAddr} {guid : UInt64}
    (hguid : s.guidAt addr = some guid)
    (haddresses : ∀ addr', addr' ∈ s'.conns ↔ addr' ∈ s'.sessionWorker.session)
    (hids : s'.connectedId = s.connectedId.erase guid)
    (hguids : ∀ addr', s'.guidAt addr' = if addr' = addr then none else s.guidAt addr')
    (hbalanced : s'.sessionWorker.Balanced) : s'.Consistent := by
  refine ⟨haddresses, hids ▸ h.nodup.erase _, fun guid' => ?_, fun addr₁ addr₂ guid' => ?_,
    hbalanced⟩
  · simp only [hids, h.nodup.mem_erase_iff, h.guids, hguids]
    constructor
    · rintro ⟨hne, addr', haddr'⟩
      refine ⟨addr', ?_⟩
      rw [if_neg, haddr']
      rintro rfl
      exact hne (Option.some.inj (haddr'.symm.trans hguid))
    · rintro ⟨addr', haddr'⟩
      split_ifs at haddr' with hne
      refine ⟨?_, addr', haddr'⟩
      rintro rfl
      exact hne (h.unique addr' addr _ haddr' hguid)
  · rw [hguids, hguids]
    intro hg₁ hg₂
    split_ifs at hg₁ hg₂
    exact h.unique addr₁ addr₂ guid' hg₁ hg₂

/-! ### Connections -/

lemma Sound.sendUdp {s : RakServer} (h : s.Sound) (bytes : Bytes) (addr : SocketAddr) :
    (s.sendUdp bytes addr).Sound := { h with }

/-- The guids after a connection has changed. -/
lemma guidAt_setConn {s : RakServer} {conn : ℕ} {c c' : ServerConn}
    (hc : s.connections[conn]? = some c) (hguid : c'.guid = c.guid) (addr : SocketAddr) :
    guidAt { s with connections := s.connections.set conn c' } addr = s.guidAt addr := by
  obtain ⟨hlt, -⟩ := List.getElem?_eq_some_iff.mp hc
  rw [guidAt, guidAt, registered, registered, Option.map_bind, Option.map_bind]
  refine congrArg _ (funext fun k => ?_)
  simp only [Function.comp_apply]
  by_cases hk : k = conn
  · rw [hk, List.getElem?_set_self hlt, hc, Option.map_some, Option.map_some, hguid]
  · rw [List.getElem?_set_ne (Ne.symm hk)]

/-- **A connection changes**, keeping its address and its guid. -/
lemma Sound.setConn {s : RakServer} (h : s.Sound) {conn : ℕ} {c : ServerConn} (c' : ServerConn)
    (hc : s.connections[conn]? = some c) (haddr : c'.addr = c.addr) (hguid : c'.guid = c.guid)
    (hserver : c'.server = []) (hlife : c.life = .terminated → c'.life = .terminated) :
    Sound { s with connections := s.connections.set conn c' } := by
  obtain ⟨hlt, -⟩ := List.getElem?_eq_some_iff.mp hc
  have hself : (s.connections.set conn c')[conn]? = some c' := by
    rw [List.getElem?_set_self hlt]
  have hother : ∀ k, k ≠ conn → (s.connections.set conn c')[k]? = s.connections[k]? :=
    fun k hk => List.getElem?_set_ne hk.symm
  have hguids := guidAt_setConn hc hguid
  have hmapped : ∀ (k : ℕ) (d : ServerConn), s.connections[k]? = some d →
      ∃ d', (s.connections.set conn c')[k]? = some d' ∧ d'.addr = d.addr ∧ d'.guid = d.guid
        ∧ (d.life = .terminated → d'.life = .terminated) := by
    intro k d hd
    by_cases hk : k = conn
    · subst hk
      obtain rfl := Option.some.inj (hc.symm.trans hd)
      exact ⟨c', hself, haddr, hguid, hlife⟩
    · exact ⟨d, (hother k hk).trans hd, rfl, rfl, id⟩
  refine ⟨⟨h.addresses, h.nodup, fun guid => ?_, fun addr addr' guid => ?_, h.balanced⟩,
    fun addr k hk => ?_, fun k d hd hd' => ?_, h.once, fun k msg hmem => ?_, fun k d hd => ?_⟩
  · rw [h.guids]
    exact exists_congr fun addr => by rw [hguids]
  · rw [hguids, hguids]
    exact h.unique addr addr' guid
  · obtain ⟨d, hd, rfl⟩ := h.own addr k hk
    obtain ⟨d', hd', haddr', -⟩ := hmapped k d hd
    exact ⟨d', hd', haddr'⟩
  · by_cases hk : k = conn
    · subst hk
      obtain rfl := Option.some.inj (hself.symm.trans hd)
      rw [haddr]
      exact h.alive k c hc (mt hlife hd')
    · exact h.alive k d ((hother k hk).symm.trans hd) hd'
  · obtain ⟨d, hd, hterm, rfl, hlookup⟩ := h.waiting k msg hmem
    obtain ⟨d', hd', haddr', hguid', hlife'⟩ := hmapped k d hd
    exact ⟨d', hd', hlife' hterm, by rw [haddr', hguid'], by rw [haddr', hlookup]⟩
  · by_cases hk : k = conn
    · subst hk
      obtain rfl := Option.some.inj (hself.symm.trans hd)
      exact hserver
    · exact h.told k d ((hother k hk).symm.trans hd)

/-- A connection that has terminated, and of which nothing waits, tells the server of its end. -/
lemma Sound.tell {s : RakServer} (h : s.Sound) {conn : ℕ} {c : ServerConn}
    (hc : s.connections[conn]? = some c) (hterm : c.life = .terminated)
    (hlookup : s.conns.lookup c.addr = some conn) (hnot : conn ∉ s.mailbox.map Prod.fst) :
    Sound { s with mailbox := s.mailbox ++ [(conn, ⟨c.addr, c.guid⟩)] } := by
  refine { h with once := ?_, waiting := fun k msg hmem => ?_ }
  · rw [List.map_append, List.nodup_append]
    refine ⟨h.once, List.nodup_singleton _, fun k hk k' hk' => ?_⟩
    rw [List.mem_singleton.mp hk']
    rintro rfl
    exact hnot hk
  · rcases List.mem_append.mp hmem with hmem | hmem
    · exact h.waiting k msg hmem
    · obtain ⟨rfl, rfl⟩ := Prod.mk.inj (List.mem_singleton.mp hmem)
      exact ⟨c, hc, hterm, rfl, hlookup⟩

/-- A step of a connection keeps the registry. -/
lemma Sound.connStep {s : RakServer} (h : s.Sound) (conn : ℕ) (action : ServerConn.Action) :
    (s.connStep conn action).Sound := by
  rw [RakServer.connStep]
  cases hc : s.connections[conn]? with
  | none => exact h
  | some c =>
      have htold := h.told conn c hc
      cases hstep : c.step action with
      | error panic =>
          simp only [hstep]
          exact h.setConn { c with life := .terminated } hc rfl rfl htold fun _ => rfl
      | ok c' =>
          simp only [hstep]
          rcases ServerConn.step_spec hstep with hsame | hended
          · rw [hsame.server, htold, List.map_nil, List.append_nil]
            exact h.setConn { c' with server := [] } hc hsame.addr hsame.guid rfl hsame.terminated
          · have hset := h.setConn { c' with server := [] } hc hended.addr hended.guid rfl
              fun _ => hended.terminated
            obtain ⟨hlt, -⟩ := List.getElem?_eq_some_iff.mp hc
            have hlookup : s.conns.lookup c'.addr = some conn := by
              rw [hended.addr, h.alive conn c hc hended.alive]
            -- the connection was alive, so nothing of it was waiting
            have hnot : conn ∉ s.mailbox.map Prod.fst := by
              intro hmem
              obtain ⟨⟨_, msg⟩, hwaits, rfl⟩ := List.mem_map.mp hmem
              obtain ⟨d, hd, hterm, -⟩ := h.waiting _ msg hwaits
              obtain rfl := Option.some.inj (hc.symm.trans hd)
              exact hended.alive hterm
            have htell := hset.tell (List.getElem?_set_self hlt) hended.terminated hlookup hnot
            rw [hended.server, htold, List.nil_append, ← hended.addr, ← hended.guid]
            exact htell

/-- A datagram for a connection keeps the registry. -/
lemma Sound.sendConn {s : RakServer} (h : s.Sound) (conn : ℕ) (msg : UdpPacket) :
    (s.sendConn conn msg).Sound := by
  rw [RakServer.sendConn]
  cases hc : s.connections[conn]? with
  | none =>
      rw [List.modify_eq_self (List.getElem?_eq_none_iff.mp hc)]
      exact h
  | some c =>
      have : Inhabited ServerConn := ⟨c⟩
      rw [List.modify_eq_set, hc]
      exact h.setConn (c.post (.receivedUdp msg)) hc rfl rfl (h.told conn c hc) id

/-! ### Registration -/

/-- Every address that has been registered goes to a worker that had a minimal count. -/
def PlacesNew (s s' : RakServer) : Prop :=
  ∀ addr, addr ∉ s.conns → addr ∈ s'.conns →
    ∃ i, s.sessionWorker.Least i ∧ s'.sessionWorker.session.lookup addr = some i

lemma placesNew_of_subset {s s' : RakServer} (h : ∀ addr, addr ∈ s'.conns → addr ∈ s.conns) :
    PlacesNew s s' := fun addr hnot hmem => absurd (h addr hmem) hnot

/-- The guids after a registration. -/
lemma Sound.guidAt_register {s : RakServer} (h : s.Sound) (addr : SocketAddr) (c : ServerConn)
    (worker : SessionWorker) (connectedId : List UInt64) (addr' : SocketAddr) :
    guidAt { s with
      sessionWorker := worker
      conns := s.conns.insert addr s.connections.length
      connections := s.connections ++ [c]
      connectedId := connectedId } addr'
      = if addr' = addr then some c.guid else s.guidAt addr' := by
  rw [guidAt, registered, lookup_insert_eq_ite]
  split_ifs with heq
  · rw [Option.bind_some, List.getElem?_concat_length]
    rfl
  · rw [guidAt, registered]
    cases hk : s.conns.lookup addr' with
    | none => rfl
    | some k =>
        obtain ⟨d, hd, -⟩ := h.own addr' k hk
        obtain ⟨hlt, -⟩ := List.getElem?_eq_some_iff.mp hd
        rw [Option.bind_some, Option.bind_some, List.getElem?_append_left hlt]

/-- **A new connection** is registered under a new address and a new guid, and goes to a worker of
minimal count. -/
lemma Sound.register {s s' : RakServer} (h : s.Sound) {env : Env}
    {request2 : OpenConnectionRequest2} {addr : SocketAddr} (haddr : s.conns.lookup addr = none)
    (hguid : request2.guid ∉ s.connectedId) (hs : s.register env request2 addr = .ok s') :
    s'.Sound ∧ PlacesNew s s' := by
  obtain ⟨worker, hadd, hs⟩ := bind_eq_ok.mp hs
  obtain rfl := Except.ok.inj hs
  have hnew : addr ∉ s.sessionWorker.session := by
    rw [← h.addresses]
    exact AList.lookup_eq_none.mp haddr
  obtain ⟨hbalanced, i, hleast, -, hsession, -⟩ := h.balanced.add hnew hadd
  have hguids := h.guidAt_register addr
    (.new request2.mtu request2.guid addr env.lastPing env.lastReceive) worker
    (s.connectedId ++ [request2.guid])
  generalize hc : ServerConn.new request2.mtu request2.guid addr env.lastPing env.lastReceive = c
    at hguids ⊢
  have hcaddr : c.addr = addr := by rw [← hc]; rfl
  have hcguid : c.guid = request2.guid := by rw [← hc]; rfl
  have hold : ∀ (k : ℕ) d, s.connections[k]? = some d → (s.connections ++ [c])[k]? = some d := by
    intro k d hd
    obtain ⟨hlt, -⟩ := List.getElem?_eq_some_iff.mp hd
    rw [List.getElem?_append_left hlt, hd]
  have hcases : ∀ (k : ℕ) d, (s.connections ++ [c])[k]? = some d →
      s.connections[k]? = some d ∨ (k = s.connections.length ∧ d = c) := by
    intro k d hd
    rcases lt_trichotomy k s.connections.length with hlt | rfl | hgt
    · rw [List.getElem?_append_left hlt] at hd
      exact Or.inl hd
    · rw [List.getElem?_concat_length] at hd
      exact Or.inr ⟨rfl, (Option.some.inj hd).symm⟩
    · rw [List.getElem?_eq_none (by simpa using hgt)] at hd
      cases hd
  -- a registered connection is not the new one, so its lookup is as it was
  have hlookup : ∀ addr' k, s.conns.lookup addr' = some k →
      (s.conns.insert addr s.connections.length).lookup addr' = some k := by
    intro addr' k hk
    rw [lookup_insert_eq_ite, if_neg, hk]
    rintro rfl
    cases haddr.symm.trans hk
  have hnone : s.guidAt addr = none := by rw [guidAt, registered, haddr]; rfl
  refine ⟨⟨h.insert hnone hguid (fun addr' => ?_) rfl (hcguid ▸ hguids) hbalanced,
    fun addr' k hk => ?_, fun k d hd halive => ?_, h.once, fun k msg hmem => ?_,
    fun k d hd => ?_⟩, fun addr' hnot hmem => ⟨i, hleast, ?_⟩⟩
  · rw [hsession, AList.mem_insert, AList.mem_insert, h.addresses]
  · rw [lookup_insert_eq_ite] at hk
    split_ifs at hk with heq
    · obtain rfl := Option.some.inj hk
      exact ⟨c, List.getElem?_concat_length, hcaddr.trans heq.symm⟩
    · obtain ⟨d, hd, haddr'⟩ := h.own addr' k hk
      exact ⟨d, hold k d hd, haddr'⟩
  · rcases hcases k d hd with hd | ⟨rfl, rfl⟩
    · exact hlookup _ _ (h.alive k d hd halive)
    · rw [hcaddr, AList.lookup_insert]
  · obtain ⟨d, hd, hterm, hmsg, hk⟩ := h.waiting k msg hmem
    exact ⟨d, hold k d hd, hterm, hmsg, hlookup _ _ hk⟩
  · rcases hcases k d hd with hd | ⟨-, rfl⟩
    · exact h.told k d hd
    · rw [← hc]
      rfl
  · obtain rfl : addr' = addr := ((AList.mem_insert _).mp hmem).resolve_right hnot
    rw [hsession, AList.lookup_insert]

/-! ### Removal -/

lemma forget_eq {connectedId : List UInt64} {guid : UInt64} :
    forget connectedId guid = .ok (connectedId.erase guid) := by
  rw [forget, List.erase_eq_eraseIdx]
  split_ifs with hmem
  · obtain ⟨i, hi⟩ := Option.isSome_iff_exists.mp (List.isSome_idxOf?.mpr hmem)
    rw [hi]
    rfl
  · rw [List.idxOf?_eq_none_iff.mpr hmem]

/-- The connection that has sent its end, and nothing else, has been taken out of the registry. -/
structure Removes (s s' : RakServer) (conn : ℕ) (msg : ConnectionEnd) : Prop where
  registered : s.conns.lookup msg.addr = some conn
  guid : s.guidAt msg.addr = some msg.guid
  conns : ∀ addr, s'.conns.lookup addr = if addr = msg.addr then none else s.conns.lookup addr
  session : ∀ addr, s'.sessionWorker.session.lookup addr
    = if addr = msg.addr then none else s.sessionWorker.session.lookup addr
  guids : ∀ guid, guid ∈ s'.connectedId ↔ guid ∈ s.connectedId ∧ guid ≠ msg.guid
  workers : ∃ i n, s.sessionWorker.session.lookup msg.addr = some i
    ∧ s.sessionWorker.workers.lookup i = some (n + 1)
    ∧ ∀ j, s'.sessionWorker.workers.lookup j
      = if j = i then some n else s.sessionWorker.workers.lookup j
  connections : s'.connections = s.connections

/-- **The end of a connection** is handled: it was registered, and it alone is removed. -/
lemma Sound.handleConnectionEnd {s : RakServer} (h : s.Sound) {conn : ℕ} {msg : ConnectionEnd}
    {rest : List (ℕ × ConnectionEnd)} (hmail : s.mailbox = (conn, msg) :: rest) :
    ∃ s', RakServer.handleConnectionEnd { s with mailbox := rest } msg = .ok s' ∧ s'.Sound
      ∧ Removes s s' conn msg := by
  obtain ⟨c, hc, hterm, rfl, hlookup⟩ := h.waiting conn msg (hmail ▸ List.mem_cons_self)
  have hguid : s.guidAt c.addr = some c.guid := by
    rw [guidAt, registered, hlookup, Option.bind_some, hc, Option.map_some]
  obtain ⟨i, hi⟩ := exists_lookup_of_mem ((h.addresses c.addr).mp (mem_of_lookup hlookup))
  obtain ⟨n, hn, worker, hdelete, hbalanced, hsession, hworkers⟩ := h.balanced.delete hi
  refine ⟨{ s with
    conns := s.conns.erase c.addr
    sessionWorker := worker
    connectedId := s.connectedId.erase c.guid
    mailbox := rest }, ?_, ?_, ?_⟩
  · rw [RakServer.handleConnectionEnd, hdelete, ok_bind, forget_eq]
    rfl
  · have hguids : ∀ addr, guidAt { s with
        conns := s.conns.erase c.addr
        sessionWorker := worker
        connectedId := s.connectedId.erase c.guid
        mailbox := rest } addr = if addr = c.addr then none else s.guidAt addr := by
      intro addr
      rw [guidAt, registered, lookup_erase_eq_ite]
      split_ifs
      · rfl
      · rfl
    have honce := h.once
    rw [hmail, List.map_cons, List.nodup_cons] at honce
    refine ⟨h.erase hguid (fun addr => ?_) rfl hguids hbalanced, fun addr k hk => ?_,
      fun k d hd halive => ?_, honce.2, fun k msg hmem => ?_, h.told⟩
    · rw [hsession, AList.mem_erase, AList.mem_erase, h.addresses]
    · exact h.own addr k (lookup_of_lookup_erase hk)
    · have hk := h.alive k d hd halive
      rw [lookup_erase_eq_ite, if_neg, hk]
      -- the connection that has ended is the only one at its address
      intro haddr
      rw [haddr, hlookup] at hk
      obtain rfl := Option.some.inj hk
      obtain rfl := Option.some.inj (hc.symm.trans hd)
      exact halive hterm
    · obtain ⟨d, hd, hdterm, hmsg, hk⟩ := h.waiting k msg (hmail ▸ List.mem_cons_of_mem _ hmem)
      refine ⟨d, hd, hdterm, hmsg, ?_⟩
      rw [lookup_erase_eq_ite, if_neg, hk]
      intro haddr
      rw [haddr, hlookup] at hk
      obtain rfl := Option.some.inj hk
      exact honce.1 (List.mem_map.mpr ⟨_, hmem, rfl⟩)
  · refine ⟨hlookup, hguid, fun addr => lookup_erase_eq_ite _ _ _, fun addr => ?_, fun guid => ?_,
      ⟨i, n, hi, hn, fun j => ?_⟩, rfl⟩
    · rw [hsession, lookup_erase_eq_ite]
    · rw [h.nodup.mem_erase_iff, and_comm]
    · rw [hworkers, lookup_insert_eq_ite]

/-! ### Steps -/

lemma Sound.handleRequest1 {s s' : RakServer} (h : s.Sound) {addr : SocketAddr}
    {request1 : OpenConnectionRequest1} (hs : s.handleRequest1 addr request1 = .ok s') :
    s'.Sound ∧ PlacesNew s s' := by
  rw [RakServer.handleRequest1] at hs
  split_ifs at hs
  all_goals
    obtain ⟨bytes, rfl⟩ := reply_eq_ok hs
    exact ⟨h.sendUdp bytes addr, placesNew_of_subset fun _ => id⟩

lemma Sound.handleRequest2 {s s' : RakServer} (h : s.Sound) {env : Env} {addr : SocketAddr}
    (haddr : s.conns.lookup addr = none) {request2 : OpenConnectionRequest2}
    (hs : s.handleRequest2 env addr request2 = .ok s') : s'.Sound ∧ PlacesNew s s' := by
  rw [RakServer.handleRequest2] at hs
  split_ifs at hs with hguid
  · obtain ⟨bytes, rfl⟩ := reply_eq_ok hs
    exact ⟨h.sendUdp bytes addr, placesNew_of_subset fun _ => id⟩
  · obtain ⟨t, ht, hs⟩ := bind_eq_ok.mp hs
    obtain ⟨bytes, rfl⟩ := reply_eq_ok ht
    exact (h.sendUdp bytes addr).register haddr hguid hs

/-- A datagram keeps the registry. -/
lemma Sound.handleReceivedUdp {s s' : RakServer} (h : s.Sound) {env : Env} {msg : UdpPacket}
    (hs : s.handleReceivedUdp env msg = .ok s') : s'.Sound ∧ PlacesNew s s' := by
  rw [RakServer.handleReceivedUdp] at hs
  split at hs
  · obtain rfl := Except.ok.inj hs
    exact ⟨h.sendConn _ msg, placesNew_of_subset fun _ => id⟩
  · rename_i haddr
    have hsame : s.Sound ∧ PlacesNew s s := ⟨h, placesNew_of_subset fun _ => id⟩
    obtain ⟨packetId, -, hs⟩ := bind_eq_ok.mp hs
    split_ifs at hs
    · rcases unwrapOrReturn_eq_ok hs with rfl | ⟨ping, -, hs⟩
      · exact hsame
      · obtain ⟨bytes, rfl⟩ := reply_eq_ok hs
        exact ⟨h.sendUdp bytes msg.addr, placesNew_of_subset fun _ => id⟩
    · rcases unwrapOrReturn_eq_ok hs with rfl | ⟨request1, -, hs⟩
      · exact hsame
      · exact h.handleRequest1 hs
    · rcases unwrapOrReturn_eq_ok hs with rfl | ⟨request2, -, hs⟩
      · exact hsame
      · exact h.handleRequest2 haddr hs
    · exact Except.ok.inj hs ▸ hsame

lemma conns_connStep (s : RakServer) (conn : ℕ) (action : ServerConn.Action) :
    (s.connStep conn action).conns = s.conns := by
  rw [RakServer.connStep]
  split
  · rfl
  · split <;> rfl

/-- **Step lemma**: a step keeps the registry, and places a new connection at a worker of minimal
count. -/
lemma Sound.step {s s' : RakServer} (h : s.Sound) {action : Action}
    (hs : s.step action = .ok s') : s'.Sound ∧ PlacesNew s s' := by
  cases action with
  | receivedUdp env msg => exact h.handleReceivedUdp hs
  | setMotd motd =>
      obtain rfl := Except.ok.inj hs
      exact ⟨{ h with }, placesNew_of_subset fun _ => id⟩
  | deliver =>
      rw [RakServer.step] at hs
      split at hs
      · exact Except.ok.inj hs ▸ ⟨h, placesNew_of_subset fun _ => id⟩
      · rename_i conn msg rest hmail
        obtain ⟨t, ht, hsound, hremoves⟩ := h.handleConnectionEnd hmail
        obtain rfl := Except.ok.inj (ht.symm.trans hs)
        refine ⟨hsound, placesNew_of_subset fun addr hmem => ?_⟩
        obtain ⟨k, hk⟩ := exists_lookup_of_mem hmem
        rw [hremoves.conns] at hk
        split_ifs at hk
        exact mem_of_lookup hk
  | conn conn action =>
      obtain rfl := Except.ok.inj hs
      refine ⟨h.connStep conn action, placesNew_of_subset fun addr hmem => ?_⟩
      rwa [conns_connStep] at hmem

/-! ### Runs -/

/-- A step places every new connection at a worker of minimal count, and if it handles the end of a
connection, it completes and takes out that connection alone. -/
structure Exact (s : RakServer) (action : Action) : Prop where
  places : ∀ s', s.step action = .ok s' → PlacesNew s s'
  removes : ∀ conn msg rest, action = .deliver → s.mailbox = (conn, msg) :: rest →
    ∃ s', s.step action = .ok s' ∧ Removes s s' conn msg

lemma Sound.exact {s : RakServer} (h : s.Sound) (action : Action) : Exact s action where
  places _ hs := (h.step hs).2
  removes conn msg rest := by
    rintro rfl hmail
    obtain ⟨s', hs', -, hremoves⟩ := h.handleConnectionEnd hmail
    refine ⟨s', ?_, hremoves⟩
    rw [RakServer.step, hmail]
    exact hs'

/-- **The registry is consistent throughout every run**, whatever the number of workers: a new
connection goes to a worker of minimal count, and the end of a connection removes it and nothing
else. -/
theorem registry_consistent (guid : UInt64) (motd : String) (thread : ℕ) (actions : List Action) :
    Run.Always step Consistent (new guid motd thread) actions
      ∧ Run.Attempted step Exact (new guid motd thread) actions := by
  have hkeep : ∀ s a s', Sound s → step s a = .ok s' → Sound s' :=
    fun s a s' hs hstep => (hs.step hstep).1
  have hnew := sound_new guid motd thread
  constructor
  · have halways : Run.Always step Sound (new guid motd thread) actions :=
      Run.always_of_along (fun s a s' hs _ => hkeep s a s' hs) hnew Run.along_true
    exact halways.mono fun s hs => hs.toConsistent
  · exact Run.attempted_of_invariant hkeep (fun s a hs => hs.exact a) hnew

end RakServer

end ActixRaknet
