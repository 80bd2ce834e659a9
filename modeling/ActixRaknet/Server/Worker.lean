import ActixRaknet.Basic
import ActixRaknet.Library.HashMap
import ActixRaknet.Packets.Basic

/-!
`SessionWorker` of `server.rs`: which worker thread carries which connection.

An arbiter is named by the number of its worker.

* `SessionWorker`, `add`, `delete`: under the names of the source;
* `Balanced`: every worker counts the sessions mapped to it;
* `Balanced.add`, `Balanced.delete`: a new address goes to a worker of minimal count, the removal of
  an address never underflows, and both keep the counts.
-/

namespace ActixRaknet

open Fallible HashMap

/-- `SessionWorker`. -/
structure SessionWorker where
  session : HashMap SocketAddr ℕ
  /-- The count of each worker. -/
  workers : HashMap ℕ ℕ

/-- An order in which the workers are visited. -/
abbrev WorkerOrder := IterOrder (Sigma fun _ : ℕ => ℕ)

namespace SessionWorker

/-- `SessionWorker::new`. -/
def new (threads : ℕ) : SessionWorker where
  session := ∅
  workers := (List.range threads).foldl (fun workers i => workers.insert i 0) ∅

/-- `SessionWorker::add`: the address and the worker chosen for it.  `min_by_key` returns the first
minimum. -/
def add (w : SessionWorker) (order : WorkerOrder) (address : SocketAddr) :
    Except Panic SessionWorker := do
  let least ← unwrap ((order.reorder w.workers.entries).argmin (·.2))
  let count ← unwrap (w.workers.lookup least.1)
  let count ← u32Add count 1
  let workers := w.workers.insert least.1 count
  let session := w.session.insert address least.1
  -- the arbiter of the worker, which is returned
  let _ ← unwrap (workers.lookup least.1)
  return { session := session, workers := workers }

/-- `SessionWorker::delete`. -/
def delete (w : SessionWorker) (address : SocketAddr) : Except Panic SessionWorker :=
  match w.session.lookup address with
  | none => .ok w
  | some i => do
    let count ← unwrap (w.workers.lookup i)
    let count ← u32Sub count 1
    return { session := w.session.erase address, workers := w.workers.insert i count }

/-- The number of sessions mapped to a worker. -/
def load (w : SessionWorker) (i : ℕ) : ℕ := (w.session.keysWhere fun _ j => j = i).length

/-- Every worker counts the sessions mapped to it, and every session is mapped to a worker. -/
structure Balanced (w : SessionWorker) : Prop where
  count : ∀ i n, w.workers.lookup i = some n → n = w.load i
  mapped : ∀ addr i, w.session.lookup addr = some i → i ∈ w.workers

/-- The worker has a minimal count. -/
def Least (w : SessionWorker) (i : ℕ) : Prop :=
  ∃ n, w.workers.lookup i = some n ∧ ∀ j m, w.workers.lookup j = some m → n ≤ m

lemma lookup_new (threads i : ℕ) :
    (new threads).workers.lookup i = if i < threads then some 0 else none := by
  have hfold : ∀ (l : List ℕ) (m : HashMap ℕ ℕ),
      (l.foldl (fun workers i => workers.insert i 0) m).lookup i
        = if i ∈ l then some 0 else m.lookup i := by
    intro l
    induction l with
    | nil => simp
    | cons a l ih =>
        intro m
        rw [List.foldl_cons, ih, lookup_insert_eq_ite]
        by_cases hia : i = a <;> by_cases hil : i ∈ l <;> simp [hia, hil]
  rw [new, hfold]
  simp

lemma balanced_new (threads : ℕ) : Balanced (new threads) where
  count i n h := by
    rw [lookup_new] at h
    split_ifs at h
    obtain rfl := Option.some.inj h
    rfl
  mapped addr i h := by cases h

/-- There is a worker that can count one more session. -/
def HasRoom (w : SessionWorker) : Prop := ∃ i n, w.workers.lookup i = some n ∧ n + 1 < 2 ^ 32

lemma HasRoom.add {w : SessionWorker} (h : w.HasRoom) (order : WorkerOrder)
    (address : SocketAddr) : ∃ w', w.add order address = .ok w' := by
  obtain ⟨i, n, hi, hn⟩ := h
  have hmem : (⟨i, n⟩ : Sigma fun _ : ℕ => ℕ) ∈ order.reorder w.workers.entries :=
    order.mem_reorder.mpr (AList.mem_lookup_iff.mp hi)
  obtain ⟨⟨j, m⟩, hleast⟩ : ∃ least, least ∈ (order.reorder w.workers.entries).argmin (·.2) :=
    Option.ne_none_iff_exists'.mp fun hnone =>
      List.not_mem_nil (List.argmin_eq_none.mp hnone ▸ hmem)
  have hj : w.workers.lookup j = some m :=
    AList.mem_lookup_iff.mpr (order.mem_reorder.mp (List.argmin_mem hleast))
  have hle : m ≤ n :=
    List.le_of_mem_argmin (f := fun e : Sigma fun _ : ℕ => ℕ => e.2) hmem hleast
  rw [SessionWorker.add, Option.mem_def.mp hleast]
  simp only [unwrap_some, ok_bind, hj, u32Add_of_lt (show m + 1 < 2 ^ 32 by omega),
    AList.lookup_insert]
  exact ⟨_, rfl⟩

/-- The number of workers does not change. -/
lemma mem_workers_insert {w : SessionWorker} {i j n : ℕ} (hi : i ∈ w.workers) :
    j ∈ w.workers.insert i n ↔ j ∈ w.workers := by
  rw [AList.mem_insert]
  exact ⟨fun h => h.elim (fun hj => hj ▸ hi) id, Or.inr⟩

/-- **A new address** goes to a worker of minimal count. -/
lemma Balanced.add {w w' : SessionWorker} (h : w.Balanced) {order : WorkerOrder}
    {address : SocketAddr} (hnew : address ∉ w.session) (hw : w.add order address = .ok w') :
    w'.Balanced ∧ ∃ i, w.Least i ∧ i ∈ w.workers ∧ w'.session = w.session.insert address i
      ∧ ∀ j, j ∈ w'.workers ↔ j ∈ w.workers := by
  simp only [SessionWorker.add, bind_eq_ok, unwrap_eq_ok, u32Add_eq_ok, pure_eq_ok,
    Except.ok.injEq] at hw
  obtain ⟨⟨i, n₀⟩, hleast, n, hn, _, ⟨-, rfl⟩, _, -, rfl⟩ := hw
  have hi : i ∈ w.workers := mem_of_lookup hn
  have hmin : w.Least i := by
    have hentry : (⟨i, n₀⟩ : Sigma fun _ : ℕ => ℕ) ∈ w.workers.entries :=
      (order.mem_reorder).mp (List.argmin_mem hleast)
    have hn₀ : n₀ = n := Option.some.inj ((AList.mem_lookup_iff.mpr hentry).symm.trans hn)
    refine ⟨n, hn, fun j m hm => hn₀ ▸ ?_⟩
    exact List.le_of_mem_argmin (f := fun e : Sigma fun _ : ℕ => ℕ => e.2)
      (order.mem_reorder.mpr (AList.mem_lookup_iff.mp hm)) hleast
  refine ⟨⟨fun j m hm => ?_, fun addr j hj => ?_⟩, i, hmin, hi, rfl, fun j => mem_workers_insert hi⟩
  · rw [load, length_keysWhere_insert hnew]
    rw [lookup_insert_eq_ite] at hm
    split_ifs at hm with hji
    · obtain rfl := Option.some.inj hm
      rw [h.count i n hn, load, hji]
      simp
    · rw [h.count j m hm, load]
      simp [Ne.symm hji]
  · rw [lookup_insert_eq_ite] at hj
    rw [mem_workers_insert hi]
    split_ifs at hj
    · exact Option.some.inj hj ▸ hi
    · exact h.mapped addr j hj

/-- **The removal of an address** does not underflow, and gives up its slot and no other. -/
lemma Balanced.delete {w : SessionWorker} (h : w.Balanced) {address : SocketAddr} {i : ℕ}
    (hi : w.session.lookup address = some i) :
    ∃ n, w.workers.lookup i = some (n + 1) ∧ ∃ w', w.delete address = .ok w' ∧ w'.Balanced
      ∧ w'.session = w.session.erase address ∧ w'.workers = w.workers.insert i n := by
  obtain ⟨count, hcount⟩ := exists_lookup_of_mem (h.mapped address i hi)
  have hload : w.load i = (keysWhere (w.session.erase address) fun _ j => j = i).length + 1 := by
    rw [load, length_keysWhere_erase hi]
    simp
  obtain ⟨n, rfl⟩ : ∃ n, count = n + 1 := ⟨_, (h.count i count hcount).trans hload⟩
  refine ⟨n, hcount, ⟨w.session.erase address, w.workers.insert i n⟩, ?_,
    ⟨fun j m hm => ?_, fun addr j hj => ?_⟩, rfl, rfl⟩
  · rw [SessionWorker.delete, hi]
    simp only [hcount, unwrap_some, ok_bind, u32Sub_of_le (Nat.le_add_left 1 n),
      Nat.add_sub_cancel]
    rfl
  · rw [lookup_insert_eq_ite] at hm
    split_ifs at hm with hji
    · obtain rfl := Option.some.inj hm
      have hn := h.count i _ hcount
      rw [hload] at hn
      rw [load, hji]
      exact Nat.succ.inj hn
    · rw [h.count j m hm, load, length_keysWhere_erase hi, load]
      simp [Ne.symm hji]
  · rw [lookup_erase_eq_ite] at hj
    rw [mem_workers_insert (mem_of_lookup hcount)]
    split_ifs at hj
    exact h.mapped addr j hj

end SessionWorker

end ActixRaknet
