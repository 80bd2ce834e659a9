import Mathlib.Tactic

/-!
The context of an actor: the messages that wait for it and the futures it has spawned.

* `Life`: the life of an actor;
* `Context`: a mailbox, in order of arrival, and the futures that run, each under a handle of its
  own;
* `Context.post`, `Context.spawn`, `Context.cancelFuture`, `Context.fired`: what handlers do to it;
* `Context.eq_of_handle_eq`: a handle names one future.
-/

/-- A future that an actor has spawned: it calls back once, or again and again. -/
structure Future (τ : Type*) where
  handle : ℕ
  callback : τ
  repeats : Bool
  deriving DecidableEq

/-- The life of an actor: it is created, it starts, and it is terminated. -/
inductive Life
  | created
  | started
  | terminated
  deriving DecidableEq, Repr

/-- The context of an actor with messages in `μ` and callbacks in `τ`. -/
structure Context (μ τ : Type*) where
  mailbox : List μ
  futures : List (Future τ)
  /-- The number of futures spawned so far: the next handle. -/
  spawned : ℕ
  lt_spawned : ∀ f ∈ futures, f.handle < spawned
  distinct : futures.Pairwise fun f g => f.handle ≠ g.handle

namespace Context

variable {μ τ : Type*}

/-- The context of a new actor. -/
def empty : Context μ τ := ⟨[], [], 0, fun _ h => absurd h List.not_mem_nil, .nil⟩

/-- Messages arrive. -/
def post (c : Context μ τ) (messages : List μ) : Context μ τ :=
  { c with mailbox := c.mailbox ++ messages }

/-- The first message has been taken: `rest` is what is left. -/
def withMailbox (c : Context μ τ) (rest : List μ) : Context μ τ := { c with mailbox := rest }

/-- A future is spawned, under the next handle. -/
def spawn (c : Context μ τ) (callback : τ) (repeats : Bool) : Context μ τ where
  mailbox := c.mailbox
  futures := c.futures ++ [⟨c.spawned, callback, repeats⟩]
  spawned := c.spawned + 1
  lt_spawned f hf := by
    rcases List.mem_append.mp hf with hf | hf
    · exact (c.lt_spawned f hf).trans (Nat.lt_succ_self _)
    · rw [List.mem_singleton.mp hf]
      exact Nat.lt_succ_self _
  distinct := by
    refine List.pairwise_append.mpr ⟨c.distinct, List.pairwise_singleton _ _, fun f hf g hg => ?_⟩
    rw [List.mem_singleton.mp hg]
    exact (c.lt_spawned f hf).ne

/-- `ctx.cancel_future(handle)`. -/
def cancelFuture (c : Context μ τ) (handle : ℕ) : Context μ τ where
  mailbox := c.mailbox
  futures := c.futures.filter (·.handle ≠ handle)
  spawned := c.spawned
  lt_spawned f hf := c.lt_spawned f (List.mem_filter.mp hf).1
  distinct := c.distinct.filter _

/-- The future with a handle, if it still runs. -/
def future? (c : Context μ τ) (handle : ℕ) : Option (Future τ) :=
  c.futures.find? (·.handle = handle)

/-- A future has called back: one that does not repeat is done. -/
def fired (c : Context μ τ) (f : Future τ) : Context μ τ :=
  if f.repeats then c else c.cancelFuture f.handle

@[simp] lemma post_nil (c : Context μ τ) : c.post [] = c := by rw [post, List.append_nil]

@[simp] lemma mailbox_post (c : Context μ τ) (messages : List μ) :
    (c.post messages).mailbox = c.mailbox ++ messages := rfl

@[simp] lemma futures_post (c : Context μ τ) (messages : List μ) :
    (c.post messages).futures = c.futures := rfl

@[simp] lemma mailbox_withMailbox (c : Context μ τ) (rest : List μ) :
    (c.withMailbox rest).mailbox = rest := rfl

@[simp] lemma futures_withMailbox (c : Context μ τ) (rest : List μ) :
    (c.withMailbox rest).futures = c.futures := rfl

@[simp] lemma mailbox_spawn (c : Context μ τ) (callback : τ) (repeats : Bool) :
    (c.spawn callback repeats).mailbox = c.mailbox := rfl

@[simp] lemma futures_spawn (c : Context μ τ) (callback : τ) (repeats : Bool) :
    (c.spawn callback repeats).futures = c.futures ++ [⟨c.spawned, callback, repeats⟩] := rfl

@[simp] lemma spawned_spawn (c : Context μ τ) (callback : τ) (repeats : Bool) :
    (c.spawn callback repeats).spawned = c.spawned + 1 := rfl

@[simp] lemma mailbox_cancelFuture (c : Context μ τ) (handle : ℕ) :
    (c.cancelFuture handle).mailbox = c.mailbox := rfl

@[simp] lemma mailbox_fired (c : Context μ τ) (f : Future τ) : (c.fired f).mailbox = c.mailbox := by
  rw [fired]
  split_ifs <;> rfl

lemma mem_cancelFuture {c : Context μ τ} {handle : ℕ} {f : Future τ} :
    f ∈ (c.cancelFuture handle).futures ↔ f ∈ c.futures ∧ f.handle ≠ handle := by
  rw [cancelFuture, List.mem_filter, decide_eq_true_eq]

/-- What runs after a callback ran before. -/
lemma mem_of_mem_fired {c : Context μ τ} {f g : Future τ} (h : g ∈ (c.fired f).futures) :
    g ∈ c.futures := by
  rw [fired] at h
  split_ifs at h
  · exact h
  · exact (mem_cancelFuture.mp h).1

lemma future?_eq_some {c : Context μ τ} {handle : ℕ} {f : Future τ}
    (h : c.future? handle = some f) : f ∈ c.futures ∧ f.handle = handle := by
  rw [future?] at h
  exact ⟨List.mem_of_find?_eq_some h, by simpa using List.find?_some h⟩

/-- A handle names one future. -/
lemma eq_of_handle_eq {c : Context μ τ} {f g : Future τ} (hf : f ∈ c.futures) (hg : g ∈ c.futures)
    (h : f.handle = g.handle) : f = g := by
  by_contra hne
  have : Std.Symm fun f g : Future τ => f.handle ≠ g.handle := ⟨fun _ _ hfg => hfg.symm⟩
  exact c.distinct.forall hf hg hne h

end Context
