import Mathlib.Tactic

/-!
Rules for computations in `Except ε`: how a bind succeeds, how it fails, and how a fold of a
fallible step along a list is taken apart.

* `bind_eq_ok`, `bind_eq_error`, `foldlM_induction`: the parts of a computation;
* `Ends Q E x`: `x` ends in a result that satisfies `Q` or in an error that satisfies `E`, with the
  rules `Ends.bind` and `Ends.foldlM`.
-/

namespace Fallible

universe u v

variable {ε : Type v} {α β : Type u} {σ : Type*}

@[simp] lemma ok_bind (a : α) (f : α → Except ε β) :
    ((Except.ok a : Except ε α) >>= f) = f a := rfl

@[simp] lemma error_bind (e : ε) (f : α → Except ε β) :
    ((Except.error e : Except ε α) >>= f) = .error e := rfl

@[simp] lemma pure_eq_ok (a : α) : (pure a : Except ε α) = .ok a := rfl

@[simp] lemma throw_eq_error (e : ε) : (throw e : Except ε α) = .error e := rfl

@[simp] lemma map_ok (f : α → β) (a : α) :
    (f <$> (Except.ok a : Except ε α)) = .ok (f a) := rfl

/-- A bind succeeds exactly when both of its parts do. -/
lemma bind_eq_ok {x : Except ε α} {f : α → Except ε β} {b : β} :
    (x >>= f) = .ok b ↔ ∃ a, x = .ok a ∧ f a = .ok b := by
  cases x with
  | error e => simp
  | ok a => simp

/-- A bind fails in its first part or, once that succeeded, in its second. -/
lemma bind_eq_error {x : Except ε α} {f : α → Except ε β} {e : ε} :
    (x >>= f) = .error e ↔ x = .error e ∨ ∃ a, x = .ok a ∧ f a = .error e := by
  cases x with
  | error e' => simp
  | ok a => simp

/-- Whether a computation fails with `e` can be decided, whatever it computes. -/
instance decidableEqError [DecidableEq ε] (x : Except ε α) (e : ε) : Decidable (x = .error e) :=
  match x with
  | .error e' => decidable_of_iff (e' = e) (by rw [Except.error.injEq])
  | .ok _ => isFalse fun h => nomatch h

/-- Whether a result inside a computation is there can be decided. -/
instance decidableExistsOk {ε' : Type v} (x : Except ε (Except ε' α)) :
    Decidable (∃ a, x = .ok (.ok a)) :=
  match x with
  | .ok (.ok a) => isTrue ⟨a, rfl⟩
  | .ok (.error _) => isFalse fun ⟨_, h⟩ => nomatch h
  | .error _ => isFalse fun ⟨_, h⟩ => nomatch h

lemma map_eq_ok {x : Except ε α} {f : α → β} {b : β} :
    (f <$> x) = .ok b ↔ ∃ a, x = .ok a ∧ f a = b := by
  cases x with
  | error e => simp [Functor.map, Except.map]
  | ok a => simp

lemma map_eq_error {x : Except ε α} {f : α → β} {e : ε} :
    (f <$> x) = .error e ↔ x = .error e := by
  cases x with
  | error e' => simp [Functor.map, Except.map]
  | ok a => simp

lemma ite_error_eq_ok {c : Prop} [Decidable c] {x : Except ε α} {e : ε} {a : α} :
    (if c then x else .error e) = .ok a ↔ c ∧ x = .ok a := by
  by_cases h : c <;> simp [h]

lemma foldlM_cons_eq_ok {f : σ → α → Except ε σ} {s t : σ} {a : α} {as : List α} :
    (a :: as).foldlM f s = .ok t ↔ ∃ s', f s a = .ok s' ∧ as.foldlM f s' = .ok t := by
  rw [List.foldlM_cons, bind_eq_ok]

lemma foldlM_append_eq_ok {f : σ → α → Except ε σ} {s t : σ} {as bs : List α} :
    (as ++ bs).foldlM f s = .ok t ↔ ∃ s', as.foldlM f s = .ok s' ∧ bs.foldlM f s' = .ok t := by
  rw [List.foldlM_append, bind_eq_ok]

/-- What every successful step preserves, a successful fold preserves. -/
lemma foldlM_induction {f : σ → α → Except ε σ} {P : σ → Prop} {as : List α}
    (hstep : ∀ s a s', a ∈ as → P s → f s a = .ok s' → P s') {s t : σ} (hs : P s)
    (h : as.foldlM f s = .ok t) : P t := by
  induction as generalizing s with
  | nil =>
      rw [List.foldlM_nil, pure_eq_ok, Except.ok.injEq] at h
      exact h ▸ hs
  | cons a as ih =>
      obtain ⟨s', hf, h'⟩ := foldlM_cons_eq_ok.mp h
      exact ih (fun s a s' ha => hstep s a s' (List.mem_cons_of_mem _ ha))
        (hstep s a s' List.mem_cons_self hs hf) h'

/-- The steps of a fold that succeeds have succeeded. -/
lemma exists_step_of_foldlM {f : σ → α → Except ε σ} {s t : σ} {as : List α}
    (h : as.foldlM f s = .ok t) {a : α} (ha : a ∈ as) : ∃ s₁ s₂, f s₁ a = .ok s₂ := by
  obtain ⟨before, after, rfl⟩ := List.append_of_mem ha
  obtain ⟨s₁, -, hrest⟩ := foldlM_append_eq_ok.mp h
  obtain ⟨s₂, hstep, -⟩ := foldlM_cons_eq_ok.mp hrest
  exact ⟨s₁, s₂, hstep⟩

/-- A fold that fails does so at one of its steps, in a state that the steps before it reached. -/
lemma foldlM_eq_error {f : σ → α → Except ε σ} {P : σ → Prop} {as : List α} {e : ε}
    (hstep : ∀ s a s', a ∈ as → P s → f s a = .ok s' → P s') {s : σ} (hs : P s)
    (h : as.foldlM f s = .error e) : ∃ t, ∃ a ∈ as, P t ∧ f t a = .error e := by
  induction as generalizing s with
  | nil => cases h
  | cons a as ih =>
      rw [List.foldlM_cons, bind_eq_error] at h
      rcases h with h | ⟨s', hf, h⟩
      · exact ⟨s, a, List.mem_cons_self, hs, h⟩
      · obtain ⟨t, b, hb, ht⟩ := ih (fun s a s' ha => hstep s a s' (List.mem_cons_of_mem _ ha))
          (hstep s a s' List.mem_cons_self hs hf) h
        exact ⟨t, b, List.mem_cons_of_mem _ hb, ht⟩

/-! ### Both outcomes -/

/-- The computation ends in a result that satisfies `Q`, or in an error that satisfies `E`. -/
def Ends (Q : α → Prop) (E : ε → Prop) : Except ε α → Prop
  | .ok a => Q a
  | .error e => E e

section Ends

variable {Q Q' : α → Prop} {E : ε → Prop} {x : Except ε α}

lemma ends_ok {a : α} (h : Q a) : Ends Q E (.ok a) := h

lemma ends_iff : Ends Q E x ↔ (∀ a, x = .ok a → Q a) ∧ ∀ e, x = .error e → E e := by
  cases x with
  | error e =>
      exact ⟨fun h => ⟨by rintro _ ⟨⟩, fun _ he => Except.error.inj he ▸ h⟩, fun h => h.2 e rfl⟩
  | ok a =>
      exact ⟨fun h => ⟨fun _ ha => Except.ok.inj ha ▸ h, by rintro _ ⟨⟩⟩, fun h => h.1 a rfl⟩

lemma Ends.ne_error {e : ε} (h : Ends Q E x) (he : ¬ E e) : x ≠ .error e :=
  fun hx => he ((ends_iff.mp h).2 e hx)

lemma Ends.exists_ok (h : Ends Q (fun _ => False) x) : ∃ a, x = .ok a ∧ Q a := by
  cases x with
  | error e => exact h.elim
  | ok a => exact ⟨a, rfl, h⟩

lemma Ends.weaken {E' : ε → Prop} (h : Ends Q E x) (hE : ∀ e, E e → E' e) : Ends Q E' x :=
  ends_iff.mpr ⟨(ends_iff.mp h).1, fun e he => hE e ((ends_iff.mp h).2 e he)⟩

lemma Ends.mono (h : Ends Q E x) (hQ : ∀ a, x = .ok a → Q a → Q' a) : Ends Q' E x :=
  ends_iff.mpr ⟨fun a ha => hQ a ha ((ends_iff.mp h).1 a ha), (ends_iff.mp h).2⟩

/-- A bind ends as its second part does, from what its first part ends in. -/
lemma Ends.bind {R : β → Prop} {f : α → Except ε β} (h : Ends Q E x)
    (hf : ∀ a, x = .ok a → Q a → Ends R E (f a)) : Ends R E (x >>= f) := by
  cases x with
  | error e => exact h
  | ok a => exact hf a rfl h

/-- A fold whose steps end in `I`, each with one more of the items done, ends in `I` with all of
them done. -/
lemma Ends.foldlM {f : σ → α → Except ε σ} {I : ℕ → σ → Prop} {as : List α} {n m : ℕ} {s : σ}
    (hm : n + as.length = m)
    (hstep : ∀ k s a, k < m → a ∈ as → I k s → Ends (I (k + 1)) E (f s a)) (hs : I n s) :
    Ends (I m) E (as.foldlM f s) := by
  induction as generalizing n s with
  | nil =>
      subst hm
      exact hs
  | cons a as ih =>
      rw [List.length_cons, Nat.add_comm as.length, ← Nat.add_assoc] at hm
      rw [List.foldlM_cons]
      exact (hstep n s a (by omega) List.mem_cons_self hs).bind fun t _ ht =>
        ih hm (fun k s b hk hb => hstep k s b hk (List.mem_cons_of_mem _ hb)) ht

end Ends

end Fallible
