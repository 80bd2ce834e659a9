import ActixRaknet.Library.Fallible

/-!
Runs of a fallible step function `step : σ → α → Except ε σ`: a state machine whose step may
panic, driven by a list of actions.

* `Run.exec`: the state after a list of actions, if every step completes;
* `Run.Always P`: `P` holds in every state a run passes through, up to the step that fails;
* `Run.Along C`: every step of a run that completes meets the condition `C` on the state before
  it and its action (of a given run, both can be decided);
* `Run.invariant`, `Run.always_of_along`: what holds initially and is preserved holds always;
* `Run.exec_ne_error_of_along`: how a run is shown not to fail with a given error;
* `Run.Attempted C`: every step of a run, completed or not, meets `C`, and
  `Run.exec_ne_error_iff_attempted`: the exact condition for a run not to fail with a given error;
* `Run.along_congr_of_invariant`: two conditions on the steps that say the same of runs;
* `Run.logged`: a step that keeps a log besides;
* `Run.always_iff_along`: if the steps that meet `C` keep a property and the completed steps
  that do not meet it break the property, a run keeps it exactly when all its steps meet `C`.
-/

namespace Run

variable {σ α ε : Type*} (step : σ → α → Except ε σ)

/-- The state after the actions `as`, if every step completes. -/
def exec (s : σ) (as : List α) : Except ε σ := as.foldlM step s

/-- `P` holds in every state the run passes through. -/
def Always (P : σ → Prop) : σ → List α → Prop
  | s, [] => P s
  | s, a :: as => P s ∧ ∀ s', step s a = .ok s' → Always P s' as

/-- Every step of the run that completes meets `C`. -/
def Along (C : σ → α → Prop) : σ → List α → Prop
  | _, [] => True
  | s, a :: as => ∀ s', step s a = .ok s' → C s a ∧ Along C s' as

/-- Every step the run attempts, also one that fails, meets `C`. -/
def Attempted (C : σ → α → Prop) : σ → List α → Prop
  | _, [] => True
  | s, a :: as => C s a ∧ ∀ s', step s a = .ok s' → Attempted C s' as

/-- The step, with a log kept of what `record` notes of it, newest first. -/
def logged {β : Type*} (record : σ → α → List β) (s : σ × List β) (a : α) :
    Except ε (σ × List β) :=
  (step s.1 a).map fun s' => (s', record s.1 a ++ s.2)

variable {step}

/-! ### Checking a given run -/

instance decidableNext (x : Except ε σ) (Q : σ → Prop) [DecidablePred Q] :
    Decidable (∀ s, x = .ok s → Q s) :=
  match x with
  | .error _ => isTrue fun _ h => nomatch h
  | .ok t => decidable_of_iff (Q t) ⟨fun hQ _ h => Except.ok.inj h ▸ hQ, fun h => h t rfl⟩

instance decidableAlways (P : σ → Prop) [DecidablePred P] :
    ∀ s as, Decidable (Always step P s as)
  | s, [] => inferInstanceAs (Decidable (P s))
  | s, a :: as =>
      have := fun t => decidableAlways P t as
      inferInstanceAs (Decidable (P s ∧ ∀ t, step s a = .ok t → Always step P t as))

instance decidableAlong (C : σ → α → Prop) [∀ s a, Decidable (C s a)] :
    ∀ s as, Decidable (Along step C s as)
  | _, [] => isTrue trivial
  | s, a :: as =>
      have := fun t => decidableAlong C t as
      inferInstanceAs (Decidable (∀ t, step s a = .ok t → C s a ∧ Along step C t as))

/-! ### Executions -/

@[simp] lemma exec_nil (s : σ) : exec step s [] = .ok s := rfl

lemma exec_cons {s t : σ} {a : α} {as : List α} :
    exec step s (a :: as) = .ok t ↔ ∃ s', step s a = .ok s' ∧ exec step s' as = .ok t :=
  Fallible.foldlM_cons_eq_ok

lemma exec_append {s t : σ} {as bs : List α} :
    exec step s (as ++ bs) = .ok t
      ↔ ∃ s', exec step s as = .ok s' ∧ exec step s' bs = .ok t :=
  Fallible.foldlM_append_eq_ok

lemma exec_singleton {s t : σ} {a : α} : exec step s [a] = .ok t ↔ step s a = .ok t := by
  rw [exec_cons]
  simp

/-! ### Invariants and conditions -/

/-- **Invariant induction**: what holds initially and is preserved by every step holds of every
state reached. -/
theorem invariant {P : σ → Prop} (hstep : ∀ s a s', P s → step s a = .ok s' → P s')
    {s t : σ} {as : List α} (hs : P s) (h : exec step s as = .ok t) : P t :=
  Fallible.foldlM_induction (fun s a s' _ => hstep s a s') hs h

lemma Always.head {P : σ → Prop} {s : σ} {as : List α} (h : Always step P s as) : P s := by
  cases as with
  | nil => exact h
  | cons a as => exact h.1

lemma Always.mono {P Q : σ → Prop} (h : ∀ s, P s → Q s) {s : σ} {as : List α}
    (hP : Always step P s as) : Always step Q s as := by
  induction as generalizing s with
  | nil => exact h s hP
  | cons a as ih => exact ⟨h s hP.1, fun s' hs' => ih (hP.2 s' hs')⟩

/-- `Always` speaks of exactly the states that prefixes of the run reach. -/
theorem always_iff {P : σ → Prop} {s : σ} {as : List α} :
    Always step P s as ↔ ∀ bs cs t, as = bs ++ cs → exec step s bs = .ok t → P t := by
  induction as generalizing s with
  | nil =>
      constructor
      · intro h bs cs t hb ht
        obtain ⟨rfl, rfl⟩ := List.append_eq_nil_iff.mp hb.symm
        rw [exec_nil, Except.ok.injEq] at ht
        exact ht ▸ h
      · exact fun h => h [] [] s rfl rfl
  | cons a as ih =>
      constructor
      · rintro ⟨hs, hnext⟩ bs cs t hb ht
        cases bs with
        | nil =>
            rw [exec_nil, Except.ok.injEq] at ht
            exact ht ▸ hs
        | cons b bs =>
            rw [List.cons_append, List.cons.injEq] at hb
            obtain ⟨rfl, hb⟩ := hb
            obtain ⟨s', hs', ht'⟩ := exec_cons.mp ht
            exact ih.mp (hnext s' hs') bs cs t hb ht'
      · intro h
        refine ⟨h [] (a :: as) s rfl rfl, fun s' hs' => ih.mpr fun bs cs t hb ht => ?_⟩
        exact h (a :: bs) cs t (by rw [hb, List.cons_append]) (exec_cons.mpr ⟨s', hs', ht⟩)

lemma Along.mono {C D : σ → α → Prop} (h : ∀ s a s', step s a = .ok s' → C s a → D s a) {s : σ}
    {as : List α} (hC : Along step C s as) : Along step D s as := by
  induction as generalizing s with
  | nil => trivial
  | cons a as ih => exact fun s' hs' => ⟨h s a s' hs' (hC s' hs').1, ih (hC s' hs').2⟩

/-- The steps of a run in two parts. -/
lemma along_append {C : σ → α → Prop} {s : σ} {as bs : List α} :
    Along step C s (as ++ bs)
      ↔ Along step C s as ∧ ∀ t, exec step s as = .ok t → Along step C t bs := by
  induction as generalizing s with
  | nil => simp [Along]
  | cons a as ih =>
      constructor
      · intro h
        refine ⟨fun s' hs => ⟨(h s' hs).1, (ih.mp (h s' hs).2).1⟩, fun t ht => ?_⟩
        obtain ⟨s', hs, hrest⟩ := exec_cons.mp ht
        exact (ih.mp (h s' hs).2).2 t hrest
      · intro h s' hs
        refine ⟨(h.1 s' hs).1, ih.mpr ⟨(h.1 s' hs).2, fun t ht => h.2 t ?_⟩⟩
        exact exec_cons.mpr ⟨s', hs, ht⟩

/-- A condition on the steps together with one on the states they lead to. -/
lemma Along.and_always {C : σ → α → Prop} {P : σ → Prop} {s : σ} {as : List α}
    (hC : Along step C s as) (hP : Always step P s as) :
    Along step (fun s a => C s a ∧ ∀ s', step s a = .ok s' → P s') s as := by
  induction as generalizing s with
  | nil => trivial
  | cons a as ih =>
      intro s' hs'
      refine ⟨⟨(hC s' hs').1, fun t ht => (hP.2 t ht).head⟩, ih (hC s' hs').2 (hP.2 s' hs')⟩

/-- A property that every step meeting `C` preserves holds throughout a run whose steps all
meet `C`. -/
theorem always_of_along {P : σ → Prop} {C : σ → α → Prop}
    (hstep : ∀ s a s', P s → C s a → step s a = .ok s' → P s') {s : σ} {as : List α} (hs : P s)
    (h : Along step C s as) : Always step P s as := by
  induction as generalizing s with
  | nil => exact hs
  | cons a as ih =>
      exact ⟨hs, fun s' hs' => ih (hstep s a s' hs (h s' hs').1 hs') (h s' hs').2⟩

/-- Where the steps that meet `C` preserve `P`, and none fails with `e` while `P` holds, a run whose
steps all meet `C` does not fail with `e`. -/
theorem exec_ne_error_of_along {P : σ → Prop} {C : σ → α → Prop} {e : ε}
    (hstep : ∀ s a s', P s → C s a → step s a = .ok s' → P s')
    (hfail : ∀ s a, P s → step s a ≠ .error e) {s : σ} {as : List α} (hs : P s)
    (h : Along step C s as) : exec step s as ≠ .error e := by
  induction as generalizing s with
  | nil => exact fun h => nomatch h
  | cons a as ih =>
      intro herr
      rw [exec, List.foldlM_cons, Fallible.bind_eq_error] at herr
      rcases herr with herr | ⟨s', hs', herr⟩
      · exact hfail s a hs herr
      · exact ih (hstep s a s' hs (h s' hs').1 hs') (h s' hs').2 herr

/-- A condition that an invariant guarantees is met by every step attempted. -/
theorem attempted_of_invariant {I : σ → Prop} {C : σ → α → Prop}
    (hkeep : ∀ s a s', I s → step s a = .ok s' → I s') (hC : ∀ s a, I s → C s a) {s : σ}
    {as : List α} (hI : I s) : Attempted step C s as := by
  induction as generalizing s with
  | nil => trivial
  | cons a as ih => exact ⟨hC s a hI, fun s' hs' => ih (hkeep s a s' hI hs')⟩

lemma Attempted.mono_of_invariant {I : σ → Prop} {C D : σ → α → Prop}
    (hkeep : ∀ s a s', I s → C s a → step s a = .ok s' → I s')
    (hCD : ∀ s a, I s → C s a → D s a) {s : σ} {as : List α} (hI : I s)
    (hC : Attempted step C s as) : Attempted step D s as := by
  induction as generalizing s with
  | nil => trivial
  | cons a as ih =>
      exact ⟨hCD s a hI hC.1, fun s' hs' => ih (hkeep s a s' hI hC.1 hs') (hC.2 s' hs')⟩

lemma Attempted.tail {C : σ → α → Prop} {s t : σ} {as bs : List α}
    (h : Attempted step C s (as ++ bs)) (ht : exec step s as = .ok t) : Attempted step C t bs := by
  induction as generalizing s with
  | nil =>
      obtain rfl := Except.ok.inj ht
      exact h
  | cons a as ih =>
      obtain ⟨s', hs', hrest⟩ := exec_cons.mp ht
      exact ih (h.2 s' hs') hrest

/-- **Exact condition for a run not to fail with `e`**: if the steps that fail with `e` are those
that do not meet `C`, the runs that do not fail with it are those whose steps meet `C`. -/
theorem exec_ne_error_iff_attempted {I : σ → Prop} {C : σ → α → Prop} {e : ε}
    (hkeep : ∀ s a s', I s → step s a = .ok s' → I s')
    (hfail : ∀ s a, I s → (step s a = .error e ↔ ¬ C s a)) {s : σ} {as : List α} (hI : I s) :
    exec step s as ≠ .error e ↔ Attempted step C s as := by
  induction as generalizing s with
  | nil => exact ⟨fun _ => trivial, fun _ h => nomatch h⟩
  | cons a as ih =>
      rw [exec, List.foldlM_cons, Ne, Fallible.bind_eq_error, not_or, hfail s a hI, not_not,
        not_exists]
      refine and_congr_right fun _ => forall_congr' fun s' => ?_
      rw [not_and]
      exact forall_congr' fun hs' => ih (hkeep s a s' hI hs')

/-! ### Logs -/

section Logged

variable {β : Type*} {record : σ → α → List β}

lemma logged_eq_ok {s s' : σ × List β} {a : α} :
    logged step record s a = .ok s'
      ↔ step s.1 a = .ok s'.1 ∧ s'.2 = record s.1 a ++ s.2 := by
  rw [logged]
  cases step s.1 a with
  | error e => simp [Except.map]
  | ok t => simp [Except.map, Prod.ext_iff, eq_comm]

lemma logged_eq_error {s : σ × List β} {a : α} {e : ε} :
    logged step record s a = .error e ↔ step s.1 a = .error e := by
  rw [logged]
  cases step s.1 a <;> simp [Except.map]

/-- A log has no effect on how a run fails. -/
lemma exec_logged_eq_error {s : σ × List β} {as : List α} {e : ε} :
    exec (logged step record) s as = .error e ↔ exec step s.1 as = .error e := by
  induction as generalizing s with
  | nil => exact ⟨(nomatch ·), (nomatch ·)⟩
  | cons a as ih =>
      rw [exec, exec, List.foldlM_cons, List.foldlM_cons, Fallible.bind_eq_error,
        Fallible.bind_eq_error, logged_eq_error]
      refine or_congr_right ⟨?_, ?_⟩
      · rintro ⟨t, ht, herr⟩
        exact ⟨t.1, (logged_eq_ok.mp ht).1, ih.mp herr⟩
      · rintro ⟨t, ht, herr⟩
        exact ⟨(t, record s.1 a ++ s.2), logged_eq_ok.mpr ⟨ht, rfl⟩, ih.mpr herr⟩

/-- A condition that does not read the log is the same with and without it. -/
lemma attempted_logged {C : σ → α → Prop} {s : σ × List β} {as : List α} :
    Attempted (logged step record) (fun s a => C s.1 a) s as ↔ Attempted step C s.1 as := by
  induction as generalizing s with
  | nil => exact Iff.rfl
  | cons a as ih =>
      refine and_congr_right fun _ => ⟨fun h t ht => ?_, fun h t ht => ?_⟩
      · exact ih.mp (h (t, record s.1 a ++ s.2) (logged_eq_ok.mpr ⟨ht, rfl⟩))
      · exact ih.mpr (h t.1 (logged_eq_ok.mp ht).1)

end Logged

/-! ### Exact conditions -/

/-- **Exact condition for a run** of steps that meet `D`: let the steps that meet `C` preserve
`I ∧ P` and let the completed steps that do not meet it break `P`.  Then a run from a state with
`I ∧ P` satisfies `P` throughout exactly when all its steps meet `C`. -/
theorem always_iff_along {I P : σ → Prop} {C D : σ → α → Prop}
    (hkeep : ∀ s a s', I s → P s → D s a → C s a → step s a = .ok s' → I s' ∧ P s')
    (hbreak : ∀ s a s', I s → P s → D s a → ¬ C s a → step s a = .ok s' → ¬ P s')
    {s : σ} {as : List α} (hI : I s) (hP : P s) (hD : Along step D s as) :
    Always step P s as ↔ Along step C s as := by
  induction as generalizing s with
  | nil => exact ⟨fun _ => trivial, fun _ => hP⟩
  | cons a as ih =>
      constructor
      · rintro ⟨-, hnext⟩ s' hs'
        obtain ⟨hDs, hD'⟩ := hD s' hs'
        have hC : C s a := by
          by_contra hC
          exact hbreak s a s' hI hP hDs hC hs' (hnext s' hs').head
        have hIP := hkeep s a s' hI hP hDs hC hs'
        exact ⟨hC, (ih hIP.1 hIP.2 hD').mp (hnext s' hs')⟩
      · intro h
        refine ⟨hP, fun s' hs' => ?_⟩
        obtain ⟨hDs, hD'⟩ := hD s' hs'
        have hIP := hkeep s a s' hI hP hDs (h s' hs').1 hs'
        exact (ih hIP.1 hIP.2 hD').mpr (h s' hs').2

/-- Two conditions that say the same of a completed step, as long as an invariant holds that the
second one keeps, say the same of runs. -/
theorem along_congr_of_invariant {I : σ → Prop} {C D : σ → α → Prop}
    (hkeep : ∀ s a s', I s → C s a → step s a = .ok s' → I s')
    (hiff : ∀ s a s', I s → step s a = .ok s' → (D s a ↔ C s a)) {s : σ} {as : List α} (hI : I s) :
    Along step D s as ↔ Along step C s as := by
  induction as generalizing s with
  | nil => exact Iff.rfl
  | cons a as ih =>
      refine forall_congr' fun s' => forall_congr' fun hs' => ?_
      rw [hiff s a s' hI hs']
      exact and_congr_right fun hC => ih (hkeep s a s' hI hC hs')

lemma along_of_forall {C : α → Prop} {s : σ} {as : List α} (h : ∀ a ∈ as, C a) :
    Along step (fun _ a => C a) s as := by
  induction as generalizing s with
  | nil => trivial
  | cons a as ih =>
      obtain ⟨ha, has⟩ := List.forall_mem_cons.mp h
      exact fun s' _ => ⟨ha, ih has⟩

lemma along_true {s : σ} {as : List α} : Along step (fun _ _ => True) s as := by
  induction as generalizing s with
  | nil => trivial
  | cons a as ih => exact fun s' _ => ⟨trivial, ih⟩

end Run
