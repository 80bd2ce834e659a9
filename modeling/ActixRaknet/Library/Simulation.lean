import ActixRaknet.Library.Run

/-!
Simulations of one fallible step function by another.

* `Run.Reaches C`: a run whose steps all meet `C` leads from one state to the other; it is reflexive
  and transitive;
* `Run.Simulates`: a step that meets `C` is some steps of the other that meet `D`, up to a relation
  between the states;
* `Simulates.always`: then every state of a run is related to one that the other reaches.
-/

namespace Run

variable {σ α ε τ β δ : Type*} {step : σ → α → Except ε σ} {other : τ → β → Except δ τ}

/-- A run whose steps all meet `C` leads from `s` to `t`. -/
def Reaches (step : σ → α → Except ε σ) (C : σ → α → Prop) (s t : σ) : Prop :=
  ∃ as, exec step s as = .ok t ∧ Along step C s as

namespace Reaches

variable {C : σ → α → Prop} {s t u : σ}

lemma refl (C : σ → α → Prop) (s : σ) : Reaches step C s s := ⟨[], rfl, trivial⟩

lemma trans (h : Reaches step C s t) (h' : Reaches step C t u) : Reaches step C s u := by
  obtain ⟨as, hs, has⟩ := h
  obtain ⟨bs, ht, hbs⟩ := h'
  refine ⟨as ++ bs, exec_append.mpr ⟨t, hs, ht⟩, along_append.mpr ⟨has, fun t' ht' => ?_⟩⟩
  obtain rfl := Except.ok.inj (hs.symm.trans ht')
  exact hbs

/-- What holds throughout the runs that meet `C` holds of the states reached. -/
lemma of_always {P : σ → Prop} (h : Reaches step C s t)
    (hP : ∀ as, Along step C s as → Always step P s as) : P t := by
  obtain ⟨as, hs, has⟩ := h
  exact always_iff.mp (hP as has) as [] t (List.append_nil as).symm hs

end Reaches

/-- **A simulation** up to `R` of the steps that meet `C`, by steps of the other that meet `D`. -/
def Simulates (step : σ → α → Except ε σ) (C : σ → α → Prop) (other : τ → β → Except δ τ)
    (D : τ → β → Prop) (R : σ → τ → Prop) : Prop :=
  ∀ s a s' t, R s t → C s a → step s a = .ok s' → ∃ t', Reaches other D t t' ∧ R s' t'

/-- **The states of a run** are related to states that the other reaches. -/
theorem Simulates.always {C : σ → α → Prop} {D : τ → β → Prop} {R : σ → τ → Prop}
    (h : Simulates step C other D R) {s : σ} {t t₀ : τ} (ht : Reaches other D t₀ t) (hR : R s t)
    {as : List α} (has : Along step C s as) :
    Always step (fun s' => ∃ t', Reaches other D t₀ t' ∧ R s' t') s as := by
  refine always_of_along (fun s a s' hs ha hs' => ?_) ⟨t, ht, hR⟩ has
  obtain ⟨t, ht, hR⟩ := hs
  obtain ⟨t', htt', hR'⟩ := h s a s' t hR ha hs'
  exact ⟨t', ht.trans htt', hR'⟩

end Run
