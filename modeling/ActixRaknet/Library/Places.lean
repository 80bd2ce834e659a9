import Mathlib.Tactic

/-!
Items in places: which item lies where, given by a relation `holds : P → α → Prop`.  Some items
carry a key.

* `Places.Apart`: no key is found in two places;
* `Places.Found`: a key is found somewhere;
* `Moved`, `Added`, `Emptied`: the three ways a step changes what lies where, with what each of them
  does to the items, to `Apart` and to `Found`.
-/

namespace Places

variable {P α κ : Type*} {holds holds' : P → α → Prop} {key : α → Option κ}

/-- Items with the same key lie in the same place. -/
def Apart (holds : P → α → Prop) (key : α → Option κ) : Prop :=
  ∀ p p' a a' k, holds p a → holds p' a' → key a = some k → key a' = some k → p = p'

/-- An item with the key `k` lies somewhere. -/
def Found (holds : P → α → Prop) (key : α → Option κ) (k : κ) : Prop :=
  ∃ p a, holds p a ∧ key a = some k

/-- Everything in `p` moves to the empty place `p'`. -/
structure Moved (holds holds' : P → α → Prop) (p p' : P) : Prop where
  dest : ∀ a, holds' p' a ↔ holds p a
  source : ∀ a, ¬ holds' p a
  empty : ∀ a, ¬ holds p' a
  other : ∀ r, r ≠ p → r ≠ p' → ∀ a, holds' r a ↔ holds r a

/-- The item `b` is put into the place `p`. -/
def Added (holds holds' : P → α → Prop) (p : P) (b : α) : Prop :=
  ∀ r a, holds' r a ↔ holds r a ∨ (r = p ∧ a = b)

/-- The place `p` is emptied. -/
def Emptied (holds holds' : P → α → Prop) (p : P) : Prop :=
  ∀ r a, holds' r a ↔ holds r a ∧ r ≠ p

/-! ### Moves -/

section Moved

variable {p p' : P} (h : Moved holds holds' p p')

include h

/-- Where an item lay before the move. -/
lemma Moved.before {r : P} {a : α} (ha : holds' r a) :
    (r = p' ∧ holds p a) ∨ (r ≠ p ∧ r ≠ p' ∧ holds r a) := by
  by_cases hp' : r = p'
  · subst hp'
    exact Or.inl ⟨rfl, (h.dest a).mp ha⟩
  · have hp : r ≠ p := fun hp => h.source a (hp ▸ ha)
    exact Or.inr ⟨hp, hp', (h.other r hp hp' a).mp ha⟩

/-- A move brings no new items. -/
lemma Moved.old {r : P} {a : α} (ha : holds' r a) : ∃ r₀, holds r₀ a := by
  rcases h.before ha with ⟨-, ha⟩ | ⟨-, -, ha⟩
  · exact ⟨p, ha⟩
  · exact ⟨r, ha⟩

lemma Moved.apart (hapart : Apart holds key) : Apart holds' key := by
  intro r r' a a' k ha ha' hk hk'
  rcases h.before ha with ⟨rfl, ha⟩ | ⟨hp, -, ha⟩ <;>
    rcases h.before ha' with ⟨rfl, ha'⟩ | ⟨hp', -, ha'⟩
  · rfl
  · exact absurd (hapart _ _ _ _ _ ha ha' hk hk').symm hp'
  · exact absurd (hapart _ _ _ _ _ ha ha' hk hk') hp
  · exact hapart _ _ _ _ _ ha ha' hk hk'

/-- A move loses no items. -/
lemma Moved.found {k : κ} (hk : Found holds key k) : Found holds' key k := by
  obtain ⟨r, a, ha, hka⟩ := hk
  by_cases hp : r = p
  · subst hp
    exact ⟨p', a, (h.dest a).mpr ha, hka⟩
  · have hp' : r ≠ p' := fun hp' => h.empty a (hp' ▸ ha)
    exact ⟨r, a, (h.other r hp hp' a).mpr ha, hka⟩

end Moved

/-! ### Additions -/

section Added

variable {p : P} {b : α} (h : Added holds holds' p b)

include h

lemma Added.found {k : κ} (hk : Found holds key k ∨ key b = some k) : Found holds' key k := by
  rcases hk with ⟨r, a, ha, hka⟩ | hk
  · exact ⟨r, a, (h r a).mpr (Or.inl ha), hka⟩
  · exact ⟨p, b, (h p b).mpr (Or.inr ⟨rfl, rfl⟩), hk⟩

/-- An item whose key, if it has one, was found nowhere keeps the places apart. -/
lemma Added.apart (hapart : Apart holds key) (hnew : ∀ k, key b = some k → ¬ Found holds key k) :
    Apart holds' key := by
  intro r r' a a' k ha ha' hk hk'
  rcases (h r a).mp ha with ha | ⟨rfl, rfl⟩ <;> rcases (h r' a').mp ha' with ha' | ⟨rfl, rfl⟩
  · exact hapart _ _ _ _ _ ha ha' hk hk'
  · exact absurd ⟨r, a, ha, hk⟩ (hnew k hk')
  · exact absurd ⟨r', a', ha', hk'⟩ (hnew k hk)
  · rfl

end Added

/-! ### Removals -/

section Emptied

variable {p : P} (h : Emptied holds holds' p)

include h

lemma Emptied.apart (hapart : Apart holds key) : Apart holds' key :=
  fun r r' a a' k ha ha' => hapart r r' a a' k ((h r a).mp ha).1 ((h r' a').mp ha').1

/-- What is not found after a removal lay in the place that was emptied. -/
lemma Emptied.found {k : κ} (hk : Found holds key k) :
    Found holds' key k ∨ ∃ a, holds p a ∧ key a = some k := by
  obtain ⟨r, a, ha, hka⟩ := hk
  by_cases hp : r = p
  · exact Or.inr ⟨a, hp ▸ ha, hka⟩
  · exact Or.inl ⟨r, a, (h r a).mpr ⟨ha, hp⟩, hka⟩

end Emptied

end Places
