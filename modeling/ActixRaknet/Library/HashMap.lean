import Mathlib.Data.List.AList
import Mathlib.Tactic

/-!
Hash maps as association lists without repeated keys, and the order of their iteration.

* `HashMap`: the map type, over `AList`;
* `lookup_insert_eq_ite`, `lookup_erase_eq_ite`: how a lookup sees an insertion and a removal;
* `keysWhere`, `filter_entries_eq_singleton`: the entries that satisfy a test, and their number
  after an insertion or a removal (`length_keysWhere_insert`, `length_keysWhere_erase`);
* `IterOrder`: an order of iteration, which a hash map leaves unspecified: any rearrangement of
  its entries.
-/

/-- A hash map from `K` to `V`. -/
abbrev HashMap (K V : Type*) := AList fun _ : K => V

namespace HashMap

variable {K V : Type*} [DecidableEq K]

lemma lookup_insert_eq_ite (m : HashMap K V) (k k' : K) (v : V) :
    (m.insert k v).lookup k' = if k' = k then some v else m.lookup k' := by
  by_cases h : k' = k
  · subst h
    simp
  · rw [if_neg h, AList.lookup_insert_ne h]

lemma lookup_erase_eq_ite (m : HashMap K V) (k k' : K) :
    (m.erase k).lookup k' = if k' = k then none else m.lookup k' := by
  by_cases h : k' = k
  · subst h
    simp
  · rw [if_neg h, AList.lookup_erase_ne h]

/-- What is left under a key was there before. -/
lemma lookup_of_lookup_erase {m : HashMap K V} {k k' : K} {v : V}
    (h : (m.erase k).lookup k' = some v) : m.lookup k' = some v := by
  rw [lookup_erase_eq_ite] at h
  split_ifs at h
  exact h

lemma mem_of_lookup {m : HashMap K V} {k : K} {v : V} (h : m.lookup k = some v) : k ∈ m :=
  AList.lookup_isSome.mp (by rw [h]; rfl)

lemma exists_lookup_of_mem {m : HashMap K V} {k : K} (h : k ∈ m) : ∃ v, m.lookup k = some v :=
  Option.isSome_iff_exists.mp (AList.lookup_isSome.mpr h)

/-- The keys of the entries that satisfy `p`, in the order of the representation. -/
def keysWhere (m : HashMap K V) (p : K → V → Bool) : List K :=
  (m.entries.filter fun e => p e.1 e.2).map Sigma.fst

lemma mem_keysWhere {m : HashMap K V} {p : K → V → Bool} {k : K} :
    k ∈ m.keysWhere p ↔ ∃ v, m.lookup k = some v ∧ p k v = true := by
  simp only [keysWhere, List.mem_map, List.mem_filter]
  constructor
  · rintro ⟨⟨k', v⟩, ⟨hmem, hp⟩, rfl⟩
    exact ⟨v, AList.mem_lookup_iff.mpr hmem, hp⟩
  · rintro ⟨v, hv, hp⟩
    exact ⟨⟨k, v⟩, ⟨AList.mem_lookup_iff.mp hv, hp⟩, rfl⟩

/-- If exactly one entry satisfies `p`, it is the only one a filter keeps. -/
lemma filter_entries_eq_singleton {m : HashMap K V} {p : K → V → Bool} {k : K} {v : V}
    (hk : m.lookup k = some v) (hp : p k v = true)
    (hother : ∀ k' v', m.lookup k' = some v' → p k' v' = true → k' = k) :
    m.entries.filter (fun e => p e.1 e.2) = [⟨k, v⟩] := by
  have hnodup : (m.entries.filter fun e => p e.1 e.2).Nodup := m.nodupKeys.nodup.filter _
  have hmem : ∀ e : Sigma fun _ : K => V, (e ∈ m.entries.filter fun e => p e.1 e.2)
      ↔ e ∈ [(⟨k, v⟩ : Sigma fun _ : K => V)] := by
    rintro ⟨k', v'⟩
    rw [List.mem_filter, List.mem_singleton, ← AList.mem_lookup_iff]
    constructor
    · rintro ⟨hlookup, hp'⟩
      obtain rfl := hother k' v' hlookup hp'
      rw [Option.mem_def, hk, Option.some.injEq] at hlookup
      rw [hlookup]
    · intro heq
      cases heq
      exact ⟨hk, hp⟩
  exact List.perm_singleton.mp
    ((List.perm_ext_iff_of_nodup hnodup (List.nodup_singleton _)).mpr hmem)

lemma filter_entries_eq_nil {m : HashMap K V} {p : K → V → Bool}
    (h : ∀ k v, m.lookup k = some v → p k v = false) :
    m.entries.filter (fun e => p e.1 e.2) = [] := by
  rw [List.filter_eq_nil_iff]
  rintro ⟨k, v⟩ hmem
  rw [h k v (AList.mem_lookup_iff.mpr hmem)]
  exact Bool.false_ne_true

/-- The entries after the removal of a key are the others. -/
lemma perm_entries_erase {m : HashMap K V} {k : K} {v : V} (h : m.lookup k = some v) :
    m.entries.Perm (⟨k, v⟩ :: (m.erase k).entries) := by
  obtain ⟨v', l₁, l₂, -, hentries, herase⟩ :=
    List.exists_of_kerase (AList.mem_keys.mp (mem_of_lookup h))
  have hv : v' = v := by
    have hmem : (⟨k, v'⟩ : Sigma fun _ : K => V) ∈ m.entries := by
      rw [hentries]
      exact List.mem_append_right _ List.mem_cons_self
    exact Option.some.inj ((AList.mem_lookup_iff.mpr hmem).symm.trans h)
  subst hv
  rw [hentries, show (m.erase k).entries = l₁ ++ l₂ from herase]
  exact List.perm_middle

/-- How many keys satisfy a test, after a new key. -/
lemma length_keysWhere_insert {m : HashMap K V} {k : K} (h : k ∉ m) (v : V) (p : K → V → Bool) :
    (keysWhere (m.insert k v) p).length
      = (m.keysWhere p).length + if p k v then 1 else 0 := by
  rw [keysWhere, keysWhere, AList.entries_insert_of_notMem h, List.length_map, List.length_map,
    List.filter_cons]
  split_ifs <;> rfl

/-- A new entry that fails the test adds no key. -/
lemma length_keysWhere_insert_le (m : HashMap K V) (k : K) {v : V} {p : K → V → Bool}
    (hp : p k v = false) : (keysWhere (m.insert k v) p).length ≤ (m.keysWhere p).length := by
  rw [keysWhere, keysWhere, List.length_map, List.length_map, AList.entries_insert,
    List.filter_cons_of_neg (by rw [hp]; exact Bool.false_ne_true)]
  exact ((List.kerase_sublist k m.entries).filter _).length_le

/-- How many keys satisfy a test, after the removal of a key. -/
lemma length_keysWhere_erase {m : HashMap K V} {k : K} {v : V} (h : m.lookup k = some v)
    (p : K → V → Bool) :
    (m.keysWhere p).length
      = (keysWhere (m.erase k) p).length + if p k v then 1 else 0 := by
  rw [keysWhere, keysWhere, List.length_map, List.length_map,
    ((perm_entries_erase h).filter fun e => p e.1 e.2).length_eq, List.filter_cons]
  split_ifs <;> simp

/-- A lookup after the removal of several keys. -/
lemma lookup_foldl_erase (m : HashMap K V) (l : List K) (k : K) :
    (l.foldl (fun m k => m.erase k) m).lookup k = if k ∈ l then none else m.lookup k := by
  induction l generalizing m with
  | nil => simp
  | cons a l ih =>
      rw [List.foldl_cons, ih, lookup_erase_eq_ite]
      by_cases hka : k = a <;> by_cases hkl : k ∈ l <;> simp [hka, hkl]

end HashMap

/-- An order in which the entries of a hash map are visited: any rearrangement. -/
structure IterOrder (α : Type*) where
  reorder : List α → List α
  perm : ∀ l, (reorder l).Perm l

namespace IterOrder

variable {α : Type*}

instance : Inhabited (IterOrder α) := ⟨id, fun l => List.Perm.refl l⟩

@[simp] lemma mem_reorder (o : IterOrder α) {l : List α} {a : α} : a ∈ o.reorder l ↔ a ∈ l :=
  (o.perm l).mem_iff

end IterOrder
