import Mathlib.Tactic

/-!
Lists of inclusive ranges of natural numbers, collected from ascending numbers.

* `Ranges.push`: append a number to a list of ranges, extending the last range if it ends right
  before the number;
* `Ranges.expand`: the numbers of a list of ranges, in order;
* `Ranges.Separated`: no range is empty and between two ranges there is at least one number;
* `Ranges.Separated.succ_notMem_expand`: the number behind a range belongs to none;
* `Ranges.separated_collect`, `Ranges.expand_collect`: the ranges collected from strictly
  ascending numbers are separated and expand to exactly these numbers.
-/

namespace Ranges

/-- Append the number `n` to a list of ranges. -/
def push (rs : List (ℕ × ℕ)) (n : ℕ) : List (ℕ × ℕ) :=
  match rs.getLast? with
  | none => rs ++ [(n, n)]
  | some (first, last) =>
      if last + 1 = n then rs.dropLast ++ [(first, n)] else rs ++ [(n, n)]

/-- The numbers from `r.1` to `r.2`. -/
def numbers (r : ℕ × ℕ) : List ℕ := List.range' r.1 (r.2 + 1 - r.1)

/-- The numbers of a list of ranges, in order. -/
def expand (rs : List (ℕ × ℕ)) : List ℕ := rs.flatMap numbers

/-- The ranges of a list of ascending numbers. -/
def collect (ns : List ℕ) : List (ℕ × ℕ) := ns.foldl push []

/-- No range is empty, and between a range and a later one there is a number of neither. -/
structure Separated (rs : List (ℕ × ℕ)) : Prop where
  le : ∀ r ∈ rs, r.1 ≤ r.2
  gap : rs.Pairwise fun r s => r.2 + 1 < s.1

lemma mem_numbers {r : ℕ × ℕ} {n : ℕ} : n ∈ numbers r ↔ r.1 ≤ n ∧ n ≤ r.2 := by
  rw [numbers, List.mem_range'_1]
  omega

lemma mem_expand {rs : List (ℕ × ℕ)} {n : ℕ} :
    n ∈ expand rs ↔ ∃ r ∈ rs, r.1 ≤ n ∧ n ≤ r.2 := by
  simp only [expand, List.mem_flatMap, mem_numbers]

lemma push_nil (n : ℕ) : push [] n = [(n, n)] := rfl

lemma push_concat (rs : List (ℕ × ℕ)) (first last n : ℕ) :
    push (rs ++ [(first, last)]) n
      = if last + 1 = n then rs ++ [(first, n)] else rs ++ [(first, last)] ++ [(n, n)] := by
  simp only [push, List.getLast?_concat, List.dropLast_concat]

/-- A pushed number is expanded last. -/
lemma expand_push {rs : List (ℕ × ℕ)} (h : ∀ r ∈ rs, r.1 ≤ r.2) (n : ℕ) :
    expand (push rs n) = expand rs ++ [n] := by
  rcases List.eq_nil_or_concat rs with rfl | ⟨rs, ⟨first, last⟩, rfl⟩
  · simp [push_nil, expand, numbers]
  · have hle : first ≤ last := h (first, last) (by simp)
    rw [List.concat_eq_append, push_concat]
    split_ifs with hn
    · have hlen : n + 1 - first = (last + 1 - first) + 1 := by omega
      have hlast : first + (last + 1 - first) = n := by omega
      simp only [expand, List.flatMap_append, List.flatMap_cons, List.flatMap_nil,
        List.append_nil, List.append_assoc, numbers]
      rw [hlen, List.range'_concat, Nat.one_mul, hlast]
    · simp [expand, numbers]

/-- Two ranges of a separated list are the same or have a number between them. -/
lemma Separated.eq_or_gap {rs : List (ℕ × ℕ)} (h : Separated rs) {r s : ℕ × ℕ} (hr : r ∈ rs)
    (hs : s ∈ rs) : r = s ∨ r.2 + 1 < s.1 ∨ s.2 + 1 < r.1 := by
  have hle : rs.Pairwise fun r s => r = s ∨ r.2 + 1 < s.1 ∨ s.2 + 1 < r.1 :=
    h.gap.imp fun hgap => Or.inr (Or.inl hgap)
  have hge : rs.Pairwise (flip fun r s => r = s ∨ r.2 + 1 < s.1 ∨ s.2 + 1 < r.1) :=
    h.gap.imp fun hgap => Or.inr (Or.inr hgap)
  refine List.Pairwise.forall_of_forall_of_flip ?_ hle hge hr hs
  exact fun r _ => Or.inl rfl

/-- The number behind a range of a separated list is in none of them. -/
lemma Separated.succ_notMem_expand {rs : List (ℕ × ℕ)} (h : Separated rs) {r : ℕ × ℕ}
    (hr : r ∈ rs) : r.2 + 1 ∉ expand rs := by
  intro hmem
  obtain ⟨s, hs, hlo, hhi⟩ := mem_expand.mp hmem
  have hle := h.le r hr
  rcases h.eq_or_gap hr hs with rfl | hgap | hgap <;> omega

/-- Pushing a number beyond all ranges keeps them separated. -/
lemma Separated.push {rs : List (ℕ × ℕ)} (h : Separated rs) {n : ℕ}
    (hn : ∀ m ∈ expand rs, m < n) : Separated (push rs n) := by
  rcases List.eq_nil_or_concat rs with rfl | ⟨rs, ⟨first, last⟩, rfl⟩
  · exact ⟨by simp [push_nil], by simp [push_nil]⟩
  · rw [List.concat_eq_append] at h hn ⊢
    obtain ⟨hle, hgap⟩ := h
    rw [List.pairwise_append] at hgap
    obtain ⟨hrs, -, hcross⟩ := hgap
    have hfl : first ≤ last := hle (first, last) (by simp)
    have hlast : last < n := hn last (mem_expand.mpr ⟨(first, last), by simp, hfl, le_rfl⟩)
    have hbefore : ∀ r ∈ rs, r.2 + 1 < first := fun r hr => hcross r hr (first, last) (by simp)
    rw [push_concat]
    split_ifs with hext
    · -- the last range grows: its lower end, which the gaps refer to, stays
      refine ⟨?_, List.pairwise_append.mpr ⟨hrs, List.pairwise_singleton _ _, ?_⟩⟩
      · intro r hr
        rcases List.mem_append.mp hr with hr | hr
        · exact hle r (List.mem_append_left _ hr)
        · rw [List.mem_singleton.mp hr]
          exact hfl.trans hlast.le
      · intro r hr s hs
        rw [List.mem_singleton.mp hs]
        exact hbefore r hr
    · -- a new range: the number that was skipped separates it from the last one
      refine ⟨?_, List.pairwise_append.mpr ⟨?_, List.pairwise_singleton _ _, ?_⟩⟩
      · intro r hr
        rcases List.mem_append.mp hr with hr | hr
        · exact hle r hr
        · rw [List.mem_singleton.mp hr]
      · exact List.pairwise_append.mpr ⟨hrs, List.pairwise_singleton _ _, hcross⟩
      · intro r hr s hs
        rw [List.mem_singleton.mp hs]
        rcases List.mem_append.mp hr with hr | hr
        · have := hbefore r hr
          simp only
          omega
        · rw [List.mem_singleton.mp hr]
          simp only
          omega

/-- The ranges collected from strictly ascending numbers are separated and expand to exactly
these numbers. -/
lemma separated_collect_and_expand {ns : List ℕ} (h : ns.Pairwise (· < ·)) :
    Separated (collect ns) ∧ expand (collect ns) = ns := by
  induction ns using List.reverseRecOn with
  | nil => exact ⟨⟨by simp [collect], by simp [collect]⟩, rfl⟩
  | append_singleton ns n ih =>
      rw [List.pairwise_append] at h
      obtain ⟨hns, -, hn⟩ := h
      obtain ⟨hsep, hexp⟩ := ih hns
      have hc : collect (ns ++ [n]) = push (collect ns) n := by
        rw [collect, List.foldl_append, List.foldl_cons, List.foldl_nil, ← collect]
      rw [hc]
      refine ⟨hsep.push fun m hm => hn m (hexp ▸ hm) n (List.mem_singleton_self n), ?_⟩
      rw [expand_push hsep.le, hexp]

lemma separated_collect {ns : List ℕ} (h : ns.Pairwise (· < ·)) : Separated (collect ns) :=
  (separated_collect_and_expand h).1

lemma expand_collect {ns : List ℕ} (h : ns.Pairwise (· < ·)) : expand (collect ns) = ns :=
  (separated_collect_and_expand h).2

end Ranges
