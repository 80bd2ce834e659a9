import Mathlib.Data.Nat.Digits.Lemmas
import Mathlib.Tactic

/-!
Fixed-width byte encodings of natural numbers in both byte orders.

* `leBytes`, `beBytes`: the `w` low-order bytes of a number;
* `ofLe`, `ofBe`: the number a byte string denotes;
* `ofLe_leBytes`, `ofBe_beBytes`: decoding an encoding reduces modulo `256 ^ w`, so it is the
  identity on the numbers that fit (`ofLe_leBytes_of_lt`, `ofBe_beBytes_of_lt`);
* `ofLe_lt`, `ofBe_lt`: a decoded number fits the width it was read from.
-/

namespace ByteOrder

/-- The `w` low-order bytes of `n`, least significant first. -/
def leBytes : ℕ → ℕ → List UInt8
  | 0, _ => []
  | w + 1, n => UInt8.ofNat n :: leBytes w (n / 256)

/-- The `w` low-order bytes of `n`, most significant first. -/
def beBytes (w n : ℕ) : List UInt8 := (leBytes w n).reverse

/-- The number denoted by a byte string, least significant byte first. -/
def ofLe (bs : List UInt8) : ℕ := Nat.ofDigits 256 (bs.map UInt8.toNat)

/-- The number denoted by a byte string, most significant byte first. -/
def ofBe (bs : List UInt8) : ℕ := ofLe bs.reverse

@[simp] lemma leBytes_length (w n : ℕ) : (leBytes w n).length = w := by
  induction w generalizing n with
  | zero => rfl
  | succ w ih => rw [leBytes, List.length_cons, ih]

@[simp] lemma beBytes_length (w n : ℕ) : (beBytes w n).length = w := by
  rw [beBytes, List.length_reverse, leBytes_length]

lemma ofLe_cons (b : UInt8) (bs : List UInt8) : ofLe (b :: bs) = b.toNat + 256 * ofLe bs := by
  simp [ofLe, Nat.ofDigits_cons]

/-- Decoding an encoding keeps the low-order bytes. -/
lemma ofLe_leBytes (w n : ℕ) : ofLe (leBytes w n) = n % 256 ^ w := by
  induction w generalizing n with
  | zero => simp [leBytes, ofLe, Nat.mod_one]
  | succ w ih =>
      have hb : (UInt8.ofNat n).toNat = n % 256 := UInt8.toNat_ofNat'
      rw [leBytes, ofLe_cons, ih, hb, Nat.pow_succ', Nat.mod_mul]

lemma ofBe_beBytes (w n : ℕ) : ofBe (beBytes w n) = n % 256 ^ w := by
  rw [ofBe, beBytes, List.reverse_reverse, ofLe_leBytes]

lemma ofLe_leBytes_of_lt {w n : ℕ} (h : n < 256 ^ w) : ofLe (leBytes w n) = n := by
  rw [ofLe_leBytes, Nat.mod_eq_of_lt h]

lemma ofBe_beBytes_of_lt {w n : ℕ} (h : n < 256 ^ w) : ofBe (beBytes w n) = n := by
  rw [ofBe_beBytes, Nat.mod_eq_of_lt h]

/-- A decoded number fits the width it was read from. -/
lemma ofLe_lt (bs : List UInt8) : ofLe bs < 256 ^ bs.length := by
  have h : ∀ d ∈ bs.map UInt8.toNat, d < 256 := by
    intro d hd
    obtain ⟨b, -, rfl⟩ := List.mem_map.mp hd
    exact b.toNat_lt
  simpa [ofLe] using Nat.ofDigits_lt_base_pow_length (by decide) h

lemma ofBe_lt (bs : List UInt8) : ofBe bs < 256 ^ bs.length := by
  simpa [ofBe] using ofLe_lt bs.reverse

end ByteOrder
