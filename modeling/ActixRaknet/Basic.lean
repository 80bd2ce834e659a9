import ActixRaknet.Library.Fallible

/-!
The parts of Rust's semantics the model needs.

A handler that panics kills its actor, so every modelled function that can panic returns
`Except Panic`.  Integer arithmetic is the checked arithmetic of a debug build.  A `u32` or `u16`
that takes part in arithmetic is a natural number and its bound is tested where the source
computes with it (`u32Add`, `u16Sub`, …); a wire field that is only copied or compared keeps its
machine type.

* `Panic`: why a function panics;
* `u32Add`, `u32Sub`, `u16Add`, `u16Sub`, `u16Div`, `u16Rem`, `usizeSub`: checked machine
  arithmetic;
* `unwrap`, `unwrapOk`, `index`: `Option::unwrap`, `Result::unwrap` and the indexing of a slice.
-/

namespace ActixRaknet

open Fallible

/-- A byte string: `BytesMut`, `&[u8]`. -/
abbrev Bytes := List UInt8

/-- The panics of the modelled code. -/
inductive Panic
  /-- `Option::unwrap` on `None`. -/
  | unwrapNone
  /-- `Result::unwrap` on `Err`. -/
  | unwrapErr
  /-- An addition or a subtraction leaves the range of its machine type. -/
  | overflow
  /-- A division or a remainder by zero. -/
  | divByZero
  /-- An index or a slice bound is out of range. -/
  | outOfBounds
  /-- An assertion of the `byteorder` crate: a value needs more bytes than its field has. -/
  | assertion
  deriving DecidableEq, Repr

/-- `a + b` on `u32`. -/
def u32Add (a b : ℕ) : Except Panic ℕ :=
  if a + b < 2 ^ 32 then .ok (a + b) else .error .overflow

/-- `a - b` on `u32`. -/
def u32Sub (a b : ℕ) : Except Panic ℕ :=
  if b ≤ a then .ok (a - b) else .error .overflow

/-- `a + b` on `u16`. -/
def u16Add (a b : ℕ) : Except Panic ℕ :=
  if a + b < 2 ^ 16 then .ok (a + b) else .error .overflow

/-- `a - b` on `u16`. -/
def u16Sub (a b : ℕ) : Except Panic ℕ :=
  if b ≤ a then .ok (a - b) else .error .overflow

/-- `a / b` on `u16`. -/
def u16Div (a b : ℕ) : Except Panic ℕ :=
  if b ≠ 0 then .ok (a / b) else .error .divByZero

/-- `a % b` on `u16`. -/
def u16Rem (a b : ℕ) : Except Panic ℕ :=
  if b ≠ 0 then .ok (a % b) else .error .divByZero

/-- `a - b` on `usize`. -/
def usizeSub (a b : ℕ) : Except Panic ℕ :=
  if b ≤ a then .ok (a - b) else .error .overflow

/-- `Option::unwrap`. -/
def unwrap {α : Type*} : Option α → Except Panic α
  | some a => .ok a
  | none => .error .unwrapNone

/-- `Result::unwrap`. -/
def unwrapOk {ε α : Type*} : Except ε α → Except Panic α
  | .ok a => .ok a
  | .error _ => .error .unwrapErr

/-- `xs[i]`. -/
def index {α : Type*} (xs : List α) (i : ℕ) : Except Panic α :=
  match xs[i]? with
  | some a => .ok a
  | none => .error .outOfBounds

lemma u32Add_eq_ok {a b c : ℕ} : u32Add a b = .ok c ↔ a + b < 2 ^ 32 ∧ c = a + b := by
  rw [u32Add, ite_error_eq_ok, Except.ok.injEq, eq_comm]

lemma u32Add_of_lt {a b : ℕ} (h : a + b < 2 ^ 32) : u32Add a b = .ok (a + b) := if_pos h

lemma u32Sub_of_le {a b : ℕ} (h : b ≤ a) : u32Sub a b = .ok (a - b) := if_pos h

lemma u16Add_eq_ok {a b c : ℕ} : u16Add a b = .ok c ↔ a + b < 2 ^ 16 ∧ c = a + b := by
  rw [u16Add, ite_error_eq_ok, Except.ok.injEq, eq_comm]

lemma u16Sub_eq_ok {a b c : ℕ} : u16Sub a b = .ok c ↔ b ≤ a ∧ c = a - b := by
  rw [u16Sub, ite_error_eq_ok, Except.ok.injEq, eq_comm]

lemma u16Sub_of_le {a b : ℕ} (h : b ≤ a) : u16Sub a b = .ok (a - b) := if_pos h

@[simp] lemma unwrap_some {α : Type*} (a : α) : unwrap (some a) = .ok a := rfl

@[simp] lemma unwrap_none {α : Type*} : unwrap (none : Option α) = .error .unwrapNone := rfl

lemma unwrap_eq_ok {α : Type*} {o : Option α} {a : α} : unwrap o = .ok a ↔ o = some a := by
  cases o <;> simp

@[simp] lemma unwrapOk_ok {ε α : Type*} (a : α) :
    unwrapOk (.ok a : Except ε α) = .ok a := rfl

@[simp] lemma index_cons_zero {α : Type*} (a : α) (as : List α) : index (a :: as) 0 = .ok a := rfl

@[simp] lemma index_nil {α : Type*} (i : ℕ) :
    index ([] : List α) i = .error .outOfBounds := rfl

lemma index_zero_eq_ok {α : Type*} {as : List α} {a : α} :
    index as 0 = .ok a ↔ as.head? = some a := by
  cases as with
  | nil => simp
  | cons b as => simp

end ActixRaknet
