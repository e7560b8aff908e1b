import Mathlib.Data.List.Lex
import Mathlib.Data.Nat.Digits.Lemmas
import Mathlib.Data.Prod.Lex

/-!
# Digits of a fixed number

A number below `b ^ n` is written in base `b` with `n` digits, the most significant one first. The
digits determine the number, and texts of digits are ordered as the numbers are: also after digits
have been replaced by characters in the same order, and where one number follows another.

## Main definitions

* `bigEndian b n x`: the last `n` digits of `x` in base `b`.

## Main results

* `ofDigits_bigEndian`, `bigEndian_lt_iff`.
* `append_lt_append_iff`, `map_lt_map_iff`: the order of texts.
-/

namespace ClassroomSuite.Library

/-- The last `n` digits of a number in base `b`, the most significant one first. -/
def bigEndian (b : ℕ) : ℕ → ℕ → List ℕ
  | 0, _ => []
  | n + 1, x => bigEndian b n (x / b) ++ [x % b]

/-! ### The order of lists -/

/-- Lists whose first parts are of one length are ordered by these, and then by the others. -/
theorem append_lt_append_iff {α : Type*} [LT α] {xs ys xs' ys' : List α}
    (h : xs.length = ys.length) :
    xs ++ xs' < ys ++ ys' ↔ xs < ys ∨ xs = ys ∧ xs' < ys' := by
  induction xs generalizing ys with
  | nil =>
    obtain rfl := List.length_eq_zero_iff.mp h.symm
    simp
  | cons x xs ih =>
    cases ys with
    | nil => cases h
    | cons y ys =>
      have hlength : xs.length = ys.length := Nat.succ.inj h
      rw [List.cons_append, List.cons_append, List.cons_lt_cons_iff, List.cons_lt_cons_iff,
        ih hlength, List.cons.injEq]
      tauto

/-- A function that keeps the order keeps that of lists. -/
theorem map_lt_map_iff {α β : Type*} [LinearOrder α] [Preorder β] {f : α → β} {s : Set α}
    (hf : StrictMonoOn f s) {xs ys : List α} (hxs : ∀ x ∈ xs, x ∈ s) (hys : ∀ y ∈ ys, y ∈ s) :
    xs.map f < ys.map f ↔ xs < ys := by
  induction xs generalizing ys with
  | nil => cases ys <;> simp
  | cons x xs ih =>
    cases ys with
    | nil => simp
    | cons y ys =>
      obtain ⟨hx, hxs⟩ := List.forall_mem_cons.mp hxs
      obtain ⟨hy, hys⟩ := List.forall_mem_cons.mp hys
      rw [List.map_cons, List.map_cons, List.cons_lt_cons_iff, List.cons_lt_cons_iff,
        hf.lt_iff_lt hx hy, hf.injOn.eq_iff hx hy, ih hxs hys]

/-! ### Digits -/

variable {b n x y : ℕ}

@[simp] theorem length_bigEndian (b n x : ℕ) : (bigEndian b n x).length = n := by
  induction n generalizing x with
  | zero => rfl
  | succ n ih => simp [bigEndian, ih]

theorem lt_of_mem_bigEndian (hb : 0 < b) {d : ℕ} (hd : d ∈ bigEndian b n x) : d < b := by
  induction n generalizing x with
  | zero => cases hd
  | succ n ih =>
    rcases List.mem_append.mp hd with hd | hd
    · exact ih hd
    · obtain rfl := List.mem_singleton.mp hd
      exact Nat.mod_lt x hb

/-- The digits write what is left of the number where there are too few. -/
theorem ofDigits_reverse_bigEndian (b n x : ℕ) :
    Nat.ofDigits b (bigEndian b n x).reverse = x % b ^ n := by
  induction n generalizing x with
  | zero => simp [bigEndian, Nat.mod_one]
  | succ n ih =>
    rw [bigEndian, List.reverse_append, List.reverse_singleton, List.singleton_append,
      Nat.ofDigits_cons, ih, Nat.pow_succ', Nat.mod_mul]

theorem ofDigits_bigEndian (hx : x < b ^ n) : Nat.ofDigits b (bigEndian b n x).reverse = x := by
  rw [ofDigits_reverse_bigEndian, Nat.mod_eq_of_lt hx]

theorem bigEndian_inj (hx : x < b ^ n) (hy : y < b ^ n) :
    bigEndian b n x = bigEndian b n y ↔ x = y := by
  refine ⟨fun h => ?_, fun h => h ▸ rfl⟩
  rw [← ofDigits_bigEndian hx, h, ofDigits_bigEndian hy]

/-- Numbers are ordered by what precedes their last digits, and then by these. -/
theorem lt_iff_div_mod (hb : 0 < b) : x < y ↔ x / b < y / b ∨ x / b = y / b ∧ x % b < y % b := by
  have hx := Nat.div_add_mod x b
  have hy := Nat.div_add_mod y b
  have hxb := Nat.mod_lt x hb
  have hyb := Nat.mod_lt y hb
  rcases lt_trichotomy (x / b) (y / b) with h | h | h
  · have hmul : b * (x / b + 1) ≤ b * (y / b) := Nat.mul_le_mul_left b h
    rw [Nat.mul_succ] at hmul
    omega
  · rw [h] at hx
    omega
  · have hmul : b * (y / b + 1) ≤ b * (x / b) := Nat.mul_le_mul_left b h
    rw [Nat.mul_succ] at hmul
    omega

/-- The digits are ordered as the numbers are. -/
theorem bigEndian_lt_iff (hb : 0 < b) (hx : x < b ^ n) (hy : y < b ^ n) :
    bigEndian b n x < bigEndian b n y ↔ x < y := by
  induction n generalizing x y with
  | zero =>
    rw [Nat.pow_zero, Nat.lt_one_iff] at hx hy
    simp [bigEndian, hx, hy]
  | succ n ih =>
    have hx' : x / b < b ^ n := Nat.div_lt_of_lt_mul (by rwa [← Nat.pow_succ'])
    have hy' : y / b < b ^ n := Nat.div_lt_of_lt_mul (by rwa [← Nat.pow_succ'])
    have hlength : (bigEndian b n (x / b)).length = (bigEndian b n (y / b)).length := by simp
    have hlast : [x % b] < [y % b] ↔ x % b < y % b := by simp [List.cons_lt_cons_iff]
    rw [bigEndian, bigEndian, append_lt_append_iff hlength, ih hx' hy', bigEndian_inj hx' hy',
      hlast, ← lt_iff_div_mod hb]

end ClassroomSuite.Library
