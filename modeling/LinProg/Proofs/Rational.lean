import Mathlib
import LinProg.Tableau

set_option autoImplicit false

namespace LinProg.Scalar

open Finset

theorem sum_rational (xs : List Rat) : sum xs = xs.sum := by
  unfold sum
  rw [List.sum_eq_foldl]

theorem dot_nil (ys : List Rat) : dot [] ys = 0 := rfl

theorem dot_cons (x y : Rat) (xs ys : List Rat) : dot (x :: xs) (y :: ys) = x * y + dot xs ys := by
  unfold dot
  rw [List.zipWith_cons_cons, sum_rational, sum_rational, List.sum_cons]

-- Lists that end early count as zero from there on, so one length may exceed the other.
theorem dot_eq_sum (xs ys : List Rat) (n : Nat) (left : xs.length ≤ n) (right : ys.length ≤ n) :
    dot xs ys = ∑ j ∈ range n, xs.getD j 0 * ys.getD j 0 := by
  induction n generalizing xs ys with
  | zero =>
      have empty : xs = [] := List.eq_nil_of_length_eq_zero (by omega)
      rw [empty, dot_nil, sum_range_zero]
  | succ n ih =>
      cases xs with
      | nil => simp [dot_nil]
      | cons x xs =>
          cases ys with
          | nil => simp [dot, sum_rational]
          | cons y ys =>
              have rest := ih xs ys (by simpa using left) (by simpa using right)
              rw [dot_cons, sum_range_succ', rest, add_comm]
              simp

theorem sum_eq_sum (xs : List Rat) (n : Nat) (bounded : xs.length ≤ n) :
    xs.sum = ∑ j ∈ range n, xs.getD j 0 := by
  induction n generalizing xs with
  | zero =>
      have empty : xs = [] := List.eq_nil_of_length_eq_zero (by omega)
      rw [empty, List.sum_nil, sum_range_zero]
  | succ n ih =>
      cases xs with
      | nil => simp
      | cons x xs =>
          have rest := ih xs (by simpa using bounded)
          rw [List.sum_cons, sum_range_succ', rest, add_comm]
          simp

theorem getD_nonneg {xs : List Rat} (nonneg : ∀ x ∈ xs, 0 ≤ x) (j : Nat) : 0 ≤ xs.getD j 0 := by
  by_cases inside : j < xs.length
  · rw [List.getD_eq_getElem _ _ inside]
    exact nonneg _ (List.getElem_mem inside)
  · rw [List.getD_eq_default _ _ (Nat.le_of_not_lt inside)]

theorem abs_rational (x : Rat) : abs x = |x| := by
  by_cases negative : x < 0
  · simp [abs, negative, abs_of_neg negative]
  · simp [abs, negative, abs_of_nonneg (not_lt.mp negative)]

-- No number above zero counts as zero.
def ZeroApart (K : Type) [Scalar K] : Prop := ∀ x : K, 0 < x → (x == 0) = false

theorem zero_apart_rational : ZeroApart Rat := fun _ positive => beq_false_of_ne (ne_of_gt positive)

end LinProg.Scalar

namespace LinProg.Tableau

theorem tolerance_rational : (tolerance : Rat) = 1 / 10 ^ 10 := by
  unfold tolerance
  norm_num

theorem tolerance_nonneg : (0 : Rat) ≤ tolerance := by
  rw [tolerance_rational]
  norm_num

end LinProg.Tableau
