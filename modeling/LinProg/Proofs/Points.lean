import LinProg.Proofs.Basis
import LinProg.Proofs.Rewriting

set_option autoImplicit false

namespace LinProg.Tableau

open Finset

def Solves (t : Tableau Rat) (v : Nat → Rat) : Prop :=
  ∀ i < t.height, ∑ j ∈ range t.numVars, t.entryAt i j * v j = t.entryAt i t.numVars

theorem sum_mul_shift (f v : Nat → Rat) {n j : Nat} (inside : j < n) (δ : Rat) :
    ∑ k ∈ range n, f k * (v k + if k = j then δ else 0) = ∑ k ∈ range n, f k * v k + f j * δ := by
  simp only [mul_add, sum_add_distrib, mul_ite, mul_zero]
  rw [sum_ite_eq' (range n) j, if_pos (mem_range.mpr inside)]

def pointOf (n : Nat) (v : Nat → Rat) : List Rat := (List.range n).map v

theorem length_point_of (n : Nat) (v : Nat → Rat) : (pointOf n v).length = n := by
  unfold pointOf
  rw [List.length_map, List.length_range]

theorem point_of_get (n : Nat) (v : Nat → Rat) (j : Nat) (inside : j < n) : (pointOf n v).getD j 0 = v j := by
  unfold pointOf
  simp [inside]

theorem point_of_add (n m : Nat) (v : Nat → Rat) :
    pointOf (n + m) v = pointOf n v ++ pointOf m fun k => v (n + k) := by
  unfold pointOf
  rw [List.range_add, List.map_append, List.map_map]
  rfl

theorem dot_row_sum (t : Tableau Rat) (i : Nat) (xs : List Rat) (sized : xs.length = t.numVars) :
    Scalar.dot (t.rowAt i).coefficients xs = ∑ j ∈ range t.numVars, t.entryAt i j * xs.getD j 0 := by
  have left : (t.rowAt i).coefficients.length = t.numVars := length_row_at t i
  rw [Scalar.dot_eq_sum _ _ _ (Nat.le_of_eq left) (Nat.le_of_eq sized)]
  refine sum_congr rfl ?_
  intro j member
  rw [coefficient_eq_entry t i j (mem_range.mp member)]

theorem dot_point_of (t : Tableau Rat) (i : Nat) (v : Nat → Rat) :
    Scalar.dot (t.rowAt i).coefficients (pointOf t.numVars v) =
      ∑ j ∈ range t.numVars, t.entryAt i j * v j := by
  rw [dot_row_sum t i _ (length_point_of _ v)]
  refine sum_congr rfl ?_
  intro j member
  rw [point_of_get _ v j (mem_range.mp member)]

namespace Rewrites

variable {p : Problem Rat} {t : Tableau Rat} {v : Nat → Rat}

-- Numbers solve the rows just where those behind the variables are the slacks that the others leave.
theorem solves_iff (rewrites : Rewrites p t) :
    t.Solves v ↔ p.slacks (pointOf p.size v) = pointOf p.constraints.length fun k => v (p.size + k) := by
  rw [← rewrites.holds_iff _ _ (length_point_of _ v) (length_point_of _ _), ← point_of_add, ← rewrites.numVars,
    ← rewrites.height]
  simp only [dot_point_of, ← entry_rhs]
  rfl

theorem solves_with_slacks (rewrites : Rewrites p t) {x : List Rat} (sized : x.length = p.size) :
    t.Solves fun j => (p.withSlacks x).getD j 0 := by
  have long : (p.withSlacks x).length = t.numVars := by
    rw [p.length_with_slacks x sized, rewrites.numVars]
  intro i inside
  have row := (rewrites.holds_iff x _ sized (p.length_slacks x)).mpr rfl i (lt_of_lt_of_eq inside rewrites.height)
  rw [← dot_row_sum t i _ long, entry_rhs]
  exact row

theorem slacks_of_solves (rewrites : Rewrites p t) (solves : t.Solves v) :
    p.slacks (pointOf p.size v) = pointOf p.constraints.length fun k => v (p.size + k) :=
  rewrites.solves_iff.mp solves

theorem with_slacks_of_solves (rewrites : Rewrites p t) (solves : t.Solves v) :
    p.withSlacks (pointOf p.size v) = pointOf t.numVars v := by
  unfold Problem.withSlacks
  rw [rewrites.slacks_of_solves solves, ← point_of_add, rewrites.numVars]

theorem feasible_of_solves (rewrites : Rewrites p t) (atMost : ∀ c ∈ p.constraints, c.sense = .atMost)
    (solves : t.Solves v) (nonneg : ∀ j < t.numVars, 0 ≤ v j) : p.Feasible (pointOf p.size v) := by
  refine (Problem.feasible_iff atMost _).mpr ⟨length_point_of _ v, ?_⟩
  intro x member
  rw [rewrites.with_slacks_of_solves solves] at member
  obtain ⟨j, inside, rfl⟩ := List.mem_map.mp member
  exact nonneg j (List.mem_range.mp inside)

theorem gain_split (rewrites : Rewrites p t) {x : List Rat} (sized : x.length = p.size) :
    p.gain x = t.value - (∑ j ∈ range p.size, t.entryAt t.height j * x.getD j 0 +
      ∑ i ∈ range p.constraints.length, t.entryAt t.height (p.size + i) * (p.slacks x).getD i 0) := by
  have long : (p.withSlacks x).length = t.numVars := by
    rw [p.length_with_slacks x sized, rewrites.numVars]
  have decisions : ∑ j ∈ range p.size, t.entryAt t.height j * (p.withSlacks x).getD j 0 =
      ∑ j ∈ range p.size, t.entryAt t.height j * x.getD j 0 := by
    refine sum_congr rfl ?_
    intro j member
    rw [p.with_slacks_decision x sized (mem_range.mp member)]
  rw [rewrites.gain_eq x sized, ← row_at_height t _ rfl, dot_row_sum t t.height _ long, rewrites.numVars, sum_range_add,
    decisions]
  simp only [p.with_slacks_slack x sized]

theorem gain_of_solves (rewrites : Rewrites p t) (solves : t.Solves v) :
    p.gain (pointOf p.size v) = t.value - ∑ j ∈ range t.numVars, t.entryAt t.height j * v j := by
  rw [rewrites.gain_eq _ (length_point_of _ v), rewrites.with_slacks_of_solves solves, ← dot_point_of,
    row_at_height t _ rfl]

end Rewrites

def basicSolution (t : Tableau Rat) : Nat → Rat := t.spread fun i => t.entryAt i t.numVars

theorem basic_solution_seat {t : Tableau Rat} {i k : Nat} (found : t.seat? k = some i) :
    t.basicSolution k = t.entryAt i t.numVars := by
  simp [basicSolution, spread, found]

theorem Based.solves_basic {t : Tableau Rat} (based : Based t) : t.Solves t.basicSolution :=
  fun i inside => based.sum_spread _ i inside

-- Numbers that solve the rows are told by those for the variables that are not basic.
theorem Based.solution_unique {t : Tableau Rat} (based : Based t) {v w : Nat → Rat} (first : t.Solves v)
    (second : t.Solves w) (free : ∀ k < t.numVars, t.seat? k = none → v k = w k) {j : Nat} (wide : j < t.numVars) :
    v j = w j := by
  cases found : t.seat? j with
  | none => exact free j wide found
  | some i =>
      have inside := based.labels.seat_inside wide found
      have rows : ∑ k ∈ range t.numVars, t.entryAt i k * (v k - w k) = 0 := by
        simp only [mul_sub, sum_sub_distrib]
        rw [first i inside, second i inside, sub_self]
      have zero : ∀ k ∈ range t.numVars, k ≠ j → t.entryAt i k * (v k - w k) = 0 := by
        intro k member different
        have within := mem_range.mp member
        cases other : t.seat? k with
        | none => rw [free k within other, sub_self, mul_zero]
        | some r =>
            have apart : i ≠ r := fun same => different (based.labels.seat_injective within wide other (same ▸ found))
            rw [based.entry_basic within other (Nat.le_of_lt inside), if_neg apart, zero_mul]
      rw [sum_eq_single_of_mem j (mem_range.mpr wide) zero, based.entry_basic wide found (Nat.le_of_lt inside),
        if_pos rfl, one_mul] at rows
      exact sub_eq_zero.mp rows

theorem Based.basic_unique {t : Tableau Rat} (based : Based t) {v : Nat → Rat} (solves : t.Solves v)
    (free : ∀ k < t.numVars, t.seat? k = none → v k = 0) {j : Nat} (wide : j < t.numVars) : v j = t.basicSolution j := by
  apply based.solution_unique solves based.solves_basic _ wide
  intro k within none
  simp [free k within none, basicSolution, spread, none]

theorem Labelled.spread_nonneg {t : Tableau Rat} (labels : Labelled t) (w : Nat → Rat)
    (nonneg : ∀ i < t.height, 0 ≤ w i) (j : Nat) (wide : j < t.numVars) : 0 ≤ t.spread w j := by
  unfold spread
  cases found : t.seat? j with
  | none => exact le_refl 0
  | some i => exact nonneg i (labels.seat_inside wide found)

end LinProg.Tableau
