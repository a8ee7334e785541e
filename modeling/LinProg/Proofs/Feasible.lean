import LinProg.Proofs.Rational
import LinProg.StandardForm

set_option autoImplicit false

namespace LinProg

open Finset

namespace Constraint

def Holds (c : Constraint Rat) (x : List Rat) : Prop :=
  match c.sense with
  | .atMost => c.lhs x ≤ c.rhs
  | .atLeast => c.rhs ≤ c.lhs x
  | .equal => c.lhs x = c.rhs

def slack (c : Constraint Rat) (x : List Rat) : Rat := c.rhs - c.lhs x

theorem holds_at_most_iff (c : Constraint Rat) (x : List Rat) (sense : c.sense = .atMost) :
    c.Holds x ↔ 0 ≤ c.slack x := by
  unfold Holds slack
  rw [sense]
  exact sub_nonneg.symm

end Constraint

namespace Problem

structure Feasible (p : Problem Rat) (x : List Rat) : Prop where
  coordinates : x.length = p.size
  nonneg : ∀ v ∈ x, 0 ≤ v
  holds : ∀ c ∈ p.constraints, c.Holds x

-- What is to be maximized: the objective, with opposite sign where it is to be minimized.
def gain (p : Problem Rat) (x : List Rat) : Rat :=
  if p.maximize then p.objectiveValue x else -p.objectiveValue x

def slacks (p : Problem Rat) (x : List Rat) : List Rat := p.constraints.map (·.slack x)

def withSlacks (p : Problem Rat) (x : List Rat) : List Rat := x ++ p.slacks x

-- The problems that tableaux can solve: upper bounds that the origin meets, and no variable named like a
-- slack.
structure Accepted (p : Problem Rat) : Prop where
  atMost : ∀ c ∈ p.constraints, c.sense = .atMost
  origin : ∀ c ∈ p.constraints, 0 ≤ c.rhs
  apart : ∀ name ∈ p.names, ∀ i < p.constraints.length, (name == Extended.slackName i) = false

def planar (costs : Rat × Rat) (rows : List (Rat × Rat × Rat)) (given : rows ≠ []) : Problem Rat where
  objective := [costs.1, costs.2]
  constraints := rows.map fun row => ⟨[row.1, row.2.1], .atMost, row.2.2⟩
  names := [Label.numbered "x" 0, Label.numbered "x" 1]
  maximize := true
  has_names := by simp
  has_constraints := by simpa using given
  distinct := by decide
  objective_length := rfl
  row_length := by
    intro c member
    obtain ⟨row, _, rfl⟩ := List.mem_map.mp member
    rfl

-- Its optimum is two pivots away from the origin.
def workshop : Problem Rat := planar (3, 5) [(1, 0, 4), (0, 2, 12), (3, 2, 18)] (List.cons_ne_nil _ _)

theorem workshop_accepted : workshop.Accepted :=
  ⟨by simp [workshop, planar], by simp [workshop, planar], by decide +kernel⟩

def coefficient (p : Problem Rat) (i j : Nat) : Rat := (p.rows.getD i []).getD j 0

def bound (p : Problem Rat) (i : Nat) : Rat := p.rhs.getD i 0

def gainCost (p : Problem Rat) (j : Nat) : Rat :=
  if p.maximize then p.objective.getD j 0 else -p.objective.getD j 0

theorem length_rows {K : Type} (p : Problem K) : p.rows.length = p.constraints.length := List.length_map ..

variable (p : Problem Rat)

theorem length_slacks (x : List Rat) : (p.slacks x).length = p.constraints.length := List.length_map ..

theorem length_with_slacks (x : List Rat) (coordinates : x.length = p.size) :
    (p.withSlacks x).length = p.size + p.constraints.length := by
  unfold withSlacks
  rw [List.length_append, coordinates, length_slacks]

theorem with_slacks_decision (x : List Rat) (coordinates : x.length = p.size) {j : Nat} (decision : j < p.size) :
    (p.withSlacks x).getD j 0 = x.getD j 0 :=
  List.getD_append _ _ _ _ (by rw [coordinates]; exact decision)

theorem with_slacks_slack (x : List Rat) (coordinates : x.length = p.size) (i : Nat) :
    (p.withSlacks x).getD (p.size + i) 0 = (p.slacks x).getD i 0 := by
  rw [withSlacks, List.getD_append_right _ _ _ _ (by omega), coordinates, Nat.add_sub_cancel_left]

theorem coefficient_at (i j : Nat) (inside : i < p.constraints.length) :
    p.coefficient i j = p.constraints[i].coefficients.getD j 0 := by
  unfold coefficient rows
  simp [inside]

theorem bound_at (i : Nat) (inside : i < p.constraints.length) : p.bound i = p.constraints[i].rhs := by
  unfold bound rhs
  simp [inside]

theorem lhs_at (x : List Rat) (i : Nat) (inside : i < p.constraints.length) (coordinates : x.length = p.size) :
    p.constraints[i].lhs x = ∑ j ∈ range p.size, p.coefficient i j * x.getD j 0 := by
  have width : p.constraints[i].coefficients.length = p.size := p.row_length _ (List.getElem_mem inside)
  unfold Constraint.lhs
  rw [Scalar.dot_eq_sum _ _ p.size (Nat.le_of_eq width) (Nat.le_of_eq coordinates)]
  refine sum_congr rfl ?_
  intro j _
  rw [coefficient_at p i j inside]

theorem gain_eq_sum (x : List Rat) (coordinates : x.length = p.size) :
    p.gain x = ∑ j ∈ range p.size, p.gainCost j * x.getD j 0 := by
  have value := Scalar.dot_eq_sum p.objective x p.size (Nat.le_of_eq p.objective_length) (Nat.le_of_eq coordinates)
  unfold gain gainCost objectiveValue
  rw [value]
  cases p.maximize <;> simp

theorem slack_at (x : List Rat) (i : Nat) (inside : i < p.constraints.length) (coordinates : x.length = p.size) :
    (p.slacks x).getD i 0 = p.bound i - ∑ j ∈ range p.size, p.coefficient i j * x.getD j 0 := by
  unfold slacks
  rw [bound_at p i inside, ← lhs_at p x i inside coordinates]
  simp [inside, Constraint.slack]

theorem sum_with_slacks (x : List Rat) (coordinates : x.length = p.size) :
    x.sum + (p.slacks x).sum =
      ∑ j ∈ range (p.size + p.constraints.length), (p.withSlacks x).getD j 0 := by
  rw [← Scalar.sum_eq_sum _ _ (Nat.le_of_eq (p.length_with_slacks x coordinates))]
  exact List.sum_append.symm

variable {p}

theorem feasible_iff (atMost : ∀ c ∈ p.constraints, c.sense = .atMost) (x : List Rat) :
    p.Feasible x ↔ x.length = p.size ∧ ∀ v ∈ p.withSlacks x, 0 ≤ v := by
  have slackHolds (c : Constraint Rat) (member : c ∈ p.constraints) : c.Holds x ↔ 0 ≤ c.slack x :=
    c.holds_at_most_iff x (atMost c member)
  constructor
  · intro feasible
    refine ⟨feasible.coordinates, ?_⟩
    intro v member
    rcases List.mem_append.mp member with coordinate | slack
    · exact feasible.nonneg v coordinate
    · obtain ⟨c, inside, rfl⟩ := List.mem_map.mp slack
      exact (slackHolds c inside).mp (feasible.holds c inside)
  · intro ⟨coordinates, nonneg⟩
    refine ⟨coordinates, ?_, ?_⟩
    · intro v member
      exact nonneg v (List.mem_append_left _ member)
    · intro c member
      exact (slackHolds c member).mpr (nonneg _ (List.mem_append_right _ (List.mem_map_of_mem member)))

end Problem

end LinProg
