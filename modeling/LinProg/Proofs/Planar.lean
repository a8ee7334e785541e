import LinProg.Graph
import LinProg.Proofs.Corners
import LinProg.Proofs.Feasible
import LinProg.Proofs.Merging

set_option autoImplicit false

namespace LinProg

open Plane

def Plane.Line.turned (l : Line Rat) : Line Rat := ⟨-l.a, -l.b, -l.rhs⟩

theorem Plane.Line.room_turned (l : Line Rat) (z : Point Rat) : l.turned.room z = -l.room z := by
  simp only [Line.turned, Line.room]
  ring

theorem Plane.Line.slope_turned (l : Line Rat) (d : Point Rat) : l.turned.slope d = -l.slope d := by
  simp only [Line.turned, Line.slope]
  ring

def Plane.Point.values (z : Point Rat) : List Rat := [z.x, z.y]

namespace Constraint

def line (c : Constraint Rat) : Line Rat := ⟨c.coefficients.getD 0 0, c.coefficients.getD 1 0, c.rhs⟩

-- The sides of its line that a constraint allows; where both are, only the line is left.
def sides (c : Constraint Rat) : List (Line Rat) :=
  match c.sense with
  | .atMost => [c.line]
  | .atLeast => [c.line.turned]
  | .equal => [c.line, c.line.turned]

variable {c : Constraint Rat}

theorem line_ok (planar : c.coefficients.length = 2) : Line.ofConstraint c = .ok c.line := by
  obtain ⟨a, b, row⟩ := List.length_eq_two.mp planar
  simp [Line.ofConstraint, line, row]

theorem slack_planar (planar : c.coefficients.length = 2) (z : Point Rat) : c.slack z.values = c.line.room z := by
  obtain ⟨a, b, row⟩ := List.length_eq_two.mp planar
  simp [slack, lhs, row, line, Line.room, Point.values, Scalar.dot, Scalar.sum_rational]

theorem holds_planar (planar : c.coefficients.length = 2) (z : Point Rat) :
    c.Holds z.values ↔ Inside c.sides z := by
  have room : c.rhs - c.lhs z.values = c.line.room z := slack_planar planar z
  cases sense : c.sense with
  | atMost => simp [Holds, sides, sense, Inside, ← room]
  | atLeast => simp [Holds, sides, sense, Inside, Line.room_turned, ← room]
  | equal =>
      simp [Holds, sides, sense, Inside, Line.room_turned, ← room]
      exact ⟨fun same => ⟨le_of_eq same, ge_of_eq same⟩, fun both => le_antisymm both.1 both.2⟩

theorem stays_sides {z d : Point Rat} (stays : c.line.room z = 0 → c.line.slope d = 0) : Stays c.sides z d := by
  cases sense : c.sense <;> simpa [Stays, sides, sense, Line.room_turned, Line.slope_turned] using stays

theorem satisfied_of_holds {tol : Rat} (room : 0 ≤ tol) {x : List Rat} (holds : c.Holds x) :
    c.isSatisfied x tol = true := by
  rw [Holds] at holds
  cases sense : c.sense with
  | atMost =>
      rw [sense] at holds
      simpa [isSatisfied, sense] using le_add_of_le_of_nonneg holds room
  | atLeast =>
      rw [sense] at holds
      simpa [isSatisfied, sense] using le_add_of_le_of_nonneg holds room
  | equal =>
      rw [sense] at holds
      simpa [isSatisfied, sense, Scalar.abs_rational, holds] using room

end Constraint

namespace Problem

def lines {K : Type} [Scalar K] (p : Problem K) : List (Line K) :=
  p.constraints.filterMap fun c => (Line.ofConstraint c).toOption

def sides (p : Problem Rat) : List (Line Rat) := axes ++ p.constraints.flatMap Constraint.sides

variable {p : Problem Rat}

theorem row_planar (planar : p.size = 2) {c : Constraint Rat} (member : c ∈ p.constraints) :
    c.coefficients.length = 2 := (p.row_length c member).trans planar

theorem lines_planar (planar : p.size = 2) : p.lines = p.constraints.map Constraint.line := by
  rw [lines, ← List.filterMap_eq_map]
  refine List.filterMap_congr ?_
  intro c member
  rw [Constraint.line_ok (row_planar planar member)]
  rfl

theorem feasible_planar (planar : p.size = 2) (z : Point Rat) : p.Feasible z.values ↔ Inside p.sides z := by
  have quarter : Inside axes z ↔ ∀ v ∈ z.values, 0 ≤ v := by
    simp [Inside, axes, Line.room, Point.values]
  have held : (∀ c ∈ p.constraints, c.Holds z.values) ↔ ∀ c ∈ p.constraints, Inside c.sides z :=
    forall₂_congr fun c member => Constraint.holds_planar (row_planar planar member) z
  have split : Inside p.sides z ↔ Inside axes z ∧ ∀ c ∈ p.constraints, Inside c.sides z := by
    simp only [Inside, sides, List.forall_mem_append, List.forall_mem_flatMap]
  rw [split, quarter, ← held]
  constructor
  · intro feasible
    exact ⟨feasible.nonneg, feasible.holds⟩
  · rintro ⟨nonneg, holds⟩
    exact ⟨planar.symm, nonneg, holds⟩

theorem pinned_lines (planar : p.size = 2) {z : Point Rat} (pinned : Pinned p.sides z) :
    Pinned (axes ++ p.lines) z := by
  intro d stays
  refine pinned d ?_
  intro l member
  rcases List.mem_append.mp member with axis | side
  · exact stays l (List.mem_append_left _ axis)
  · obtain ⟨c, listed, beside⟩ := List.mem_flatMap.mp side
    refine Constraint.stays_sides (stays c.line (List.mem_append_right _ ?_)) l beside
    rw [lines_planar planar]
    exact List.mem_map_of_mem listed

end Problem

end LinProg
