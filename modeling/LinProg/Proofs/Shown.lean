import LinProg.Proofs.Region

set_option autoImplicit false

namespace LinProg

open Plane

namespace Plane.Line

inductive Vertex (lines : List (Line Rat)) (z : Point Rat) : Prop
  | origin : z = ⟨0, 0⟩ → Vertex lines z
  | ground {l : Line Rat} : l ∈ lines → l.a ≠ 0 → z.y = 0 → l.room z = 0 → Vertex lines z
  | wall {l : Line Rat} : l ∈ lines → l.b ≠ 0 → z.x = 0 → l.room z = 0 → Vertex lines z
  | crossing {l m : Line Rat} : [l, m].Sublist lines → determinant l m ≠ 0 → l.room z = 0 → m.room z = 0 →
      Vertex lines z

theorem candidate_vertex {lines : List (Line Rat)} {z : Point Rat} (candidate : z ∈ candidates lines) :
    Vertex lines z := by
  rcases (mem_candidates_iff lines z).mp candidate with origin | ⟨l, member, met⟩ | meeting
  · exact .origin origin
  · cases met with
    | inl below =>
        obtain ⟨sloped, ground, on⟩ := x_intercept_on below
        exact .ground member sloped ground on
    | inr beside =>
        obtain ⟨sloped, wall, on⟩ := y_intercept_on beside
        exact .wall member sloped wall on
  · obtain ⟨l, m, ordered, met⟩ := exists_meeting meeting
    obtain ⟨crossing, first, second⟩ := meet_on met
    exact .crossing ordered crossing first second

end Plane.Line

namespace Constraint

def HoldsWithin (c : Constraint Rat) (tol : Rat) (x : List Rat) : Prop :=
  match c.sense with
  | .atMost => c.lhs x ≤ c.rhs + tol
  | .atLeast => c.rhs - tol ≤ c.lhs x
  | .equal => |c.lhs x - c.rhs| ≤ tol

theorem satisfied_iff (c : Constraint Rat) (x : List Rat) (tol : Rat) :
    c.isSatisfied x tol = true ↔ c.HoldsWithin tol x := by
  cases sense : c.sense <;> simp [isSatisfied, HoldsWithin, sense, Scalar.abs_rational]

end Constraint

namespace Problem

variable {p : Problem Rat}

-- A point in the quarter where no coordinate is negative that the lines of a problem make and its constraints let pass.
structure Corner (p : Problem Rat) (z : Point Rat) : Prop where
  x : 0 ≤ z.x
  y : 0 ≤ z.y
  holds : ∀ c ∈ p.constraints, c.HoldsWithin (1 / 10 ^ 8) [z.x, z.y]
  vertex : Line.Vertex p.lines z

theorem passes_iff (constraints : List (Constraint Rat)) (z : Point Rat) : Graph.isFeasible constraints z = true ↔
    (∀ c ∈ constraints, c.HoldsWithin (1 / 10 ^ 8) [z.x, z.y]) ∧ 0 ≤ z.x ∧ 0 ≤ z.y := by
  simp only [Graph.isFeasible, decide_eq_true_eq, List.all_eq_true, Constraint.satisfied_iff, Graph.tolerance_rational]

theorem corner_of_mem {z : Point Rat} (member : z ∈ p.corners) : p.Corner z := by
  obtain ⟨candidate, passes⟩ := List.mem_filter.mp (mem_merge member)
  obtain ⟨holds, x, y⟩ := (passes_iff p.constraints z).mp passes
  exact ⟨x, y, holds, Line.candidate_vertex candidate⟩

theorem graph_shows_corners (p : Problem Rat) (planar : p.size = 2) :
    ∃ c1 c2 graph, p.objective = [c1, c2] ∧ p.graph? = some graph ∧
      (∀ z ∈ graph.region, p.Corner z) ∧
      graph.region.Pairwise (fun z q => ¬ (|z.x - q.x| < 1 / 10 ^ 6 ∧ |z.y - q.y| < 1 / 10 ^ 6)) ∧
      (graph.optimum = none ↔ graph.region = []) ∧
      ∀ q top, graph.optimum = some (q, top) → q ∈ graph.region ∧ top = c1 * q.x + c2 * q.y ∧
        ∀ r ∈ graph.region, Graph.UpTo p.maximize (c1 * r.x + c2 * r.y) top := by
  obtain ⟨c1, c2, costs, found⟩ := graph_planar planar
  refine ⟨c1, c2, _, costs, found, ?_, ?_, optimum_none_iff.trans region_nil_iff.symm, fun q top => optimum_best⟩
  · intro z shown
    exact corner_of_mem ((mem_region z).mp shown)
  · refine (merge_spread _).polygon.imp ?_
    intro z q apart close
    rw [(near_iff z q).mpr close] at apart
    cases apart

theorem ledge_shown : ledge.size = 2 ∧ ∃ graph, ledge.graph? = some graph ∧ graph.optimum = some (⟨2, 2⟩, 6) ∧
    ⟨2, 2⟩ ∈ graph.region ∧ (∀ z ∈ graph.region, ledge.Corner z) ∧ ∀ z ∈ graph.region, 1 * z.x + 2 * z.y ≤ 6 := by
  obtain ⟨c1, c2, graph, costs, found, corners, _, _, best⟩ := graph_shows_corners ledge rfl
  have chosen : ledge.graph?.map (·.optimum) = some (some (⟨2, 2⟩, 6)) := by cbv
  rw [found] at chosen
  have optimum : graph.optimum = some (⟨2, 2⟩, 6) := Option.some.inj chosen
  obtain ⟨shown, _, above⟩ := best _ _ optimum
  obtain ⟨rfl, rfl⟩ : 1 = c1 ∧ 2 = c2 := by simpa [ledge] using costs
  exact ⟨rfl, graph, found, optimum, shown, corners, above⟩

end Problem

end LinProg
