import LinProg.Proofs.Shown
import LinProg.Proofs.Unboundedness

set_option autoImplicit false

namespace LinProg.Problem

open Plane Tableau

variable {p : Problem Rat}

def Boundless (p : Problem Rat) : Prop := ∀ bound : Rat, ∃ x, p.Feasible x ∧ bound < p.gain x

theorem boundless_of_unbounded {limit : Limit} {s : Solution Rat} (solved : p.solve limit = .ok s)
    (unbounded : s.status = .unbounded) : p.Boundless := by
  have accepted := accepted_of_solved solved
  obtain ⟨t, closes⟩ := accepted.closes solved
  obtain ⟨j, enters, unlimited⟩ := closes.unbounded unbounded
  intro bound
  exact closes.gain_unbounded accepted.atMost enters unlimited bound

theorem Boundless.outdoes (boundless : p.Boundless) (value : Rat) :
    ∃ x, p.Feasible x ∧ ¬ Graph.UpTo p.maximize (p.objectiveValue x) value := by
  cases sense : p.maximize with
  | true =>
      obtain ⟨x, feasible, beyond⟩ := boundless value
      exact ⟨x, feasible, by simpa [gain, sense, Graph.UpTo] using beyond⟩
  | false =>
      obtain ⟨x, feasible, beyond⟩ := boundless (-value)
      exact ⟨x, feasible, by simpa [gain, sense, Graph.UpTo] using beyond⟩

theorem Accepted.origin_feasible (accepted : p.Accepted) (planar : p.size = 2) :
    p.Feasible (Point.mk 0 0).values := by
  refine ⟨planar.symm, by simp [Point.values], ?_⟩
  intro c member
  obtain ⟨a, b, row⟩ := List.length_eq_two.mp (row_planar planar member)
  have level := accepted.origin c member
  simpa [Constraint.Holds, accepted.atMost c member, Constraint.lhs, row, Point.values, Scalar.dot,
    Scalar.sum_rational] using level

-- The origin is looked at whatever the lines are.
theorem Accepted.corners_nonempty (accepted : p.Accepted) (planar : p.size = 2) : p.corners ≠ [] := by
  have feasible := accepted.origin_feasible planar
  have passes : Graph.isFeasible p.constraints ⟨0, 0⟩ = true := Graph.feasible_passes feasible.holds feasible.nonneg
  have candidate : ⟨0, 0⟩ ∈ Line.candidates p.lines := by simp [Line.candidates]
  obtain ⟨q, member, _⟩ := corner_near candidate passes
  exact List.ne_nil_of_mem member

structure Outdone (p : Problem Rat) (graph : Graph Rat) (q : Point Rat) (top : Rat) : Prop where
  shown : q ∈ graph.region
  corner : p.Corner q
  value : top = p.objectiveValue q.values
  best : ∀ r ∈ graph.region, Graph.UpTo p.maximize (p.objectiveValue r.values) top
  outdone : ∃ x, p.Feasible x ∧ ¬ Graph.UpTo p.maximize (p.objectiveValue x) top

theorem open_region_graphed (p : Problem Rat) (planar : p.size = 2) :
    ∃ graph, p.graph? = some graph ∧
      (graph.optimum = none ↔ ∀ z ∈ Line.candidates p.lines, Graph.isFeasible p.constraints z = false) ∧
      (graph.optimum = none ↔ graph.region = []) ∧
      (∀ z ∈ Line.candidates p.lines, Graph.isFeasible p.constraints z = true → ∃ r ∈ graph.region, Close z r) ∧
      (p.Boundless → ∀ q top, graph.optimum = some (q, top) → p.Outdone graph q top) ∧
      ∀ limit s, p.solve limit = .ok s → s.status = .unbounded → p.Boundless ∧ graph.optimum ≠ none := by
  obtain ⟨c1, c2, costs, found⟩ := graph_planar planar
  refine ⟨_, found, optimum_none_iff.trans (corners_nil_iff p), optimum_none_iff.trans region_nil_iff.symm, ?_, ?_, ?_⟩
  · intro z candidate passes
    obtain ⟨r, member, close⟩ := corner_near candidate passes
    exact ⟨r, (mem_region r).mpr member, (near_close_iff z r).mp close⟩
  · intro boundless q top chosen
    obtain ⟨listed, attained, above⟩ := optimum_best chosen
    refine ⟨listed, corner_of_mem ((mem_region q).mp listed), ?_, ?_, boundless.outdoes top⟩
    · rw [attained, objective_planar costs]
    · intro r shown
      rw [objective_planar costs]
      exact above r shown
  · intro limit s solved unbounded
    refine ⟨boundless_of_unbounded solved unbounded, ?_⟩
    intro missing
    exact (accepted_of_solved solved).corners_nonempty planar (optimum_none_iff.mp missing)

theorem widening_solved : ∃ s, widening.solve (.count 50) = .ok s ∧ s.status = .unbounded := by
  obtain ⟨s, _, solved, _⟩ := widening_accepted.solved 50 (by decide)
  have ending : (widening.record 50).getLast?.map endStatus = some .unbounded := by cbv
  obtain ⟨_, _, noted, status, _⟩ := solve_noted solved endStatus ending
  exact ⟨s, solved, status.trans noted⟩

-- Both constraints hold at (1, 1) only, where their lines cross.
def nook : Problem Rat :=
  { ledge with
    objective := [1, 1]
    constraints := [⟨[1, 0], .equal, 1⟩, ⟨[0, 1], .equal, 1⟩]
    has_constraints := List.cons_ne_nil _ _
    objective_length := rfl
    row_length := by simp [ledge, defaultNames] }

theorem nook_candidates : (Line.candidates nook.lines).filter (Graph.isFeasible nook.constraints) = [⟨1, 1⟩] := by cbv

theorem widening_outdone :
    (widening.size = 2 ∧ widening.Boundless ∧ ∃ s graph q top,
      widening.solve (.count 50) = .ok s ∧ s.status = .unbounded ∧ widening.graph? = some graph ∧
        graph.optimum = some (q, top) ∧ widening.Outdone graph q top) ∧
    nook.size = 2 ∧ (∀ z ∈ Line.candidates nook.lines, Graph.isFeasible nook.constraints z = true → z = ⟨1, 1⟩) ∧
      ∃ graph, nook.graph? = some graph ∧ graph.optimum ≠ none ∧ ∃ r ∈ graph.region, Close ⟨1, 1⟩ r := by
  constructor
  · obtain ⟨graph, found, _, _, _, outdone, reported⟩ := open_region_graphed widening rfl
    obtain ⟨s, solved, unbounded⟩ := widening_solved
    obtain ⟨boundless, shown⟩ := reported _ s solved unbounded
    obtain ⟨⟨q, top⟩, chosen⟩ := Option.ne_none_iff_exists'.mp shown
    exact ⟨rfl, boundless, s, graph, q, top, solved, unbounded, found, chosen, outdone boundless q top chosen⟩
  · obtain ⟨graph, found, none_iff, _, covered, _⟩ := open_region_graphed nook rfl
    have only (z : Point Rat) (candidate : z ∈ Line.candidates nook.lines)
        (passes : Graph.isFeasible nook.constraints z = true) : z = ⟨1, 1⟩ := by
      have member := List.mem_filter.mpr ⟨candidate, passes⟩
      rw [nook_candidates] at member
      exact List.mem_singleton.mp member
    obtain ⟨crossing, passes⟩ : ⟨1, 1⟩ ∈ Line.candidates nook.lines ∧ Graph.isFeasible nook.constraints ⟨1, 1⟩ = true := by
      rw [← List.mem_filter, nook_candidates]
      exact List.mem_singleton_self _
    refine ⟨rfl, only, graph, found, ?_, covered _ crossing passes⟩
    intro missing
    cases passes.symm.trans (none_iff.mp missing _ crossing)

-- The graph calls (1, 0) the optimum of a problem that has none, and that is solved to be unbounded.
theorem widening_graph_optimum : widening.size = 2 ∧ widening.Boundless ∧
    (∃ s, widening.solve (.count 50) = .ok s ∧ s.status = .unbounded) ∧
    ∃ graph, widening.graph? = some graph ∧ graph.optimum = some (⟨1, 0⟩, 1) := by
  obtain ⟨s, solved, unbounded⟩ := widening_solved
  have chosen : widening.graph?.map (·.optimum) = some (some (⟨1, 0⟩, 1)) := by cbv
  exact ⟨rfl, boundless_of_unbounded solved unbounded, ⟨s, solved, unbounded⟩, Option.map_eq_some_iff.mp chosen⟩

end LinProg.Problem
