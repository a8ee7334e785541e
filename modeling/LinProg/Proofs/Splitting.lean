import LinProg.Proofs.Extent
import LinProg.Proofs.Repetition
import LinProg.Proofs.Shown

set_option autoImplicit false

namespace LinProg

open Plane

namespace Constraint

def halves {K : Type} (c : Constraint K) : List (Constraint K) := [{ c with sense := .atMost }, { c with sense := .atLeast }]

theorem halves_satisfied {c : Constraint Rat} (equal : c.sense = .equal) (x : List Rat) (tol : Rat) :
    (∀ half ∈ c.halves, half.isSatisfied x tol = true) ↔ c.isSatisfied x tol = true := by
  have upper : c.lhs x ≤ c.rhs + tol ↔ c.lhs x - c.rhs ≤ tol := by rw [sub_le_iff_le_add']
  have lower : c.rhs - tol ≤ c.lhs x ↔ -tol ≤ c.lhs x - c.rhs := by
    rw [le_sub_iff_add_le, neg_add_eq_sub]
  have same (sense : Sense) : lhs { c with sense } x = c.lhs x := rfl
  simp only [halves, List.forall_mem_cons, List.not_mem_nil, false_imp_iff, implies_true, and_true, satisfied_iff,
    HoldsWithin, equal, same, upper, lower, abs_le]
  exact and_comm

end Constraint

namespace Plane.Line

variable (before after : List (Line Rat)) (l : Line Rat)

theorem meet_self : meet? l l = none := by
  have level : determinant l l = 0 := sub_self _
  rw [meet?, level, Scalar.abs_rational, abs_zero, parallel_tolerance_rational]
  exact if_pos (by norm_num)

-- A line with itself beside it meets each line once more at the same point, and itself nowhere.
theorem meetings_echo (seen : List (Point Rat)) :
    Echoes seen (meetings (before ++ l :: after)) (meetings (before ++ l :: l :: after)) := by
  induction before generalizing seen with
  | nil =>
      have own : (l :: after).filterMap (meet? l) = after.filterMap (meet? l) := List.filterMap_cons_none (meet_self l)
      simp only [List.nil_append, meetings, own]
      refine (Echoes.refl _ _).append ((Echoes.refl _ _).repeated ?_)
      exact List.subset_append_left _ _
  | cons first before ih =>
      simp only [List.cons_append, meetings, List.filterMap_append]
      refine Echoes.append ((Echoes.refl _ _).append ?_) (ih _)
      cases met : meet? first l with
      | none => simpa only [List.filterMap_cons_none met] using Echoes.refl _ _
      | some z =>
          simp only [List.filterMap_cons_some met]
          exact .same z (.again List.mem_cons_self (Echoes.refl _ _))

theorem candidates_echo : Echoes [] (candidates (before ++ l :: after)) (candidates (before ++ l :: l :: after)) := by
  simp only [candidates, List.cons_append, List.flatMap_append, List.flatMap_cons]
  generalize own : l.xIntercept?.toList ++ l.yIntercept?.toList = met
  simp only [List.append_assoc]
  refine .same _ ((Echoes.refl _ _).append ((Echoes.refl _ _).append (Echoes.repeated ?_ ?_)))
  · exact (Echoes.refl _ _).append (meetings_echo before after l _)
  · exact List.subset_append_left _ _

end Plane.Line

namespace Problem

section Split

variable {K : Type}

def splitConstraints (constraints : List (Constraint K)) (i : Nat) : List (Constraint K) :=
  constraints.take i ++ (constraints[i]?.toList.flatMap Constraint.halves ++ constraints.drop (i + 1))

theorem split_constraints_at {constraints : List (Constraint K)} {i : Nat} {c : Constraint K}
    (listed : constraints[i]? = some c) :
    constraints = constraints.take i ++ c :: constraints.drop (i + 1) ∧
      splitConstraints constraints i = constraints.take i ++ (c.halves ++ constraints.drop (i + 1)) := by
  obtain ⟨inside, found⟩ := List.getElem?_eq_some_iff.mp listed
  constructor
  · rw [← found, ← List.drop_eq_getElem_cons inside, List.take_append_drop]
  · simp [splitConstraints, listed]

theorem mem_split {constraints : List (Constraint K)} {i : Nat} {c : Constraint K}
    (member : c ∈ splitConstraints constraints i) : ∃ old ∈ constraints, c.coefficients = old.coefficients := by
  rcases List.mem_append.mp member with early | late
  · exact ⟨c, List.mem_of_mem_take early, rfl⟩
  · rcases List.mem_append.mp late with half | later
    · obtain ⟨old, found, cut⟩ := List.mem_flatMap.mp half
      refine ⟨old, List.mem_of_getElem? (Option.mem_toList.mp found), ?_⟩
      rcases List.mem_pair.mp cut with rfl | rfl <;> rfl
    · exact ⟨c, List.mem_of_mem_drop later, rfl⟩

theorem split_nonempty {constraints : List (Constraint K)} (nonempty : constraints ≠ []) (i : Nat) :
    splitConstraints constraints i ≠ [] := by
  cases listed : constraints[i]? with
  | none =>
      have past : constraints.length ≤ i := List.getElem?_eq_none_iff.mp listed
      simp [splitConstraints, List.take_of_length_le past, nonempty]
  | some c => simp [splitConstraints, listed, Constraint.halves]

def splitEquality (p : Problem K) (i : Nat) : Problem K where
  objective := p.objective
  constraints := splitConstraints p.constraints i
  names := p.names
  maximize := p.maximize
  has_names := p.has_names
  has_constraints := split_nonempty p.has_constraints i
  distinct := p.distinct
  objective_length := p.objective_length
  row_length := by
    intro c member
    obtain ⟨old, listed, same⟩ := mem_split member
    rw [same, p.row_length old listed]

end Split

variable {p : Problem Rat} {i : Nat} {c : Constraint Rat}

theorem split_passes (listed : p.constraints[i]? = some c) (equal : c.sense = .equal) (z : Point Rat) :
    Graph.isFeasible (p.splitEquality i).constraints z = Graph.isFeasible p.constraints z := by
  obtain ⟨whole, parts⟩ := split_constraints_at listed
  have satisfied : (∀ d ∈ splitConstraints p.constraints i, d.isSatisfied [z.x, z.y] Graph.tolerance = true) ↔
      ∀ d ∈ p.constraints, d.isSatisfied [z.x, z.y] Graph.tolerance = true := by
    conv_rhs => rw [whole]
    rw [parts]
    simp only [List.forall_mem_append, List.forall_mem_cons, Constraint.halves_satisfied equal]
  simp only [Graph.isFeasible, splitEquality, List.all_eq_true, satisfied]

theorem split_lines (planar : p.size = 2) (listed : p.constraints[i]? = some c) : ∃ before after,
    p.lines = before ++ c.line :: after ∧ (p.splitEquality i).lines = before ++ c.line :: c.line :: after ∧
      before.length = i := by
  obtain ⟨whole, parts⟩ := split_constraints_at listed
  obtain ⟨inside, _⟩ := List.getElem?_eq_some_iff.mp listed
  refine ⟨(p.constraints.take i).map Constraint.line, (p.constraints.drop (i + 1)).map Constraint.line, ?_, ?_, ?_⟩
  · rw [lines_planar planar, ← List.map_cons, ← List.map_append, ← whole]
  · have cut : (p.splitEquality i).constraints = p.constraints.take i ++ (c.halves ++ p.constraints.drop (i + 1)) := parts
    have sized : (p.splitEquality i).size = 2 := planar
    rw [lines_planar sized, cut, List.map_append]
    rfl
  · simpa using Nat.le_of_lt inside

theorem split_corners (planar : p.size = 2) (listed : p.constraints[i]? = some c) (equal : c.sense = .equal) :
    (p.splitEquality i).corners = p.corners := by
  obtain ⟨before, after, lines, doubled, _⟩ := split_lines planar listed
  have passes : Graph.isFeasible (p.splitEquality i).constraints = Graph.isFeasible p.constraints :=
    funext (split_passes listed equal)
  rw [corners, corners, lines, doubled, passes]
  exact merge_echoes ((Line.candidates_echo before after c.line).filter _)

theorem graph_of_corners (p : Problem Rat) (c1 c2 : Rat) : p.graphOf c1 c2 p.lines =
    { intercepts := p.lines.map Line.intercepts, region := polygon p.corners
      optimum := Graph.bestOf c1 c2 p.maximize p.corners
      maxX := Graph.extent (((p.lines.map Line.intercepts).flatten ++ polygon p.corners).map (·.x))
      maxY := Graph.extent (((p.lines.map Line.intercepts).flatten ++ polygon p.corners).map (·.y)) } := rfl

theorem insert_after {α : Type} (before after : List α) (a b : α) :
    (before ++ a :: after).insertIdx (before.length + 1) b = before ++ a :: b :: after := by
  induction before with
  | nil => rfl
  | cons x before ih => exact congrArg (x :: ·) ih

-- The line of the equality is drawn once more beside itself, and that is all that changes in the graph.
theorem equality_split_graph (p : Problem Rat) (planar : p.size = 2) (i : Nat) (c : Constraint Rat)
    (listed : p.constraints[i]? = some c) (equal : c.sense = .equal) :
    ∃ graph, p.graph? = some graph ∧ graph.intercepts[i]? = some c.line.intercepts ∧
      (p.splitEquality i).graph? =
        some { graph with intercepts := graph.intercepts.insertIdx (i + 1) c.line.intercepts } := by
  have sized : (p.splitEquality i).size = 2 := planar
  obtain ⟨c1, c2, costs, found⟩ := graph_planar planar
  obtain ⟨d1, d2, others, shown⟩ := graph_planar sized
  obtain ⟨before, after, lines, doubled, rfl⟩ := split_lines planar listed
  have corners : (p.splitEquality before.length).corners = p.corners := split_corners planar listed equal
  obtain ⟨rfl, rfl⟩ : c1 = d1 ∧ c2 = d2 := by simpa using costs.symm.trans others
  refine ⟨_, found, ?_, ?_⟩
  · simp [graphOf, lines]
  · have intercepts : (p.splitEquality before.length).lines.map Line.intercepts =
        (p.lines.map Line.intercepts).insertIdx (before.length + 1) c.line.intercepts := by
      rw [lines, doubled, ← List.map_insertIdx, insert_after]
    have drawn (z : Point Rat) :
        z ∈ ((p.splitEquality before.length).lines.map Line.intercepts).flatten ++ polygon p.corners ↔
          z ∈ (p.lines.map Line.intercepts).flatten ++ polygon p.corners := by
      simp [lines, doubled]
    have reach (coordinate : Point Rat → Rat) :
        Graph.extent ((((p.splitEquality before.length).lines.map Line.intercepts).flatten ++ polygon p.corners).map
          coordinate) =
          Graph.extent (((p.lines.map Line.intercepts).flatten ++ polygon p.corners).map coordinate) := by
      refine Graph.extent_congr ?_
      intro v
      simp only [List.mem_map, drawn]
    rw [shown, graph_of_corners, graph_of_corners, corners, reach, reach, intercepts]
    rfl

theorem ledge_split : ledge.size = 2 ∧ ledge.constraints[0]? = some ⟨[1, 1], .equal, 4⟩ ∧
    (ledge.splitEquality 0).constraints.map (·.sense) = [.atMost, .atLeast, .atLeast, .atMost] ∧
    ∃ graph, ledge.graph? = some graph ∧ graph.intercepts[0]? = some [⟨0, 4⟩, ⟨4, 0⟩] ∧
      (ledge.splitEquality 0).graph? = some { graph with intercepts := graph.intercepts.insertIdx 1 [⟨0, 4⟩, ⟨4, 0⟩] } := by
  obtain ⟨graph, found, own, split⟩ := equality_split_graph ledge rfl 0 ⟨[1, 1], .equal, 4⟩ rfl rfl
  have met : Constraint.line ⟨[1, 1], .equal, 4⟩ = ⟨1, 1, 4⟩ := rfl
  have axes : Line.intercepts (⟨1, 1, 4⟩ : Line Rat) = [⟨0, 4⟩, ⟨4, 0⟩] := by
    simp [Line.intercepts, Line.yIntercept?, Line.xIntercept?]
  rw [met, axes] at own split
  exact ⟨rfl, rfl, rfl, graph, found, own, split⟩

end Problem

end LinProg
