import LinProg.Proofs.Outcome
import LinProg.Proofs.Planar

set_option autoImplicit false

namespace LinProg

open Plane

namespace Graph

theorem tolerance_rational : (tolerance : Rat) = 1 / 10 ^ 8 := by
  norm_num [tolerance]

def UpTo (maximize : Bool) (value top : Rat) : Prop := if maximize then value ≤ top else top ≤ value

theorem up_to_refl (maximize : Bool) (value : Rat) : UpTo maximize value value := by
  cases maximize <;> exact le_refl value

theorem UpTo.trans {maximize : Bool} {a b c : Rat} (first : UpTo maximize a b) (second : UpTo maximize b c) :
    UpTo maximize a c := by
  cases maximize with
  | false => exact le_trans second first
  | true => exact le_trans first second

def Best (c1 c2 : Rat) (maximize : Bool) (seen : List (Point Rat)) : Option (Point Rat × Rat) → Prop
  | none => seen = []
  | some (q, top) => q ∈ seen ∧ top = objectiveAt c1 c2 q ∧
      ∀ p ∈ seen, UpTo maximize (objectiveAt c1 c2 p) top

def bestStep (c1 c2 : Rat) (maximize : Bool) (best : Option (Point Rat × Rat)) (p : Point Rat) :
    Option (Point Rat × Rat) :=
  match best with
  | none => some (p, objectiveAt c1 c2 p)
  | some (_, top) =>
    if (if maximize then top < objectiveAt c1 c2 p else objectiveAt c1 c2 p < top) then some (p, objectiveAt c1 c2 p)
    else best

theorem best_step {c1 c2 : Rat} {maximize : Bool} {seen : List (Point Rat)} {best : Option (Point Rat × Rat)}
    (found : Best c1 c2 maximize seen best) (p : Point Rat) :
    Best c1 c2 maximize (seen ++ [p]) (bestStep c1 c2 maximize best p) := by
  cases best with
  | none =>
      have empty : seen = [] := found
      simp [empty, bestStep, Best, up_to_refl]
  | some pair =>
      obtain ⟨q, top⟩ := pair
      obtain ⟨member, worth, above⟩ := found
      by_cases better : (if maximize then top < objectiveAt c1 c2 p else objectiveAt c1 c2 p < top)
      · have beyond : UpTo maximize top (objectiveAt c1 c2 p) := by
          cases maximize <;> exact le_of_lt better
        simp only [bestStep, if_pos better]
        refine ⟨by simp, rfl, ?_⟩
        intro r listed
        rcases List.mem_append.mp listed with early | late
        · exact (above r early).trans beyond
        · rw [List.mem_singleton.mp late]
          exact up_to_refl _ _
      · have below : UpTo maximize (objectiveAt c1 c2 p) top := by
          cases maximize <;> exact le_of_not_gt better
        simp only [bestStep, if_neg better]
        refine ⟨List.mem_append_left _ member, worth, ?_⟩
        intro r listed
        rcases List.mem_append.mp listed with early | late
        · exact above r early
        · rw [List.mem_singleton.mp late]
          exact below

theorem best_from {c1 c2 : Rat} {maximize : Bool} {seen : List (Point Rat)} {best : Option (Point Rat × Rat)}
    (found : Best c1 c2 maximize seen best) (points : List (Point Rat)) :
    Best c1 c2 maximize (seen ++ points) (points.foldl (bestStep c1 c2 maximize) best) := by
  induction points generalizing seen best with
  | nil => simpa using found
  | cons p points ih => simpa using ih (best_step found p)

theorem best_of_spec (c1 c2 : Rat) (maximize : Bool) (points : List (Point Rat)) :
    Best c1 c2 maximize points (bestOf c1 c2 maximize points) := by
  have start : Best c1 c2 maximize [] none := rfl
  have steps : bestOf c1 c2 maximize points = points.foldl (bestStep c1 c2 maximize) none := by
    rw [bestOf]
    congr 1
    funext best p
    cases best <;> rfl
  rw [steps]
  simpa using best_from start points

theorem best_of_none_iff (c1 c2 : Rat) (maximize : Bool) (points : List (Point Rat)) :
    bestOf c1 c2 maximize points = none ↔ points = [] := by
  have found := best_of_spec c1 c2 maximize points
  constructor
  · intro none
    rw [none] at found
    exact found
  · intro empty
    rw [empty]
    rfl

theorem feasible_passes {constraints : List (Constraint Rat)} {z : Point Rat}
    (holds : ∀ c ∈ constraints, c.Holds z.values) (nonneg : ∀ v ∈ z.values, 0 ≤ v) :
    isFeasible constraints z = true := by
  have satisfied : ∀ c ∈ constraints, c.isSatisfied z.values tolerance = true := by
    intro c member
    refine Constraint.satisfied_of_holds ?_ (holds c member)
    norm_num [tolerance_rational]
  have x : 0 ≤ z.x := nonneg z.x (by simp [Point.values])
  have y : 0 ≤ z.y := nonneg z.y (by simp [Point.values])
  rw [isFeasible, decide_eq_true_eq, List.all_eq_true]
  exact ⟨satisfied, x, y⟩

end Graph

namespace Problem

variable {p : Problem Rat}

def corners (p : Problem Rat) : List (Point Rat) :=
  merge ((Line.candidates p.lines).filter (Graph.isFeasible p.constraints))

theorem corners_nil_iff (p : Problem Rat) :
    p.corners = [] ↔ ∀ z ∈ Line.candidates p.lines, Graph.isFeasible p.constraints z = false := by
  rw [corners, merge_nil_iff, List.filter_eq_nil_iff]
  simp only [Bool.not_eq_true]

theorem corner_near {z : Point Rat} (candidate : z ∈ Line.candidates p.lines)
    (passes : Graph.isFeasible p.constraints z = true) : ∃ q ∈ p.corners, near z q = true :=
  merge_covers (List.mem_filter.mpr ⟨candidate, passes⟩)

theorem objective_planar {c1 c2 : Rat} (costs : p.objective = [c1, c2]) (z : Point Rat) :
    p.objectiveValue z.values = Graph.objectiveAt c1 c2 z := by
  simp [objectiveValue, costs, Point.values, Graph.objectiveAt, Scalar.dot, Scalar.sum_rational]

theorem graph_planar (planar : p.size = 2) :
    ∃ c1 c2, p.objective = [c1, c2] ∧ p.graph? = some (p.graphOf c1 c2 p.lines) := by
  obtain ⟨c1, c2, costs⟩ := List.length_eq_two.mp (p.objective_length.trans planar)
  have found : (p.constraints.mapM fun c => (Line.ofConstraint c).toOption) = some p.lines := by
    rw [lines_planar planar]
    refine Outcome.mapM_pure_of _ _ _ ?_
    intro c member
    rw [Constraint.line_ok (row_planar planar member)]
    rfl
  refine ⟨c1, c2, costs, ?_⟩
  rw [graph?, costs, found]

section Graphs

variable {c1 c2 : Rat}

theorem mem_region (q : Point Rat) : q ∈ (p.graphOf c1 c2 p.lines).region ↔ q ∈ p.corners := mem_polygon p.corners q

theorem region_nil_iff : (p.graphOf c1 c2 p.lines).region = [] ↔ p.corners = [] := by
  simp only [List.eq_nil_iff_forall_not_mem, mem_region]

theorem optimum_none_iff : (p.graphOf c1 c2 p.lines).optimum = none ↔ p.corners = [] :=
  Graph.best_of_none_iff c1 c2 p.maximize p.corners

theorem optimum_best {q : Point Rat} {top : Rat} (chosen : (p.graphOf c1 c2 p.lines).optimum = some (q, top)) :
    q ∈ (p.graphOf c1 c2 p.lines).region ∧ top = Graph.objectiveAt c1 c2 q ∧
      ∀ r ∈ (p.graphOf c1 c2 p.lines).region, Graph.UpTo p.maximize (Graph.objectiveAt c1 c2 r) top := by
  have best := Graph.best_of_spec c1 c2 p.maximize p.corners
  rw [show Graph.bestOf c1 c2 p.maximize p.corners = some (q, top) from chosen] at best
  obtain ⟨member, worth, above⟩ := best
  exact ⟨(mem_region q).mpr member, worth, fun r shown => above r ((mem_region r).mp shown)⟩

end Graphs

-- A feasible point that is not halfway between two others.
structure Extreme (p : Problem Rat) (z : Point Rat) : Prop where
  feasible : p.Feasible z.values
  alone : ∀ u v : Point Rat, p.Feasible u.values → p.Feasible v.values →
    z = ⟨(u.x + v.x) / 2, (u.y + v.y) / 2⟩ → u = v

theorem Extreme.pinned (planar : p.size = 2) {z : Point Rat} (extreme : p.Extreme z) : Pinned p.sides z := by
  intro d stays
  obtain ⟨t, positive, there, back⟩ := slides_both_ways ((feasible_planar planar z).mp extreme.feasible) stays
  have halfway : z = ⟨((z.along d t).x + (z.along d (-t)).x) / 2, ((z.along d t).y + (z.along d (-t)).y) / 2⟩ := by
    cases z
    simp only [Point.along, Point.mk.injEq]
    constructor <;> ring
  have same := extreme.alone _ _ ((feasible_planar planar _).mpr there) ((feasible_planar planar _).mpr back) halfway
  simp only [Point.along, Point.mk.injEq] at same
  have still (v : Rat) {u : Rat} (met : u + t * v = u + -t * v) : v = 0 := by
    have twice : t * v = 0 := by linarith
    exact (mul_eq_zero.mp twice).resolve_left (ne_of_gt positive)
  cases d with
  | mk dx dy => rw [still dx same.1, still dy same.2]

theorem near_corner (planar : p.size = 2) (separated : p.lines.Pairwise Line.Apart) {z : Point Rat}
    (feasible : p.Feasible z.values) (pinned : Pinned p.sides z) : ∃ q ∈ p.corners, near z q = true := by
  have candidate := (pinned_lines planar pinned).candidate separated
  exact corner_near candidate (Graph.feasible_passes feasible.holds feasible.nonneg)

theorem corners_nonempty (planar : p.size = 2) (separated : p.lines.Pairwise Line.Apart) {x : List Rat}
    (feasible : p.Feasible x) : p.corners ≠ [] := by
  obtain ⟨a, b, rfl⟩ := List.length_eq_two.mp (feasible.coordinates.trans planar)
  have inside : Inside p.sides ⟨a, b⟩ := (feasible_planar planar ⟨a, b⟩).mp feasible
  obtain ⟨z, within, pinned⟩ := exists_corner lineless_axes inside
  obtain ⟨q, member, _⟩ := near_corner planar separated ((feasible_planar planar z).mpr within) pinned
  exact List.ne_nil_of_mem member

theorem corners_covered (p : Problem Rat) (planar : p.size = 2) (separated : p.lines.Pairwise Line.Apart) :
    ∃ graph, p.graph? = some graph ∧
      (∀ z, p.Extreme z → ∃ q ∈ graph.region, |z.x - q.x| < 1 / 10 ^ 6 ∧ |z.y - q.y| < 1 / 10 ^ 6) ∧
      ((∃ x, p.Feasible x) → graph.region ≠ []) ∧ (graph.optimum = none → ∀ x, ¬ p.Feasible x) := by
  obtain ⟨c1, c2, _, found⟩ := graph_planar planar
  refine ⟨_, found, ?_, ?_, ?_⟩
  · intro z extreme
    obtain ⟨q, member, close⟩ := near_corner planar separated extreme.feasible (extreme.pinned planar)
    exact ⟨q, (mem_region q).mpr member, (near_iff z q).mp close⟩
  · intro ⟨x, feasible⟩
    exact mt region_nil_iff.mp (corners_nonempty planar separated feasible)
  · intro none x feasible
    exact corners_nonempty planar separated feasible (optimum_none_iff.mp none)

-- One constraint of each sense; together they leave the points from (2, 2) to (4, 0).
def ledge : Problem Rat where
  objective := [1, 2]
  constraints := [⟨[1, 1], .equal, 4⟩, ⟨[1, 0], .atLeast, 1⟩, ⟨[0, 1], .atMost, 2⟩]
  names := defaultNames 2
  maximize := true
  has_names := by decide
  has_constraints := List.cons_ne_nil _ _
  distinct := by decide
  objective_length := rfl
  row_length := by simp [defaultNames]

theorem ledge_apart : ledge.lines.Pairwise Line.Apart := by
  rw [lines_planar rfl]
  norm_num [ledge, Constraint.line, Line.Apart, Line.determinant]

theorem ledge_feasible_iff (z : Point Rat) : ledge.Feasible z.values ↔ 0 ≤ z.y ∧ z.y ≤ 2 ∧ z.x = 4 - z.y := by
  have region : Inside ledge.sides z ↔
      0 ≤ z.x ∧ 0 ≤ z.y ∧ z.x + z.y ≤ 4 ∧ 4 ≤ z.y + z.x ∧ 1 ≤ z.x ∧ z.y ≤ 2 := by
    simp [Inside, sides, axes, ledge, Constraint.sides, Constraint.line, Line.turned, Line.room]
  rw [feasible_planar rfl, region]
  constructor
  · intro bounds
    refine ⟨?_, ?_, ?_⟩ <;> linarith
  · rintro ⟨low, high, on⟩
    refine ⟨?_, ?_, ?_, ?_, ?_, ?_⟩ <;> linarith

theorem ledge_extreme : ledge.Extreme ⟨2, 2⟩ := by
  refine ⟨(ledge_feasible_iff _).mpr (by norm_num), ?_⟩
  intro u v first second halfway
  obtain ⟨_, high, on⟩ := (ledge_feasible_iff u).mp first
  obtain ⟨_, top, along⟩ := (ledge_feasible_iff v).mp second
  have middle : 2 = (u.y + v.y) / 2 := congrArg Point.y halfway
  cases u
  cases v
  simp only [Point.mk.injEq]
  constructor <;> linarith

theorem ledge_covered : ledge.size = 2 ∧ ledge.lines.Pairwise Line.Apart ∧ ∃ graph, ledge.graph? = some graph ∧
    ledge.Extreme ⟨2, 2⟩ ∧ (∃ q ∈ graph.region, |2 - q.x| < 1 / 10 ^ 6 ∧ |2 - q.y| < 1 / 10 ^ 6) ∧
    graph.region ≠ [] ∧ graph.optimum ≠ none := by
  obtain ⟨graph, found, covered, filled, reported⟩ := corners_covered ledge rfl ledge_apart
  have extreme := ledge_extreme
  refine ⟨rfl, ledge_apart, graph, found, extreme, covered ⟨2, 2⟩ extreme, filled ⟨_, extreme.feasible⟩, ?_⟩
  intro missing
  exact reported missing _ extreme.feasible

end Problem

end LinProg
