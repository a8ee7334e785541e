import LinProg.Proofs.Certificate
import LinProg.Proofs.Region

set_option autoImplicit false

/-!
The graph and the tableaux agree. The point of the last basis is pinned by the sides of its nonbasic variables, so the
graph has a corner near it; and what a corner gains beyond the value is bounded by the prices of the bounds that it
may break by the tolerance.
-/
namespace LinProg

open Plane Finset

namespace Tableau

open Problem

def basicPoint (t : Tableau Rat) : Point Rat := ⟨t.basicSolution 0, t.basicSolution 1⟩

theorem basic_point_values {p : Problem Rat} (planar : p.size = 2) (t : Tableau Rat) :
    t.basicPoint.values = pointOf p.size t.basicSolution := by
  rw [planar]
  rfl

end Tableau

namespace Problem

open Tableau

variable {p : Problem Rat} {t : Tableau Rat}

-- Each variable and each slack is the room that a point has on one of the sides.
theorem exists_side (planar : p.size = 2) (atMost : ∀ c ∈ p.constraints, c.sense = .atMost) {j : Nat}
    (inside : j < p.size + p.constraints.length) :
    ∃ l ∈ p.sides, ∀ z : Point Rat, (p.withSlacks z.values).getD j 0 = l.room z := by
  by_cases decision : j < p.size
  · have either : j = 0 ∨ j = 1 := by omega
    rcases either with rfl | rfl
    · exact ⟨⟨-1, 0, 0⟩, by simp [sides, axes], by simp [withSlacks, Point.values, Line.room]⟩
    · exact ⟨⟨0, -1, 0⟩, by simp [sides, axes], by simp [withSlacks, Point.values, Line.room]⟩
  · obtain ⟨i, rfl⟩ := Nat.exists_eq_add_of_le (Nat.le_of_not_lt decision)
    have within : i < p.constraints.length := by omega
    have member : p.constraints[i] ∈ p.constraints := List.getElem_mem within
    refine ⟨p.constraints[i].line, ?_, ?_⟩
    · refine List.mem_append_right _ (List.mem_flatMap.mpr ⟨_, member, ?_⟩)
      simp [Constraint.sides, atMost _ member]
    · intro z
      rw [← Constraint.slack_planar (row_planar planar member), with_slacks_slack p z.values planar.symm]
      simp [slacks, within]

theorem Closes.pinned {s : Solution Rat} (closes : Closes p s t) (planar : p.size = 2)
    (atMost : ∀ c ∈ p.constraints, c.sense = .atMost) : Pinned p.sides t.basicPoint := by
  intro d stays
  have based := closes.ready.toBased
  have numVars := closes.rewrites.numVars
  have solves := closes.rewrites.solves_with_slacks (x := (t.basicPoint.along d 1).values) planar.symm
  have free : ∀ k < t.numVars, t.seat? k = none → (p.withSlacks (t.basicPoint.along d 1).values).getD k 0 = 0 := by
    intro k wide unseated
    obtain ⟨l, side, room⟩ := exists_side planar atMost (lt_of_lt_of_eq wide numVars)
    have on : l.room t.basicPoint = 0 := by
      rw [← room, basic_point_values planar, closes.rewrites.with_slacks_of_solves based.solves_basic,
        point_of_get _ _ k wide, basicSolution, spread, unseated]
    rw [room, Line.room_along, on, stays l side on, mul_zero, sub_zero]
  have x : t.basicSolution 0 + 1 * d.x = t.basicSolution 0 := based.basic_unique solves free (j := 0) (by omega)
  have y : t.basicSolution 1 + 1 * d.y = t.basicSolution 1 := based.basic_unique solves free (j := 1) (by omega)
  cases d
  simp_all

theorem Closes.corner {s : Solution Rat} (closes : Closes p s t) (planar : p.size = 2)
    (separated : p.lines.Pairwise Line.Apart) (atMost : ∀ c ∈ p.constraints, c.sense = .atMost) :
    ∃ q ∈ p.corners, near t.basicPoint q = true := by
  have feasible := closes.basic_feasible atMost
  rw [← basic_point_values planar] at feasible
  exact near_corner planar separated feasible (closes.pinned planar atMost)

structure Tolerated (p : Problem Rat) (d : Rat) (x : List Rat) : Prop where
  coordinates : x.length = p.size
  nonneg : ∀ v ∈ x, 0 ≤ v
  holds : ∀ i < p.constraints.length, -d ≤ (p.slacks x).getD i 0

theorem tolerated_of_passes (planar : p.size = 2) (atMost : ∀ c ∈ p.constraints, c.sense = .atMost) {z : Point Rat}
    (passes : Graph.isFeasible p.constraints z = true) : p.Tolerated (1 / 10 ^ 8) z.values := by
  rw [Graph.isFeasible, decide_eq_true_eq, List.all_eq_true] at passes
  obtain ⟨satisfied, x, y⟩ := passes
  refine ⟨planar.symm, by simp [Point.values, x, y], ?_⟩
  intro i inside
  have member : p.constraints[i] ∈ p.constraints := List.getElem_mem inside
  have kept := satisfied _ member
  rw [Constraint.isSatisfied, atMost _ member, Graph.tolerance_rational, decide_eq_true_eq] at kept
  have slack : (p.slacks z.values).getD i 0 = p.constraints[i].slack z.values := by
    simp [slacks, inside]
  rw [slack, Constraint.slack]
  change p.constraints[i].lhs z.values ≤ _ at kept
  linarith

theorem neg_mul_le {f v e d : Rat} (price : -e ≤ f) (room : -d ≤ v) (small : 0 ≤ e) (slight : 0 ≤ d) :
    -(f * v) ≤ e * max 0 v + d * max 0 f := by
  have first : 0 ≤ e * max 0 v := mul_nonneg small (le_max_left 0 v)
  have second : 0 ≤ d * max 0 f := mul_nonneg slight (le_max_left 0 f)
  rcases le_or_gt 0 v with kept | broken
  · have loss := mul_le_mul_of_nonneg_right price kept
    rw [max_eq_right kept] at first ⊢
    linarith
  · rcases le_or_gt 0 f with dear | cheap
    · have gain := mul_le_mul_of_nonneg_left room dear
      rw [max_eq_right dear] at second ⊢
      linarith
    · have none := mul_pos_of_neg_of_neg cheap broken
      linarith

theorem Tolerated.gain_le {x : List Rat} {e d : Rat} (tolerated : p.Tolerated d x) (rewrites : Rewrites p t)
    (least : ∀ j < t.numVars, -e ≤ t.entryAt t.height j) (small : 0 ≤ e) (slight : 0 ≤ d) :
    p.gain x ≤ t.value + e * (x.sum + ∑ i ∈ range p.constraints.length, max 0 ((p.slacks x).getD i 0)) +
      d * ∑ i ∈ range p.constraints.length, max 0 (t.entryAt t.height (p.size + i)) := by
  have sized := tolerated.coordinates
  have numVars := rewrites.numVars
  have decisions : -e * x.sum ≤ ∑ j ∈ range p.size, t.entryAt t.height j * x.getD j 0 := by
    rw [Scalar.sum_eq_sum x p.size (Nat.le_of_eq sized)]
    exact neg_mul_sum_le (fun j decision => least j (by omega)) (Scalar.getD_nonneg tolerated.nonneg)
  have slacks : -(e * ∑ i ∈ range p.constraints.length, max 0 ((p.slacks x).getD i 0) +
      d * ∑ i ∈ range p.constraints.length, max 0 (t.entryAt t.height (p.size + i))) ≤
        ∑ i ∈ range p.constraints.length, t.entryAt t.height (p.size + i) * (p.slacks x).getD i 0 := by
    rw [neg_le, ← sum_neg_distrib, mul_sum, mul_sum, ← sum_add_distrib]
    refine sum_le_sum ?_
    intro i member
    have inside := mem_range.mp member
    exact neg_mul_le (least _ (by omega)) (tolerated.holds i inside) small slight
  rw [rewrites.gain_split sized]
  linarith

theorem up_to_iff (p : Problem Rat) (value top : Rat) :
    Graph.UpTo p.maximize value top ↔ p.sign * value ≤ p.sign * top := by
  rw [sign]
  cases p.maximize <;> simp [Graph.UpTo]

-- Points that merging takes for one differ in their value by no more than the costs of its tolerance.
theorem gain_near {c1 c2 : Rat} (costs : p.objective = [c1, c2]) {z q : Point Rat} (close : near z q = true) :
    p.sign * p.objectiveValue z.values - 1 / 10 ^ 6 * (p.objective.map abs).sum ≤ p.sign * p.objectiveValue q.values := by
  obtain ⟨x, y⟩ := (near_iff z q).mp close
  have first := mul_le_mul_of_nonneg_left (le_of_lt x) (abs_nonneg c1)
  have second := mul_le_mul_of_nonneg_left (le_of_lt y) (abs_nonneg c2)
  have shift : |p.sign * (c1 * (z.x - q.x) + c2 * (z.y - q.y))| ≤ |c1| * (1 / 10 ^ 6) + |c2| * (1 / 10 ^ 6) := by
    rw [abs_mul, abs_sign, one_mul]
    refine le_trans (abs_add_le _ _) ?_
    rw [abs_mul, abs_mul]
    exact add_le_add first second
  have most := le_trans (le_abs_self _) shift
  have total : (p.objective.map abs).sum = |c1| + |c2| := by
    simp [costs]
  rw [objective_planar costs, objective_planar costs, total, Graph.objectiveAt, Graph.objectiveAt]
  linarith

structure Agrees (p : Problem Rat) (s : Solution Rat) (report : Sensitivity Rat) (point : Point Rat) (value : Rat) :
    Prop where
  attained : p.objectiveValue point.values = value
  least : p.sign * s.value - 1 / 10 ^ 6 * (p.objective.map abs).sum ≤ p.sign * value
  most : p.sign * value ≤ p.sign * s.value +
    1 / 10 ^ 10 * (point.x + point.y + ∑ i ∈ range p.constraints.length, max 0 ((p.slacks point.values).getD i 0)) +
    1 / 10 ^ 8 * ∑ i ∈ range p.constraints.length, max 0 (p.sign * report.priceAt i)

-- No corner of the graph, not only the best one, gains more than the tolerances allow.
theorem Closes.corner_le {s : Solution Rat} (closes : Closes p s t) (planar : p.size = 2)
    (atMost : ∀ c ∈ p.constraints, c.sense = .atMost) (optimal : s.status = .optimal) {z : Point Rat}
    (corner : z ∈ p.corners) : p.sign * p.objectiveValue z.values ≤ p.sign * s.value +
      1 / 10 ^ 10 * (z.x + z.y + ∑ i ∈ range p.constraints.length, max 0 ((p.slacks z.values).getD i 0)) +
      1 / 10 ^ 8 * ∑ i ∈ range p.constraints.length, max 0 (p.sign * (Sensitivity.ofTableau p t).priceAt i) := by
  have passes := (List.mem_filter.mp (mem_merge corner)).2
  have least := closes.optimal optimal
  rw [tolerance_rational] at least
  have bound := (tolerated_of_passes planar atMost passes).gain_le closes.rewrites least (by norm_num) (by norm_num)
  have prices : ∑ i ∈ range p.constraints.length, max 0 (p.sign * (Sensitivity.ofTableau p t).priceAt i) =
      ∑ i ∈ range p.constraints.length, max 0 (t.entryAt t.height (p.size + i)) := by
    refine sum_congr rfl ?_
    intro i inside
    rw [signed_price_at t (mem_range.mp inside)]
  have coordinates : z.values.sum = z.x + z.y := by
    simp [Point.values]
  rw [coordinates] at bound
  rw [sign_mul_objective, closes.signed_value, prices]
  exact bound

theorem graph_agrees (p : Problem Rat) (limit : Limit) (s : Solution Rat) (planar : p.size = 2)
    (separated : p.lines.Pairwise Line.Apart) (solved : p.solve limit = .ok s) (optimal : s.status = .optimal) :
    ∃ graph report point value, p.graph? = some graph ∧ Sensitivity.ofSolution s = .ok report ∧
      graph.optimum = some (point, value) ∧ p.Agrees s report point value := by
  have accepted := accepted_of_solved solved
  obtain ⟨t, closes⟩ := accepted.closes solved
  obtain ⟨c1, c2, costs, found⟩ := graph_planar planar
  obtain ⟨q, listed, close⟩ := closes.corner planar separated accepted.atMost
  have shown : (p.graphOf c1 c2 p.lines).optimum ≠ none := mt optimum_none_iff.mp (List.ne_nil_of_mem listed)
  obtain ⟨⟨point, value⟩, chosen⟩ := Option.ne_none_iff_exists'.mp shown
  obtain ⟨member, attained, above⟩ := optimum_best chosen
  rw [← objective_planar costs] at attained
  refine ⟨_, _, point, value, found, closes.analyzed accepted solved, chosen, attained.symm, ?_, ?_⟩
  · have near := gain_near costs close
    rw [basic_point_values planar, closes.basic_value] at near
    have top := (up_to_iff p _ _).mp (above q ((mem_region q).mpr listed))
    rw [← objective_planar costs] at top
    exact le_trans near top
  · rw [attained]
    exact closes.corner_le planar accepted.atMost optimal ((mem_region point).mp member)

theorem thrift_apart : thrift.lines.Pairwise Line.Apart := by
  rw [lines_planar rfl]
  norm_num [thrift, workshop, Problem.planar, Constraint.line, Line.Apart, Line.determinant]

theorem thrift_agrees : thrift.size = 2 ∧ thrift.lines.Pairwise Line.Apart ∧
    ∃ s graph report point value, thrift.solve .standard = .ok s ∧ s.status = .optimal ∧ s.value = -36 ∧
      thrift.graph? = some graph ∧ graph.optimum = some (point, value) ∧ thrift.Agrees s report point value ∧
      value ≤ -36 + 8 / 10 ^ 6 := by
  obtain ⟨s, _, solved, _⟩ := thrift_accepted.solved 50 (by decide)
  have ending : (thrift.record 50).getLast?.map (fun t => (t.endStatus, t.value)) = some (.optimal, 36) := by cbv
  obtain ⟨_, _, noted, status, reported⟩ := solve_noted solved _ ending
  obtain ⟨ended, worth⟩ := Prod.mk.inj noted
  have optimal := status.trans ended
  have cost : s.value = -36 := reported.trans (congrArg (-·) worth)
  obtain ⟨graph, report, point, value, found, _, best, agrees⟩ :=
    graph_agrees thrift .standard s rfl thrift_apart solved optimal
  refine ⟨rfl, thrift_apart, s, graph, report, point, value, solved, optimal, cost, found, best, agrees, ?_⟩
  have least := agrees.least
  rw [cost] at least
  norm_num [sign, thrift] at least
  linarith

end Problem

end LinProg
