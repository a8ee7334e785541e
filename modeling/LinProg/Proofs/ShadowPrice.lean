import LinProg.Proofs.Analysis
import LinProg.Proofs.Optimality

set_option autoImplicit false

namespace LinProg.Problem

section Bounds

variable {K : Type} [Scalar K]

def movedConstraints (constraints : List (Constraint K)) (i : Nat) (δ : K) : List (Constraint K) :=
  constraints.modify i fun c => { c with rhs := c.rhs + δ }

theorem mem_moved {constraints : List (Constraint K)} {i : Nat} {δ : K} {c : Constraint K}
    (member : c ∈ movedConstraints constraints i δ) :
    ∃ old ∈ constraints, c.coefficients = old.coefficients ∧ c.sense = old.sense := by
  obtain ⟨k, inside, rfl⟩ := List.mem_iff_getElem.mp member
  have within : k < constraints.length := by simpa [movedConstraints] using inside
  refine ⟨constraints[k], List.getElem_mem within, ?_⟩
  simp only [movedConstraints, List.getElem_modify]
  by_cases here : i = k
  · rw [if_pos here]
    exact ⟨rfl, rfl⟩
  · rw [if_neg here]
    exact ⟨rfl, rfl⟩

def moveBound (p : Problem K) (i : Nat) (δ : K) : Problem K where
  objective := p.objective
  constraints := movedConstraints p.constraints i δ
  names := p.names
  maximize := p.maximize
  has_names := p.has_names
  has_constraints := by simpa [movedConstraints] using p.has_constraints
  distinct := p.distinct
  objective_length := p.objective_length
  row_length := by
    intro c member
    obtain ⟨old, listed, same, _⟩ := mem_moved member
    rw [same, p.row_length old listed]

theorem length_move_bound (p : Problem K) (i : Nat) (δ : K) :
    (p.moveBound i δ).constraints.length = p.constraints.length := List.length_modify ..

theorem at_most_move_bound {p : Problem K} (atMost : ∀ c ∈ p.constraints, c.sense = .atMost) (i : Nat) (δ : K) :
    ∀ c ∈ (p.moveBound i δ).constraints, c.sense = .atMost := by
  intro c member
  obtain ⟨old, listed, _, same⟩ := mem_moved member
  rw [same, atMost old listed]

end Bounds

section Points

variable {p : Problem Rat} {i : Nat} {δ : Rat}

theorem slacks_move_bound (x : List Rat) : (p.moveBound i δ).slacks x = (p.slacks x).modify i (· + δ) := by
  refine List.ext_getElem (by simp [slacks, length_move_bound]) ?_
  intro k _ _
  simp only [slacks, moveBound, movedConstraints, List.getElem_map, List.getElem_modify]
  by_cases here : i = k
  · rw [if_pos here, if_pos here]
    exact add_sub_right_comm _ _ _
  · rw [if_neg here, if_neg here]

theorem with_slacks_move_bound (x : List Rat) (sized : x.length = p.size) (inside : i < p.constraints.length) (j : Nat) :
    ((p.moveBound i δ).withSlacks x).getD j 0 = (p.withSlacks x).getD j 0 + if j = p.size + i then δ else 0 := by
  by_cases decision : j < p.size
  · have other : j ≠ p.size + i := by omega
    rw [(p.moveBound i δ).with_slacks_decision x sized decision, p.with_slacks_decision x sized decision, if_neg other,
      add_zero]
  · obtain ⟨k, rfl⟩ := Nat.exists_eq_add_of_le (Nat.le_of_not_lt decision)
    have slack := (p.moveBound i δ).with_slacks_slack x sized k
    rw [show (p.moveBound i δ).size = p.size from rfl] at slack
    rw [slack, p.with_slacks_slack x sized, slacks_move_bound]
    simp only [List.getD_eq_getElem?_getD, List.getElem?_modify]
    by_cases here : i = k
    · subst k
      simp [p.length_slacks x, inside]
    · simp [here, Ne.symm here]

end Points

end LinProg.Problem

namespace LinProg.Tableau

open Problem Finset

def movedSolution (t : Tableau Rat) (j : Nat) (δ : Rat) : Nat → Rat :=
  t.spread fun r => (t.rowAt r).rhs + δ * (t.rowAt r).entry j

namespace Recorded

variable {p : Problem Rat} {t : Tableau Rat} {i : Nat} {δ : Rat}

theorem slack_wide (recorded : Recorded p t) (inside : i < p.constraints.length) : p.size + i < t.numVars := by
  rw [recorded.rewrites.numVars]
  omega

theorem column_of_slack (recorded : Recorded p t) (inside : i < p.constraints.length) :
    t.columnOf (Extended.slackName i) = .ok (p.size + i) := by
  have labels := recorded.ready.labels
  have wide := recorded.slack_wide inside
  have name := name_slack recorded.columns i inside
  have member := labels.name_at_member wide
  rw [name] at member
  obtain ⟨placed, found⟩ := labels.name_at_place member
  rw [columnOf, Label.place_in_member member, labels.name_at_injective placed wide (found.trans name.symm)]

-- The numbers before the bound moved: the slack of the constraint gives back what the bound gained.
theorem solves_unmoved (recorded : Recorded p t) (inside : i < p.constraints.length) :
    t.Solves fun k => t.movedSolution (p.size + i) δ k + if k = p.size + i then -δ else 0 := by
  intro r below
  have wide := recorded.slack_wide inside
  rw [sum_mul_shift _ _ wide, movedSolution, recorded.ready.sum_spread _ r below, entry_rhs, entryAt]
  ring

theorem point_unmoved :
    pointOf p.size (fun k => t.movedSolution (p.size + i) δ k + if k = p.size + i then -δ else 0) =
      pointOf p.size (t.movedSolution (p.size + i) δ) := by
  refine List.map_congr_left ?_
  intro k member
  have decision := List.mem_range.mp member
  rw [if_neg (by omega), add_zero]

theorem moved_slacks (recorded : Recorded p t) (inside : i < p.constraints.length) :
    (p.moveBound i δ).slacks (pointOf p.size (t.movedSolution (p.size + i) δ)) =
      pointOf p.constraints.length fun k => t.movedSolution (p.size + i) δ (p.size + k) := by
  have before := recorded.rewrites.slacks_of_solves (recorded.solves_unmoved (δ := δ) inside)
  rw [point_unmoved] at before
  rw [slacks_move_bound, before]
  refine List.ext_getElem (by simp [pointOf]) ?_
  intro k _ _
  simp only [pointOf, List.getElem_modify, List.getElem_map, List.getElem_range]
  by_cases here : i = k
  · subst k
    simp
  · simp [here, Ne.symm here]

theorem moved_feasible (recorded : Recorded p t) (atMost : ∀ c ∈ p.constraints, c.sense = .atMost)
    (inside : i < p.constraints.length) (level : ∀ row ∈ t.rows, 0 ≤ row.rhs + δ * row.entry (p.size + i)) :
    (p.moveBound i δ).Feasible (pointOf p.size (t.movedSolution (p.size + i) δ)) := by
  refine (feasible_iff (at_most_move_bound atMost i δ) _).mpr ⟨length_point_of _ _, ?_⟩
  intro x member
  rw [withSlacks, recorded.moved_slacks inside, ← point_of_add] at member
  obtain ⟨k, within, rfl⟩ := List.mem_map.mp member
  refine recorded.ready.labels.spread_nonneg _ ?_ k ?_
  · intro r below
    rw [rowAt, List.getD_eq_getElem _ _ below]
    exact level _ (List.getElem_mem below)
  · rw [recorded.rewrites.numVars]
    exact List.mem_range.mp within

theorem moved_gain (recorded : Recorded p t) (inside : i < p.constraints.length) :
    p.gain (pointOf p.size (t.movedSolution (p.size + i) δ)) = t.value + δ * t.entryAt t.height (p.size + i) := by
  have wide := recorded.slack_wide inside
  have gain := recorded.rewrites.gain_of_solves (recorded.solves_unmoved (δ := δ) inside)
  rw [point_unmoved, sum_mul_shift _ _ wide, movedSolution, recorded.ready.sum_spread_objective] at gain
  rw [movedSolution, gain]
  ring

theorem gain_le_moved (recorded : Recorded p t) (atMost : ∀ c ∈ p.constraints, c.sense = .atMost)
    (inside : i < p.constraints.length) {e : Rat} (least : ∀ j < t.numVars, -e ≤ t.entryAt t.height j) {x : List Rat}
    (feasible : (p.moveBound i δ).Feasible x) :
    p.gain x ≤ t.value + δ * t.entryAt t.height (p.size + i) + e * (x.sum + ((p.moveBound i δ).slacks x).sum) := by
  have sized : x.length = p.size := feasible.coordinates
  have wide := recorded.slack_wide inside
  have long : (p.withSlacks x).length = t.numVars := by
    rw [p.length_with_slacks x sized, recorded.rewrites.numVars]
  have weighed := neg_mul_sum_le least (feasible.with_slacks_nonneg (at_most_move_bound atMost i δ))
  have total := (p.moveBound i δ).sum_with_slacks x feasible.coordinates
  rw [length_move_bound, show (p.moveBound i δ).size = p.size from rfl, ← recorded.rewrites.numVars] at total
  rw [← total] at weighed
  simp only [with_slacks_move_bound x sized inside] at weighed
  rw [sum_mul_shift _ _ wide, ← dot_row_sum t t.height _ long, row_at_height t _ rfl] at weighed
  rw [recorded.rewrites.gain_eq x sized]
  linarith

end Recorded

end LinProg.Tableau

namespace LinProg.Problem

open Tableau

-- The point has the value, and none is better by more than the tolerance for each unit of its variables and slacks.
structure NearOptimum (p : Problem Rat) (point : List Rat) (value : Rat) : Prop where
  feasible : p.Feasible point
  attained : p.objectiveValue point = value
  above : p.maximize = true → ∀ x, p.Feasible x →
    p.objectiveValue x ≤ value + 1 / 10 ^ 10 * (x.sum + (p.slacks x).sum)
  below : p.maximize = false → ∀ x, p.Feasible x →
    value - 1 / 10 ^ 10 * (x.sum + (p.slacks x).sum) ≤ p.objectiveValue x

theorem near_optimum_moved {p : Problem Rat} {t : Tableau Rat} {i : Nat} {δ : Rat} (recorded : Recorded p t)
    (atMost : ∀ c ∈ p.constraints, c.sense = .atMost) (inside : i < p.constraints.length)
    (least : ∀ j < t.numVars, -tolerance ≤ t.entryAt t.height j)
    (level : ∀ row ∈ t.rows, 0 ≤ row.rhs + δ * row.entry (p.size + i)) :
    (p.moveBound i δ).NearOptimum (pointOf p.size (t.movedSolution (p.size + i) δ))
      (t.reportedValue p.maximize + (if p.maximize then 1 else -1) * t.objective.entry (p.size + i) * δ) := by
  have gain := recorded.moved_gain (δ := δ) inside
  have bound (x : List Rat) (feasible : (p.moveBound i δ).Feasible x) :=
    recorded.gain_le_moved atMost inside least feasible
  simp only [entry_objective, tolerance_rational] at gain bound
  refine ⟨recorded.moved_feasible atMost inside level, ?_, ?_, ?_⟩
  · change p.objectiveValue _ = _
    rw [p.objective_eq_gain, gain, reported_value_eq]
    ring
  · intro maximize x feasible
    change p.objectiveValue x ≤ _
    rw [p.objective_eq_gain, reported_value_eq]
    simp only [show p.maximize = true from maximize, if_true, one_mul]
    linarith [bound x feasible]
  · intro minimize x feasible
    change _ ≤ p.objectiveValue x
    rw [p.objective_eq_gain, reported_value_eq]
    simp only [show p.maximize = false from minimize, Bool.false_eq_true, if_false]
    linarith [bound x feasible]

theorem shadow_price_rate (p : Problem Rat) (limit : Int) (accepted : p.Accepted) (nonneg : 0 ≤ limit) :
    ∃ s, p.solve (.count limit) = .ok s ∧ (s.status = .optimal →
      ∃ final report, s.history.getLast? = some final ∧ Sensitivity.ofSolution s = .ok report ∧
        ∀ i < p.constraints.length, ∃ j price, final.columnOf (Extended.slackName i) = .ok j ∧
          report.shadowPrices[i]? = some (Extended.slackName i, price) ∧
          ∀ δ : Rat, (∀ row ∈ final.rows, 0 ≤ row.rhs + δ * row.entry j) →
            (p.moveBound i δ).NearOptimum (pointOf p.size (final.movedSolution j δ)) (s.value + price * δ)) := by
  obtain ⟨s, t, solved, closes⟩ := accepted.solved limit nonneg
  obtain ⟨final, last, recorded, analyzed⟩ := accepted.analyzed solved
  obtain ⟨again, lastAgain, noted⟩ := closes.last
  rw [last] at lastAgain
  cases lastAgain
  refine ⟨s, solved, ?_⟩
  intro optimal
  refine ⟨final, _, last, analyzed, ?_⟩
  intro i inside
  refine ⟨_, _, recorded.column_of_slack inside, Sensitivity.shadow_price_at p final inside, ?_⟩
  intro δ level
  have least : ∀ j < final.numVars, -tolerance ≤ final.entryAt final.height j := by
    rw [noted.entries, noted.height, noted.num_vars]
    exact closes.optimal optimal
  rw [(solve_last solved last).2]
  exact near_optimum_moved recorded accepted.atMost inside least level

-- The same plan as one of least cost.
def thrift : Problem Rat :=
  { workshop with objective := [-3, -5], maximize := false, objective_length := rfl }

theorem thrift_accepted : thrift.Accepted :=
  ⟨workshop_accepted.atMost, workshop_accepted.origin, workshop_accepted.apart⟩

theorem thrift_price : thrift.Accepted ∧ (0 : Int) ≤ 50 ∧ ∃ s final report j, thrift.solve (.count 50) = .ok s ∧
    s.status = .optimal ∧ s.value = -36 ∧ s.history.getLast? = some final ∧ Sensitivity.ofSolution s = .ok report ∧
    final.columnOf (Extended.slackName 1) = .ok j ∧
    report.shadowPrices[1]? = some (Extended.slackName 1, (-3 / 2 : Rat)) ∧
    (∀ row ∈ final.rows, 0 ≤ row.rhs + 2 * row.entry j) ∧
    (thrift.moveBound 1 2).NearOptimum (pointOf 2 (final.movedSolution j 2)) (-39) := by
  obtain ⟨s, solved, priced⟩ := shadow_price_rate thrift 50 thrift_accepted (by decide)
  have ending : (thrift.record 50).getLast?.map (fun t =>
      (t.endStatus, t.value, t.objective.entry 3, t.rows.all fun row => decide (0 ≤ row.rhs + 2 * row.entry 3))) =
      some (.optimal, 36, 3 / 2, true) := by cbv
  obtain ⟨final, kept, noted, status, reported⟩ := solve_noted solved _ ending
  simp only [Prod.mk.injEq] at noted
  obtain ⟨ended, worth, entry, above⟩ := noted
  have value : s.value = -36 := reported.trans (congrArg (-·) worth)
  obtain ⟨again, report, same, analyzed, prices⟩ := priced (status.trans ended)
  rw [kept] at same
  cases same
  obtain ⟨j, price, column, listed, moved⟩ := prices 1 (by decide)
  obtain ⟨other, lastOther, recorded, reading⟩ := thrift_accepted.analyzed solved
  rw [kept] at lastOther
  cases lastOther
  rw [analyzed] at reading
  cases reading
  rw [recorded.column_of_slack (by decide)] at column
  cases column
  have cost : price = -3 / 2 := by
    rw [Sensitivity.shadow_price_at thrift final (by decide)] at listed
    have same := (Prod.mk.inj (Option.some.inj listed)).2
    rw [← same, show final.objective.entry (thrift.size + 1) = 3 / 2 from entry]
    norm_num [thrift]
  have level : ∀ row ∈ final.rows, 0 ≤ row.rhs + 2 * row.entry 3 := by simpa using above
  have optimum := moved 2 level
  rw [cost, value] at optimum
  norm_num at optimum
  rw [cost] at listed
  exact ⟨thrift_accepted, by decide, s, final, _, 3, solved, status.trans ended, value, kept, analyzed,
    recorded.column_of_slack (by decide), listed, level, optimum⟩

end LinProg.Problem
