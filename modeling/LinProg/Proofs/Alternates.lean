import LinProg.Proofs.Optimality

set_option autoImplicit false

namespace LinProg.Tableau

section Names

variable {K : Type} {t : Tableau K}

theorem reduced_cost_ok (labels : Labelled t) {name : Label} (free : name ∈ t.nonbasic) :
    Solution.reducedCost t name = .ok (t.objective.entry (t.columns.idxOf name)) := by
  have member := labels.nonbasic_member free
  have wide : t.columns.idxOf name < t.width := Nat.lt_succ_of_lt (labels.name_at_place member).1
  rw [Solution.reducedCost, columnOf, Label.place_in_member member, Outcome.ok_bind, if_pos wide]
  rfl

variable [Scalar K]

def flatNames (t : Tableau K) : List Label :=
  t.nonbasic.filter fun name => decide (Scalar.abs (t.objective.entry (t.columns.idxOf name)) ≤ tolerance)

theorem flat_names_ok (labels : Labelled t) :
    (t.nonbasic.filterM fun name => do
      return decide (Scalar.abs (← Solution.reducedCost t name) ≤ tolerance)) = .ok t.flatNames := by
  apply Outcome.filterM_ok
  intro name free
  rw [reduced_cost_ok labels free, Outcome.ok_bind]
  rfl

theorem alternate_optima_ok {s : Solution K} (labels : Labelled t) (last : s.history.getLast? = some t) :
    s.alternateOptima = .ok (if s.status = .optimal then t.flatNames else []) := by
  by_cases optimal : s.status = .optimal
  · simp only [Solution.alternateOptima, Solution.final, Solution.isOptimal, optimal, last, Outcome.ok_bind]
    exact flat_names_ok labels
  · simp [Solution.alternateOptima, Solution.isOptimal, optimal, pure, Except.pure]

end Names

structure Tied (t : Tableau Rat) (j : Nat) : Prop extends Free t j where
  flat : |t.entryAt t.height j| ≤ tolerance

def alternates (t : Tableau Rat) : List Label :=
  t.nonbasic.filter fun name => decide (|t.objective.entry (t.columns.idxOf name)| ≤ tolerance)

variable {t s : Tableau Rat}

theorem Noted.alternates (noted : Noted t s) : s.alternates = t.alternates := by
  simp only [Tableau.alternates, noted.nonbasic, noted.objective, noted.columns]

theorem mem_alternates (labels : Labelled t) (name : Label) :
    name ∈ t.alternates ↔ ∃ j, Tied t j ∧ t.nameAt j = name := by
  constructor
  · intro member
    obtain ⟨free, flat⟩ := List.mem_filter.mp member
    obtain ⟨wide, here⟩ := labels.name_at_place (labels.nonbasic_member free)
    refine ⟨_, ⟨⟨wide, by rw [here]; exact free⟩, ?_⟩, here⟩
    simpa [entry_objective] using flat
  · intro ⟨j, tied, here⟩
    subst name
    obtain ⟨wide, same⟩ := labels.name_at_place (labels.nonbasic_member tied.name)
    have flat := tied.flat
    rw [← labels.name_at_injective wide tied.wide same, entry_objective] at flat
    exact List.mem_filter.mpr ⟨tied.name, by simpa using flat⟩

theorem flat_names_rational (t : Tableau Rat) : t.flatNames = t.alternates := by
  simp only [flatNames, alternates, Scalar.abs_rational]

-- What could enter without being tied would lose more than the tolerance.
theorem Free.positive {j : Nat} (free : Free t j) (least : -tolerance ≤ t.entryAt t.height j) (loose : ¬ Tied t j) :
    0 < t.entryAt t.height j := by
  have steep : tolerance < |t.entryAt t.height j| := by
    by_contra flat
    exact loose ⟨free, not_lt.mp flat⟩
  rw [tolerance_rational] at least steep
  rcases lt_abs.mp steep with above | below <;> linarith

end LinProg.Tableau

namespace LinProg.Problem

open Tableau Finset

namespace Closes

variable {p : Problem Rat} {s : Solution Rat} {t : Tableau Rat}

theorem alternates (closes : Closes p s t) :
    s.alternateOptima = .ok (if s.status = .optimal then t.alternates else []) := by
  obtain ⟨final, last, noted⟩ := closes.last
  rw [alternate_optima_ok (noted.labelled closes.ready.labels) last, flat_names_rational, noted.alternates]

theorem free_positive (closes : Closes p s t) (optimal : s.status = .optimal) {j : Nat} (wide : j < t.numVars)
    (free : t.seat? j = none) (loose : ¬ Tied t j) : 0 < t.entryAt t.height j := by
  have labels := closes.ready.labels
  have name := (labels.covered (labels.name_at_member wide)).resolve_left ((labels.seat_none_iff wide).mp free)
  exact Free.positive ⟨wide, name⟩ (closes.optimal optimal j wide) loose

-- At a point as good as the reported one nothing is lost, so no variable that costs something is above zero.
theorem zero_of_costly (closes : Closes p s t) (atMost : ∀ c ∈ p.constraints, c.sense = .atMost)
    (nonneg : ∀ k < t.numVars, 0 ≤ t.entryAt t.height k) {x : List Rat} (feasible : p.Feasible x)
    (good : t.value ≤ p.gain x) {j : Nat} (wide : j < t.numVars) (costly : 0 < t.entryAt t.height j) :
    (p.withSlacks x).getD j 0 = 0 := by
  have sized := feasible.coordinates
  have long : (p.withSlacks x).length = t.numVars := by
    rw [p.length_with_slacks x sized, closes.rewrites.numVars]
  have each : ∀ k ∈ range t.numVars, 0 ≤ t.entryAt t.height k * (p.withSlacks x).getD k 0 := by
    intro k member
    exact mul_nonneg (nonneg k (mem_range.mp member)) (feasible.with_slacks_nonneg atMost k)
  have spent : ∑ k ∈ range t.numVars, t.entryAt t.height k * (p.withSlacks x).getD k 0 = 0 := by
    have gain := closes.rewrites.gain_eq x sized
    rw [← row_at_height t _ rfl, dot_row_sum t t.height _ long] at gain
    exact le_antisymm (by linarith) (sum_nonneg each)
  have term := (sum_eq_zero_iff_of_nonneg each).mp spent j (mem_range.mpr wide)
  exact (mul_eq_zero.mp term).resolve_left (ne_of_gt costly)

theorem reported_of_free_zero (closes : Closes p s t) {x : List Rat} (sized : x.length = p.size)
    (zero : ∀ k < t.numVars, t.seat? k = none → (p.withSlacks x).getD k 0 = 0) : x = s.point.map (·.2) := by
  rw [closes.point_values]
  apply List.ext_getElem (by rw [sized, length_point_of])
  intro j left right
  have decision : j < p.size := by rw [← sized]; exact left
  have wide : j < t.numVars := by rw [closes.rewrites.numVars]; omega
  have same := closes.ready.basic_unique (closes.rewrites.solves_with_slacks sized) zero wide
  rw [p.with_slacks_decision x sized decision, ← point_of_get p.size t.basicSolution j decision] at same
  rwa [List.getD_eq_getElem _ _ left, List.getD_eq_getElem _ _ right] at same

theorem only_reported (closes : Closes p s t) (atMost : ∀ c ∈ p.constraints, c.sense = .atMost)
    (optimal : s.status = .optimal) (loose : ∀ j, ¬ Tied t j) {x : List Rat} (feasible : p.Feasible x)
    (good : t.value ≤ p.gain x) : x = s.point.map (·.2) := by
  have nonneg : ∀ k < t.numVars, 0 ≤ t.entryAt t.height k := by
    intro k wide
    cases found : t.seat? k with
    | none => exact le_of_lt (closes.free_positive optimal wide found (loose k))
    | some i =>
        have basic := List.mem_of_getElem? ((closes.ready.labels.seat_iff wide).mp found)
        exact le_of_eq (closes.ready.objective_zero wide basic).symm
  apply closes.reported_of_free_zero feasible.coordinates
  intro k wide free
  exact closes.zero_of_costly atMost nonneg feasible good wide (closes.free_positive optimal wide free (loose k))

theorem value_le_gain (closes : Closes p s t) {x : List Rat} (above : p.maximize = true → s.value ≤ p.objectiveValue x)
    (below : p.maximize = false → p.objectiveValue x ≤ s.value) : t.value ≤ p.gain x := by
  rw [closes.value] at above below
  cases sense : p.maximize with
  | true => simpa [reportedValue, gain, sense] using above sense
  | false =>
      have less : p.objectiveValue x ≤ -t.value := by simpa [reportedValue, sense] using below sense
      simpa [gain, sense] using le_neg_of_le_neg less

end Closes

theorem alternates_listed {p : Problem Rat} {limit : Limit} {s : Solution Rat} {final : Tableau Rat}
    (solved : p.solve limit = .ok s) (last : s.history.getLast? = some final) :
    s.alternateOptima = .ok (if s.status = .optimal then final.alternates else []) := by
  obtain ⟨t, closes⟩ := (accepted_of_solved solved).closes solved
  obtain ⟨again, kept, noted⟩ := closes.last
  cases last.symm.trans kept
  rw [closes.alternates, noted.alternates]

theorem solve_listed {α : Type} {p : Problem Rat} {limit : Int} {s : Solution Rat} {value : Rat} {names : List Label}
    {a : α} (solved : p.solve (.count limit) = .ok s) (note : Tableau Rat → α)
    (ending : (p.record limit.toNat).getLast?.map (fun t => (t.endStatus, t.value, t.alternates, note t)) =
      some (.optimal, value, names, a)) :
    ∃ final, s.history.getLast? = some final ∧ note final = a ∧ s.status = .optimal ∧
      s.value = (if p.maximize then value else -value) ∧ s.alternateOptima = .ok names := by
  obtain ⟨final, last, noted, ended, reported⟩ := solve_noted solved _ ending
  simp only [Prod.mk.injEq] at noted
  obtain ⟨status, worth, tied, told⟩ := noted
  have optimal : s.status = .optimal := ended.trans status
  have listed := alternates_listed solved last
  rw [if_pos optimal, tied] at listed
  rw [reportedValue, worth] at reported
  exact ⟨final, last, told, optimal, reported, listed⟩

theorem unique_optimum (p : Problem Rat) (limit : Limit) (s : Solution Rat) (solved : p.solve limit = .ok s) :
    ∃ names, s.alternateOptima = .ok names ∧ (s.status = .optimal → names = [] → ∀ x, p.Feasible x →
      (p.maximize = true → s.value ≤ p.objectiveValue x) →
      (p.maximize = false → p.objectiveValue x ≤ s.value) → x = s.point.map (·.2)) := by
  have accepted := accepted_of_solved solved
  obtain ⟨t, closes⟩ := accepted.closes solved
  refine ⟨_, closes.alternates, ?_⟩
  intro optimal empty x feasible above below
  rw [if_pos optimal] at empty
  apply closes.only_reported accepted.atMost optimal _ feasible (closes.value_le_gain above below)
  intro j tied
  have listed := (mem_alternates closes.ready.labels _).mpr ⟨j, tied, rfl⟩
  rw [empty] at listed
  cases listed

theorem workshop_unique : ∃ s, workshop.solve (.count 50) = .ok s ∧ s.status = .optimal ∧
    s.alternateOptima = .ok [] ∧ s.value = 36 ∧
    ∀ x, workshop.Feasible x → 36 ≤ workshop.objectiveValue x → x = [2, 6] := by
  obtain ⟨s, _, solved, _⟩ := workshop_accepted.solved 50 (by decide)
  have ending : (workshop.record 50).getLast?.map (fun t => (t.endStatus, t.value, t.alternates, t.iteration)) =
      some (.optimal, 36, [], 2) := by cbv
  obtain ⟨_, _, _, optimal, value, listed⟩ := solve_listed solved _ ending
  obtain ⟨names, again, unique⟩ := unique_optimum workshop (.count 50) s solved
  have none : names = [] := Except.ok.inj (again.symm.trans listed)
  have only (x : List Rat) (feasible : workshop.Feasible x) (good : 36 ≤ workshop.objectiveValue x) :
      x = s.point.map (·.2) :=
    unique optimal none x feasible (fun _ => le_of_eq_of_le value good) fun least => absurd least (by decide)
  have corner : workshop.Feasible [2, 6] := (feasible_iff workshop_accepted.atMost _).mpr ⟨rfl, by decide +kernel⟩
  have here := only [2, 6] corner (by decide +kernel)
  refine ⟨s, solved, optimal, listed, value, ?_⟩
  intro x feasible good
  rw [only x feasible good, here]

end LinProg.Problem
