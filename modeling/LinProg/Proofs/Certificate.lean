import LinProg.Proofs.ShadowPrice

set_option autoImplicit false

namespace LinProg

open Finset

namespace Sensitivity

def priceAt (report : Sensitivity Rat) (i : Nat) : Rat := (report.shadowPrices.map (·.2)).getD i 0

def costAt (report : Sensitivity Rat) (j : Nat) : Rat := (report.reducedCosts.map (·.2)).getD j 0

end Sensitivity

namespace Problem

def sign (p : Problem Rat) : Rat := if p.maximize then 1 else -1

structure Certificate (p : Problem Rat) (s : Solution Rat) (report : Sensitivity Rat) : Prop where
  price_names : report.shadowPrices.map (·.1) = Extended.slackNames p.constraints.length
  cost_names : report.reducedCosts.map (·.1) = p.names
  value : ∑ i ∈ range p.constraints.length, report.priceAt i * p.bound i = s.value
  costs : ∀ j < p.size, report.costAt j =
    ∑ i ∈ range p.constraints.length, p.sign * report.priceAt i * p.coefficient i j - p.sign * p.objective.getD j 0
  unused : ∀ j < p.size, report.costAt j * (s.point.map (·.2)).getD j 0 = 0
  unspent : ∀ i < p.constraints.length, report.priceAt i * (p.slacks (s.point.map (·.2))).getD i 0 = 0
  prices_least : s.status = .optimal → ∀ i < p.constraints.length, -(1 / 10 ^ 10) ≤ p.sign * report.priceAt i
  costs_least : s.status = .optimal → ∀ j < p.size, -(1 / 10 ^ 10) ≤ report.costAt j

theorem sign_mul_sign (p : Problem Rat) : p.sign * p.sign = 1 := by
  rw [sign]
  cases p.maximize <;> norm_num

theorem abs_sign (p : Problem Rat) : |p.sign| = 1 := by
  rw [sign]
  cases p.maximize <;> simp

theorem sign_mul_objective (p : Problem Rat) (x : List Rat) : p.sign * p.objectiveValue x = p.gain x := by
  rw [sign, gain]
  cases p.maximize <;> simp

theorem gain_cost_eq (p : Problem Rat) (j : Nat) : p.gainCost j = p.sign * p.objective.getD j 0 := by
  rw [sign, gainCost]
  cases p.maximize <;> simp

end Problem

namespace Tableau

open Matrix Problem

variable {p : Problem Rat} {t : Tableau Rat}

theorem price_at (t : Tableau Rat) {i : Nat} (inside : i < p.constraints.length) :
    (Sensitivity.ofTableau p t).priceAt i = p.sign * t.entryAt t.height (p.size + i) := by
  have listed := Sensitivity.shadow_price_at p t inside
  rw [Sensitivity.priceAt, List.getD_eq_getElem?_getD, List.getElem?_map, listed, entry_objective]
  rfl

theorem cost_at (t : Tableau Rat) {j : Nat} (decision : j < p.size) :
    (Sensitivity.ofTableau p t).costAt j = t.entryAt t.height j := by
  have named : j < p.names.length := decision
  rw [entry_objective]
  simp [Sensitivity.costAt, Sensitivity.ofTableau, named]

theorem signed_price_at (t : Tableau Rat) {i : Nat} (inside : i < p.constraints.length) :
    p.sign * (Sensitivity.ofTableau p t).priceAt i = t.entryAt t.height (p.size + i) := by
  rw [price_at t inside, ← mul_assoc, sign_mul_sign, one_mul]

theorem Rewrites.value_sum (rewrites : Rewrites p t) :
    t.value = ∑ i ∈ range p.constraints.length, t.entryAt t.height (p.size + i) * p.bound i := by
  rw [rewrites.value_eq, rewrites.height, sum_range]
  rfl

theorem Rewrites.cost_sum (rewrites : Rewrites p t) {j : Nat} (decision : j < p.size) :
    t.entryAt t.height j =
      ∑ i ∈ range p.constraints.length, t.entryAt t.height (p.size + i) * p.coefficient i j - p.gainCost j := by
  have cost := congrFun rewrites.decision_costs ⟨j, decision⟩
  rw [rewrites.height, sum_range]
  exact cost

theorem Noted.of_tableau {s : Tableau Rat} (noted : Noted t s) (p : Problem Rat) :
    Sensitivity.ofTableau p s = Sensitivity.ofTableau p t := by
  simp only [Sensitivity.ofTableau, Sensitivity.rangeAt, noted.rows, noted.objective]

end Tableau

namespace Problem

open Tableau

theorem Closes.signed_value {p : Problem Rat} {s : Solution Rat} {t : Tableau Rat} (closes : Closes p s t) :
    p.sign * s.value = t.value := by
  rw [closes.value, reported_value_eq]
  change p.sign * (p.sign * t.value) = t.value
  rw [← mul_assoc, sign_mul_sign, one_mul]

theorem Closes.certificate {p : Problem Rat} {s : Solution Rat} {t : Tableau Rat} (closes : Closes p s t) :
    p.Certificate s (Sensitivity.ofTableau p t) := by
  have based := closes.ready.toBased
  have numVars := closes.rewrites.numVars
  refine ⟨?_, ?_, ?_, ?_, ?_, ?_, ?_, ?_⟩
  · rw [Sensitivity.ofTableau, List.map_map]
    exact List.zipIdx_map_fst 0 _
  · rw [Sensitivity.ofTableau, List.map_map]
    exact List.zipIdx_map_fst 0 _
  · rw [closes.value, reported_value_eq, closes.rewrites.value_sum, mul_sum]
    refine sum_congr rfl ?_
    intro i member
    rw [price_at t (mem_range.mp member), sign, mul_assoc]
  · intro j decision
    rw [cost_at t decision, closes.rewrites.cost_sum decision, gain_cost_eq]
    congr 1
    refine sum_congr rfl ?_
    intro i member
    rw [signed_price_at t (mem_range.mp member)]
  · intro j decision
    rw [cost_at t decision, closes.point_values, point_of_get _ _ j decision]
    exact based.objective_spread _ (by omega)
  · intro i inside
    have slacks := closes.rewrites.slacks_of_solves based.solves_basic
    rw [price_at t inside, closes.point_values, slacks, point_of_get _ _ i inside, mul_assoc]
    rw [basicSolution, based.objective_spread _ (by omega), mul_zero]
  · intro optimal i inside
    rw [signed_price_at t inside, ← tolerance_rational]
    exact closes.optimal optimal _ (by omega)
  · intro optimal j decision
    rw [cost_at t decision, ← tolerance_rational]
    exact closes.optimal optimal _ (by omega)

theorem Closes.analyzed {p : Problem Rat} {s : Solution Rat} {t : Tableau Rat} (closes : Closes p s t)
    (accepted : p.Accepted) {limit : Limit} (solved : p.solve limit = .ok s) :
    Sensitivity.ofSolution s = .ok (Sensitivity.ofTableau p t) := by
  obtain ⟨final, last, _, analyzed⟩ := accepted.analyzed solved
  obtain ⟨again, kept, noted⟩ := closes.last
  rw [last] at kept
  cases kept
  rw [← noted.of_tableau]
  exact analyzed

theorem dual_certificate (p : Problem Rat) (limit : Int) (accepted : p.Accepted) (nonneg : 0 ≤ limit) :
    ∃ s report, p.solve (.count limit) = .ok s ∧ Sensitivity.ofSolution s = .ok report ∧ p.Certificate s report := by
  obtain ⟨s, t, solved, closes⟩ := accepted.solved limit nonneg
  exact ⟨s, _, solved, closes.analyzed accepted solved, closes.certificate⟩

-- Each unit of the second bound lowers the least cost by three halves.
theorem thrift_certified : thrift.Accepted ∧ (0 : Int) ≤ 50 ∧ ∃ s report, thrift.solve (.count 50) = .ok s ∧
    Sensitivity.ofSolution s = .ok report ∧ s.status = .optimal ∧ s.value = -36 ∧ report.priceAt 1 = -3 / 2 ∧
    thrift.Certificate s report := by
  obtain ⟨s, report, solved, analyzed, certificate⟩ := dual_certificate thrift 50 thrift_accepted (by decide)
  have ending : (thrift.record 50).getLast?.map (fun t =>
      (t.endStatus, t.value, t.objective.entry 3)) = some (.optimal, 36, 3 / 2) := by cbv
  obtain ⟨final, kept, noted, status, reported⟩ := solve_noted solved _ ending
  simp only [Prod.mk.injEq] at noted
  obtain ⟨ended, worth, entry⟩ := noted
  have value : s.value = -36 := reported.trans (congrArg (-·) worth)
  obtain rfl := thrift_accepted.report_eq solved kept analyzed
  refine ⟨thrift_accepted, by decide, s, _, solved, analyzed, status.trans ended, value, ?_, certificate⟩
  rw [price_at final (by decide), entry_objective, show final.objective.entry (thrift.size + 1) = 3 / 2 from entry]
  norm_num [sign, thrift]

end Problem

end LinProg
