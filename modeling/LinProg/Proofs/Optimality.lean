import LinProg.Proofs.BasicPoint

set_option autoImplicit false

namespace LinProg.Problem

open Tableau Finset

variable {p : Problem Rat}

theorem Feasible.with_slacks_nonneg {x : List Rat} (feasible : p.Feasible x)
    (atMost : ∀ c ∈ p.constraints, c.sense = .atMost) (j : Nat) : 0 ≤ (p.withSlacks x).getD j 0 :=
  Scalar.getD_nonneg ((feasible_iff atMost x).mp feasible).2 j

theorem objective_eq_gain (p : Problem Rat) (x : List Rat) :
    p.objectiveValue x = (if p.maximize then 1 else -1) * p.gain x := by
  unfold gain
  cases p.maximize <;> simp

theorem reported_value_eq (t : Tableau Rat) (maximize : Bool) :
    t.reportedValue maximize = (if maximize then 1 else -1) * t.value := by
  unfold reportedValue
  cases maximize <;> simp

theorem neg_mul_sum_le {n : Nat} {f v : Nat → Rat} {e : Rat} (least : ∀ j < n, -e ≤ f j) (nonneg : ∀ j, 0 ≤ v j) :
    -e * ∑ j ∈ range n, v j ≤ ∑ j ∈ range n, f j * v j := by
  rw [mul_sum]
  refine sum_le_sum ?_
  intro j member
  exact mul_le_mul_of_nonneg_right (least j (mem_range.mp member)) (nonneg j)

-- Each entry of the objective row is at least -e, and a feasible point weighs them with nothing negative.
theorem Feasible.gain_le {t : Tableau Rat} {x : List Rat} {e : Rat} (feasible : p.Feasible x)
    (atMost : ∀ c ∈ p.constraints, c.sense = .atMost) (rewrites : Rewrites p t)
    (least : ∀ j < t.numVars, -e ≤ t.entryAt t.height j) :
    p.gain x ≤ t.value + e * (x.sum + (p.slacks x).sum) := by
  have sized := feasible.coordinates
  have long : (p.withSlacks x).length = t.numVars := by
    rw [p.length_with_slacks x sized, rewrites.numVars]
  have weighed := neg_mul_sum_le least (feasible.with_slacks_nonneg atMost)
  have total := p.sum_with_slacks x sized
  rw [← rewrites.numVars] at total
  rw [← total, ← dot_row_sum t t.height _ long, row_at_height t _ rfl] at weighed
  rw [rewrites.gain_eq x sized]
  linarith

structure Optimum (p : Problem Rat) (value : Rat) : Prop where
  attained : ∃ x, p.Feasible x ∧ p.objectiveValue x = value
  above : p.maximize = true → ∀ x, p.Feasible x → p.objectiveValue x ≤ value
  below : p.maximize = false → ∀ x, p.Feasible x → value ≤ p.objectiveValue x

namespace Closes

variable {s : Solution Rat} {t : Tableau Rat}

theorem objective_le (closes : Closes p s t) (maximize : p.maximize = true) (x : List Rat) (e : Rat)
    (bounded : p.gain x ≤ t.value + e) : p.objectiveValue x ≤ s.value + e := by
  rw [closes.value]
  simpa [gain, reportedValue, maximize] using bounded

theorem le_objective (closes : Closes p s t) (minimize : p.maximize = false) (x : List Rat) (e : Rat)
    (bounded : p.gain x ≤ t.value + e) : s.value - e ≤ p.objectiveValue x := by
  rw [closes.value]
  simp only [gain, reportedValue, minimize] at bounded ⊢
  simp only [Bool.false_eq_true, if_false] at bounded ⊢
  linarith

theorem optimum (closes : Closes p s t) (atMost : ∀ c ∈ p.constraints, c.sense = .atMost)
    (least : ∀ j < t.numVars, 0 ≤ t.entryAt t.height j) : p.Optimum s.value := by
  have bounded (x : List Rat) (feasible : p.Feasible x) : p.gain x ≤ t.value + 0 := by
    have exactly := feasible.gain_le (e := 0) atMost closes.rewrites (by simpa using least)
    rwa [zero_mul] at exactly
  refine ⟨⟨_, closes.basic_feasible atMost, closes.basic_value⟩, ?_, ?_⟩
  · intro maximize x feasible
    simpa using closes.objective_le maximize x 0 (bounded x feasible)
  · intro minimize x feasible
    simpa using closes.le_objective minimize x 0 (bounded x feasible)

end Closes

theorem optimal_sound (p : Problem Rat) (limit : Int) (accepted : p.Accepted) (nonneg : 0 ≤ limit) :
    ∃ s, p.solve (.count limit) = .ok s ∧ (s.status = .optimal →
      (∀ x, p.Feasible x →
        (p.maximize = true → p.objectiveValue x ≤ s.value + 1 / 10 ^ 10 * (x.sum + (p.slacks x).sum)) ∧
        (p.maximize = false → s.value - 1 / 10 ^ 10 * (x.sum + (p.slacks x).sum) ≤ p.objectiveValue x)) ∧
      ∃ final, s.history.getLast? = some final ∧
        ((∀ entry ∈ final.objective.coefficients, 0 ≤ entry) → p.Optimum s.value)) := by
  obtain ⟨s, t, solved, closes⟩ := accepted.solved limit nonneg
  obtain ⟨final, last, noted⟩ := closes.last
  refine ⟨s, solved, ?_⟩
  intro optimal
  refine ⟨?_, final, last, ?_⟩
  · intro x feasible
    have bounded := feasible.gain_le accepted.atMost closes.rewrites (closes.optimal optimal)
    rw [tolerance_rational] at bounded
    exact ⟨fun maximize => closes.objective_le maximize x _ bounded,
      fun minimize => closes.le_objective minimize x _ bounded⟩
  · intro positive
    refine closes.optimum accepted.atMost ?_
    intro j wide
    rw [noted.objective] at positive
    unfold entryAt Row.entry
    rw [row_at_height t _ rfl, List.getD_eq_getElem _ _ wide]
    exact positive _ (List.getElem_mem wide)

theorem workshop_optimum : workshop.Accepted ∧ (0 : Int) ≤ 50 ∧ ∃ s, workshop.solve (.count 50) = .ok s ∧
    s.status = .optimal ∧ workshop.Optimum 36 ∧ ∀ x, workshop.Feasible x →
      workshop.objectiveValue x ≤ 36 + 1 / 10 ^ 10 * (x.sum + (workshop.slacks x).sum) := by
  obtain ⟨s, solved, sound⟩ := optimal_sound workshop 50 workshop_accepted (by decide)
  have ending : (workshop.record 50).getLast?.map (fun t =>
      (t.endStatus, t.value, t.objective.coefficients.all (0 ≤ ·))) = some (.optimal, 36, true) := by cbv
  obtain ⟨final, last, noted⟩ := Option.map_eq_some_iff.mp ending
  obtain ⟨ended, noted⟩ := Prod.mk.inj noted
  obtain ⟨worth, positive⟩ := Prod.mk.inj noted
  have kept : s.history.getLast? = some final := (congrArg List.getLast? (solve_record solved)).trans last
  obtain ⟨status, reported⟩ := solve_last solved kept
  have value : s.value = 36 := reported.trans worth
  obtain ⟨bounded, other, same, exactly⟩ := sound (status.trans ended)
  rw [kept] at same
  cases same
  rw [value] at bounded exactly
  refine ⟨workshop_accepted, by decide, s, solved, status.trans ended, exactly ?_, ?_⟩
  · intro entry member
    exact of_decide_eq_true (List.all_eq_true.mp positive entry member)
  · intro x feasible
    exact (bounded x feasible).1 rfl

end LinProg.Problem
