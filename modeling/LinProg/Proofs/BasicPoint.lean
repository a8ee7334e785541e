import LinProg.Proofs.Points
import LinProg.Proofs.Solve
import LinProg.Proofs.Values

set_option autoImplicit false

namespace LinProg.Tableau

theorem length_values {K : Type} (t : Tableau K) : t.basic.length = (t.rows.map (·.rhs)).length := by
  rw [List.length_map, t.basic_length]

theorem values_of_written {K : Type} [Scalar K] {t : Tableau K} (labels : Labelled t) {names : List Label}
    (distinct : Label.Distinct names) :
    t.valuesOf names = Assignment.written names fun name =>
      (Assignment.get? name (t.basic.zip (t.rows.map (·.rhs)))).getD 0 := by
  have keys : (t.basic.zip (t.rows.map (·.rhs))).map (·.1) = t.basic := List.map_fst_zip (Nat.le_of_eq t.length_values)
  have once : Label.Distinct ((t.basic.zip (t.rows.map (·.rhs))).map (·.1)) := by
    rw [keys]
    exact labels.basic_distinct
  have blank : Assignment.ofPairs (names.map fun name => (name, (0 : K))) = Assignment.written names fun _ => 0 := by
    refine Assignment.of_pairs_distinct _ ?_
    change Label.Distinct ((Assignment.written names fun _ => (0 : K)).map (·.1))
    rw [Assignment.written_names]
    exact distinct
  unfold valuesOf basicValues
  rw [Assignment.of_pairs_distinct _ once, blank]
  exact Assignment.store_all_written distinct _ _ once

theorem value_at {t : Tableau Rat} (labels : Labelled t) (j : Nat) (wide : j < t.numVars) :
    (Assignment.get? (t.nameAt j) (t.basic.zip (t.rows.map (·.rhs)))).getD 0 = t.basicSolution j := by
  rw [Assignment.get_zip _ _ _ t.length_values]
  unfold basicSolution spread
  change ((t.seat? j).bind fun i => (t.rows.map (·.rhs))[i]?).getD 0 = _
  cases found : t.seat? j with
  | none => rfl
  | some i =>
      have within : i < t.rows.length := labels.seat_inside wide found
      have row : t.rowAt i = t.rows[i] := List.getD_eq_getElem _ _ within
      dsimp only [Option.bind_some]
      rw [entry_rhs, row, List.getElem?_map, List.getElem?_eq_getElem within]
      rfl

theorem values_of_columns {t : Tableau Rat} (labels : Labelled t) {names others : List Label}
    (columns : t.columns = names ++ others) :
    (t.valuesOf names).map (·.2) = pointOf names.length t.basicSolution := by
  have all := labels.distinct
  rw [columns] at all
  have distinct : Label.Distinct names := (List.pairwise_append.mp all).1
  rw [values_of_written labels distinct]
  refine List.ext_getElem (by simp [Assignment.written, pointOf]) ?_
  intro j inside _
  have named : j < names.length := by simpa [Assignment.written] using inside
  have name : t.nameAt j = names[j] := by
    unfold nameAt
    rw [columns, List.getD_append _ _ _ _ named, List.getD_eq_getElem _ _ named]
  have wide : j < t.numVars := by
    rw [← labels.wide, columns, List.length_append]
    omega
  simp only [Assignment.written, pointOf, List.getElem_map, List.getElem_range, ← name]
  exact value_at labels j wide

end LinProg.Tableau

namespace LinProg.Problem

open Tableau

namespace Closes

variable {p : Problem Rat} {s : Solution Rat} {t : Tableau Rat}

theorem point_names (closes : Closes p s t) : s.point.map (·.1) = p.names := by
  rw [closes.point, values_of_written closes.ready.labels p.distinct]
  exact Assignment.written_names _ _

theorem point_values (closes : Closes p s t) : s.point.map (·.2) = pointOf p.size t.basicSolution := by
  rw [closes.point]
  exact values_of_columns closes.ready.labels closes.columns

theorem basic_feasible (closes : Closes p s t) (atMost : ∀ c ∈ p.constraints, c.sense = .atMost) :
    p.Feasible (pointOf p.size t.basicSolution) := by
  refine closes.rewrites.feasible_of_solves atMost closes.ready.solves_basic ?_
  exact closes.ready.labels.spread_nonneg _ closes.ready.level

theorem basic_value (closes : Closes p s t) : p.objectiveValue (pointOf p.size t.basicSolution) = s.value := by
  have gain := closes.rewrites.gain_of_solves closes.ready.solves_basic
  unfold basicSolution at gain
  rw [closes.ready.sum_spread_objective, sub_zero] at gain
  rw [closes.value]
  unfold Problem.gain at gain
  unfold Tableau.reportedValue basicSolution
  rw [← gain]
  cases p.maximize <;> simp

end Closes

theorem reported_point_feasible (p : Problem Rat) (limit : Int) (accepted : p.Accepted) (nonneg : 0 ≤ limit) :
    ∃ s, p.solve (.count limit) = .ok s ∧ s.point.map (·.1) = p.names ∧
      p.Feasible (s.point.map (·.2)) ∧ p.objectiveValue (s.point.map (·.2)) = s.value := by
  obtain ⟨s, t, solved, closes⟩ := accepted.solved limit nonneg
  refine ⟨s, solved, closes.point_names, ?_, ?_⟩
  · rw [closes.point_values]
    exact closes.basic_feasible accepted.atMost
  · rw [closes.point_values]
    exact closes.basic_value

theorem workshop_reported : workshop.Accepted ∧ (0 : Int) ≤ 1 ∧ ∃ s, workshop.solve (.count 1) = .ok s ∧
    s.status = .nonConvergent ∧ s.value = 30 ∧ s.point.map (·.1) = workshop.names ∧
    workshop.Feasible (s.point.map (·.2)) ∧ workshop.objectiveValue (s.point.map (·.2)) = 30 := by
  obtain ⟨s, solved, names, feasible, value⟩ := reported_point_feasible workshop 1 workshop_accepted (by decide)
  have ending : (workshop.record 1).getLast?.map (fun t => (t.endStatus, t.value)) = some (.nonConvergent, 30) := by cbv
  obtain ⟨final, last, noted⟩ := Option.map_eq_some_iff.mp ending
  obtain ⟨status, reported⟩ := solve_last solved ((congrArg List.getLast? (solve_record solved)).trans last)
  obtain ⟨stopped, thirty⟩ := Prod.mk.inj noted
  have result : s.value = 30 := reported.trans thirty
  exact ⟨workshop_accepted, by decide, s, solved, status.trans stopped, result, names, feasible, value.trans result⟩

end LinProg.Problem
