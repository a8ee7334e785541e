import LinProg.Proofs.BasicPoint

set_option autoImplicit false

namespace LinProg.Tableau

open Finset

-- The column j at θ, with the basic variables at what the rows then leave them.
def ray (t : Tableau Rat) (j : Nat) (θ : Rat) (k : Nat) : Rat :=
  t.spread (fun i => t.entryAt i t.numVars - t.entryAt i j * θ) k + if k = j then θ else 0

section Entries

variable {t : Tableau Rat} {j k : Nat} {θ : Rat}

theorem ray_free (free : t.seat? k = none) : t.ray j θ k = if k = j then θ else 0 := by
  simp [ray, spread, free]

theorem ray_basic {i : Nat} (found : t.seat? k = some i) (other : k ≠ j) :
    t.ray j θ k = t.entryAt i t.numVars - t.entryAt i j * θ := by
  simp [ray, spread, found, other]

end Entries

theorem sum_ray (t : Tableau Rat) (i j : Nat) (θ : Rat) (wide : j < t.numVars) :
    ∑ k ∈ range t.numVars, t.entryAt i k * t.ray j θ k =
      ∑ k ∈ range t.numVars, t.entryAt i k * t.spread (fun i => t.entryAt i t.numVars - t.entryAt i j * θ) k +
        t.entryAt i j * θ :=
  sum_mul_shift _ _ wide θ

namespace Based

variable {t : Tableau Rat}

theorem solves_ray (based : Based t) (j : Nat) (θ : Rat) (wide : j < t.numVars) : t.Solves (t.ray j θ) := by
  intro i inside
  rw [sum_ray t i j θ wide, based.sum_spread _ i inside, sub_add_cancel]

theorem sum_ray_objective (based : Based t) (j : Nat) (θ : Rat) (wide : j < t.numVars) :
    ∑ k ∈ range t.numVars, t.entryAt t.height k * t.ray j θ k = t.entryAt t.height j * θ := by
  rw [sum_ray t t.height j θ wide, based.sum_spread_objective, zero_add]

end Based

theorem Ready.ray_nonneg {t : Tableau Rat} (ready : Ready t) (j : Nat) (θ : Rat) (forward : 0 ≤ θ)
    (within : ∀ i < t.height, t.entryAt i j * θ ≤ t.entryAt i t.numVars) (k : Nat) (wide : k < t.numVars) :
    0 ≤ t.ray j θ k := by
  have basic : 0 ≤ t.spread (fun i => t.entryAt i t.numVars - t.entryAt i j * θ) k :=
    ready.labels.spread_nonneg _ (fun i inside => sub_nonneg.mpr (within i inside)) k wide
  have entering : 0 ≤ if k = j then θ else 0 := by
    split
    · exact forward
    · exact le_refl 0
  exact add_nonneg basic entering

theorem Ready.unlimited_within {t : Tableau Rat} (ready : Ready t) {j : Nat} {θ : Rat} (forward : 0 ≤ θ)
    (unlimited : ∀ i < t.height, t.entryAt i j ≤ 0) (i : Nat) (inside : i < t.height) :
    t.entryAt i j * θ ≤ t.entryAt i t.numVars :=
  le_trans (mul_nonpos_of_nonpos_of_nonneg (unlimited i inside) forward) (ready.level i inside)

end LinProg.Tableau

namespace LinProg.Problem

open Tableau

theorem exists_beyond (start slope bound : Rat) (falling : slope < 0) :
    ∃ θ, 0 ≤ θ ∧ bound < start - slope * θ := by
  have steep : 0 < -slope := neg_pos.mpr falling
  refine ⟨|bound - start| / -slope + 1, by positivity, ?_⟩
  have covered : -slope * (|bound - start| / -slope) = |bound - start| := mul_div_cancel₀ _ (ne_of_gt steep)
  have least := le_abs_self (bound - start)
  linarith

theorem Closes.gain_unbounded {p : Problem Rat} {s : Solution Rat} {t : Tableau Rat} {j : Nat}
    (closes : Closes p s t) (atMost : ∀ c ∈ p.constraints, c.sense = .atMost) (enters : Enters t tolerance j)
    (unlimited : ∀ i < t.height, t.entryAt i j ≤ 0) (bound : Rat) : ∃ x, p.Feasible x ∧ bound < p.gain x := by
  have based := closes.ready.toBased
  obtain ⟨θ, forward, beyond⟩ := exists_beyond t.value (t.entryAt t.height j) bound enters.falling
  have solves := based.solves_ray j θ enters.wide
  refine ⟨pointOf p.size (t.ray j θ), ?_, ?_⟩
  · have within := closes.ready.unlimited_within forward unlimited
    exact closes.rewrites.feasible_of_solves atMost solves (closes.ready.ray_nonneg j θ forward within)
  · rw [closes.rewrites.gain_of_solves solves, based.sum_ray_objective j θ enters.wide]
    exact beyond

theorem unbounded_sound (p : Problem Rat) (limit : Int) (accepted : p.Accepted) (nonneg : 0 ≤ limit) :
    ∃ s, p.solve (.count limit) = .ok s ∧ (s.status = .unbounded → ∀ bound : Rat, ∃ x, p.Feasible x ∧
      (p.maximize = true → bound < p.objectiveValue x) ∧
      (p.maximize = false → p.objectiveValue x < -bound)) := by
  obtain ⟨s, t, solved, closes⟩ := accepted.solved limit nonneg
  refine ⟨s, solved, ?_⟩
  intro unbounded bound
  obtain ⟨j, enters, unlimited⟩ := closes.unbounded unbounded
  obtain ⟨x, feasible, beyond⟩ := closes.gain_unbounded accepted.atMost enters unlimited bound
  refine ⟨x, feasible, ?_, ?_⟩
  · intro maximize
    simpa [gain, maximize] using beyond
  · intro minimize
    have below : bound < -p.objectiveValue x := by simpa [gain, minimize] using beyond
    exact lt_neg_of_lt_neg below

-- The second variable lets the first grow with it.
def widening : Problem Rat := planar (1, 1) [(1, -1, 1)] (List.cons_ne_nil _ _)

theorem widening_accepted : widening.Accepted :=
  ⟨by simp [widening, planar], by simp [widening, planar], by decide +kernel⟩

theorem widening_unbounded : widening.Accepted ∧ (0 : Int) ≤ 50 ∧ ∃ s, widening.solve (.count 50) = .ok s ∧
    s.status = .unbounded ∧ ∀ bound : Rat, ∃ x, widening.Feasible x ∧ bound < widening.objectiveValue x := by
  obtain ⟨s, solved, sound⟩ := unbounded_sound widening 50 widening_accepted (by decide)
  have ending : (widening.record 50).getLast?.map endStatus = some .unbounded := by cbv
  obtain ⟨final, last, ended⟩ := Option.map_eq_some_iff.mp ending
  have status := (solve_last solved ((congrArg List.getLast? (solve_record solved)).trans last)).1
  have unbounded := status.trans ended
  refine ⟨widening_accepted, by decide, s, solved, unbounded, ?_⟩
  intro bound
  obtain ⟨x, feasible, above, _⟩ := sound unbounded bound
  exact ⟨x, feasible, above rfl⟩

end LinProg.Problem
