import LinProg.Proofs.Alternates
import LinProg.Proofs.Unboundedness
import LinProg.Report.Outcome

set_option autoImplicit false

namespace LinProg.Tableau

open Finset

-- A row holds the variable of the column at zero while no other variable enters.
def Blocked (t : Tableau Rat) (j : Nat) : Prop := ∃ r ∈ t.rows, 0 < r.entry j ∧ r.rhs = 0

instance (t : Tableau Rat) (j : Nat) : Decidable (t.Blocked j) :=
  inferInstanceAs (Decidable (∃ r ∈ t.rows, 0 < r.entry j ∧ r.rhs = 0))

variable {t s : Tableau Rat} {j : Nat} {θ ρ : Rat}

theorem blocked_iff (t : Tableau Rat) (j : Nat) :
    t.Blocked j ↔ ∃ i < t.height, 0 < t.entryAt i j ∧ t.entryAt i t.numVars = 0 := by
  have row (i : Nat) (inside : i < t.rows.length) : t.rowAt i = t.rows[i] := List.getD_eq_getElem _ _ inside
  constructor
  · rintro ⟨r, member, positive, level⟩
    obtain ⟨i, inside, here⟩ := List.mem_iff_getElem.mp member
    refine ⟨i, inside, ?_, ?_⟩
    · rwa [entryAt, row i inside, here]
    · rwa [entry_rhs, row i inside, here]
  · rintro ⟨i, inside, positive, level⟩
    rw [entryAt, row i inside] at positive
    rw [entry_rhs, row i inside] at level
    exact ⟨_, List.getElem_mem inside, positive, level⟩

theorem Noted.blocked_iff (noted : Noted t s) (j : Nat) : s.Blocked j ↔ t.Blocked j := by
  rw [Blocked, Blocked, noted.rows]

theorem Free.unseated (free : Free t j) (labels : Labelled t) : t.seat? j = none := by
  rw [labels.seat_none_iff free.wide]
  intro basic
  have apart := (List.pairwise_append.mp labels.split_distinct).2.2 _ basic _ free.name
  rw [beq_self_eq_true] at apart
  cases apart

namespace Ready

theorem leeway (ready : Ready t) (wide : j < t.numVars) (unblocked : ¬ t.Blocked j) :
    ∃ θ, 0 < θ ∧ ∀ i < t.height, t.entryAt i j * θ ≤ t.entryAt i t.numVars := by
  obtain ⟨choice, _, unlimited, found⟩ := choose_leaving_spec t j wide
  cases choice with
  | none => exact ⟨1, one_pos, ready.unlimited_within zero_le_one (unlimited rfl)⟩
  | some i =>
      have leaves := found i rfl
      have room : 0 < t.entryAt i t.numVars := by
        apply lt_of_le_of_ne (ready.level i leaves.inside)
        intro none
        exact unblocked ((t.blocked_iff j).mpr ⟨i, leaves.inside, leaves.positive, none.symm⟩)
      refine ⟨t.entryAt i t.numVars / t.entryAt i j, div_pos room leaves.positive, ?_⟩
      intro k inside
      rcases le_or_gt (t.entryAt k j) 0 with falling | rising
      · have forward : 0 ≤ t.entryAt i t.numVars / t.entryAt i j := le_of_lt (div_pos room leaves.positive)
        exact le_trans (mul_nonpos_of_nonpos_of_nonneg falling forward) (ready.level k inside)
      · rw [mul_comm]
        exact (le_div_iff₀ rising).mp (leaves.least k inside rising)

theorem within_less (ready : Ready t) (within : ∀ i < t.height, t.entryAt i j * θ ≤ t.entryAt i t.numVars)
    (forward : 0 ≤ ρ) (less : ρ ≤ θ) (i : Nat) (inside : i < t.height) : t.entryAt i j * ρ ≤ t.entryAt i t.numVars := by
  rcases le_or_gt (t.entryAt i j) 0 with falling | rising
  · exact le_trans (mul_nonpos_of_nonpos_of_nonneg falling forward) (ready.level i inside)
  · exact le_trans (mul_le_mul_of_nonneg_left less (le_of_lt rising)) (within i inside)

end Ready

-- The row that blocks a column adds up to zero without a negative term, so the column is at zero.
theorem Blocked.zero (blocked : t.Blocked j) (based : Based t) (wide : j < t.numVars) {v : Nat → Rat}
    (solves : t.Solves v) (nonneg : ∀ k < t.numVars, 0 ≤ v k)
    (others : ∀ k < t.numVars, k ≠ j → t.seat? k = none → v k = 0) : v j = 0 := by
  obtain ⟨i, inside, positive, level⟩ := (t.blocked_iff j).mp blocked
  have terms : ∀ k ∈ range t.numVars, 0 ≤ t.entryAt i k * v k := by
    intro k member
    have within := mem_range.mp member
    by_cases same : k = j
    · rw [same]
      exact mul_nonneg (le_of_lt positive) (nonneg j wide)
    · cases found : t.seat? k with
      | none => rw [others k within same found, mul_zero]
      | some r =>
          rw [based.entry_basic within found (Nat.le_of_lt inside)]
          split
          · simpa using nonneg k within
          · simp
  have sum := solves i inside
  rw [level] at sum
  have term := (sum_eq_zero_iff_of_nonneg terms).mp sum j (mem_range.mpr wide)
  exact (mul_eq_zero.mp term).resolve_left (ne_of_gt positive)

end LinProg.Tableau

namespace LinProg.Problem

open Tableau Finset

-- A feasible point whose value is the given one up to the tolerance for each unit of its variables and slacks.
structure Matches (p : Problem Rat) (value : Rat) (x : List Rat) : Prop where
  feasible : p.Feasible x
  close : |p.objectiveValue x - value| ≤ 1 / 10 ^ 10 * (x.sum + (p.slacks x).sum)

namespace Closes

variable {p : Problem Rat} {s : Solution Rat} {t : Tableau Rat} {j : Nat} {θ : Rat}

theorem ray_coordinate (closes : Closes p s t) (free : Free t j) :
    (p.withSlacks (pointOf p.size (t.ray j θ))).getD j 0 = θ := by
  have solves := closes.ready.solves_ray j θ free.wide
  rw [closes.rewrites.with_slacks_of_solves solves, point_of_get _ _ j free.wide,
    ray_free (free.unseated closes.ready.labels), if_pos rfl]

theorem ray_matches (closes : Closes p s t) (atMost : ∀ c ∈ p.constraints, c.sense = .atMost) (tied : Tied t j)
    (forward : 0 ≤ θ) (within : ∀ i < t.height, t.entryAt i j * θ ≤ t.entryAt i t.numVars) :
    p.Matches s.value (pointOf p.size (t.ray j θ)) := by
  have based := closes.ready.toBased
  have solves := based.solves_ray j θ tied.wide
  have feasible := closes.rewrites.feasible_of_solves atMost solves (closes.ready.ray_nonneg j θ forward within)
  have gain := closes.rewrites.gain_of_solves solves
  rw [based.sum_ray_objective j θ tied.wide] at gain
  have lost : |p.objectiveValue (pointOf p.size (t.ray j θ)) - s.value| = |t.entryAt t.height j| * θ := by
    rw [p.objective_eq_gain, closes.value, reported_value_eq, gain, ← mul_sub, abs_mul, sub_sub_cancel_left, abs_neg,
      abs_mul, abs_of_nonneg forward]
    cases p.maximize <;> simp
  have counted : θ ≤ (pointOf p.size (t.ray j θ)).sum + (p.slacks (pointOf p.size (t.ray j θ))).sum := by
    rw [p.sum_with_slacks _ (length_point_of _ _), ← closes.rewrites.numVars]
    have single := single_le_sum (fun k _ => feasible.with_slacks_nonneg atMost k) (mem_range.mpr tied.wide)
    rwa [closes.ray_coordinate tied.toFree] at single
  refine ⟨feasible, ?_⟩
  rw [lost, ← tolerance_rational]
  calc |t.entryAt t.height j| * θ ≤ tolerance * θ := mul_le_mul_of_nonneg_right tied.flat forward
    _ ≤ tolerance * _ := mul_le_mul_of_nonneg_left counted tolerance_nonneg

theorem ray_ne_reported (closes : Closes p s t) (free : Free t j) (positive : 0 < θ) :
    pointOf p.size (t.ray j θ) ≠ s.point.map (·.2) := by
  intro same
  have moved := closes.ray_coordinate (θ := θ) free
  have still := closes.rewrites.with_slacks_of_solves closes.ready.solves_basic
  have zero : t.basicSolution j = 0 := by simp [basicSolution, spread, free.unseated closes.ready.labels]
  rw [same, closes.point_values, still, point_of_get _ _ j free.wide, zero] at moved
  exact ne_of_lt positive moved

theorem reported_matches (closes : Closes p s t) (atMost : ∀ c ∈ p.constraints, c.sense = .atMost) :
    p.Matches s.value (s.point.map (·.2)) := by
  have feasible := closes.basic_feasible atMost
  rw [closes.point_values]
  refine ⟨feasible, ?_⟩
  rw [closes.basic_value, sub_self, abs_zero, p.sum_with_slacks _ feasible.coordinates]
  exact mul_nonneg (by norm_num) (sum_nonneg fun k _ => feasible.with_slacks_nonneg atMost k)

theorem infinite_matches (closes : Closes p s t) (atMost : ∀ c ∈ p.constraints, c.sense = .atMost) (tied : Tied t j)
    (unblocked : ¬ t.Blocked j) : {x | p.Matches s.value x ∧ x ≠ s.point.map (·.2)}.Infinite := by
  obtain ⟨θ, positive, within⟩ := closes.ready.leeway tied.wide unblocked
  have step (n : Nat) : 0 < θ / (n + 1) ∧ θ / (n + 1) ≤ θ := by
    have count : (1 : Rat) ≤ n + 1 := by simp
    exact ⟨div_pos positive (lt_of_lt_of_le one_pos count), div_le_self (le_of_lt positive) count⟩
  apply Set.infinite_of_injective_forall_mem (f := fun n : Nat => pointOf p.size (t.ray j (θ / (n + 1))))
  · intro n m same
    have coordinate := congrArg (fun x => (p.withSlacks x).getD j 0) same
    simp only [closes.ray_coordinate tied.toFree] at coordinate
    simpa [div_eq_mul_inv, ne_of_gt positive] using coordinate
  · intro n
    obtain ⟨ahead, less⟩ := step n
    have inside := closes.ready.within_less within (le_of_lt ahead) less
    exact ⟨closes.ray_matches atMost tied (le_of_lt ahead) inside, closes.ray_ne_reported tied.toFree ahead⟩

theorem only_reported_blocked (closes : Closes p s t) (atMost : ∀ c ∈ p.constraints, c.sense = .atMost)
    (optimal : s.status = .optimal) (nonneg : ∀ k < t.numVars, 0 ≤ t.entryAt t.height k) (wide : j < t.numVars)
    (blocked : t.Blocked j) (single : ∀ k, Tied t k → k = j) {x : List Rat} (feasible : p.Feasible x)
    (good : t.value ≤ p.gain x) : x = s.point.map (·.2) := by
  have others : ∀ k < t.numVars, k ≠ j → t.seat? k = none → (p.withSlacks x).getD k 0 = 0 := by
    intro k within other free
    have costly := closes.free_positive optimal within free fun tied => other (single k tied)
    exact closes.zero_of_costly atMost nonneg feasible good within costly
  have solves := closes.rewrites.solves_with_slacks feasible.coordinates
  apply closes.reported_of_free_zero feasible.coordinates
  intro k within free
  by_cases same : k = j
  · rw [same]
    exact blocked.zero closes.ready.toBased wide solves (fun k _ => feasible.with_slacks_nonneg atMost k) others
  · exact others k within same free

end Closes

theorem alternates_lead (p : Problem Rat) (limit : Limit) (s : Solution Rat) (solved : p.solve limit = .ok s)
    (optimal : s.status = .optimal) :
    ∃ final names, s.history.getLast? = some final ∧ s.alternateOptima = .ok names ∧
      ∀ name ∈ names, ∃ j, final.columnOf name = .ok j ∧
        (¬ final.Blocked j → {x | p.Matches s.value x ∧ x ≠ s.point.map (·.2)}.Infinite) ∧
        (final.Blocked j → names = [name] → (∀ entry ∈ final.objective.coefficients, 0 ≤ entry) →
          ∀ x, p.Feasible x → (p.maximize = true → s.value ≤ p.objectiveValue x) →
            (p.maximize = false → p.objectiveValue x ≤ s.value) → x = s.point.map (·.2)) := by
  have accepted := accepted_of_solved solved
  obtain ⟨t, closes⟩ := accepted.closes solved
  obtain ⟨final, last, noted⟩ := closes.last
  have labels := closes.ready.labels
  have listed := closes.alternates
  rw [if_pos optimal] at listed
  refine ⟨final, t.alternates, last, listed, ?_⟩
  intro name member
  obtain ⟨j, tied, rfl⟩ := (mem_alternates labels name).mp member
  obtain ⟨wide, here⟩ := labels.name_at_place (labels.nonbasic_member tied.name)
  have column : final.columnOf (t.nameAt j) = .ok j := by
    rw [columnOf, noted.columns, Label.place_in_member (labels.nonbasic_member tied.name),
      labels.name_at_injective wide tied.wide here]
  refine ⟨j, column, ?_, ?_⟩
  · intro unblocked
    rw [noted.blocked_iff] at unblocked
    exact closes.infinite_matches accepted.atMost tied unblocked
  · intro blocked alone positive x feasible above below
    rw [noted.blocked_iff] at blocked
    apply closes.only_reported_blocked accepted.atMost optimal _ tied.wide blocked _ feasible
      (closes.value_le_gain above below)
    · intro k within
      rw [noted.objective] at positive
      rw [entry_objective, Row.entry, List.getD_eq_getElem _ _ within]
      exact positive _ (List.getElem_mem within)
    · intro k other
      have again := (mem_alternates labels _).mpr ⟨k, other, rfl⟩
      rw [alone, List.mem_singleton] at again
      exact labels.name_at_injective other.wide tied.wide again

-- All points between its corners (3, 1) and (0, 4) are optimal.
def terrace : Problem Rat := planar (1, 1) [(1, 1, 4), (1, 0, 3)] (List.cons_ne_nil _ _)

-- Two of its sides and an axis meet in the optimum.
def ridge : Problem Rat := planar (1, 0) [(1, 0, 1), (1, 1, 1)] (List.cons_ne_nil _ _)

theorem terrace_accepted : terrace.Accepted :=
  ⟨by simp [terrace, planar], by simp [terrace, planar], by decide +kernel⟩

theorem ridge_accepted : ridge.Accepted :=
  ⟨by simp [ridge, planar], by simp [ridge, planar], by decide +kernel⟩

theorem terrace_and_ridge :
    (∃ s, terrace.solve (.count 50) = .ok s ∧ s.status = .optimal ∧
      s.alternateOptima = .ok [Extended.slackName 1] ∧ {x | terrace.Matches 4 x ∧ x ≠ s.point.map (·.2)}.Infinite) ∧
    ∃ s, ridge.solve (.count 50) = .ok s ∧ s.status = .optimal ∧ s.alternateOptima = .ok [Label.numbered "x" 1] ∧
      ∀ x, ridge.Feasible x → 1 ≤ ridge.objectiveValue x → x = s.point.map (·.2) := by
  constructor
  · obtain ⟨s, _, solved, _⟩ := terrace_accepted.solved 50 (by decide)
    have ending : (terrace.record 50).getLast?.map (fun t => (t.endStatus, t.value, t.alternates,
        (t.columnOf (Extended.slackName 1)).toOption, decide (t.Blocked 3))) =
        some (.optimal, 4, [Extended.slackName 1], some 3, false) := by cbv
    obtain ⟨final, last, noted, optimal, value, listed⟩ := solve_listed solved _ ending
    simp only [Prod.mk.injEq, Outcome.to_option_some_iff, decide_eq_false_iff_not] at noted
    obtain ⟨column, unblocked⟩ := noted
    obtain ⟨again, names, kept, named, leads⟩ := alternates_lead terrace (.count 50) s solved optimal
    cases last.symm.trans kept
    cases listed.symm.trans named
    obtain ⟨j, here, along, _⟩ := leads _ List.mem_cons_self
    cases column.symm.trans here
    rw [value] at along
    exact ⟨s, solved, optimal, listed, along unblocked⟩
  · obtain ⟨s, _, solved, _⟩ := ridge_accepted.solved 50 (by decide)
    have ending : (ridge.record 50).getLast?.map (fun t => (t.endStatus, t.value, t.alternates,
        (t.columnOf (Label.numbered "x" 1)).toOption, decide (t.Blocked 1),
        t.objective.coefficients.all (0 ≤ ·))) =
        some (.optimal, 1, [Label.numbered "x" 1], some 1, true, true) := by cbv
    obtain ⟨final, last, noted, optimal, value, listed⟩ := solve_listed solved _ ending
    simp only [Prod.mk.injEq, Outcome.to_option_some_iff, decide_eq_true_eq, List.all_eq_true] at noted
    obtain ⟨column, blocked, positive⟩ := noted
    obtain ⟨again, names, kept, named, leads⟩ := alternates_lead ridge (.count 50) s solved optimal
    cases last.symm.trans kept
    cases listed.symm.trans named
    obtain ⟨j, here, _, only⟩ := leads _ List.mem_cons_self
    cases column.symm.trans here
    refine ⟨s, solved, optimal, listed, ?_⟩
    intro x feasible good
    exact only blocked rfl positive x feasible (fun _ => le_of_eq_of_le value good) fun least => absurd least (by decide)

-- The origin is the best point, and its only side of the same value is the axis that the constraint closes.
def wedge : Problem Rat := planar (-1, 0) [(-1, 1, 0)] (List.cons_ne_nil _ _)

theorem wedge_accepted : wedge.Accepted :=
  ⟨by simp [wedge, planar], by simp [wedge, planar], by decide +kernel⟩

theorem wedge_matches {x : List Rat} (close : wedge.Matches 0 x) : x = [0, 0] := by
  obtain ⟨⟨sized, nonneg, holds⟩, near⟩ := close
  obtain ⟨a, b, rfl⟩ := List.length_eq_two.mp sized
  have first : 0 ≤ a := nonneg a (by simp)
  have second : 0 ≤ b := nonneg b (by simp)
  have below : -a + b ≤ 0 := by
    simpa [wedge, planar, Constraint.Holds, Constraint.lhs, Scalar.dot_cons, Scalar.dot_nil] using holds
  have slight : |a| ≤ 1 / 10 ^ 10 * (a + b + (0 - (-a + b))) := by
    simpa [wedge, planar, objectiveValue, slacks, Constraint.slack, Constraint.lhs, Scalar.dot_cons, Scalar.dot_nil]
      using near
  have a0 : a = 0 := by
    rw [abs_of_nonneg first] at slight
    linarith
  have b0 : b = 0 := by linarith
  rw [a0, b0]

theorem wedge_announced : ∃ s names, wedge.solve (.count 50) = .ok s ∧ s.status = .optimal ∧
    s.alternateOptima = .ok names ∧ names ≠ [] ∧
    (∀ pivots, Text.ofString "Note: Infinite many optimal solutions (alternate optimal)." ∈
      Report.outcomeLines s names pivots) ∧
    ∀ x, wedge.Matches s.value x → x = s.point.map (·.2) := by
  obtain ⟨s, t, solved, closes⟩ := wedge_accepted.solved 50 (by decide)
  have ending : (wedge.record 50).getLast?.map (fun t => (t.endStatus, t.value, t.alternates, t.iteration)) =
      some (.optimal, 0, [Label.numbered "x" 1], 0) := by cbv
  obtain ⟨_, _, _, optimal, value, listed⟩ := solve_listed solved _ ending
  refine ⟨s, _, solved, optimal, listed, List.cons_ne_nil _ _, ?_, ?_⟩
  · intro pivots
    simp [Report.outcomeLines, optimal]
  · intro x close
    have reported := closes.reported_matches wedge_accepted.atMost
    rw [value] at close reported
    rw [wedge_matches close, wedge_matches reported]

end LinProg.Problem
