import LinProg.Proofs.Determined
import LinProg.Proofs.Record
import LinProg.Proofs.Replay
import LinProg.Proofs.Selection

set_option autoImplicit false

namespace LinProg.Tableau

variable {t : Tableau Rat}

theorem Labelled.open_iff (labels : Labelled t) (j : Nat) : t.Open j ↔ j < t.numVars ∧ t.nameAt j ∈ t.nonbasic :=
  (labels.named.mem_free_places j).symm.trans (mem_free_places labels j)

theorem Based.tests_agree (based : Based t) {tol : Rat} (nonneg : 0 ≤ tol) :
    ∃ choice, t.chooseEntering tol = .ok choice ∧ (t.checkOptimal tol = true ↔ choice = none) := by
  obtain ⟨choice, chosen, missing, _⟩ := based.labels.named.entering tol
  refine ⟨choice, chosen, ?_⟩
  simp only [check_optimal_iff, missing, ← entry_objective]
  constructor
  · intro all j free
    exact all j ((based.labels.open_iff j).mp free).1
  · intro free
    exact based.none_below nonneg fun j wide other => free j ((based.labels.open_iff j).mpr ⟨wide, other⟩)

theorem runs_optimal {left n : Nat} {history : List (Tableau Rat)} (ready : Ready t) (runs : Runs left t history)
    (fresh : Fresh n t) : ∀ s ∈ history, s.isOptimal = true → s.checkOptimal tolerance = true := by
  refine runs_induction (motive := fun _ t history => ∀ n, Fresh n t →
    ∀ s ∈ history, s.isOptimal = true → s.checkOptimal tolerance = true) ?_ ?_ ?_ ?_ ready runs n fresh
  · intro left t _ least n _ s member _
    rw [List.mem_singleton.mp member]
    exact (check_optimal_iff t tolerance).mpr least
  · intro t j _ _ n fresh s member marked
    rw [List.mem_singleton.mp member, fresh.isOptimal] at marked
    cases marked
  · intro left t j _ _ _ n fresh s member marked
    rw [List.mem_singleton.mp member, markUnbounded, fresh.isOptimal] at marked
    cases marked
  · intro left t next i j rest _ _ _ done _ _ ih n fresh s member marked
    rcases List.mem_cons.mp member with here | later
    · rw [here, markPivot, fresh.isOptimal] at marked
      cases marked
    · exact ih (n + 1) (fresh.pivoted done) s later marked

end LinProg.Tableau

namespace LinProg.Step

variable {K : Type} [Scalar K]

theorem decisions_unmarked (limit : Limit) {t : Tableau K} (unmarked : t.isOptimal = false) :
    ∀ step ∈ decisions limit t, step.action ≠ .optimal := by
  cases column : t.pivotColumn with
  | none => simp [decisions, unmarked, column, limitReached]
  | some j =>
      cases row : t.pivotRow with
      | none => simp [decisions, unmarked, column, row, entering, noLimit]
      | some i => simp [decisions, unmarked, column, row, entering, leaving]

theorem mem_decisions_optimal (limit : Limit) (t : Tableau K) (step : Step K) :
    step ∈ decisions limit t ∧ step.action = .optimal ↔ t.isOptimal = true ∧ step = optimum t := by
  by_cases marked : t.isOptimal = true
  · have told : step = optimum t → step.action = .optimal := fun same => same ▸ rfl
    rw [decisions, if_pos marked, List.mem_singleton]
    exact ⟨fun both => ⟨marked, both.1⟩, fun both => ⟨both.2, told both.2⟩⟩
  · have untold := decisions_unmarked limit (eq_false_of_ne_true marked) step
    exact ⟨fun both => absurd both.2 (untold both.1), fun both => absurd both.1 marked⟩

theorem mem_narrate_optimal (limit : Limit) (previous : Option (Tableau K)) (history : List (Tableau K)) (step : Step K) :
    step ∈ narrate limit previous history ∧ step.action = .optimal ↔
      ∃ t ∈ history, t.isOptimal = true ∧ step = optimum t := by
  induction history generalizing previous with
  | nil => simp [narrate]
  | cons t rest ih =>
      rw [narrate, List.mem_cons, List.mem_append, or_and_right, or_and_right, ih, mem_decisions_optimal,
        List.exists_mem_cons_iff, or_iff_right]
      intro both
      obtain ⟨rfl, optimal⟩ := both
      cases previous <;> cases optimal

end LinProg.Step

namespace LinProg.Problem

open Tableau

theorem solve_steps {K : Type} [Scalar K] {p : Problem K} {limit : Limit} {s : Solution K}
    (solved : p.solve limit = .ok s) : ∃ form, s.steps = .conversion form :: Step.narrate limit none s.history := by
  obtain ⟨_, _, form, _, kept, _, rfl⟩ := (solve_ok_iff p _ s).mp solved
  exact ⟨form, rfl⟩

theorem mem_steps_optimal {K : Type} [Scalar K] {p : Problem K} {limit : Limit} {s : Solution K}
    (solved : p.solve limit = .ok s) (step : Step K) : step ∈ s.steps ∧ step.action = .optimal ↔
      ∃ t ∈ s.history, t.isOptimal = true ∧ step = .optimum t := by
  obtain ⟨form, steps⟩ := solve_steps solved
  rw [← Step.mem_narrate_optimal limit none, steps, List.mem_cons, or_and_right, or_iff_right]
  intro both
  obtain ⟨rfl, optimal⟩ := both
  cases optimal

theorem stopping_tests_agree (p : Problem Rat) :
    (p.Apart → ∃ form, StandardForm.ofProblem p = .ok form ∧ ∀ t, Reached (initial form) t → ∀ tol, 0 ≤ tol →
      ∃ choice, t.chooseEntering tol = .ok choice ∧ (t.checkOptimal tol = true ↔ choice = none)) ∧
    ∀ limit s, p.solve limit = .ok s →
      (∀ t ∈ s.history, t.checkOptimal tolerance = false → ∃ j, t.chooseEntering tolerance = .ok (some j)) ∧
      ∀ step ∈ s.steps, step.action = .optimal →
        step.detail = Text.ofString "All objective-row coefficients are non-negative." ∧
        ∃ t ∈ s.history, t.iteration = step.iteration ∧ ∀ x ∈ t.objective.coefficients, -tolerance ≤ x := by
  constructor
  · intro apart
    obtain ⟨form, formed, presents⟩ := apart.presented
    exact ⟨form, formed, fun t reached tol nonneg => ((initial_based presents).reached reached).tests_agree nonneg⟩
  · intro limit s solved
    have accepted := accepted_of_solved solved
    constructor
    · intro t member failed
      have based := (accepted.recorded solved t member).ready.toBased
      obtain ⟨choice, chosen, agree⟩ := based.tests_agree tolerance_nonneg
      cases choice with
      | none =>
          rw [agree.mpr rfl] at failed
          cases failed
      | some j => exact ⟨j, chosen⟩
    · intro step member optimal
      obtain ⟨t, listed, marked, rfl⟩ := (mem_steps_optimal solved step).mp ⟨member, optimal⟩
      obtain ⟨form, _, formed, ready, runs⟩ := accepted.some_runs solved
      have passed := runs_optimal ready runs (initial_fresh form) t listed marked
      exact ⟨rfl, t, listed, rfl, by simpa [checkOptimal] using passed⟩

-- Pivots that no rule would choose, and a run to the optimum.
theorem workshop_stops : workshop.Apart ∧ (∃ form t, StandardForm.ofProblem workshop = .ok form ∧
    Reached (initial form) t ∧ t.basic = [Label.numbered "x" 1, Extended.slackName 1, Label.numbered "x" 0] ∧
    (0 : Rat) ≤ 5 ∧ t.checkOptimal 5 = true ∧ t.chooseEntering 5 = .ok none) ∧
    ∃ s, workshop.solve (.count 50) = .ok s ∧
      s.history.map (fun t => (t.isOptimal, t.checkOptimal tolerance)) = [(false, false), (false, false), (true, true)] ∧
      (∃ t ∈ s.history, t.checkOptimal tolerance = false ∧ ∃ j, t.chooseEntering tolerance = .ok (some j)) ∧
      ∃ step ∈ s.steps, step.action = .optimal ∧
        ∃ t ∈ s.history, t.iteration = step.iteration ∧ ∀ x ∈ t.objective.coefficients, -tolerance ≤ x := by
  obtain ⟨reached, solves⟩ := stopping_tests_agree workshop
  obtain ⟨form, formed, agree⟩ := reached workshop_accepted.apart
  obtain ⟨s, _, solved, _⟩ := workshop_accepted.solved 50 (by decide)
  obtain ⟨chosen, told⟩ := solves _ s solved
  have moved : (workshop.afterTwo (2, 0) (0, 1)).map (fun t => (t.basic, t.checkOptimal 5)) =
      some ([Label.numbered "x" 1, Extended.slackName 1, Label.numbered "x" 0], true) := by cbv
  have noted : (workshop.record 50).map (fun t => (t.isOptimal, t.checkOptimal tolerance)) =
      [(false, false), (false, false), (true, true)] := by cbv
  rw [show workshop.record 50 = s.history from (solve_record solved).symm] at noted
  obtain ⟨t, made, here⟩ := Option.map_eq_some_iff.mp moved
  obtain ⟨basic, passed⟩ := Prod.mk.inj here
  have led : Reached (initial form) t := after_two_reached formed made (by decide) (by decide)
  obtain ⟨choice, found, same⟩ := agree t led 5 (by norm_num)
  rw [same.mp passed] at found
  have listed (pair : Bool × Bool) (member : pair ∈ [(false, false), (false, false), (true, true)]) :
      ∃ u ∈ s.history, u.isOptimal = pair.1 ∧ u.checkOptimal tolerance = pair.2 := by
    rw [← noted] at member
    obtain ⟨u, inside, rfl⟩ := List.mem_map.mp member
    exact ⟨u, inside, rfl, rfl⟩
  obtain ⟨u, early, _, failed⟩ := listed (false, false) (by decide)
  obtain ⟨last, final, marked, _⟩ := listed (true, true) (by decide)
  obtain ⟨step, optimal⟩ := (mem_steps_optimal solved (.optimum last)).mpr ⟨last, final, marked, rfl⟩
  exact ⟨workshop_accepted.apart, ⟨form, t, formed, led, basic, by norm_num, passed, found⟩, s, solved, noted,
    ⟨u, early, failed, chosen u early failed⟩, _, step, optimal, (told _ step optimal).2⟩

end LinProg.Problem
