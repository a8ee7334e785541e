import LinProg.Proofs.Solve

set_option autoImplicit false

namespace LinProg.Tableau

section Runs

variable {t : Tableau Rat} {left : Nat} {history : List (Tableau Rat)}

theorem runs_ready (ready : Ready t) (runs : Runs left t history) : ∀ s ∈ history, Ready s := by
  refine runs_induction (motive := fun _ _ history => ∀ s ∈ history, Ready s) ?_ ?_ ?_ ?_ ready runs
  · intro left t ready _
    simpa using t.noted_optimal.ready ready
  · intro t j ready _
    simpa using ready
  · intro left t j ready _ _
    simpa using (t.noted_unbounded j).ready ready
  · intro left t next i j rest ready _ _ _ _ _ ih s member
    cases member with
    | head => exact (t.noted_pivot i j).ready ready
    | tail _ later => exact ih s later

end Runs

structure Recorded (p : Problem Rat) (t : Tableau Rat) : Prop where
  rewrites : Rewrites p t
  ready : Ready t
  columns : t.columns = p.names ++ Extended.slackNames p.constraints.length

end LinProg.Tableau

namespace LinProg.Problem

open Tableau

theorem Accepted.runs {p : Problem Rat} (accepted : p.Accepted) {limit : Int} {s : Solution Rat}
    (solved : p.solve (.count limit) = .ok s) :
    ∃ form, StandardForm.ofProblem p = .ok form ∧ Ready (initial form) ∧
      Runs limit.toNat (initial form) s.history := by
  obtain ⟨_, _, form, formed, kept, runs, rfl⟩ := (solve_count_iff p limit s).mp solved
  exact ⟨form, formed, accepted.initial_ready (StandardForm.of_problem_presents formed), runs⟩

theorem Accepted.some_runs {p : Problem Rat} (accepted : p.Accepted) {limit : Limit} {s : Solution Rat}
    (solved : p.solve limit = .ok s) :
    ∃ form left, StandardForm.ofProblem p = .ok form ∧ Ready (initial form) ∧ Runs left (initial form) s.history := by
  obtain ⟨_, _, form, formed, kept, ran, rfl⟩ := (solve_ok_iff p _ s).mp solved
  obtain ⟨left, runs⟩ := history_runs ran
  exact ⟨form, left, formed, accepted.initial_ready (StandardForm.of_problem_presents formed), runs⟩

theorem Accepted.recorded {p : Problem Rat} (accepted : p.Accepted) {limit : Limit} {s : Solution Rat}
    (solved : p.solve limit = .ok s) : ∀ t ∈ s.history, Recorded p t := by
  obtain ⟨form, _, formed, ready, runs⟩ := accepted.some_runs solved
  have presents := StandardForm.of_problem_presents formed
  intro t member
  obtain ⟨plain, reached, noted⟩ := record_reached formed solved t member
  refine ⟨(reached_rewrites presents reached).noted noted, runs_ready ready runs t member, ?_⟩
  rw [noted.columns, reached_columns reached, initial_columns presents]

theorem Accepted.last {p : Problem Rat} (accepted : p.Accepted) {limit : Limit} {s : Solution Rat}
    (solved : p.solve limit = .ok s) : ∃ final, s.history.getLast? = some final ∧ Recorded p final := by
  obtain ⟨_, _, _, _, runs⟩ := accepted.some_runs solved
  obtain ⟨_, _, kept, _⟩ := runs_head runs
  obtain ⟨final, last⟩ := Option.ne_none_iff_exists'.mp (show s.history.getLast? ≠ none by simp [kept])
  exact ⟨final, last, accepted.recorded solved final (List.mem_of_getLast? last)⟩

end LinProg.Problem
