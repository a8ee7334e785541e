import LinProg.Proofs.Record
import LinProg.Sensitivity

set_option autoImplicit false

namespace LinProg.Sensitivity

section Readings

variable {K : Type}

theorem cost_ok (t : Tableau K) (j : Nat) (wide : j < t.width) : cost t j = .ok (t.objective.entry j) := if_pos wide

theorem costs_ok (final : Tableau K) (names : List Label) (wide : names.length ≤ final.width) :
    costs final names = .ok (names.zipIdx.map fun (name, j) => (name, final.objective.entry j)) := by
  refine Outcome.mapM_ok _ _ _ ?_
  intro (name, j) member
  have inside : j < names.length := by simpa using List.snd_lt_of_mem_zipIdx member
  dsimp only
  rw [cost_ok final j (by omega)]
  rfl

variable [Scalar K]

theorem prices_ok (final : Tableau K) (n : Nat) (names : List Label) (maximize : Bool)
    (wide : n + names.length ≤ final.width) :
    prices final n names maximize = .ok (names.zipIdx.map fun (name, i) =>
      (name, (if maximize then 1 else -1) * final.objective.entry (n + i))) := by
  refine Outcome.mapM_ok _ _ _ ?_
  intro (name, i) member
  have inside : i < names.length := by simpa using List.snd_lt_of_mem_zipIdx member
  dsimp only
  rw [cost_ok final (n + i) (by omega)]
  rfl

def rangeAt (final : Tableau K) (column : Nat) (constraint : Label) (rhs : K) : RhsRange K :=
  let limits := final.rows.foldl (fun limits row => tightenBy limits row.rhs (row.entry column)) (none, none)
  { constraint, rhs, decrease := limits.1, increase := limits.2 }

theorem range_ok (final : Tableau K) (column : Nat) (constraint : Label) (rhs : K) (wide : column < final.width) :
    range final final.height column constraint rhs = .ok (rangeAt final column constraint rhs) := by
  have rows : final.matrix.take final.height = final.rows := List.take_left
  have entries : slackEntries final final.height column = .ok (final.rows.map fun r => (r.rhs, r.entry column)) := by
    rw [slackEntries, if_pos wide, rows]
  have full : ¬ (final.rows.map fun r => (r.rhs, r.entry column)).length < final.height := by
    simp [Tableau.height]
  unfold range rangeAt
  rw [entries, Outcome.ok_bind, if_neg full, List.foldl_map]
  rfl

def ofTableau (p : Problem K) (final : Tableau K) : Sensitivity K where
  shadowPrices := (Extended.slackNames p.constraints.length).zipIdx.map fun (name, i) =>
    (name, (if p.maximize then 1 else -1) * final.objective.entry (p.size + i))
  reducedCosts := p.names.zipIdx.map fun (name, j) => (name, final.objective.entry j)
  rhsRanges := ((Extended.slackNames p.constraints.length).zip p.rhs).zipIdx.map fun ((name, rhs), i) =>
    rangeAt final (p.size + i) name rhs

theorem shadow_price_at (p : Problem K) (final : Tableau K) {i : Nat} (inside : i < p.constraints.length) :
    (ofTableau p final).shadowPrices[i]? =
      some (Extended.slackName i, (if p.maximize then 1 else -1) * final.objective.entry (p.size + i)) := by
  simp [ofTableau, Extended.slackNames, inside]

theorem constraint_names_slacks (m : Nat) :
    constraintNames (Extended.slackNames m) = Extended.slackNames m := by
  refine List.ext_getElem (by simp [constraintNames]) ?_
  intro i _ _
  simp [constraintNames, Extended.slackNames, constraintName]

structure Starts (p : Problem K) (first : Tableau K) : Prop where
  basic : first.basic = Extended.slackNames p.constraints.length
  nonbasic : first.nonbasic = p.names
  rhs : first.rows.map (·.rhs) = p.rhs

theorem between_ok {p : Problem K} {first final : Tableau K} (starts : Starts p first)
    (height : final.height = p.constraints.length) (numVars : final.numVars = p.size + p.constraints.length) :
    between first final p.maximize = .ok (ofTableau p final) := by
  have width : final.width = p.size + p.constraints.length + 1 := congrArg (· + 1) numVars
  have slacks : (Extended.slackNames p.constraints.length).length = p.constraints.length := by
    simp [Extended.slackNames]
  have decisions : p.names.length = p.size := rfl
  have priced := prices_ok final p.size (Extended.slackNames p.constraints.length) p.maximize (by omega)
  have valued := costs_ok final p.names (by omega)
  have ranged : (((Extended.slackNames p.constraints.length).zip p.rhs).zipIdx.mapM fun ((name, rhs), i) =>
      range final p.constraints.length (p.size + i) name rhs) = .ok (ofTableau p final).rhsRanges := by
    refine Outcome.mapM_ok _ _ _ ?_
    intro ((name, rhs), i) member
    have inside : i < p.constraints.length := by simpa [slacks, Problem.rhs] using List.snd_lt_of_mem_zipIdx member
    rw [← height]
    exact range_ok final (p.size + i) name rhs (by omega)
  unfold between
  simp only [starts.basic, starts.nonbasic, starts.rhs, constraint_names_slacks, slacks, decisions, priced, valued,
    ranged, Outcome.ok_bind]
  rfl

end Readings

end LinProg.Sensitivity

namespace LinProg.Problem

open Tableau

theorem analysis_ok {K : Type} [Scalar K] {p : Problem K} {limit : Limit} {s : Solution K}
    (solved : p.solve limit = .ok s) :
    ∃ final, s.history.getLast? = some final ∧ Labelled final ∧
      final.columns = p.names ++ Extended.slackNames p.constraints.length ∧
      Sensitivity.ofSolution s = .ok (Sensitivity.ofTableau p final) := by
  have direction := solve_maximize solved
  obtain ⟨_, _, form, formed, kept, ran, rfl⟩ := (solve_ok_iff p limit s).mp solved
  obtain ⟨_, runs⟩ := history_runs ran
  have presents := StandardForm.of_problem_presents formed
  obtain ⟨first, rest, same, noted⟩ := runs_head runs
  obtain ⟨final, last⟩ := Option.ne_none_iff_exists'.mp (show kept.getLast? ≠ none by simp [same])
  obtain ⟨labels, columns, height⟩ := runs_shaped (initial_labelled presents) runs final (List.mem_of_getLast? last)
  have starts : Sensitivity.Starts p first := by
    refine ⟨noted.basic.trans (initial_basic presents), noted.nonbasic.trans (initial_nonbasic presents), ?_⟩
    rw [noted.rows, initial_rhs presents]
  have numVars : final.numVars = p.size + p.constraints.length := by
    rw [← labels.wide, columns, (initial_labelled presents).wide, initial_num_vars presents]
  refine ⟨final, last, labels, columns.trans (initial_columns presents), ?_⟩
  have head : (report form limit kept).history.head? = some first := by rw [report, same, List.head?_cons]
  unfold Sensitivity.ofSolution
  rw [head, show (report form limit kept).history.getLast? = some final from last, direction]
  exact Sensitivity.between_ok starts (height.trans (initial_height presents)) numVars

theorem Accepted.analyzed {p : Problem Rat} (accepted : p.Accepted) {limit : Limit} {s : Solution Rat}
    (solved : p.solve limit = .ok s) :
    ∃ final, s.history.getLast? = some final ∧ Recorded p final ∧
      Sensitivity.ofSolution s = .ok (Sensitivity.ofTableau p final) := by
  obtain ⟨final, last, _, _, analyzed⟩ := analysis_ok solved
  exact ⟨final, last, accepted.recorded solved final (List.mem_of_getLast? last), analyzed⟩

theorem Accepted.report_eq {p : Problem Rat} (accepted : p.Accepted) {limit : Limit} {s : Solution Rat}
    {final : Tableau Rat} {report : Sensitivity Rat} (solved : p.solve limit = .ok s)
    (last : s.history.getLast? = some final) (analyzed : Sensitivity.ofSolution s = .ok report) :
    report = Sensitivity.ofTableau p final := by
  obtain ⟨again, kept, _, reading⟩ := accepted.analyzed solved
  rw [last] at kept
  cases kept
  exact Except.ok.inj (analyzed.symm.trans reading)

end LinProg.Problem
