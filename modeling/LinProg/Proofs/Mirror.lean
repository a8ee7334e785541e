import LinProg.Proofs.Alternates
import LinProg.Proofs.ShadowPrice

set_option autoImplicit false

namespace LinProg

section Images

variable {K : Type} [Scalar K]

def Problem.mirror (p : Problem K) : Problem K :=
  { p with
    objective := p.objective.map fun c => -c
    maximize := !p.maximize
    objective_length := by rw [List.length_map, p.objective_length] }

def StandardForm.mirror (form : StandardForm K) : StandardForm K := { form with maximize := !form.maximize }

def Sensitivity.mirror (report : Sensitivity K) : Sensitivity K :=
  { report with shadowPrices := report.shadowPrices.map fun (name, price) => (name, -price) }

end Images

structure Solution.Mirrored (s u : Solution Rat) : Prop where
  status : u.status = s.status
  history : u.history = s.history
  point : u.point = s.point
  value : u.value = -s.value
  maximize : u.maximize = !s.maximize
  steps : ∃ first detail rest, first.action = .convert ∧ s.steps = first :: rest ∧
    u.steps = { first with detail := detail } :: rest
  alternates : ∃ names, s.alternateOptima = .ok names ∧ u.alternateOptima = .ok names
  analysis : ∃ report, Sensitivity.ofSolution s = .ok report ∧ Sensitivity.ofSolution u = .ok report.mirror

theorem Extended.of_parts_mirror (costs : List Rat) (rows : List (List Rat)) (maximize : Bool) (names : List Label) :
    ofParts (costs.map fun c => -c) rows (!maximize) names =
      { ofParts costs rows maximize names with maximize := !maximize } := by
  cases maximize <;> simp [ofParts]

theorem StandardForm.of_problem_mirror (p : Problem Rat) : ofProblem p.mirror = (ofProblem p).map mirror := by
  by_cases clash : Extended.clashes p.names p.rows.length = []
  · have same : Extended.clashes p.mirror.names p.mirror.rows.length = [] := clash
    rw [ofProblem, ofProblem, if_pos clash, if_pos same]
    exact congrArg Except.ok (eq_of_parts (Extended.of_parts_mirror _ _ _ _) rfl)
  · have same : ¬ Extended.clashes p.mirror.names p.mirror.rows.length = [] := clash
    rw [ofProblem, ofProblem, if_neg clash, if_neg same]
    rfl

theorem Tableau.reported_value_mirror (t : Tableau Rat) (maximize : Bool) :
    t.reportedValue (!maximize) = -t.reportedValue maximize := by
  cases maximize <;> simp [reportedValue]

theorem Sensitivity.of_tableau_mirror (p : Problem Rat) (final : Tableau Rat) :
    ofTableau p.mirror final = (ofTableau p final).mirror := by
  cases sense : p.maximize <;> simp [ofTableau, mirror, Problem.mirror, Problem.size, Problem.rhs, sense]

namespace Problem

theorem Accepted.mirror {p : Problem Rat} (accepted : p.Accepted) : p.mirror.Accepted :=
  ⟨accepted.atMost, accepted.origin, accepted.apart⟩

-- The tableaux do not know what the standard form was made from.
theorem history_mirror (form : StandardForm Rat) (limit : Limit) : history form.mirror limit = history form limit := rfl

theorem solve_error_mirror (p : Problem Rat) (limit : Limit) (fault : SolveError) :
    p.mirror.solve limit = .error fault ↔ p.solve limit = .error fault := by
  rw [solve, solve, StandardForm.of_problem_mirror]
  change (p.checkOrigin >>= _) = _ ↔ (p.checkOrigin >>= _) = _
  cases p.checkOrigin with
  | error cause => rfl
  | ok =>
      rw [Outcome.ok_bind, Outcome.ok_bind]
      cases limit.isNegative with
      | true => rfl
      | false =>
          cases StandardForm.ofProblem p with
          | error clash => rfl
          | ok form =>
              change (history form.mirror limit >>= _) = _ ↔ (history form limit >>= _) = _
              rw [history_mirror]
              cases history form limit with
              | error cause => rfl
              | ok kept => exact ⟨nofun, nofun⟩

theorem solve_ok_mirror {p : Problem Rat} {limit : Limit} {s : Solution Rat} (solved : p.solve limit = .ok s) :
    ∃ form kept, s = report form limit kept ∧ p.mirror.solve limit = .ok (report form.mirror limit kept) := by
  obtain ⟨checked, allowed, form, formed, kept, ran, told⟩ := (solve_ok_iff p limit s).mp solved
  refine ⟨form, kept, told.symm, ?_⟩
  apply (solve_ok_iff p.mirror limit _).mpr
  refine ⟨checked, allowed, form.mirror, ?_, kept, ran, rfl⟩
  rw [StandardForm.of_problem_mirror, formed]
  rfl

theorem mirrored_solve (p : Problem Rat) (limit : Limit) :
    (∀ fault, p.mirror.solve limit = .error fault ↔ p.solve limit = .error fault) ∧
    ∀ s, p.solve limit = .ok s → ∃ u, p.mirror.solve limit = .ok u ∧ s.Mirrored u := by
  refine ⟨p.solve_error_mirror limit, ?_⟩
  intro s solved
  have accepted := accepted_of_solved solved
  obtain ⟨t, closes⟩ := accepted.closes solved
  obtain ⟨final, last, _, analyzed⟩ := accepted.analyzed solved
  obtain ⟨form, kept, rfl, again⟩ := solve_ok_mirror solved
  obtain ⟨other, same, _, analyzedAgain⟩ := accepted.mirror.analyzed again
  cases same.symm.trans last
  rw [Sensitivity.of_tableau_mirror] at analyzedAgain
  refine ⟨_, again, rfl, rfl, rfl, ?_, rfl, ?_, ?_, ?_⟩
  · exact Tableau.reported_value_mirror _ _
  · exact ⟨Step.conversion form, _, _, rfl, rfl, rfl⟩
  · exact ⟨_, closes.alternates, closes.alternates⟩
  · exact ⟨_, analyzed, analyzedAgain⟩

theorem thrift_mirror : thrift.mirror = workshop := by
  simp only [mirror, thrift, List.map_cons, List.map_nil, neg_neg]
  rfl

-- The least cost is the greatest gain with the opposite sign.
theorem thrift_mirrored : ∃ s u, thrift.solve (.count 50) = .ok s ∧ workshop.solve (.count 50) = .ok u ∧
    s.status = .optimal ∧ s.value = -36 ∧ u.value = 36 ∧ s.Mirrored u := by
  obtain ⟨s, _, solved, _⟩ := thrift_accepted.solved 50 (by decide)
  have ending : (thrift.record 50).getLast?.map (fun t => (t.endStatus, t.value)) = some (.optimal, 36) := by cbv
  obtain ⟨final, _, noted, ended, reported⟩ := solve_noted solved _ ending
  simp only [Prod.mk.injEq] at noted
  obtain ⟨status, worth⟩ := noted
  have value : s.value = -36 := reported.trans (congrArg (-·) worth)
  obtain ⟨u, again, mirrored⟩ := (mirrored_solve thrift (.count 50)).2 s solved
  rw [thrift_mirror] at again
  refine ⟨s, u, solved, again, ended.trans status, value, ?_, mirrored⟩
  rw [mirrored.value, value, neg_neg]

end Problem

end LinProg
