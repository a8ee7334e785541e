import LinProg.Proofs.Rewriting
import LinProg.Proofs.Stepping
import LinProg.Solution

set_option autoImplicit false

namespace LinProg.Tableau

variable {t s : Tableau Rat}

theorem Rewrites.noted {p : Problem Rat} (rewrites : Rewrites p t) (noted : Noted t s) : Rewrites p s := by
  have same := noted.entries
  have slackBlock : s.slackBlock p = t.slackBlock p := by
    unfold slackBlock slackRow
    rw [same]
  refine ⟨noted.height.trans rewrites.height, noted.num_vars.trans rewrites.numVars, ?_, ?_, ?_⟩
  · rw [slackBlock]
    exact rewrites.invertible
  · rw [slackBlock, ← rewrites.rows]
    unfold constraintBlock blockRow
    rw [same]
  · have old := rewrites.objective
    unfold objectiveBlock prices blockRow slackRow at old ⊢
    rw [same]
    exact old

end LinProg.Tableau

namespace LinProg.Problem

open Tableau

section Checks

variable {K : Type} [Scalar K]

theorem origin_fault_none_iff (c : Constraint K) (row : Nat) :
    originFault? c row = none ↔ c.sense = .atMost ∧ ¬ c.rhs < 0 := by
  by_cases sense : c.sense = .atMost <;> by_cases negative : c.rhs < 0 <;> simp [originFault?, sense, negative]

theorem check_origin_ok_iff (p : Problem K) :
    p.checkOrigin = .ok () ↔ ∀ c ∈ p.constraints, c.sense = .atMost ∧ ¬ c.rhs < 0 := by
  have none_iff : p.checkOrigin = .ok () ↔
      p.constraints.zipIdx.findSome? (fun place => originFault? place.1 place.2) = none := by
    unfold checkOrigin
    cases p.constraints.zipIdx.findSome? fun place => originFault? place.1 place.2 <;> simp
  rw [none_iff, List.findSome?_eq_none_iff]
  constructor
  · intro each c member
    obtain ⟨i, inside, rfl⟩ := List.mem_iff_getElem.mp member
    exact (origin_fault_none_iff _ i).mp
      (each (p.constraints[i], i) (List.mk_mem_zipIdx_iff_getElem?.mpr (by simp [inside])))
  · intro each place member
    exact (origin_fault_none_iff _ _).mpr (each place.1 (List.fst_mem_of_mem_zipIdx member))

theorem solve_ok_iff (p : Problem K) (limit : Limit) (s : Solution K) :
    p.solve limit = .ok s ↔ p.checkOrigin = .ok () ∧ limit.isNegative = false ∧
      ∃ form, StandardForm.ofProblem p = .ok form ∧
        ∃ record, history form limit = .ok record ∧ report form limit record = s := by
  unfold solve
  cases limit.isNegative with
  | true => simp [Outcome.bind_ok_iff, Outcome.throw_ok_iff]
  | false => simp [Outcome.bind_ok_iff, Outcome.map_ok_iff, Outcome.mapError_ok_iff, Unique.exists_iff]

theorem history_count (form : StandardForm K) (limit : Int) (record : List (Tableau K)) :
    history form (.count limit) = .ok record ↔ Runs limit.toNat (initial form) record := by
  rw [← run_ok_iff]
  exact Outcome.mapError_ok_iff _ _ _

theorem solve_count_iff (p : Problem K) (limit : Int) (s : Solution K) :
    p.solve (.count limit) = .ok s ↔ p.checkOrigin = .ok () ∧ 0 ≤ limit ∧
      ∃ form, StandardForm.ofProblem p = .ok form ∧
        ∃ record, Runs limit.toNat (initial form) record ∧ report form (.count limit) record = s := by
  have allowed : (Limit.count limit).isNegative = false ↔ 0 ≤ limit := by simp [Limit.isNegative]
  simp only [solve_ok_iff, history_count, allowed]

structure Admitted (p : Problem K) : Prop where
  atMost : ∀ c ∈ p.constraints, c.sense = .atMost
  origin : ∀ c ∈ p.constraints, ¬ c.rhs < 0
  apart : p.Apart

theorem Admitted.solved {p : Problem K} (admitted : p.Admitted) (apart : Scalar.ZeroApart K) {limit : Int}
    (nonneg : 0 ≤ limit) : ∃ s, p.solve (.count limit) = .ok s := by
  obtain ⟨form, formed, presents⟩ := admitted.apart.presented
  obtain ⟨kept, runs⟩ := labelled_runs apart (initial_labelled presents) limit.toNat
  have checked : p.checkOrigin = .ok () :=
    (check_origin_ok_iff p).mpr fun c member => ⟨admitted.atMost c member, admitted.origin c member⟩
  exact ⟨_, (solve_count_iff p limit _).mpr ⟨checked, nonneg, form, formed, kept, runs, rfl⟩⟩

-- Whatever limits the pivots, a record is that of a run.
theorem history_runs {form : StandardForm K} {limit : Limit} {record : List (Tableau K)}
    (kept : history form limit = .ok record) : ∃ left, Runs left (initial form) record := by
  unfold history at kept
  split at kept
  · exact ⟨_, (run_ok_iff _ _ _).mp ((Outcome.mapError_ok_iff _ _ _).mp kept)⟩
  · -- Where no pivot can be allowed, the record is at most the first tableau.
    obtain ⟨choice, entered, kept⟩ := (Outcome.bind_ok_iff _ _ _).mp kept
    cases choice with
    | some j => cases kept
    | none =>
        cases kept
        exact ⟨0, .optimal ((Outcome.mapError_ok_iff _ _ _).mp entered)⟩

def record (p : Problem K) (pivots : Nat) : List (Tableau K) :=
  match StandardForm.ofProblem p with
  | .ok form => match (initial form).run pivots with
    | .ok kept => kept
    | .error _ => []
  | .error _ => []

theorem solve_record {p : Problem K} {limit : Int} {s : Solution K} (solved : p.solve (.count limit) = .ok s) :
    s.history = p.record limit.toNat := by
  obtain ⟨_, _, form, formed, kept, ran, rfl⟩ := (solve_ok_iff p _ s).mp solved
  have same := (Outcome.mapError_ok_iff _ _ _).mp ran
  unfold record
  rw [formed]
  dsimp only
  rw [same]
  rfl

theorem solve_maximize {p : Problem K} {limit : Limit} {s : Solution K} (solved : p.solve limit = .ok s) :
    s.maximize = p.maximize := by
  obtain ⟨_, _, form, formed, kept, _, rfl⟩ := (solve_ok_iff p _ s).mp solved
  exact (StandardForm.of_problem_presents formed).maximize

theorem report_of_last {form : StandardForm K} {limit : Limit} {kept : List (Tableau K)} {final : Tableau K}
    (last : kept.getLast? = some final) : report form limit kept = {
      status := final.endStatus
      value := final.reportedValue form.maximize
      point := final.valuesOf form.decisions
      history := kept
      steps := .conversion form :: Step.narrate limit none kept
      maximize := form.maximize } := by
  have chosen : kept.getLastD (initial form) = final := by
    rw [List.getLastD_eq_getLast?, last]
    rfl
  rw [report, chosen]

section Last

variable {p : Problem K} {limit : Limit} {s : Solution K} {final : Tableau K}

theorem solve_last (solved : p.solve limit = .ok s) (last : s.history.getLast? = some final) :
    s.status = final.endStatus ∧ s.value = final.reportedValue p.maximize := by
  obtain ⟨_, _, form, formed, kept, _, rfl⟩ := (solve_ok_iff p _ s).mp solved
  have ending : kept.getLast? = some final := last
  rw [report_of_last ending, (StandardForm.of_problem_presents formed).maximize]
  exact ⟨rfl, rfl⟩

theorem solve_point (solved : p.solve limit = .ok s) (last : s.history.getLast? = some final) :
    s.point = final.valuesOf p.names := by
  obtain ⟨_, _, form, formed, kept, _, rfl⟩ := (solve_ok_iff p _ s).mp solved
  have ending : kept.getLast? = some final := last
  rw [report_of_last ending, (StandardForm.of_problem_presents formed).decisions]

end Last

theorem solve_noted {α : Type} {p : Problem K} {limit : Int} {s : Solution K} (solved : p.solve (.count limit) = .ok s)
    (note : Tableau K → α) {a : α} (ending : (p.record limit.toNat).getLast?.map note = some a) :
    ∃ final, s.history.getLast? = some final ∧ note final = a ∧ s.status = final.endStatus ∧
      s.value = final.reportedValue p.maximize := by
  rw [← solve_record solved] at ending
  obtain ⟨final, last, noted⟩ := Option.map_eq_some_iff.mp ending
  exact ⟨final, last, noted, solve_last solved last⟩

end Checks

theorem Accepted.admitted {p : Problem Rat} (accepted : p.Accepted) : p.Admitted :=
  ⟨accepted.atMost, fun c member => not_lt.mpr (accepted.origin c member), accepted.apart⟩

theorem accepted_of_solved {p : Problem Rat} {limit : Limit} {s : Solution Rat} (solved : p.solve limit = .ok s) :
    p.Accepted := by
  obtain ⟨checked, _, form, formed, _⟩ := (solve_ok_iff p limit s).mp solved
  have bounds := (check_origin_ok_iff p).mp checked
  refine ⟨?_, ?_, (StandardForm.of_problem_presents formed).apart⟩
  · intro c member
    exact (bounds c member).1
  · intro c member
    exact not_lt.mp (bounds c member).2

theorem Accepted.presented {p : Problem Rat} (accepted : p.Accepted) :
    ∃ form, StandardForm.ofProblem p = .ok form ∧ form.Presents p :=
  Apart.presented accepted.apart

theorem Accepted.initial_ready {p : Problem Rat} {form : StandardForm Rat} (accepted : p.Accepted)
    (presents : form.Presents p) : Ready (initial form) := by
  refine ⟨initial_based presents, ?_⟩
  intro i inside
  rw [initial_height presents] at inside
  rw [initial_num_vars presents, initial_entry_bound presents i inside, p.bound_at i inside]
  exact accepted.origin _ (List.getElem_mem inside)

theorem record_reached {p : Problem Rat} {form : StandardForm Rat} {limit : Limit} {s : Solution Rat}
    (formed : StandardForm.ofProblem p = .ok form) (solved : p.solve limit = .ok s) :
    ∀ noted ∈ s.history, ∃ t, Reached (initial form) t ∧ Noted t noted := by
  obtain ⟨_, _, again, formedAgain, record, kept, rfl⟩ := (solve_ok_iff p limit s).mp solved
  rw [formed] at formedAgain
  cases formedAgain
  obtain ⟨left, runs⟩ := history_runs kept
  exact runs_reached (initial_based (StandardForm.of_problem_presents formed)) .start runs

structure Closes (p : Problem Rat) (s : Solution Rat) (t : Tableau Rat) : Prop where
  rewrites : Rewrites p t
  ready : Ready t
  columns : t.columns = p.names ++ Extended.slackNames p.constraints.length
  last : ∃ final, s.history.getLast? = some final ∧ Noted t final
  value : s.value = t.reportedValue p.maximize
  point : s.point = t.valuesOf p.names
  optimal : s.status = .optimal → ∀ j < t.numVars, -tolerance ≤ t.entryAt t.height j
  unbounded : s.status = .unbounded → ∃ j, Enters t tolerance j ∧ ∀ i < t.height, t.entryAt i j ≤ 0

theorem unmarked {form : StandardForm Rat} {t : Tableau Rat} (reached : Reached (initial form) t) :
    t.isOptimal = false ∧ t.isUnbounded = false := by
  refine reached_induction (fun t => t.isOptimal = false ∧ t.isUnbounded = false) ⟨rfl, rfl⟩ ?_ reached
  intro _ _ _ _ _ _ _ _ done
  exact ⟨done.isOptimal, done.isUnbounded⟩

theorem report_closes {p : Problem Rat} {form : StandardForm Rat} {limit : Limit} {kept : List (Tableau Rat)}
    {t final : Tableau Rat} (presents : form.Presents p) (reached : Reached (initial form) t) (ready : Ready t)
    (last : kept.getLast? = some final) (ends : Ends t final) : Closes p (report form limit kept) t := by
  obtain ⟨plain, bounded⟩ := unmarked reached
  have rewrites := reached_rewrites presents reached
  have columns := (reached_columns reached).trans (initial_columns presents)
  rw [report_of_last last, presents.maximize, presents.decisions]
  cases ends with
  | optimal least => exact ⟨rewrites, ready, columns, ⟨_, last, t.noted_optimal⟩, rfl, rfl, fun _ => least, nofun⟩
  | unbounded j enters below =>
      refine ⟨rewrites, ready, columns, ⟨_, last, t.noted_unbounded j⟩, rfl, rfl, ?_, fun _ => ⟨j, enters, below⟩⟩
      simp [endStatus, markUnbounded, plain]
  | stopped j enters =>
      refine ⟨rewrites, ready, columns, ⟨_, last, t.noted_self⟩, rfl, rfl, ?_, ?_⟩ <;> simp [endStatus, plain, bounded]

theorem Accepted.closes {p : Problem Rat} (accepted : p.Accepted) {limit : Limit} {s : Solution Rat}
    (solved : p.solve limit = .ok s) : ∃ t, Closes p s t := by
  obtain ⟨_, _, form, formed, kept, ran, rfl⟩ := (solve_ok_iff p _ s).mp solved
  have presents := StandardForm.of_problem_presents formed
  obtain ⟨left, runs⟩ := history_runs ran
  obtain ⟨t, final, reached, ready, last, ends⟩ := runs_end (accepted.initial_ready presents) .start runs
  exact ⟨t, report_closes presents reached ready last ends⟩

theorem Accepted.solved {p : Problem Rat} (accepted : p.Accepted) (limit : Int) (nonneg : 0 ≤ limit) :
    ∃ s t, p.solve (.count limit) = .ok s ∧ Closes p s t := by
  obtain ⟨s, solved⟩ := accepted.admitted.solved Scalar.zero_apart_rational nonneg
  obtain ⟨t, closes⟩ := accepted.closes solved
  exact ⟨s, t, solved, closes⟩

-- Every tableau that pivots lead to, and every one on the record of a solve, is the same system as the problem:
-- its rows hold at each point with its slacks, and its objective row tells what the point gains.
theorem tableaux_rewrite (p : Problem Rat) (form : StandardForm Rat) (formed : StandardForm.ofProblem p = .ok form)
    (t : Tableau Rat)
    (met : Reached (initial form) t ∨ ∃ limit s, p.solve limit = .ok s ∧ t ∈ s.history) :
    Rewrites p t ∧ ∀ x, x.length = p.size →
      (∀ i < p.constraints.length, Scalar.dot (t.rowAt i).coefficients (p.withSlacks x) = (t.rowAt i).rhs) ∧
      p.gain x = t.value - Scalar.dot t.objective.coefficients (p.withSlacks x) := by
  have presents := StandardForm.of_problem_presents formed
  have rewrites : Rewrites p t := by
    rcases met with reached | ⟨limit, s, solved, member⟩
    · exact reached_rewrites presents reached
    · obtain ⟨plain, reached, noted⟩ := record_reached formed solved t member
      exact (reached_rewrites presents reached).noted noted
  refine ⟨rewrites, ?_⟩
  intro x sized
  exact ⟨(rewrites.holds_iff x _ sized (p.length_slacks x)).mpr rfl, rewrites.gain_eq x sized⟩

theorem workshop_rewritten : ∃ form s, StandardForm.ofProblem workshop = .ok form ∧
    workshop.solve (.count 50) = .ok s ∧ s.history.length = 3 ∧ ∀ t ∈ s.history, Rewrites workshop t ∧
      ∀ x, x.length = 2 →
        (∀ i < 3, Scalar.dot (t.rowAt i).coefficients (workshop.withSlacks x) = (t.rowAt i).rhs) ∧
        workshop.gain x = t.value - Scalar.dot t.objective.coefficients (workshop.withSlacks x) := by
  obtain ⟨form, formed, _⟩ := workshop_accepted.presented
  obtain ⟨s, _, solved, _⟩ := workshop_accepted.solved 50 (by decide)
  have three : (workshop.record 50).length = 3 := by cbv
  refine ⟨form, s, formed, solved, ?_, ?_⟩
  · rw [solve_record solved]
    exact three
  · intro t member
    exact tableaux_rewrite workshop form formed t (.inr ⟨.count 50, s, solved, member⟩)

end LinProg.Problem
