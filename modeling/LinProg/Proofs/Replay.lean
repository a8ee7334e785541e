import LinProg.Proofs.Unboundedness

set_option autoImplicit false

namespace LinProg.Tableau

section Notes

variable {K : Type} {t next s : Tableau K} {i j n : Nat}

structure Fresh (n : Nat) (t : Tableau K) : Prop where
  iteration : t.iteration = n
  isOptimal : t.isOptimal = false
  isUnbounded : t.isUnbounded = false
  pivotRow : t.pivotRow = none
  pivotColumn : t.pivotColumn = none
  entering : t.entering = none
  leaving : t.leaving = none

structure Closing (status : Status) (t : Tableau K) : Prop where
  optimal : t.isOptimal = true ↔ status = .optimal
  unbounded : t.isUnbounded = true ↔ status = .unbounded
  row : t.pivotRow = none ∧ t.leaving = none
  column : status = .unbounded → ∃ j name, t.pivotColumn = some j ∧ t.columns[j]? = some name ∧ t.entering = some name
  bare : status ≠ .unbounded → t.pivotColumn = none ∧ t.entering = none

theorem Closing.plain {status : Status} (closing : Closing status t) (other : status ≠ .optimal) :
    t.isOptimal = false := by
  simpa [other] using closing.optimal

theorem Closing.end_status {status : Status} (closing : Closing status t) : t.endStatus = status := by
  cases status with
  | optimal => simp [endStatus, closing.optimal.mpr rfl]
  | unbounded =>
      have plain := closing.plain (by decide)
      simp [endStatus, plain, closing.unbounded.mpr rfl]
  | nonConvergent =>
      have plain := closing.plain (by decide)
      have bounded : t.isUnbounded = false := by simpa using closing.unbounded
      simp [endStatus, plain, bounded]

theorem Fresh.closes_optimal (fresh : Fresh n t) : Closing .optimal t.markOptimal :=
  ⟨by simp [markOptimal], by simp [markOptimal, fresh.isUnbounded], ⟨fresh.pivotRow, fresh.leaving⟩, nofun,
    fun _ => ⟨fresh.pivotColumn, fresh.entering⟩⟩

theorem Fresh.closes_stopped (fresh : Fresh n t) : Closing .nonConvergent t :=
  ⟨by simp [fresh.isOptimal], by simp [fresh.isUnbounded], ⟨fresh.pivotRow, fresh.leaving⟩, nofun,
    fun _ => ⟨fresh.pivotColumn, fresh.entering⟩⟩

theorem Free.named (labels : Labelled t) (free : Free t j) : ∃ name, t.columns[j]? = some name := by
  have inside : j < t.columns.length := by rw [labels.wide]; exact free.wide
  exact ⟨_, List.getElem?_eq_getElem inside⟩

theorem Fresh.closes_unbounded (fresh : Fresh n t) (labels : Labelled t) (free : Free t j) :
    Closing .unbounded (t.markUnbounded j) := by
  obtain ⟨name, named⟩ := free.named labels
  refine ⟨?_, ?_, ⟨fresh.pivotRow, fresh.leaving⟩, fun _ => ⟨j, name, rfl, named, named⟩, nofun⟩
  · simp [markUnbounded, fresh.isOptimal]
  · simp [markUnbounded]

variable [Scalar K]

theorem initial_fresh (form : StandardForm K) : Fresh 0 (initial form) := ⟨rfl, rfl, rfl, rfl, rfl, rfl, rfl⟩

theorem Fresh.pivoted {row col : Int} (fresh : Fresh n t) (done : t.pivot row col = .ok next) : Fresh (n + 1) next := by
  cases fresh.iteration
  unfold pivot at done
  obtain ⟨name, _, done⟩ := (Outcome.bind_ok_iff _ _ _).mp done
  split at done
  · obtain ⟨j, _, done⟩ := (Outcome.bind_ok_iff _ _ _).mp done
    dsimp only at done
    split at done
    · cases done
    · split at done
      · cases done
        exact ⟨rfl, rfl, rfl, rfl, rfl, rfl, rfl⟩
      · cases done
  · cases done

structure Leads (i j : Nat) (t next : Tableau K) : Prop where
  unmarked : t.isOptimal = false ∧ t.isUnbounded = false
  row : t.pivotRow = some i
  column : t.pivotColumn = some j
  entering : ∃ name, t.columns[j]? = some name ∧ t.entering = some name
  leaving : ∃ name, t.basic[i]? = some name ∧ t.leaving = some name
  pivot : ∃ u, t.pivot i j = .ok u ∧ Noted u next

theorem Fresh.leads (fresh : Fresh n t) (labels : Labelled t) (free : Free t j) (inside : i < t.height)
    (done : t.pivot i j = .ok next) (noted : Noted next s) : Leads i j (t.markPivot i j) s := by
  obtain ⟨name, named⟩ := free.named labels
  have seated : i < t.basic.length := by rw [t.basic_length]; exact inside
  have leaving := List.getElem?_eq_getElem seated
  exact ⟨⟨fresh.isOptimal, fresh.isUnbounded⟩, rfl, rfl, ⟨name, named, named⟩, ⟨_, leaving, leaving⟩, next, done, noted⟩

end Notes

end LinProg.Tableau

namespace LinProg.Step

open Tableau

section Narration

variable {K : Type} {t next : Tableau K}

def stamp (step : Step K) : Nat × Action := (step.iteration, step.action)

def opening : Option (Tableau K) → Action
  | none => .initialTableau
  | some _ => .pivot

def round (n : Nat) : List (Nat × Action) := [(n + 1, .selectEntering), (n + 1, .selectLeaving), (n + 1, .pivot)]

def ending (n : Nat) : Status → List (Nat × Action)
  | .optimal => [(n, .optimal)]
  | .unbounded => [(n + 1, .selectEntering), (n + 1, .unbounded)]
  | .nonConvergent => [(n, .nonConvergent)]

theorem stamp_arrival (previous : Option (Tableau K)) (t : Tableau K) :
    (arrival previous t).stamp = (t.iteration, opening previous) := by
  cases previous <;> rfl

variable [Scalar K]

theorem decisions_leads {i j : Nat} (limit : Limit) (leads : Leads i j t next) :
    decisions limit t = [entering t j, leaving t i j] := by
  simp [decisions, leads.unmarked.1, leads.column, leads.row]

theorem decisions_stopped (limit : Limit) (closing : Closing .nonConvergent t) :
    decisions limit t = [limitReached limit t] := by
  have plain := closing.plain (by decide)
  have bare := closing.bare (by decide)
  simp only [decisions, plain, bare.1]
  rfl

theorem stamps_closing {status : Status} (limit : Limit) (closing : Closing status t) :
    (decisions limit t).map stamp = ending t.iteration status := by
  cases status with
  | optimal =>
      simp only [decisions, closing.optimal.mpr rfl, if_true]
      rfl
  | unbounded =>
      have plain := closing.plain (by decide)
      obtain ⟨j, _, column, _⟩ := closing.column rfl
      simp only [decisions, plain, column, closing.row.1]
      rfl
  | nonConvergent =>
      rw [decisions_stopped limit closing]
      rfl

theorem decisions_bare (limit : Limit) (t : Tableau K) : ∀ step ∈ decisions limit t, step.tableau = none ∧
    step.action ≠ .initialTableau ∧ step.action ≠ .pivot := by
  by_cases optimal : t.isOptimal = true
  · simp [decisions, optimal, optimum]
  · cases column : t.pivotColumn with
    | none => simp [decisions, optimal, column, limitReached]
    | some j =>
        cases row : t.pivotRow with
        | none => simp [decisions, optimal, column, row, entering, noLimit]
        | some i => simp [decisions, optimal, column, row, entering, leaving]

theorem narrate_carried (limit : Limit) (previous : Option (Tableau K)) (history : List (Tableau K)) :
    ∀ step ∈ narrate limit previous history,
      (step.tableau.isSome ↔ step.action = .initialTableau ∨ step.action = .pivot) ∧
      ∀ t, step.tableau = some t → step.iteration = t.iteration := by
  induction history generalizing previous with
  | nil => simp [narrate]
  | cons t rest ih =>
      intro step member
      rcases List.mem_cons.mp member with rfl | later
      · cases previous <;> simp [arrival]
      · rcases List.mem_append.mp later with decided | onward
        · simp [decisions_bare limit t step decided]
        · exact ih (some t) step onward

theorem narrate_tableaux (limit : Limit) (previous : Option (Tableau K)) (history : List (Tableau K)) :
    (narrate limit previous history).filterMap (·.tableau) = history := by
  induction history generalizing previous with
  | nil => rfl
  | cons t rest ih =>
      have bare : (decisions limit t).filterMap (·.tableau) = [] := by
        simpa using fun step member => (decisions_bare limit t step member).1
      have attached : (arrival previous t).tableau = some t := by cases previous <;> rfl
      rw [narrate, List.filterMap_cons, attached, List.filterMap_append, bare, ih]
      rfl

end Narration

end LinProg.Step

namespace LinProg.Tableau

section Ledgers

variable {K : Type} [Scalar K] {t next : Tableau K} {n k left : Nat} {status : Status} {history rest : List (Tableau K)}

structure Ledger (n k : Nat) (status : Status) (history : List (Tableau K)) : Prop where
  counted : history.map (·.iteration) = List.range' n (k + 1)
  led : history.IsChain fun t next => ∃ i j, Leads i j t next
  closed : ∃ last, history.getLast? = some last ∧ Closing status last
  told : ∀ limit previous, (Step.narrate limit previous history).map Step.stamp =
    (n, Step.opening previous) :: ((List.range' n k).flatMap Step.round ++ Step.ending (n + k) status)

theorem Closing.ledger (closing : Closing status t) (dated : t.iteration = n) : Ledger n 0 status [t] := by
  cases dated
  refine ⟨rfl, .singleton _, ⟨t, rfl, closing⟩, ?_⟩
  intro limit previous
  simp [Step.narrate, Step.stamp_arrival, Step.stamps_closing limit closing]

theorem Ledger.cons {i j : Nat} (onward : Ledger (n + 1) k status (next :: rest)) (leads : Leads i j t next)
    (dated : t.iteration = n) : Ledger n (k + 1) status (t :: next :: rest) := by
  cases dated
  refine ⟨?_, ?_, ?_, ?_⟩
  · rw [List.map_cons, onward.counted]
    rfl
  · exact List.isChain_cons_cons.mpr ⟨⟨i, j, leads⟩, onward.led⟩
  · rw [List.getLast?_cons_cons]
    exact onward.closed
  · intro limit previous
    have later := onward.told limit (some t)
    rw [Step.narrate, Step.decisions_leads limit leads, List.map_cons, List.map_append, later, Step.stamp_arrival,
      List.range'_succ, List.flatMap_cons, show t.iteration + (k + 1) = t.iteration + 1 + k by omega]
    rfl

-- The tableaux that a run passes are fresh until it notes on them what it does, so each note tells of this run.
theorem runs_ledger (labels : Labelled t) (runs : Runs left t history) (fresh : Fresh n t) :
    ∃ k status, Ledger n k status history ∧ k ≤ left ∧ (status = .nonConvergent → k = left) := by
  refine labelled_induction (motive := fun left t history => ∀ n, Fresh n t →
    ∃ k status, Ledger n k status history ∧ k ≤ left ∧ (status = .nonConvergent → k = left))
    ?_ ?_ ?_ ?_ labels runs n fresh
  · intro left t n fresh
    exact ⟨0, .optimal, fresh.closes_optimal.ledger fresh.iteration, Nat.zero_le _, nofun⟩
  · intro t n fresh
    exact ⟨0, .nonConvergent, fresh.closes_stopped.ledger fresh.iteration, Nat.le_refl _, fun _ => rfl⟩
  · intro left t j labels free n fresh
    exact ⟨0, .unbounded, (fresh.closes_unbounded labels free).ledger fresh.iteration, Nat.zero_le _, nofun⟩
  · intro left t next i j rest labels free inside done onward ih n fresh
    obtain ⟨k, status, ledger, within, spent⟩ := ih (n + 1) (fresh.pivoted done)
    obtain ⟨s, others, same, noted⟩ := runs_head onward
    rw [same] at ledger ⊢
    refine ⟨k + 1, status, ledger.cons (fresh.leads labels free inside done noted) fresh.iteration, by omega, ?_⟩
    intro stopped
    rw [spent stopped]

end Ledgers

end LinProg.Tableau

namespace LinProg.Solution

open Tableau

variable {K : Type} [Scalar K]

structure Replay (limit : Int) (s : Solution K) : Prop where
  counted : s.history.map (·.iteration) = List.range (s.pivots + 1)
  within : (s.pivots : Int) ≤ limit
  led : s.history.IsChain fun t next => ∃ i j, Leads i j t next
  closed : ∃ last, s.history.getLast? = some last ∧ Closing s.status last
  spent : s.status = .nonConvergent → (s.pivots : Int) = limit
  told : s.steps.map Step.stamp = (0, .convert) :: (0, .initialTableau) ::
    ((List.range s.pivots).flatMap Step.round ++ Step.ending s.pivots s.status)
  attached : s.steps.filterMap (·.tableau) = s.history
  carried : ∀ step ∈ s.steps, (step.tableau.isSome ↔ step.action = .initialTableau ∨ step.action = .pivot) ∧
    ∀ t, step.tableau = some t → step.iteration = t.iteration

end LinProg.Solution

namespace LinProg.Problem

open Tableau

variable {K : Type} [Scalar K]

theorem solve_replays (p : Problem K) (limit : Int) :
    (∀ s, p.solve (.count limit) = .ok s → s.Replay limit) ∧
    (Scalar.ZeroApart K → p.Admitted → 0 ≤ limit → ∃ s, p.solve (.count limit) = .ok s) := by
  refine ⟨?_, fun apart admitted nonneg => admitted.solved apart nonneg⟩
  intro s solved
  obtain ⟨_, nonneg, form, formed, kept, runs, rfl⟩ := (solve_count_iff p limit s).mp solved
  have presents := StandardForm.of_problem_presents formed
  obtain ⟨k, status, ledger, within, spent⟩ := runs_ledger (initial_labelled presents) runs (initial_fresh form)
  obtain ⟨last, final, closing⟩ := ledger.closed
  have ended : (report form (.count limit) kept).status = status :=
    (solve_last solved final).1.trans closing.end_status
  have pivots : (report form (.count limit) kept).pivots = k := by
    have dated : (kept.map (·.iteration)).getLast? = some k := by
      simp [ledger.counted, List.getLast?_range']
    rw [List.getLast?_map] at dated
    exact congrArg (·.getD 0) dated
  refine ⟨?_, ?_, ledger.led, ?_, ?_, ?_, ?_, ?_⟩
  · rw [pivots, List.range_eq_range']
    exact ledger.counted
  · rw [pivots]
    omega
  · rw [ended]
    exact ledger.closed
  · rw [ended, pivots]
    intro stopped
    rw [spent stopped]
    omega
  · rw [ended, pivots, List.range_eq_range']
    have told := ledger.told (.count limit) none
    rw [Nat.zero_add] at told
    exact congrArg ((0, Action.convert) :: ·) told
  · exact Step.narrate_tableaux _ _ _
  · intro step member
    rcases List.mem_cons.mp member with rfl | later
    · simp [Step.conversion]
    · exact Step.narrate_carried _ _ _ step later

-- With one pivot the run stops at the tableau at which a longer one finds that there is no limit.
theorem widening_replayed : Scalar.ZeroApart Rat ∧ widening.Admitted ∧ (0 : Int) ≤ 1 ∧
    (∃ s, widening.solve (.count 1) = .ok s ∧ s.status = .nonConvergent ∧ s.pivots = 1 ∧ s.Replay 1) ∧
    ∃ s, widening.solve (.count 50) = .ok s ∧ s.status = .unbounded ∧ s.pivots = 1 ∧ s.Replay 50 := by
  have apart := Scalar.zero_apart_rational
  have admitted := widening_accepted.admitted
  have ended (limit : Int) (s : Solution Rat) (status : Status) (solved : widening.solve (.count limit) = .ok s)
      (note : (widening.record limit.toNat).getLast?.map (fun t => (t.endStatus, t.iteration)) = some (status, 1)) :
      s.status = status ∧ s.pivots = 1 := by
    obtain ⟨final, last, noted, kept, _⟩ := solve_noted solved _ note
    obtain ⟨ending, dated⟩ := Prod.mk.inj noted
    exact ⟨kept.trans ending, by simp [Solution.pivots, last, dated]⟩
  refine ⟨apart, admitted, by decide, ?_, ?_⟩
  · obtain ⟨s, solved⟩ := (solve_replays widening 1).2 apart admitted (by decide)
    obtain ⟨status, pivots⟩ := ended 1 s .nonConvergent solved (by cbv)
    exact ⟨s, solved, status, pivots, (solve_replays widening 1).1 s solved⟩
  · obtain ⟨s, solved⟩ := (solve_replays widening 50).2 apart admitted (by decide)
    obtain ⟨status, pivots⟩ := ended 50 s .unbounded solved (by cbv)
    exact ⟨s, solved, status, pivots, (solve_replays widening 50).1 s solved⟩

end LinProg.Problem
