import LinProg.Proofs.Replay

set_option autoImplicit false

namespace LinProg.Tableau

section Runs

variable {K : Type} {t next : Tableau K} {i j n low high : Nat} {history : List (Tableau K)}

def Decided (t : Tableau K) : Prop := t.isOptimal = true ∨ t.pivotColumn ≠ none

theorem Closing.decided_iff {status : Status} (closing : Closing status t) : Decided t ↔ status ≠ .nonConvergent := by
  cases status with
  | optimal => simp [Decided, closing.optimal]
  | unbounded =>
      obtain ⟨j, _, column, _⟩ := closing.column rfl
      simp [Decided, column]
  | nonConvergent =>
      have bare := closing.bare (by decide)
      simp [Decided, closing.optimal, bare.1]

variable [Scalar K]

theorem runs_pivot_iff (entered : t.entering? = .ok (some j)) (chosen : t.chooseLeaving j = .ok (some i))
    (done : t.pivot i j = .ok next) :
    Runs (low + 1) t history ↔ ∃ rest, history = t.markPivot i j :: rest ∧ Runs low next rest := by
  constructor
  · intro runs
    cases runs with
    | optimal none => simp [entered] at none
    | unbounded again none =>
        cases entered.symm.trans again
        simp [chosen] at none
    | pivot again picked moved onward =>
        cases entered.symm.trans again
        cases chosen.symm.trans picked
        cases done.symm.trans moved
        exact ⟨_, rfl, onward⟩
  · intro ⟨rest, same, onward⟩
    cases same
    exact .pivot entered chosen done onward

-- Either more pivots change nothing, or all were used and a longer run passes the place at which this one stopped.
theorem runs_more (fresh : Fresh n t) (raised : low ≤ high) (runs : Runs low t history) :
    (Runs high t history ∧ ∀ s ∈ history, Decided s) ∨
    ∃ front u, history = front ++ [u] ∧ front.length = low ∧ (∀ s ∈ front, Decided s) ∧ Closing .nonConvergent u ∧
      ∀ longer, Runs high t longer → ∃ v rest, longer = front ++ v :: rest ∧ Noted u v := by
  induction runs generalizing n high with
  | optimal entered => exact .inl ⟨.optimal entered, by simp [Decided, markOptimal]⟩
  | @stopped t =>
      refine .inr ⟨[], t, rfl, rfl, by simp, fresh.closes_stopped, ?_⟩
      intro longer onward
      exact runs_head onward
  | unbounded entered chosen =>
      obtain ⟨high, rfl⟩ := Nat.exists_eq_add_of_lt raised
      exact .inl ⟨.unbounded entered chosen, by simp [Decided, markUnbounded]⟩
  | @pivot low t next i j rest entered chosen done _ ih =>
      cases high with
      | zero => cases raised
      | succ high =>
          have pivots (history : List (Tableau K)) :
              Runs (high + 1) t history ↔ ∃ rest, history = t.markPivot i j :: rest ∧ Runs high next rest :=
            runs_pivot_iff entered chosen done
          have decided : Decided (t.markPivot i j) := by simp [Decided, markPivot]
          rcases ih (fresh.pivoted done) (Nat.le_of_succ_le_succ raised) with
            ⟨onward, all⟩ | ⟨front, u, same, used, all, stopped, further⟩
          · exact .inl ⟨(pivots _).mpr ⟨rest, rfl, onward⟩, by simpa [decided] using all⟩
          · refine .inr ⟨t.markPivot i j :: front, u, by simp [same], by simp [used], by simpa [decided] using all,
              stopped, ?_⟩
            intro longer ran
            obtain ⟨others, rfl, onward⟩ := (pivots longer).mp ran
            obtain ⟨v, later, rfl, noted⟩ := further others onward
            exact ⟨v, later, rfl, noted⟩

end Runs

end LinProg.Tableau

namespace LinProg.Step

open Tableau

section Limits

variable {K : Type}

def said (step : Step K) : Nat × Text × Action × Text := (step.iteration, step.title, step.action, step.detail)

theorem said_arrival {t s : Tableau K} (previous : Option (Tableau K)) (noted : Noted t s) :
    (arrival previous s).said = (arrival previous t).said := by
  cases previous <;> simp [said, arrival, noted.iteration, noted.basic]

variable [Scalar K]

theorem decisions_decided {t : Tableau K} (decided : Decided t) (low high : Limit) :
    decisions low t = decisions high t := by
  unfold decisions
  by_cases optimal : t.isOptimal = true
  · simp [optimal]
  · obtain ⟨j, column⟩ := Option.ne_none_iff_exists'.mp (decided.resolve_left optimal)
    rw [column]
    cases t.pivotRow <;> rfl

theorem narrate_decided (low high : Limit) (previous : Option (Tableau K)) (history : List (Tableau K))
    (decided : ∀ t ∈ history, Decided t) : narrate low previous history = narrate high previous history := by
  induction history generalizing previous with
  | nil => rfl
  | cons t rest ih =>
      rw [narrate, narrate, decisions_decided (decided t List.mem_cons_self) low high,
        ih (some t) fun s member => decided s (List.mem_cons_of_mem t member)]

theorem narrate_append (previous : Option (Tableau K)) (front : List (Tableau K)) : ∃ before, ∀ limit back,
    narrate limit previous (front ++ back) = narrate limit previous front ++ narrate limit before back := by
  induction front generalizing previous with
  | nil => exact ⟨previous, fun _ _ => rfl⟩
  | cons t rest ih =>
      obtain ⟨before, split⟩ := ih (some t)
      exact ⟨before, fun limit back => by simp [narrate, split]⟩

end Limits

end LinProg.Step

namespace LinProg.Solution

open Tableau

variable {K : Type} [Scalar K]

structure Prolongs (limit : Nat) (s u : Solution K) : Prop where
  full : s.history.length = limit + 1
  longer : limit + 1 ≤ u.history.length
  agree : ∀ k t, s.history[k]? = some t → ∃ v, u.history[k]? = some v ∧ Noted t v ∧ (k < limit → v = t)
  stopped : s.steps.getLast?.map (·.action) = some .nonConvergent
  said : s.steps.dropLast.map Step.said <+: u.steps.map Step.said

end LinProg.Solution

namespace LinProg.Problem

open Tableau

variable {K : Type} [Scalar K]

theorem report_prolongs (form : StandardForm K) (low high : Limit) {front rest : List (Tableau K)} {u v : Tableau K}
    (decided : ∀ s ∈ front, Decided s) (closing : Closing .nonConvergent u) (noted : Noted u v) :
    (report form low (front ++ [u])).Prolongs front.length (report form high (front ++ v :: rest)) := by
  obtain ⟨before, split⟩ := Step.narrate_append none front
  have told := Step.narrate_decided low high none front decided
  have last := Step.decisions_stopped low closing
  have steps : (report form low (front ++ [u])).steps =
      (Step.conversion form :: Step.narrate high none front ++ [Step.arrival before u]) ++ [Step.limitReached low u] := by
    simp [report, split, told, Step.narrate, last]
  refine ⟨by simp [report], by simp [report], ?_, ?_, ?_⟩
  · intro k t here
    rcases Nat.lt_or_ge k front.length with inside | beyond
    · rw [report, List.getElem?_append_left inside] at here
      exact ⟨t, by rw [report, List.getElem?_append_left inside, here], t.noted_self, fun _ => rfl⟩
    · have same : k = front.length := by
        have within := (List.getElem?_eq_some_iff.mp here).1
        simp [report] at within
        omega
      subst k
      have this : u = t := by simpa [report] using here
      subst t
      exact ⟨v, by simp [report], noted, fun less => absurd less (Nat.lt_irrefl _)⟩
  · rw [steps, List.getLast?_concat]
    rfl
  · rw [steps, List.dropLast_concat]
    refine ⟨(Step.decisions high v ++ Step.narrate high (some v) rest).map Step.said, ?_⟩
    simp [report, split, Step.narrate, Step.said_arrival before noted]

theorem raised_limit_extends (p : Problem K) (low high : Int) (raised : low ≤ high) :
    (∀ s, p.solve (.count low) = .ok s →
      (s.status = .optimal ∨ s.status = .unbounded → p.solve (.count high) = .ok s) ∧
      (s.status = .nonConvergent → ∀ u, p.solve (.count high) = .ok u → s.Prolongs low.toNat u)) ∧
    (Scalar.ZeroApart K → p.Admitted → 0 ≤ low →
      ∃ s u, p.solve (.count low) = .ok s ∧ p.solve (.count high) = .ok u) := by
  constructor
  · intro s solved
    obtain ⟨checked, nonneg, form, formed, kept, runs, rfl⟩ := (solve_count_iff p low s).mp solved
    have fresh := initial_fresh form
    obtain ⟨_, status, ledger, _⟩ :=
      runs_ledger (initial_labelled (StandardForm.of_problem_presents formed)) runs fresh
    obtain ⟨last, final, closing⟩ := ledger.closed
    have ended : (report form (.count low) kept).status = status :=
      (solve_last solved final).1.trans closing.end_status
    rw [ended]
    rcases runs_more fresh (Int.toNat_le_toNat raised) runs with
      ⟨again, decided⟩ | ⟨front, stop, rfl, used, decided, stopped, further⟩
    · have told := Step.narrate_decided (.count low) (.count high) none kept decided
      refine ⟨?_, ?_⟩
      · intro _
        refine (solve_count_iff p high _).mpr ⟨checked, le_trans nonneg raised, form, formed, kept, again, ?_⟩
        rw [report, report, told]
      · intro without
        exact absurd without (closing.decided_iff.mp (decided last (List.mem_of_getLast? final)))
    · have same : status = .nonConvergent := by
        rw [List.getLast?_concat] at final
        cases final
        exact closing.end_status.symm.trans stopped.end_status
      refine ⟨by simp [same], ?_⟩
      intro _ u solvedAgain
      obtain ⟨_, _, again, formedAgain, longer, onward, rfl⟩ := (solve_count_iff p high u).mp solvedAgain
      cases formed.symm.trans formedAgain
      obtain ⟨v, rest, rfl, noted⟩ := further longer onward
      rw [← used]
      exact report_prolongs form _ _ decided stopped noted
  · intro apart admitted nonneg
    obtain ⟨s, solved⟩ := admitted.solved apart nonneg
    obtain ⟨u, again⟩ := admitted.solved apart (le_trans nonneg raised)
    exact ⟨s, u, solved, again⟩

-- With one pivot the run stops short of the optimum, which it reaches with two; more than those are not made.
theorem workshop_extended : (1 : Int) ≤ 50 ∧ (50 : Int) ≤ 60 ∧ Scalar.ZeroApart Rat ∧ workshop.Admitted ∧
    ∃ s u, workshop.solve (.count 1) = .ok s ∧ workshop.solve (.count 50) = .ok u ∧ s.status = .nonConvergent ∧
      u.status = .optimal ∧ s.Prolongs 1 u ∧ workshop.solve (.count 60) = .ok u := by
  have apart := Scalar.zero_apart_rational
  have admitted := workshop_accepted.admitted
  obtain ⟨extended, both⟩ := raised_limit_extends workshop 1 50 (by decide)
  obtain ⟨s, u, solved, again⟩ := both apart admitted (by decide)
  have short : (workshop.record 1).getLast?.map endStatus = some .nonConvergent := by cbv
  have enough : (workshop.record 50).getLast?.map endStatus = some .optimal := by cbv
  obtain ⟨_, _, stopped, status, _⟩ := solve_noted solved endStatus short
  obtain ⟨_, _, optimal, best, _⟩ := solve_noted again endStatus enough
  have settled := ((raised_limit_extends workshop 50 60 (by decide)).1 u again).1 (.inl (best.trans optimal))
  exact ⟨by decide, by decide, apart, admitted, s, u, solved, again, status.trans stopped, best.trans optimal,
    (extended s solved).2 (status.trans stopped) u again, settled⟩

end LinProg.Problem
