import LinProg.Proofs.Choice

set_option autoImplicit false

namespace LinProg.Tableau

section Steps

variable {K : Type} [Scalar K]

inductive Runs : Nat → Tableau K → List (Tableau K) → Prop
  | optimal {left : Nat} {t : Tableau K} : t.entering? = .ok none → Runs left t [t.markOptimal]
  | stopped {t : Tableau K} {j : Nat} : t.entering? = .ok (some j) → Runs 0 t [t]
  | unbounded {left : Nat} {t : Tableau K} {j : Nat} : t.entering? = .ok (some j) →
      t.chooseLeaving j = .ok none → Runs (left + 1) t [t.markUnbounded j]
  | pivot {left : Nat} {t next : Tableau K} {i j : Nat} {rest : List (Tableau K)} :
      t.entering? = .ok (some j) → t.chooseLeaving j = .ok (some i) → t.pivot i j = .ok next →
      Runs left next rest → Runs (left + 1) t (t.markPivot i j :: rest)

theorem runs_of_run {left : Nat} {t : Tableau K} {history : List (Tableau K)} (ran : t.run left = .ok history) :
    Runs left t history := by
  induction left generalizing t history with
  | zero =>
      unfold run at ran
      obtain ⟨choice, entered, ran⟩ := (Outcome.bind_ok_iff _ _ _).mp ran
      cases choice with
      | none =>
          cases ran
          exact .optimal entered
      | some j =>
          cases ran
          exact .stopped entered
  | succ left ih =>
      unfold run at ran
      obtain ⟨choice, entered, ran⟩ := (Outcome.bind_ok_iff _ _ _).mp ran
      cases choice with
      | none =>
          cases ran
          exact .optimal entered
      | some j =>
          obtain ⟨choice, chosen, ran⟩ := (Outcome.bind_ok_iff _ _ _).mp ran
          cases choice with
          | none =>
              cases ran
              exact .unbounded entered chosen
          | some i =>
              obtain ⟨next, done, ran⟩ := (Outcome.bind_ok_iff _ _ _).mp ran
              obtain ⟨rest, onward, ran⟩ := (Outcome.bind_ok_iff _ _ _).mp ran
              cases ran
              exact .pivot entered chosen done (ih onward)

theorem run_of_runs {left : Nat} {t : Tableau K} {history : List (Tableau K)} (runs : Runs left t history) :
    t.run left = .ok history := by
  induction runs with
  | optimal entered =>
      unfold run
      rw [entered]
      rfl
  | stopped entered =>
      unfold run
      rw [entered]
      rfl
  | unbounded entered chosen =>
      unfold run
      simp only [entered, chosen, Outcome.ok_bind]
      rfl
  | pivot entered chosen done _ ih =>
      unfold run
      simp only [entered, chosen, done, ih, Outcome.ok_bind]
      rfl

theorem run_ok_iff (left : Nat) (t : Tableau K) (history : List (Tableau K)) :
    t.run left = .ok history ↔ Runs left t history :=
  ⟨runs_of_run, run_of_runs⟩

end Steps

section Notes

variable {K : Type}

structure Noted (t s : Tableau K) : Prop where
  rows : s.rows = t.rows
  objective : s.objective = t.objective
  columns : s.columns = t.columns
  basic : s.basic = t.basic
  nonbasic : s.nonbasic = t.nonbasic
  iteration : s.iteration = t.iteration

namespace Noted

variable {t s : Tableau K}

theorem height (noted : Noted t s) : s.height = t.height := congrArg List.length noted.rows

theorem num_vars (noted : Noted t s) : s.numVars = t.numVars :=
  congrArg (fun r => r.coefficients.length) noted.objective

theorem entries (noted : Noted t s) : s.entryAt = t.entryAt := by
  funext i j
  simp only [entryAt, rowAt, noted.rows, noted.objective]

theorem labelled (noted : Noted t s) (labels : Labelled t) : Labelled s := by
  refine ⟨?_, ?_, ?_⟩
  · rw [noted.columns, noted.num_vars, labels.wide]
  · rw [noted.columns]
    exact labels.distinct
  · rw [noted.basic, noted.nonbasic, noted.columns]
    exact labels.split

end Noted

theorem noted_self (t : Tableau K) : Noted t t := ⟨rfl, rfl, rfl, rfl, rfl, rfl⟩

theorem noted_optimal (t : Tableau K) : Noted t t.markOptimal := ⟨rfl, rfl, rfl, rfl, rfl, rfl⟩

theorem noted_unbounded (t : Tableau K) (j : Nat) : Noted t (t.markUnbounded j) := ⟨rfl, rfl, rfl, rfl, rfl, rfl⟩

theorem noted_pivot (t : Tableau K) (i j : Nat) : Noted t (t.markPivot i j) := ⟨rfl, rfl, rfl, rfl, rfl, rfl⟩

end Notes

section Heads

variable {K : Type} [Scalar K] {t s : Tableau K} {left : Nat} {history : List (Tableau K)}

theorem runs_head (runs : Runs left t history) : ∃ s rest, history = s :: rest ∧ Noted t s := by
  cases runs with
  | optimal => exact ⟨_, [], rfl, t.noted_optimal⟩
  | stopped => exact ⟨_, [], rfl, t.noted_self⟩
  | @unbounded _ _ j => exact ⟨_, [], rfl, t.noted_unbounded j⟩
  | @pivot _ _ _ i j rest => exact ⟨_, rest, rfl, t.noted_pivot i j⟩

theorem runs_exhausted (runs : Runs left t history) (last : history.getLast? = some s)
    (stopped : s.endStatus = .nonConvergent) : history.length = left + 1 := by
  induction runs with
  | optimal =>
      cases last
      simp [endStatus, markOptimal] at stopped
  | stopped => rfl
  | @unbounded left t j =>
      cases last
      cases plain : t.isOptimal <;> simp [endStatus, markUnbounded, plain] at stopped
  | pivot _ _ _ onward ih =>
      obtain ⟨u, others, same, _⟩ := runs_head onward
      rw [same, List.getLast?_cons_cons, ← same] at last
      rw [List.length_cons, ih last]

end Heads

theorem pivotable_of_choice {t : Tableau Rat} {i j : Nat} (based : Based t) (enters : Enters t tolerance j)
    (leaves : Leaves t i j) : Pivotable t i j :=
  Free.pivotable ⟨enters.wide, enters.free⟩ Scalar.zero_apart_rational based.labels leaves.positive

theorem runs_reached {start t : Tableau Rat} {left : Nat} {history : List (Tableau Rat)}
    (base : Based start) (reached : Reached start t) (runs : Runs left t history) :
    ∀ s ∈ history, ∃ r, Reached start r ∧ Noted r s := by
  induction runs with
  | @optimal left t entered =>
      intro s member
      rw [List.mem_singleton.mp member]
      exact ⟨t, reached, t.noted_optimal⟩
  | @stopped t j entered =>
      intro s member
      rw [List.mem_singleton.mp member]
      exact ⟨t, reached, t.noted_self⟩
  | @unbounded left t j entered chosen =>
      intro s member
      rw [List.mem_singleton.mp member]
      exact ⟨t, reached, t.noted_unbounded j⟩
  | @pivot left t next i j rest entered chosen done onward ih =>
      have enters := entering_some (base.reached reached) entered
      have leaves := leaving_some enters.wide chosen
      intro s member
      rcases List.mem_cons.mp member with here | later
      · rw [here]
        exact ⟨t, reached, t.noted_pivot i j⟩
      · exact ih (.pivot i j reached leaves.inside enters.wide done) s later

structure Ready (t : Tableau Rat) : Prop extends Based t where
  level : ∀ i < t.height, 0 ≤ t.entryAt i t.numVars

theorem Noted.ready {t s : Tableau Rat} (noted : Noted t s) (ready : Ready t) : Ready s := by
  refine ⟨⟨noted.labelled ready.labels, ?_⟩, ?_⟩
  · intro i j k inside wide seated below
    rw [noted.height] at inside below
    rw [noted.num_vars] at wide
    rw [noted.basic, name_at_congr noted.columns] at seated
    rw [noted.entries]
    exact ready.canonical i j k inside wide seated below
  · intro i inside
    rw [noted.height] at inside
    rw [noted.entries, noted.num_vars]
    exact ready.level i inside

-- The least ratio keeps the right-hand sides from falling below zero.
theorem Ready.pivoted {t next : Tableau Rat} {i j : Nat} (ready : Ready t) (enters : Enters t tolerance j)
    (leaves : Leaves t i j) (done : Pivoted t i j next) : Ready next := by
  have able := pivotable_of_choice ready.toBased enters leaves
  have labels := ready.labels.pivoted leaves.inside enters.wide able done
  have canonical := ready.canonical.pivoted ready.labels leaves.inside enters.wide able done
  refine ⟨⟨labels, canonical⟩, ?_⟩
  intro k inside
  rw [done.height] at inside
  rw [done.num_vars]
  have ratio : 0 ≤ t.entryAt i t.numVars / t.entryAt i j :=
    div_nonneg (ready.level i leaves.inside) (le_of_lt leaves.positive)
  by_cases same : k = i
  · rw [same, done.entry_pivot leaves.inside]
    exact ratio
  · rw [done.entry_other leaves.inside k _ same, done.entry_pivot leaves.inside, sub_nonneg]
    rcases le_or_gt (t.entryAt k j) 0 with down | up
    · exact le_trans (mul_nonpos_of_nonpos_of_nonneg down ratio) (ready.level k inside)
    · rw [mul_comm]
      exact (le_div_iff₀ up).mp (leaves.least k inside up)

-- Each step from a feasible basis leads to another, so a property of its runs has one case for each kind of step.
theorem runs_induction {motive : Nat → Tableau Rat → List (Tableau Rat) → Prop}
    (optimal : ∀ left t, Ready t → (∀ j < t.numVars, -tolerance ≤ t.entryAt t.height j) →
      motive left t [t.markOptimal])
    (stopped : ∀ t j, Ready t → Enters t tolerance j → motive 0 t [t])
    (unbounded : ∀ left t j, Ready t → Enters t tolerance j → (∀ i < t.height, t.entryAt i j ≤ 0) →
      motive (left + 1) t [t.markUnbounded j])
    (pivot : ∀ left t next i j rest, Ready t → Enters t tolerance j → Leaves t i j → t.pivot i j = .ok next →
      Pivoted t i j next → Runs left next rest → motive left next rest → motive (left + 1) t (t.markPivot i j :: rest))
    {left : Nat} {t : Tableau Rat} {history : List (Tableau Rat)} (ready : Ready t) (runs : Runs left t history) :
    motive left t history := by
  induction runs with
  | optimal entered => exact optimal _ _ ready (entering_none ready.toBased entered)
  | stopped entered => exact stopped _ _ ready (entering_some ready.toBased entered)
  | unbounded entered chosen =>
      have enters := entering_some ready.toBased entered
      exact unbounded _ _ _ ready enters (leaving_none enters.wide chosen)
  | pivot entered chosen done onward ih =>
      have enters := entering_some ready.toBased entered
      have leaves := leaving_some enters.wide chosen
      have pivoted := (pivot_spec leaves.inside done).2
      exact pivot _ _ _ _ _ _ ready enters leaves done pivoted onward (ih (ready.pivoted enters leaves pivoted))

inductive Ends (t : Tableau Rat) : Tableau Rat → Prop
  | optimal : (∀ j < t.numVars, -tolerance ≤ t.entryAt t.height j) → Ends t t.markOptimal
  | unbounded (j : Nat) : Enters t tolerance j → (∀ i < t.height, t.entryAt i j ≤ 0) → Ends t (t.markUnbounded j)
  | stopped (j : Nat) : Enters t tolerance j → Ends t t

theorem runs_end {start t : Tableau Rat} {left : Nat} {history : List (Tableau Rat)} (ready : Ready t)
    (reached : Reached start t) (runs : Runs left t history) :
    ∃ last s, Reached start last ∧ Ready last ∧ history.getLast? = some s ∧ Ends last s := by
  refine runs_induction (motive := fun _ t history => Reached start t →
    ∃ last s, Reached start last ∧ Ready last ∧ history.getLast? = some s ∧ Ends last s) ?_ ?_ ?_ ?_ ready runs reached
  · intro left t ready least reached
    exact ⟨t, _, reached, ready, rfl, .optimal least⟩
  · intro t j ready enters reached
    exact ⟨t, _, reached, ready, rfl, .stopped j enters⟩
  · intro left t j ready enters unlimited reached
    exact ⟨t, _, reached, ready, rfl, .unbounded j enters unlimited⟩
  · intro left t next i j rest ready enters leaves done pivoted onward ih reached
    obtain ⟨last, s, arrived, fit, final, ends⟩ := ih (.pivot i j reached leaves.inside enters.wide done)
    refine ⟨last, s, arrived, fit, ?_, ends⟩
    rw [List.getLast?_cons, final]
    rfl

end LinProg.Tableau
