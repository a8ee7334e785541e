import LinProg.Proofs.Solve

set_option autoImplicit false

namespace LinProg.Tableau

attribute [ext] Tableau

section Runs

variable {K : Type} [Scalar K] {columns : List Label} {f : Tableau K → Tableau K}

-- A map that changes no choice on a tableau with these columns, and takes what follows to what follows.
structure Carries (columns : List Label) (f : Tableau K → Tableau K) : Prop where
  entering : ∀ t, Labelled t → t.columns = columns → (f t).entering? = t.entering?
  leaving : ∀ t (j : Nat), j < t.numVars → (f t).chooseLeaving j = t.chooseLeaving j
  pivot : ∀ t (i j : Nat), Labelled t → t.columns = columns → Free t j → i < t.height → Pivotable t i j →
    (f t).pivot i j = .ok (f (t.after i j))
  optimal : ∀ t, (f t).markOptimal = f t.markOptimal
  unbounded : ∀ t (j : Nat), t.columns = columns → (f t).markUnbounded j = f (t.markUnbounded j)
  pivoting : ∀ t (i j : Nat), t.columns = columns → (f t).markPivot i j = f (t.markPivot i j)

theorem Carries.runs (carries : Carries columns f) {t : Tableau K} {left : Nat} {history : List (Tableau K)}
    (labels : Labelled t) (named : t.columns = columns) (runs : Runs left t history) :
    Runs left (f t) (history.map f) := by
  induction runs with
  | @optimal left t entered =>
      rw [← carries.entering t labels named] at entered
      rw [List.map_singleton, ← carries.optimal]
      exact .optimal entered
  | @stopped t j entered =>
      rw [← carries.entering t labels named] at entered
      exact .stopped entered
  | @unbounded left t j entered chosen =>
      have free := free_of_entering labels entered
      rw [← carries.entering t labels named] at entered
      rw [← carries.leaving t j free.wide] at chosen
      rw [List.map_singleton, ← carries.unbounded t j named]
      exact .unbounded entered chosen
  | @pivot left t next i j rest entered chosen done onward ih =>
      have free := free_of_entering labels entered
      have inside := leaving_inside free.wide chosen
      obtain ⟨able, pivoted⟩ := pivot_spec inside done
      have same := (pivot_ok inside done).2
      have onward := ih (labels.pivoted inside free.wide able pivoted) (pivoted.columns.trans named)
      rw [← carries.entering t labels named] at entered
      rw [← carries.leaving t j free.wide] at chosen
      rw [List.map_cons, ← carries.pivoting t i j named]
      subst next
      exact .pivot entered chosen (carries.pivot t i j labels named free inside able) onward

end Runs

end LinProg.Tableau

namespace LinProg.Problem

open Tableau

section Solves

variable {K : Type} [Scalar K] {f : Tableau K → Tableau K} {form other : StandardForm K}

theorem history_carried {limit : Limit} {kept : List (Tableau K)} (carries : Carries (initial form).columns f)
    (labels : Labelled (initial form)) (start : initial other = f (initial form))
    (ran : history form limit = .ok kept) : history other limit = .ok (kept.map f) := by
  unfold history at ran ⊢
  cases pivots : limit.pivots? with
  | some left =>
      simp only [pivots, Outcome.mapError_ok_iff, run_ok_iff] at ran ⊢
      rw [start]
      exact carries.runs labels rfl ran
  | none =>
      -- Where no pivot can be allowed, a record is at most the first tableau.
      simp only [pivots] at ran ⊢
      obtain ⟨choice, entered, kept⟩ := (Outcome.bind_ok_iff _ _ _).mp ran
      cases choice with
      | some j => cases kept
      | none =>
          cases kept
          rw [start, carries.entering _ labels rfl, entered, carries.optimal]
          rfl

theorem solve_carried {p q : Problem K} {limit : Limit} {s : Solution K} (formed : StandardForm.ofProblem p = .ok form)
    (again : StandardForm.ofProblem q = .ok other) (carries : Carries (initial form).columns f)
    (start : initial other = f (initial form)) (checked : p.checkOrigin = .ok () → q.checkOrigin = .ok ())
    (solved : p.solve limit = .ok s) : q.solve limit = .ok (report other limit (s.history.map f)) := by
  obtain ⟨fine, allowed, same, formedAgain, kept, ran, rfl⟩ := (solve_ok_iff p limit s).mp solved
  cases formed.symm.trans formedAgain
  have labels := initial_labelled (StandardForm.of_problem_presents formed)
  exact (solve_ok_iff q limit _).mpr
    ⟨checked fine, allowed, other, again, _, history_carried carries labels start ran, rfl⟩

end Solves

end LinProg.Problem
