import LinProg.Proofs.Run

set_option autoImplicit false

namespace LinProg.Tableau

variable {K : Type} [Scalar K] {t : Tableau K}

theorem most_negative_listed (t : Tableau K) (bound : K) (places : List Nat) (inside : ∀ j ∈ places, j < t.width) :
    ∃ found, t.mostNegative bound places = .ok found ∧ ∀ j, found.1 = some j → j ∈ places := by
  unfold mostNegative
  apply Outcome.foldlM_ok _ (fun found : Option Nat × K => ∀ j, found.1 = some j → j ∈ places)
  · simp
  · intro found j listed member
    by_cases less : t.objective.entry j < found.2
    · refine ⟨(some j, t.objective.entry j), by simp [inside j member, less], ?_⟩
      intro k same
      cases same
      exact member
    · exact ⟨found, by simp [inside j member, less], listed⟩

theorem entering_free (labels : Labelled t) :
    ∃ choice, t.entering? = .ok choice ∧ ∀ j, choice = some j → Free t j := by
  by_cases done : t.checkOptimal tolerance = true
  · exact ⟨none, by simp [entering?, done], by simp⟩
  · have inside : ∀ j ∈ t.freePlaces, j < t.width := by
      intro j member
      exact Nat.lt_succ_of_lt ((mem_free_places labels j).mp member).1
    obtain ⟨found, scanned, listed⟩ := most_negative_listed t (-tolerance) t.freePlaces inside
    refine ⟨found.1, ?_, ?_⟩
    · rw [entering?, if_neg done, choose_entering_eq labels, scanned]
      rfl
    · intro j same
      obtain ⟨wide, name⟩ := (mem_free_places labels j).mp (listed j same)
      exact ⟨wide, name⟩

theorem free_of_entering (labels : Labelled t) {j : Nat} (entered : t.entering? = .ok (some j)) : Free t j := by
  obtain ⟨choice, chosen, free⟩ := entering_free labels
  exact free j (Except.ok.inj (chosen.symm.trans entered))

theorem least_ratio_listed {ratios : List (Option K)} {i : Nat} (found : leastRatio ratios = some i) :
    ∃ x, ratios[i]? = some (some x) := by
  have scanned : ∀ k x, ratios.zipIdx.foldl ratioStep none = some (k, x) → (some x, k) ∈ ratios.zipIdx := by
    apply List.foldlRecOn (motive := fun best => ∀ k x, best = some (k, x) → (some x, k) ∈ ratios.zipIdx)
    · simp
    · intro best listed ⟨ratio, i⟩ member k x same
      cases ratio with
      | none => exact listed k x same
      | some y =>
          cases best with
          | none =>
              cases same
              exact member
          | some pair =>
              change (if y < pair.2 then some (i, y) else some pair) = some (k, x) at same
              by_cases less : y < pair.2
              · rw [if_pos less] at same
                cases same
                exact member
              · rw [if_neg less] at same
                exact listed k x same
  obtain ⟨⟨k, x⟩, best, same⟩ := Option.map_eq_some_iff.mp found
  cases same
  exact ⟨x, List.mk_mem_zipIdx_iff_getElem?.mp (scanned k x best)⟩

theorem leaving_positive (t : Tableau K) (j : Nat) (wide : j < t.numVars) :
    ∃ choice, t.chooseLeaving j = .ok choice ∧ ∀ i, choice = some i → i < t.height ∧ 0 < t.entryAt i j := by
  refine ⟨leastRatio ((List.range t.height).map (t.ratioAt j)), ?_, ?_⟩
  · rw [chooseLeaving, ratios_eq t j wide]
    rfl
  · intro i chosen
    obtain ⟨x, listed⟩ := least_ratio_listed chosen
    rw [List.getElem?_map] at listed
    obtain ⟨k, here, ratio⟩ := Option.map_eq_some_iff.mp listed
    obtain ⟨inside, same⟩ := List.getElem?_eq_some_iff.mp here
    rw [List.getElem_range] at same
    subst k
    rw [List.length_range] at inside
    exact ⟨inside, ((t.ratio_at_some_iff i j x).mp ratio).1⟩

theorem leaving_inside {i j : Nat} (wide : j < t.numVars) (chosen : t.chooseLeaving j = .ok (some i)) : i < t.height := by
  obtain ⟨choice, found, below⟩ := leaving_positive t j wide
  exact (below i (Except.ok.inj (found.symm.trans chosen))).1

theorem Free.pivots {i j : Nat} (apart : Scalar.ZeroApart K) (labels : Labelled t) (free : Free t j)
    (inside : i < t.height) (positive : 0 < t.entryAt i j) :
    ∃ next, t.pivot i j = .ok next ∧ Labelled next := by
  have able := free.pivotable apart labels positive
  obtain ⟨next, done⟩ := pivot_succeeds inside (Nat.lt_succ_of_lt free.wide) able
  exact ⟨next, done, labels.pivoted inside free.wide able (pivot_spec inside done).2⟩

theorem labelled_runs (apart : Scalar.ZeroApart K) (labels : Labelled t) (left : Nat) :
    ∃ history, Runs left t history := by
  induction left generalizing t with
  | zero =>
      obtain ⟨choice, entered, _⟩ := entering_free labels
      cases choice with
      | none => exact ⟨_, .optimal entered⟩
      | some j => exact ⟨_, .stopped entered⟩
  | succ left ih =>
      obtain ⟨choice, entered, free⟩ := entering_free labels
      cases choice with
      | none => exact ⟨_, .optimal entered⟩
      | some j =>
          obtain ⟨choice, chosen, found⟩ := leaving_positive t j (free j rfl).wide
          cases choice with
          | none => exact ⟨_, .unbounded entered chosen⟩
          | some i =>
              obtain ⟨inside, positive⟩ := found i rfl
              obtain ⟨next, done, named⟩ := (free j rfl).pivots apart labels inside positive
              obtain ⟨rest, runs⟩ := ih named
              exact ⟨_, .pivot entered chosen done runs⟩

-- The names are kept by each step, so a property of the runs has one case for each kind of step.
theorem labelled_induction {motive : Nat → Tableau K → List (Tableau K) → Prop}
    (optimal : ∀ left t, motive left t [t.markOptimal])
    (stopped : ∀ t, motive 0 t [t])
    (unbounded : ∀ left t j, Labelled t → Free t j → motive (left + 1) t [t.markUnbounded j])
    (pivot : ∀ left t next i j rest, Labelled t → Free t j → i < t.height → t.pivot i j = .ok next →
      Runs left next rest → motive left next rest → motive (left + 1) t (t.markPivot i j :: rest))
    {left : Nat} {history : List (Tableau K)} (labels : Labelled t) (runs : Runs left t history) :
    motive left t history := by
  induction runs with
  | optimal => exact optimal _ _
  | stopped => exact stopped _
  | unbounded entered => exact unbounded _ _ _ labels (free_of_entering labels entered)
  | pivot entered chosen done onward ih =>
      have free := free_of_entering labels entered
      have inside := leaving_inside free.wide chosen
      obtain ⟨able, pivoted⟩ := pivot_spec inside done
      exact pivot _ _ _ _ _ _ labels free inside done onward (ih (labels.pivoted inside free.wide able pivoted))

theorem runs_shaped {left : Nat} {history : List (Tableau K)} (labels : Labelled t) (runs : Runs left t history) :
    ∀ s ∈ history, Labelled s ∧ s.columns = t.columns ∧ s.height = t.height := by
  refine labelled_induction (motive := fun _ t history => Labelled t →
    ∀ s ∈ history, Labelled s ∧ s.columns = t.columns ∧ s.height = t.height) ?_ ?_ ?_ ?_ labels runs labels
  · intro _ t labels
    simpa using ⟨t.noted_optimal.labelled labels, t.noted_optimal.columns, t.noted_optimal.height⟩
  · intro t labels
    simpa using labels
  · intro _ t j _ _ labels
    have noted := t.noted_unbounded j
    simpa using ⟨noted.labelled labels, noted.columns, noted.height⟩
  · intro _ t next i j rest _ free inside done _ ih labels s member
    obtain ⟨able, pivoted⟩ := pivot_spec inside done
    rcases List.mem_cons.mp member with rfl | later
    · have noted := t.noted_pivot i j
      exact ⟨noted.labelled labels, noted.columns, noted.height⟩
    · obtain ⟨named, columns, height⟩ := ih (labels.pivoted inside free.wide able pivoted) s later
      exact ⟨named, columns.trans pivoted.columns, height.trans pivoted.height⟩

end LinProg.Tableau
