import LinProg.Proofs.Solve

set_option autoImplicit false

namespace LinProg.Tableau

structure Partitions {K : Type} (p : Problem K) (t : Tableau K) : Prop where
  basic : t.basic.length = p.constraints.length
  nonbasic : t.nonbasic.length = p.size
  columns : t.columns = p.names ++ Extended.slackNames p.constraints.length
  once : Label.Distinct (t.basic ++ t.nonbasic)
  all : (t.basic ++ t.nonbasic).Perm t.columns

structure UnitColumn (t : Tableau Rat) (i j : Nat) : Prop where
  one : t.entryAt i j = 1
  zero : ∀ k < t.height, k ≠ i → t.entryAt k j = 0
  objective : t.objective.entry j = 0

section Names

variable {K : Type} [Scalar K] {p : Problem K} {form : StandardForm K}

theorem reached_lengths {t : Tableau K} (presents : form.Presents p) (reached : Reached (initial form) t) :
    t.basic.length = p.constraints.length ∧ t.nonbasic.length = p.size := by
  refine reached_induction (fun t => t.basic.length = p.constraints.length ∧ t.nonbasic.length = p.size)
    ?_ ?_ reached
  · simp [initial_basic presents, initial_nonbasic presents, Extended.slackNames, Problem.size]
  · intro t next row col kept _ _ _ done
    rw [done.basic, done.nonbasic, List.length_set, List.length_set]
    exact kept

theorem reached_partitions {t : Tableau K} (presents : form.Presents p) (reached : Reached (initial form) t) :
    Partitions p t := by
  have labels := reached_labelled (initial_labelled presents) reached
  obtain ⟨basic, nonbasic⟩ := reached_lengths presents reached
  exact ⟨basic, nonbasic, (reached_columns reached).trans (initial_columns presents), labels.split_distinct,
    labels.split⟩

end Names

theorem Based.unit_column {t : Tableau Rat} (based : Based t) {i : Nat} {name : Label}
    (seated : t.basic[i]? = some name) :
    ∃ j < t.numVars, t.columnOf name = .ok j ∧ UnitColumn t i j := by
  have member := based.labels.basic_member (List.mem_of_getElem? seated)
  obtain ⟨wide, same⟩ := based.labels.name_at_place member
  rw [← same] at seated
  have found := (based.labels.seat_iff wide).mpr seated
  have inside := based.labels.seat_inside wide found
  have entry (k : Nat) (below : k ≤ t.height) := based.entry_basic wide found below
  refine ⟨_, wide, Label.place_in_member member, ?_, ?_, ?_⟩
  · rw [entry i (Nat.le_of_lt inside), if_pos rfl]
  · intro k within other
    rw [entry k (Nat.le_of_lt within), if_neg other]
  · rw [← entry_objective, entry t.height (Nat.le_refl _), if_neg (Nat.ne_of_gt inside)]

end LinProg.Tableau

namespace LinProg.Problem

open Tableau

-- The names are kept apart in any arithmetic, the columns are unit columns in that of the rational numbers.
theorem basis_bookkeeping :
    (∀ (K : Type) [Scalar K] (p : Problem K), p.Apart → ∃ form, StandardForm.ofProblem p = .ok form ∧
      ∀ t, Reached (initial form) t → Partitions p t) ∧
    ∀ p : Problem Rat, p.Apart → ∃ form, StandardForm.ofProblem p = .ok form ∧
      ∀ t, Reached (initial form) t → Partitions p t ∧ ∀ i < p.constraints.length,
        ∃ name j, t.basic[i]? = some name ∧ j < t.numVars ∧ t.columnOf name = .ok j ∧ UnitColumn t i j := by
  constructor
  · intro K _ p apart
    obtain ⟨form, formed, presents⟩ := apart.presented
    exact ⟨form, formed, fun t reached => reached_partitions presents reached⟩
  · intro p apart
    obtain ⟨form, formed, presents⟩ := apart.presented
    refine ⟨form, formed, ?_⟩
    intro t reached
    have kept := reached_partitions presents reached
    refine ⟨kept, ?_⟩
    intro i inside
    rw [← kept.basic] at inside
    have seated := List.getElem?_eq_getElem inside
    obtain ⟨j, wide, found, unit⟩ := ((initial_based presents).reached reached).unit_column seated
    exact ⟨_, j, seated, wide, found, unit⟩

-- One pivot that no rule for rows or columns would choose.
theorem workshop_books : workshop.Apart ∧ ∃ form t, StandardForm.ofProblem workshop = .ok form ∧
    Reached (initial form) t ∧ t.basic = [Extended.slackName 0, Extended.slackName 1, Label.numbered "x" 0] ∧
    Partitions workshop t ∧ ∃ j < t.numVars, t.columnOf (Label.numbered "x" 0) = .ok j ∧ UnitColumn t 2 j := by
  obtain ⟨form, formed, books⟩ := basis_bookkeeping.2 workshop workshop_accepted.apart
  have ran : ((StandardForm.ofProblem workshop).toOption.bind fun form => ((initial form).pivot 2 0).toOption).map
      (·.basic) = some [Extended.slackName 0, Extended.slackName 1, Label.numbered "x" 0] := by cbv
  obtain ⟨t, found, basic⟩ := Option.map_eq_some_iff.mp ran
  obtain ⟨again, formedAgain, done⟩ := Option.bind_eq_some_iff.mp found
  rw [formed] at formedAgain
  cases formedAgain
  have pivoted := (Outcome.to_option_some_iff _ _).mp done
  have presents := StandardForm.of_problem_presents formed
  have reached : Reached (initial form) t := by
    refine .pivot 2 0 .start ?_ ?_ pivoted
    · rw [initial_height presents]
      decide
    · rw [initial_num_vars presents]
      decide
  obtain ⟨kept, columns⟩ := books t reached
  obtain ⟨name, j, seated, wide, located, unit⟩ := columns 2 (by decide)
  rw [basic] at seated
  cases seated
  exact ⟨workshop_accepted.apart, form, t, formed, reached, basic, kept, j, wide, located, unit⟩

end LinProg.Problem
