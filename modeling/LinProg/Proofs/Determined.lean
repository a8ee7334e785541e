import LinProg.Proofs.Unboundedness

set_option autoImplicit false

namespace LinProg

theorem Row.ext_entry {r u : Row Rat} (even : r.coefficients.length = u.coefficients.length)
    (same : ∀ j ≤ r.coefficients.length, r.entry j = u.entry j) : r = u := by
  cases r with
  | mk coefficients rhs =>
      cases u with
      | mk others bound =>
          have rhsEq : rhs = bound := by
            have last := same coefficients.length (Nat.le_refl _)
            simpa [Row.entry, show coefficients.length = others.length from even] using last
          have coefficientsEq : coefficients = others := by
            apply List.ext_getElem even
            intro j left right
            have entry := same j (Nat.le_of_lt left)
            simpa [Row.entry, left, right] using entry
          rw [rhsEq, coefficientsEq]

namespace Tableau

def SameBasis (t s : Tableau Rat) : Prop := ∀ name, name ∈ t.basic ↔ name ∈ s.basic

structure Twins (p : Problem Rat) (t s : Tableau Rat) : Prop where
  left : Rewrites p t
  right : Rewrites p s
  based : Based t
  other : Based s
  columns : s.columns = t.columns
  same : SameBasis t s

namespace Twins

variable {p : Problem Rat} {t s : Tableau Rat}

theorem num_vars (twins : Twins p t s) : s.numVars = t.numVars := twins.right.numVars.trans twins.left.numVars.symm

theorem solves (twins : Twins p t s) {v : Nat → Rat} (solved : s.Solves v) : t.Solves v :=
  twins.left.solves_iff.mpr (twins.right.solves_iff.mp solved)

theorem seat_none_iff (twins : Twins p t s) {j : Nat} (wide : j < t.numVars) :
    s.seat? j = none ↔ t.seat? j = none := by
  have within : j < s.numVars := by rw [twins.num_vars]; exact wide
  rw [twins.other.labels.seat_none_iff within, twins.based.labels.seat_none_iff wide, name_at_congr twins.columns,
    twins.same]

theorem basic_solution_eq (twins : Twins p t s) {j : Nat} (wide : j < t.numVars) :
    s.basicSolution j = t.basicSolution j := by
  apply twins.based.basic_unique (twins.solves twins.other.solves_basic) _ wide
  intro k within free
  simp [basicSolution, spread, (twins.seat_none_iff within).mpr free]

theorem ray_eq (twins : Twins p t s) {j : Nat} (wide : j < t.numVars) (θ : Rat) {k : Nat} (within : k < t.numVars) :
    s.ray j θ k = t.ray j θ k := by
  have solved : s.Solves (s.ray j θ) := twins.other.solves_ray j θ (by rw [twins.num_vars]; exact wide)
  apply twins.based.solution_unique (twins.solves solved) (twins.based.solves_ray j θ wide) _ within
  intro c inside free
  rw [ray_free free, ray_free ((twins.seat_none_iff inside).mpr free)]

theorem seats (twins : Twins p t s) {i k : Nat} {name : Label} (first : t.basic[i]? = some name)
    (second : s.basic[k]? = some name) :
    ∃ c < t.numVars, t.seat? c = some i ∧ s.seat? c = some k := by
  obtain ⟨c, wide, here⟩ := twins.based.labels.name_at_surjective
    (twins.based.labels.basic_member (List.mem_of_getElem? first))
  have within : c < s.numVars := by rw [twins.num_vars]; exact wide
  refine ⟨c, wide, (twins.based.labels.seat_iff wide).mpr ?_, (twins.other.labels.seat_iff within).mpr ?_⟩
  · rw [first, here]
  · rw [second, name_at_congr twins.columns, here]

theorem entry_eq (twins : Twins p t s) {c i k j : Nat} (inside : c < t.numVars) (first : t.seat? c = some i)
    (second : s.seat? c = some k) (wide : j ≤ t.numVars) : s.entryAt k j = t.entryAt i j := by
  have bound : s.entryAt k t.numVars = t.entryAt i t.numVars := by
    have values := twins.basic_solution_eq inside
    rw [basic_solution_seat first, basic_solution_seat second, twins.num_vars] at values
    exact values
  by_cases last : j = t.numVars
  · rw [last]
    exact bound
  · have within : j < t.numVars := by omega
    by_cases here : c = j
    · subst j
      have columns : c < s.numVars := by rw [twins.num_vars]; exact inside
      have low := twins.based.labels.seat_inside inside first
      have deep := twins.other.labels.seat_inside columns second
      rw [twins.based.entry_basic inside first (Nat.le_of_lt low),
        twins.other.entry_basic columns second (Nat.le_of_lt deep), if_pos rfl, if_pos rfl]
    · -- The column moved by one takes its entry from the basic variable of the row.
      have moved := twins.ray_eq within 1 inside
      rw [ray_basic first here, ray_basic second here, twins.num_vars, bound] at moved
      linarith

theorem value_eq (twins : Twins p t s) : s.value = t.value := by
  have solved := twins.other.solves_basic
  have gain := twins.left.gain_of_solves (twins.solves solved)
  have own := twins.right.gain_of_solves solved
  have priced : ∑ j ∈ Finset.range t.numVars, t.entryAt t.height j * s.basicSolution j = 0 := by
    rw [Finset.sum_congr rfl fun j member => by rw [twins.basic_solution_eq (Finset.mem_range.mp member)]]
    exact twins.based.sum_spread_objective _
  rw [priced, sub_zero] at gain
  rw [basicSolution, twins.other.sum_spread_objective, sub_zero] at own
  exact own.symm.trans gain

theorem objective_entry_eq (twins : Twins p t s) {j : Nat} (wide : j < t.numVars) :
    s.entryAt s.height j = t.entryAt t.height j := by
  have within : j < s.numVars := by rw [twins.num_vars]; exact wide
  have point : pointOf p.size (s.ray j 1) = pointOf p.size (t.ray j 1) := by
    apply List.map_congr_left
    intro k member
    apply twins.ray_eq wide
    have inside := List.mem_range.mp member
    rw [twins.left.numVars]
    omega
  have gain := twins.left.gain_of_solves (twins.based.solves_ray j 1 wide)
  have other := twins.right.gain_of_solves (twins.other.solves_ray j 1 within)
  rw [twins.based.sum_ray_objective j 1 wide] at gain
  rw [point, gain, twins.other.sum_ray_objective j 1 within, twins.value_eq] at other
  linarith

theorem objective_eq (twins : Twins p t s) : s.objective = t.objective := by
  apply Row.ext_entry twins.num_vars
  intro j below
  rw [← entry_objective, ← entry_objective]
  by_cases last : j = t.numVars
  · rw [last, entry_rhs, ← twins.num_vars, entry_rhs, row_at_height s _ rfl, row_at_height t _ rfl]
    exact twins.value_eq
  · have within : j ≤ t.numVars := twins.num_vars ▸ below
    exact twins.objective_entry_eq (by omega)

theorem row_eq (twins : Twins p t s) {i k : Nat} {name : Label} (first : t.basic[i]? = some name)
    (second : s.basic[k]? = some name) : s.rowAt k = t.rowAt i := by
  obtain ⟨c, inside, here, there⟩ := twins.seats first second
  have width : (s.rowAt k).coefficients.length = t.numVars := (length_row_at s k).trans twins.num_vars
  apply Row.ext_entry (width.trans (length_row_at t i).symm)
  intro j below
  rw [width] at below
  exact twins.entry_eq inside here there below

end Twins

theorem reached_size {K : Type} [Scalar K] {start t : Tableau K} (reached : Reached start t) :
    t.height = start.height ∧ t.numVars = start.numVars := by
  apply reached_induction (fun t => t.height = start.height ∧ t.numVars = start.numVars) ⟨rfl, rfl⟩ _ reached
  intro t next row col same _ _ _ done
  exact ⟨done.height.trans same.1, done.num_vars.trans same.2⟩

theorem row_at_some {K : Type} {t : Tableau K} {i : Nat} (inside : i < t.height) : t.rows[i]? = some (t.rowAt i) := by
  have within : i < t.rows.length := inside
  simp [rowAt, within]

end Tableau

namespace Problem

open Tableau

theorem basis_determines (p : Problem Rat) (apart : p.Apart) : ∃ form, StandardForm.ofProblem p = .ok form ∧
    ∀ t s, Reached (initial form) t → Reached (initial form) s → SameBasis t s →
      t.objective = s.objective ∧ ∀ (i k : Nat) (name : Label), t.basic[i]? = some name → s.basic[k]? = some name →
        ∃ row, t.rows[i]? = some row ∧ s.rows[k]? = some row := by
  obtain ⟨form, formed, presents⟩ := apart.presented
  have base := initial_based presents
  refine ⟨form, formed, ?_⟩
  intro t s first second same
  have columns : s.columns = t.columns := (reached_columns second).trans (reached_columns first).symm
  have twins : Twins p t s := ⟨reached_rewrites presents first, reached_rewrites presents second, base.reached first,
    base.reached second, columns, same⟩
  refine ⟨twins.objective_eq.symm, ?_⟩
  intro i k name left right
  obtain ⟨inside, _⟩ := List.getElem?_eq_some_iff.mp left
  obtain ⟨within, _⟩ := List.getElem?_eq_some_iff.mp right
  rw [t.basic_length] at inside
  rw [s.basic_length] at within
  refine ⟨t.rowAt i, row_at_some inside, ?_⟩
  rw [row_at_some within, twins.row_eq left right]

def afterTwo (p : Problem Rat) (first second : Nat × Nat) : Option (Tableau Rat) := do
  let form ← (StandardForm.ofProblem p).toOption
  let middle ← ((initial form).pivot first.1 first.2).toOption
  (middle.pivot second.1 second.2).toOption

theorem after_two_reached {p : Problem Rat} {form : StandardForm Rat} (formed : StandardForm.ofProblem p = .ok form)
    {first second : Nat × Nat} {t : Tableau Rat} (made : p.afterTwo first second = some t)
    (inside : first.1 < p.constraints.length ∧ second.1 < p.constraints.length)
    (wide : first.2 < p.size + p.constraints.length ∧ second.2 < p.size + p.constraints.length) :
    Reached (initial form) t := by
  have presents := StandardForm.of_problem_presents formed
  obtain ⟨again, formedAgain, made⟩ := Option.bind_eq_some_iff.mp made
  obtain ⟨middle, begun, ended⟩ := Option.bind_eq_some_iff.mp made
  rw [formed] at formedAgain
  cases formedAgain
  have step : Reached (initial form) middle := by
    refine .pivot first.1 first.2 .start ?_ ?_ ((Outcome.to_option_some_iff _ _).mp begun)
    · rw [initial_height presents]
      exact inside.1
    · rw [initial_num_vars presents]
      exact wide.1
  obtain ⟨height, numVars⟩ := reached_size step
  refine .pivot second.1 second.2 step ?_ ?_ ((Outcome.to_option_some_iff _ _).mp ended)
  · rw [height, initial_height presents]
    exact inside.2
  · rw [numVars, initial_num_vars presents]
    exact wide.2

-- Two ways to one basis, with its rows in different places.
theorem workshop_determined : workshop.Apart ∧ ∃ form t s, StandardForm.ofProblem workshop = .ok form ∧
    Reached (initial form) t ∧ Reached (initial form) s ∧ SameBasis t s ∧
    t.basic = [Label.numbered "x" 0, Extended.slackName 1, Label.numbered "x" 1] ∧
    s.basic = [Label.numbered "x" 1, Extended.slackName 1, Label.numbered "x" 0] ∧
    t.objective = s.objective ∧ ∃ row, t.rows[0]? = some row ∧ s.rows[2]? = some row := by
  obtain ⟨form, formed, determined⟩ := basis_determines workshop workshop_accepted.apart
  have one : (workshop.afterTwo (2, 1) (0, 0)).map (·.basic) =
      some [Label.numbered "x" 0, Extended.slackName 1, Label.numbered "x" 1] := by cbv
  have other : (workshop.afterTwo (2, 0) (0, 1)).map (·.basic) =
      some [Label.numbered "x" 1, Extended.slackName 1, Label.numbered "x" 0] := by cbv
  obtain ⟨t, made, basic⟩ := Option.map_eq_some_iff.mp one
  obtain ⟨s, done, turned⟩ := Option.map_eq_some_iff.mp other
  have first := after_two_reached formed made (by decide) (by decide)
  have second := after_two_reached formed done (by decide) (by decide)
  have same : SameBasis t s := by
    intro name
    rw [basic, turned]
    simp only [List.mem_cons, List.not_mem_nil, or_false]
    tauto
  obtain ⟨objective, rows⟩ := determined t s first second same
  exact ⟨workshop_accepted.apart, form, t, s, formed, first, second, same, basic, turned, objective,
    rows 0 2 (Label.numbered "x" 0) (by rw [basic]; rfl) (by rw [turned]; rfl)⟩

end Problem

end LinProg
