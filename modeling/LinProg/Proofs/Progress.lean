import LinProg.Proofs.Record

set_option autoImplicit false

namespace LinProg.Tableau

variable {t next s : Tableau Rat} {i j : Nat} {r : Rat}

def LeastRatio (t : Tableau Rat) (i j : Nat) (r : Rat) : Prop :=
  ∃ ratios, t.ratios j = .ok ratios ∧ ratios[i]? = some (some r) ∧ ∀ x, some x ∈ ratios → r ≤ x

structure Advance (t next : Tableau Rat) (i j : Nat) (r : Rat) : Prop where
  row : t.pivotRow = some i
  column : t.pivotColumn = some j
  ratio : LeastRatio t i j r
  nonneg : 0 ≤ r
  falling : t.objective.entry j < 0
  value : next.value = t.value + r * -t.objective.entry j

namespace Advance

theorem value_le (advance : Advance t next i j r) : t.value ≤ next.value := by
  have gain : 0 ≤ r * -t.objective.entry j := mul_nonneg advance.nonneg (le_of_lt (neg_pos.mpr advance.falling))
  rw [advance.value]
  linarith

theorem value_lt_iff (advance : Advance t next i j r) : t.value < next.value ↔ 0 < r := by
  rw [advance.value, lt_add_iff_pos_right]
  exact mul_pos_iff_of_pos_right (neg_pos.mpr advance.falling)

end Advance

theorem Leaves.least_ratio (leaves : Leaves t i j) (wide : j < t.numVars) :
    LeastRatio t i j (t.entryAt i t.numVars / t.entryAt i j) := by
  refine ⟨_, t.ratios_eq j wide, ?_, ?_⟩
  · have ratio := (t.ratio_at_some_iff i j _).mpr ⟨leaves.positive, rfl⟩
    simp [leaves.inside, ratio]
  · intro x member
    obtain ⟨k, inside, ratio⟩ := List.mem_map.mp member
    obtain ⟨positive, same⟩ := (t.ratio_at_some_iff k j x).mp ratio
    rw [← same]
    exact leaves.least k (List.mem_range.mp inside) positive

theorem Pivoted.value_eq (done : Pivoted t i j next) (inside : i < t.height) :
    next.value = t.value + t.entryAt i t.numVars / t.entryAt i j * -t.entryAt t.height j := by
  have last (u : Tableau Rat) : u.value = u.entryAt u.height u.numVars := by
    rw [entry_rhs, row_at_height u _ rfl]
    rfl
  rw [last next, last t, done.height, done.num_vars, done.entry_other inside _ _ (Nat.ne_of_gt inside),
    done.entry_pivot inside]
  ring

theorem Ready.advance (ready : Ready t) (enters : Enters t tolerance j) (leaves : Leaves t i j)
    (done : Pivoted t i j next) (noted : Noted next s) :
    Advance (t.markPivot i j) s i j (t.entryAt i t.numVars / t.entryAt i j) := by
  have value := done.value_eq leaves.inside
  have falling := enters.falling
  rw [entry_objective] at value falling
  refine ⟨rfl, rfl, leaves.least_ratio enters.wide, ?_, falling, (congrArg (·.rhs) noted.objective).trans value⟩
  exact div_nonneg (ready.level i leaves.inside) (le_of_lt leaves.positive)

theorem Ready.rhs_nonneg (ready : Ready t) : ∀ row ∈ t.rows, 0 ≤ row.rhs := by
  intro row member
  obtain ⟨i, inside, rfl⟩ := List.mem_iff_getElem.mp member
  have level := ready.level i inside
  rw [entry_rhs, rowAt, List.getD_eq_getElem _ _ inside] at level
  exact level

section Runs

variable {left : Nat} {history : List (Tableau Rat)}

theorem runs_advance (ready : Ready t) (runs : Runs left t history) :
    history.IsChain fun t next => ∃ i j r, Advance t next i j r := by
  refine runs_induction (motive := fun _ _ history => history.IsChain fun t next => ∃ i j r, Advance t next i j r)
    ?_ ?_ ?_ ?_ ready runs
  · exact fun _ _ _ _ => .singleton _
  · exact fun _ _ _ _ => .singleton _
  · exact fun _ _ _ _ _ _ => .singleton _
  · intro left t next i j rest ready enters leaves _ pivoted onward chain
    obtain ⟨s, others, same, noted⟩ := runs_head onward
    rw [same] at chain ⊢
    exact List.isChain_cons_cons.mpr ⟨⟨i, j, _, ready.advance enters leaves pivoted noted⟩, chain⟩

end Runs

end LinProg.Tableau

namespace LinProg.Problem

open Tableau

theorem history_progress (p : Problem Rat) (limit : Int) (accepted : p.Accepted) (nonneg : 0 ≤ limit) :
    ∃ s, p.solve (.count limit) = .ok s ∧
      (∀ t ∈ s.history, ∀ row ∈ t.rows, 0 ≤ row.rhs) ∧
      ∀ k t next, s.history[k]? = some t → s.history[k + 1]? = some next →
        ∃ i j r, t.pivotRow = some i ∧ t.pivotColumn = some j ∧ LeastRatio t i j r ∧
          next.value = t.value + r * -t.objective.entry j ∧
          t.value ≤ next.value ∧ (t.value < next.value ↔ 0 < r) := by
  obtain ⟨s, _, solved, _⟩ := accepted.solved limit nonneg
  obtain ⟨form, _, ready, runs⟩ := accepted.runs solved
  refine ⟨s, solved, ?_, ?_⟩
  · intro t member
    exact (runs_ready ready runs t member).rhs_nonneg
  · intro k t next here after
    obtain ⟨_, rfl⟩ := List.getElem?_eq_some_iff.mp here
    obtain ⟨inside, rfl⟩ := List.getElem?_eq_some_iff.mp after
    obtain ⟨i, j, r, advance⟩ := List.isChain_iff_getElem.mp (runs_advance ready runs) k inside
    exact ⟨i, j, r, advance.row, advance.column, advance.ratio, advance.value, advance.value_le, advance.value_lt_iff⟩

theorem workshop_progress : workshop.Accepted ∧ (0 : Int) ≤ 50 ∧ ∃ s, workshop.solve (.count 50) = .ok s ∧
    s.history.map (·.value) = [0, 30, 36] ∧ (∀ t ∈ s.history, ∀ row ∈ t.rows, 0 ≤ row.rhs) ∧
    ∃ t i j r, s.history[1]? = some t ∧ t.pivotRow = some i ∧ t.pivotColumn = some j ∧ LeastRatio t i j r ∧
      36 = 30 + r * -t.objective.entry j ∧ 0 < r := by
  obtain ⟨s, solved, level, steps⟩ := history_progress workshop 50 workshop_accepted (by decide)
  have values : (workshop.record 50).map (·.value) = [0, 30, 36] := by cbv
  rw [show workshop.record 50 = s.history from (solve_record solved).symm] at values
  have value (k : Nat) (x : Rat) (listed : ([0, 30, 36] : List Rat)[k]? = some x) :
      ∃ t, s.history[k]? = some t ∧ t.value = x := by
    rw [← values, List.getElem?_map] at listed
    exact Option.map_eq_some_iff.mp listed
  obtain ⟨t, here, thirty⟩ := value 1 30 rfl
  obtain ⟨next, after, most⟩ := value 2 36 rfl
  obtain ⟨i, j, r, row, column, ratio, gained, _, risen⟩ := steps 1 t next here after
  rw [thirty, most] at gained risen
  exact ⟨workshop_accepted, by decide, s, solved, values, level, t, i, j, r, here, row, column, ratio, gained,
    risen.mp (by norm_num)⟩

end LinProg.Problem
