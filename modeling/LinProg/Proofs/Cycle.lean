import LinProg.Proofs.Determined
import LinProg.Proofs.Progress

set_option autoImplicit false

/-!
Runs that use up more pivots than there are bases: they come back to a basis, and since the basis determines the
value, which no pivot lowers, all pivots in between are degenerate.
-/
namespace LinProg.Tableau

open Finset

section Places

variable {K : Type} {t s : Tableau K}

def basicPlaces (t : Tableau K) : Finset Nat := (t.basic.map fun name => t.columns.idxOf name).toFinset

namespace Labelled

theorem card_basic_places (labels : Labelled t) : t.basicPlaces.card = t.height := by
  have nodup : (t.basic.map fun name => t.columns.idxOf name).Nodup := by
    refine List.Nodup.map_on ?_ (Label.distinct_nodup labels.basic_distinct)
    intro a first b second same
    rw [← (labels.name_at_place (labels.basic_member first)).2, same]
    exact (labels.name_at_place (labels.basic_member second)).2
  rw [basicPlaces, List.toFinset_card_of_nodup nodup, List.length_map, t.basic_length]
  rfl

theorem basic_places_subset (labels : Labelled t) : t.basicPlaces ⊆ range t.numVars := by
  intro j member
  obtain ⟨name, basic, rfl⟩ := List.mem_map.mp (List.mem_toFinset.mp member)
  exact mem_range.mpr (labels.name_at_place (labels.basic_member basic)).1

theorem mem_basic_places (labels : Labelled t) {name : Label} (member : name ∈ t.columns) :
    t.columns.idxOf name ∈ t.basicPlaces ↔ name ∈ t.basic := by
  rw [basicPlaces, List.mem_toFinset, List.mem_map]
  constructor
  · intro ⟨other, basic, same⟩
    have found := (labels.name_at_place (labels.basic_member basic)).2
    rw [same, (labels.name_at_place member).2] at found
    rw [found]
    exact basic
  · intro basic
    exact ⟨name, basic, rfl⟩

end Labelled

end Places

theorem same_basis_of_places {t s : Tableau Rat} (labels : Labelled t) (others : Labelled s)
    (columns : t.columns = s.columns) (same : t.basicPlaces = s.basicPlaces) : SameBasis t s := by
  intro name
  by_cases member : name ∈ t.columns
  · rw [← labels.mem_basic_places member, same, columns]
    rw [columns] at member
    exact others.mem_basic_places member
  · have absent : name ∉ t.basic := fun basic => member (labels.basic_member basic)
    rw [columns] at member
    have missing : name ∉ s.basic := fun basic => member (others.basic_member basic)
    simp [absent, missing]

namespace Recorded

variable {p : Problem Rat} {t s : Tableau Rat}

theorem twins (first : Recorded p t) (second : Recorded p s) (same : SameBasis t s) : Twins p t s :=
  ⟨first.rewrites, second.rewrites, first.ready.toBased, second.ready.toBased,
    second.columns.trans first.columns.symm, same⟩

end Recorded

structure Circle (history : List (Tableau Rat)) (a b : Nat) : Prop where
  before : a < b
  same : ∃ t u, history[a]? = some t ∧ history[b]? = some u ∧ SameBasis t u
  idle : ∀ k, a ≤ k → k < b → ∃ t next i j, history[k]? = some t ∧ history[k + 1]? = some next ∧
    t.pivotRow = some i ∧ t.pivotColumn = some j ∧ LeastRatio t i j 0 ∧ next.value = t.value

-- There are not more bases than ways to choose their columns.
theorem repeated_basis {p : Problem Rat} {history : List (Tableau Rat)} (recorded : ∀ t ∈ history, Recorded p t)
    (long : (p.size + p.constraints.length).choose p.constraints.length < history.length) :
    ∃ (a b : Nat) (t u : Tableau Rat), a < b ∧ history[a]? = some t ∧ history[b]? = some u ∧ SameBasis t u := by
  have chosen : ∀ k ∈ range history.length, ((history[k]?.map basicPlaces).getD ∅) ∈
      powersetCard p.constraints.length (range (p.size + p.constraints.length)) := by
    intro k member
    have inside := mem_range.mp member
    have listed := recorded _ (List.getElem_mem inside)
    rw [List.getElem?_eq_getElem inside, Option.map_some, Option.getD_some, mem_powersetCard,
      ← listed.rewrites.numVars, ← listed.rewrites.height]
    exact ⟨listed.ready.labels.basic_places_subset, listed.ready.labels.card_basic_places⟩
  have fewer : (powersetCard p.constraints.length (range (p.size + p.constraints.length))).card <
      (range history.length).card := by
    rw [card_powersetCard, card_range, card_range]
    exact long
  obtain ⟨a, first, b, second, different, same⟩ := exists_ne_map_eq_of_card_lt_of_maps_to fewer chosen
  wlog before : a < b generalizing a b
  · exact this b second a first (Ne.symm different) same.symm (by omega)
  have early := mem_range.mp first
  have late := mem_range.mp second
  rw [List.getElem?_eq_getElem early, List.getElem?_eq_getElem late] at same
  have left := recorded _ (List.getElem_mem early)
  have right := recorded _ (List.getElem_mem late)
  refine ⟨a, b, _, _, before, List.getElem?_eq_getElem early, List.getElem?_eq_getElem late, ?_⟩
  exact same_basis_of_places left.ready.labels right.ready.labels (left.columns.trans right.columns.symm) same

section Runs

variable {history : List (Tableau Rat)}

theorem chain_value_le (chain : history.IsChain fun t next => ∃ i j r, Advance t next i j r) {a b : Nat}
    (ordered : a ≤ b) {t u : Tableau Rat} (first : history[a]? = some t) (second : history[b]? = some u) :
    t.value ≤ u.value := by
  have rising : history.IsChain fun t u => t.value ≤ u.value :=
    chain.imp fun t next ⟨i, j, r, advance⟩ => advance.value_le
  have transitive : IsTrans (Tableau Rat) fun t u => t.value ≤ u.value := ⟨fun _ _ _ => le_trans⟩
  obtain ⟨early, rfl⟩ := List.getElem?_eq_some_iff.mp first
  obtain ⟨late, rfl⟩ := List.getElem?_eq_some_iff.mp second
  rcases Nat.lt_or_eq_of_le ordered with before | rfl
  · exact List.pairwise_iff_getElem.mp (List.isChain_iff_pairwise.mp rising) a b early late before
  · exact le_refl _

theorem circle_of_same_basis {p : Problem Rat} (recorded : ∀ t ∈ history, Recorded p t)
    (chain : history.IsChain fun t next => ∃ i j r, Advance t next i j r) {a b : Nat} (before : a < b)
    {t u : Tableau Rat} (first : history[a]? = some t) (second : history[b]? = some u) (same : SameBasis t u) :
    Circle history a b := by
  have left := recorded t (List.mem_of_getElem? first)
  have right := recorded u (List.mem_of_getElem? second)
  have level : u.value = t.value := (left.twins right same).value_eq
  refine ⟨before, ⟨t, u, first, second, same⟩, ?_⟩
  intro k from_a to_b
  obtain ⟨late, _⟩ := List.getElem?_eq_some_iff.mp second
  have inside : k + 1 < history.length := by omega
  have here : history[k]? = some history[k] := List.getElem?_eq_getElem _
  have after : history[k + 1]? = some history[k + 1] := List.getElem?_eq_getElem inside
  obtain ⟨i, j, r, advance⟩ := List.isChain_iff_getElem.mp chain k inside
  have start := chain_value_le chain from_a first here
  have finish := chain_value_le chain to_b after second
  have flat : history[k + 1].value = history[k].value := by
    refine le_antisymm ?_ advance.value_le
    rw [level] at finish
    exact le_trans finish start
  have none : ¬ 0 < r := fun positive => ne_of_gt (advance.value_lt_iff.mpr positive) flat
  have zero : r = 0 := le_antisymm (not_lt.mp none) advance.nonneg
  rw [zero] at advance
  exact ⟨_, _, i, j, here, after, advance.row, advance.column, advance.ratio, flat⟩

end Runs

theorem ratios_ok {t : Tableau Rat} {col : Nat} {ratios : List (Option Rat)} (found : t.ratios col = .ok ratios) :
    ratios = t.rows.map fun r => if 0 < r.entry col then some (r.rhs / r.entry col) else none := by
  unfold Tableau.ratios at found
  cases empty : t.rows.isEmpty with
  | true =>
      rw [empty] at found
      cases found
      simp [List.isEmpty_iff.mp empty]
  | false =>
      rw [empty, column_nat_cast] at found
      by_cases wide : col < t.width
      · rw [if_pos wide] at found
        cases found
        rfl
      · rw [if_neg wide] at found
        cases found

theorem LeastRatio.pos {t : Tableau Rat} {i j : Nat} {r : Rat} (ratio : LeastRatio t i j r)
    (positive : ∀ row ∈ t.rows, 0 < row.rhs) : 0 < r := by
  obtain ⟨ratios, found, listed, _⟩ := ratio
  rw [ratios_ok found, List.getElem?_map] at listed
  obtain ⟨row, here, same⟩ := Option.map_eq_some_iff.mp listed
  by_cases entry : 0 < row.entry j
  · rw [if_pos entry] at same
    cases same
    exact div_pos (positive row (List.mem_of_getElem? here)) entry
  · rw [if_neg entry] at same
    cases same

end LinProg.Tableau

namespace LinProg.Problem

open Tableau

theorem Accepted.circle {p : Problem Rat} (accepted : p.Accepted) {limit : Int} {s : Solution Rat}
    (solved : p.solve (.count limit) = .ok s) (stopped : s.status = .nonConvergent)
    (enough : ((p.size + p.constraints.length).choose p.constraints.length : Int) ≤ limit) :
    ∃ a b, Circle s.history a b := by
  obtain ⟨form, _, ready, runs⟩ := accepted.runs solved
  obtain ⟨final, last, _⟩ := accepted.last solved
  have full := runs_exhausted runs last ((solve_last solved last).1.symm.trans stopped)
  obtain ⟨a, b, t, u, before, first, second, same⟩ :=
    repeated_basis (accepted.recorded solved) (by omega)
  exact ⟨a, b, circle_of_same_basis (accepted.recorded solved) (runs_advance ready runs) before first second same⟩

theorem cycling_only (p : Problem Rat) (limit : Int) (accepted : p.Accepted)
    (enough : ((p.size + p.constraints.length).choose p.constraints.length : Int) ≤ limit) :
    ∃ s, p.solve (.count limit) = .ok s ∧
      (s.status = .nonConvergent → ∃ a b, Circle s.history a b) ∧
      ((∀ t ∈ s.history, ∀ row ∈ t.rows, 0 < row.rhs) → s.status = .optimal ∨ s.status = .unbounded) := by
  obtain ⟨s, _, solved, _⟩ := accepted.solved limit (by omega)
  refine ⟨s, solved, fun stopped => accepted.circle solved stopped enough, ?_⟩
  intro positive
  cases status : s.status with
  | optimal => exact .inl rfl
  | unbounded => exact .inr rfl
  | nonConvergent =>
      obtain ⟨a, b, circle⟩ := accepted.circle solved status enough
      obtain ⟨t, _, i, j, here, _, _, _, ratio, _⟩ := circle.idle a (Nat.le_refl a) circle.before
      exact absurd (ratio.pos (positive t (List.mem_of_getElem? here))) (lt_irrefl 0)

-- Every six pivots lead back to the start.
def circling : Problem Rat where
  objective := [2, 3, -1, -12]
  constraints := [⟨[-2, -9, 1, 9], .atMost, 0⟩, ⟨[1 / 3, 1, -1 / 3, -2], .atMost, 0⟩]
  names := defaultNames 4
  maximize := true
  has_names := by decide
  has_constraints := List.cons_ne_nil _ _
  distinct := by decide
  objective_length := rfl
  row_length := by simp [defaultNames]

theorem circling_accepted : circling.Accepted :=
  ⟨by simp [circling], by simp [circling], by decide +kernel⟩

theorem circling_cycles : (circling.Accepted ∧
    ((circling.size + circling.constraints.length).choose circling.constraints.length : Int) ≤ 15 ∧
    ∃ s, circling.solve (.count 15) = .ok s ∧ s.status = .nonConvergent ∧ ∃ a b, Circle s.history a b) ∧
    (workshop.Accepted ∧
    ((workshop.size + workshop.constraints.length).choose workshop.constraints.length : Int) ≤ 10 ∧
    ∃ s, workshop.solve (.count 10) = .ok s ∧ (∀ t ∈ s.history, ∀ row ∈ t.rows, 0 < row.rhs) ∧
      (s.status = .optimal ∨ s.status = .unbounded)) := by
  constructor
  · obtain ⟨s, solved, circles, _⟩ := cycling_only circling 15 circling_accepted (by decide)
    have ending : (circling.record 15).getLast?.map endStatus = some .nonConvergent := by cbv
    obtain ⟨final, _, ended, status, _⟩ := solve_noted solved endStatus ending
    have stopped := status.trans ended
    exact ⟨circling_accepted, by decide, s, solved, stopped, circles stopped⟩
  · obtain ⟨s, solved, _, ends⟩ := cycling_only workshop 10 workshop_accepted (by decide)
    have above : (workshop.record 10).all (fun t => t.rows.all fun row => decide (0 < row.rhs)) = true := by cbv
    rw [show workshop.record 10 = s.history from (solve_record solved).symm] at above
    have positive : ∀ t ∈ s.history, ∀ row ∈ t.rows, 0 < row.rhs := by simpa using above
    exact ⟨workshop_accepted, by decide, s, solved, positive, ends positive⟩

end LinProg.Problem
