import LinProg.Proofs.Feasible
import LinProg.Proofs.Reached

set_option autoImplicit false

namespace LinProg

namespace Label

theorem of_string_injective {a b : String} (same : Text.ofString a = Text.ofString b) : a = b := by
  have chars := congrArg Text.chars? same
  rw [Text.chars_of_string, Text.chars_of_string] at chars
  exact String.toList_inj.mp (Option.some.inj chars)

theorem numbered_apart (letter : String) {i k : Nat} (different : i ≠ k) :
    (numbered letter i == numbered letter k) = false := by
  by_contra same
  have keys : (numbered letter i).key = (numbered letter k).key :=
    eq_of_beq (α := List Json.Trait) (eq_true_of_ne_false same)
  have texts := of_string_injective (Json.Trait.text.inj (List.cons.inj keys).1)
  have counts := Nat.repr_injective ((String.append_right_inj letter).mp texts)
  omega

end Label

namespace Extended

theorem slack_names_distinct (m : Nat) : Label.Distinct (slackNames m) := by
  refine List.pairwise_map.mpr (List.Pairwise.imp ?_ List.nodup_range)
  intro i k different
  exact Label.numbered_apart "s" different

theorem clashes_nil_iff (names : List Label) (m : Nat) :
    clashes names m = [] ↔ ∀ name ∈ names, ∀ i < m, (name == slackName i) = false := by
  have empty : clashes names m = [] ↔ (List.range m).filter (fun i => names.contains (slackName i)) = [] := by
    unfold clashes
    rw [← List.length_eq_zero_iff, List.length_mergeSort, List.length_map, List.length_eq_zero_iff]
  rw [empty, List.filter_eq_nil_iff]
  constructor
  · intro absent name member i inside
    by_contra same
    refine absent i (List.mem_range.mpr inside) ?_
    refine List.contains_iff_exists_mem_beq.mpr ⟨name, member, ?_⟩
    rw [BEq.comm]
    exact eq_true_of_ne_false same
  · intro apart i inside present
    obtain ⟨name, member, same⟩ := List.contains_iff_exists_mem_beq.mp present
    rw [BEq.comm, apart name member i (List.mem_range.mp inside)] at same
    cases same

theorem columns_distinct {names : List Label} {m : Nat} (distinct : Label.Distinct names)
    (apart : ∀ name ∈ names, ∀ i < m, (name == slackName i) = false) :
    Label.Distinct (names ++ slackNames m) := by
  refine List.pairwise_append.mpr ⟨distinct, slack_names_distinct m, ?_⟩
  intro name member slack inside
  obtain ⟨i, counted, rfl⟩ := List.mem_map.mp inside
  exact apart name member i (List.mem_range.mp counted)

end Extended

namespace StandardForm

theorem eq_of_parts {K : Type} {form other : StandardForm K} (extended : form.toExtended = other.toExtended)
    (rhs : form.rhs = other.rhs) : form = other := by
  cases form
  cases other
  cases extended
  cases rhs
  rfl

variable {K : Type} [Scalar K]

structure Presents (form : StandardForm K) (p : Problem K) : Prop where
  unclashed : Extended.clashes p.names p.rows.length = []
  costs : form.costs = (if p.maximize then p.objective else p.objective.map fun c => -c)
    ++ List.replicate p.rows.length 0
  rows : form.rows = p.rows.mapIdx fun i row => row ++ Extended.unitRow p.rows.length i
  rhs : form.rhs = p.rhs
  decisions : form.decisions = p.names
  slacks : form.slacks = Extended.slackNames p.rows.length
  maximize : form.maximize = p.maximize

theorem of_problem_presents {p : Problem K} {form : StandardForm K} (formed : ofProblem p = .ok form) :
    form.Presents p := by
  unfold ofProblem at formed
  split at formed
  · rename_i unclashed
    cases formed
    exact ⟨unclashed, rfl, rfl, rfl, rfl, rfl, rfl⟩
  · cases formed

theorem of_problem_succeeds {p : Problem K} (unclashed : Extended.clashes p.names p.rows.length = []) :
    ∃ form, ofProblem p = .ok form := by
  unfold ofProblem
  rw [if_pos unclashed]
  exact ⟨_, rfl⟩

end StandardForm

namespace Problem

variable {K : Type} [Scalar K]

def Apart (p : Problem K) : Prop :=
  ∀ name ∈ p.names, ∀ i < p.constraints.length, (name == Extended.slackName i) = false

theorem Apart.presented {p : Problem K} (apart : p.Apart) :
    ∃ form, StandardForm.ofProblem p = .ok form ∧ form.Presents p := by
  have unclashed : Extended.clashes p.names p.rows.length = [] := by
    rw [Extended.clashes_nil_iff, p.length_rows]
    exact apart
  obtain ⟨form, formed⟩ := StandardForm.of_problem_succeeds unclashed
  exact ⟨form, formed, StandardForm.of_problem_presents formed⟩

end Problem

theorem StandardForm.Presents.apart {K : Type} [Scalar K] {p : Problem K} {form : StandardForm K}
    (presents : form.Presents p) : p.Apart := by
  have unclashed := (Extended.clashes_nil_iff p.names p.rows.length).mp presents.unclashed
  rwa [p.length_rows] at unclashed

namespace Tableau

section Names

variable {K : Type} [Scalar K] {p : Problem K} {form : StandardForm K}

theorem initial_columns (presents : form.Presents p) :
    (initial form).columns = p.names ++ Extended.slackNames p.constraints.length := by
  change form.decisions ++ form.slacks = _
  rw [presents.decisions, presents.slacks, p.length_rows]

theorem initial_basic (presents : form.Presents p) :
    (initial form).basic = Extended.slackNames p.constraints.length := by
  change form.slacks = _
  rw [presents.slacks, p.length_rows]

theorem initial_nonbasic (presents : form.Presents p) : (initial form).nonbasic = p.names := presents.decisions

theorem initial_height (presents : form.Presents p) : (initial form).height = p.constraints.length := by
  have sized := (initial form).basic_length
  rw [initial_basic presents, Extended.slackNames, List.length_map, List.length_range] at sized
  exact sized.symm

theorem initial_num_vars (presents : form.Presents p) :
    (initial form).numVars = p.size + p.constraints.length := by
  change (form.costs.map fun c => -c).length = _
  rw [List.length_map, presents.costs, List.length_append, List.length_replicate, p.length_rows]
  cases p.maximize <;> simp [p.objective_length, Problem.size]

theorem initial_rhs (presents : form.Presents p) : (initial form).rows.map (·.rhs) = p.rhs := by
  rw [← presents.rhs]
  refine List.ext_getElem (by simp [initial, form.rhs_length]) ?_
  intro i _ _
  simp [initial]

theorem initial_labelled (presents : form.Presents p) : Labelled (initial form) := by
  refine ⟨?_, ?_, ?_⟩
  · rw [initial_columns presents, initial_num_vars presents, List.length_append]
    simp [Extended.slackNames, Problem.size]
  · rw [initial_columns presents]
    exact Extended.columns_distinct p.distinct presents.apart
  · rw [initial_basic presents, initial_nonbasic presents, initial_columns presents]
    exact List.perm_append_comm

end Names

section Entries

variable {p : Problem Rat} {form : StandardForm Rat}

theorem initial_row (presents : form.Presents p) (i : Nat) (inside : i < p.constraints.length) :
    (initial form).rowAt i =
      ⟨p.constraints[i].coefficients ++ Extended.unitRow p.constraints.length i, p.constraints[i].rhs⟩ := by
  change (List.zipWith Row.mk form.rows form.rhs).getD i _ = _
  rw [presents.rows, presents.rhs]
  simp [Problem.rows, Problem.rhs, inside]

theorem initial_entry_decision (presents : form.Presents p) (i j : Nat) (inside : i < p.constraints.length)
    (decision : j < p.size) : (initial form).entryAt i j = p.coefficient i j := by
  have width : p.constraints[i].coefficients.length = p.size := p.row_length _ (List.getElem_mem inside)
  unfold entryAt Row.entry
  rw [initial_row presents i inside, p.coefficient_at i j inside]
  simp [List.getElem?_append, width, decision]

theorem initial_entry_slack (presents : form.Presents p) (i k : Nat) (inside : i < p.constraints.length)
    (slack : k < p.constraints.length) : (initial form).entryAt i (p.size + k) = if i = k then 1 else 0 := by
  have width : p.constraints[i].coefficients.length = p.size := p.row_length _ (List.getElem_mem inside)
  unfold entryAt Row.entry
  rw [initial_row presents i inside]
  simp [width, Extended.unitRow, slack]

theorem initial_entry_bound (presents : form.Presents p) (i : Nat) (inside : i < p.constraints.length) :
    (initial form).entryAt i (p.size + p.constraints.length) = p.bound i := by
  have width : p.constraints[i].coefficients.length = p.size := p.row_length _ (List.getElem_mem inside)
  unfold entryAt Row.entry
  rw [initial_row presents i inside, p.bound_at i inside]
  simp [width, Extended.unitRow]

theorem row_at_height {K : Type} (t : Tableau K) (m : Nat) (height : t.height = m) : t.rowAt m = t.objective := by
  unfold rowAt
  exact List.getD_eq_default _ _ (Nat.le_of_eq height)

theorem entry_objective {K : Type} (t : Tableau K) (j : Nat) : t.entryAt t.height j = t.objective.entry j := by
  rw [entryAt, row_at_height t _ rfl]

theorem initial_cost_decision (presents : form.Presents p) (j : Nat) (decision : j < p.size) :
    (initial form).entryAt p.constraints.length j = -p.gainCost j := by
  have width : j < p.objective.length := by rw [p.objective_length]; exact decision
  unfold entryAt Row.entry
  rw [row_at_height _ _ (initial_height presents)]
  change (form.costs.map fun c => -c).getD j 0 = _
  rw [presents.costs]
  unfold Problem.gainCost
  cases p.maximize <;> simp [List.getElem?_append, width]

theorem initial_cost_slack (presents : form.Presents p) (k : Nat) (slack : k < p.constraints.length) :
    (initial form).entryAt p.constraints.length (p.size + k) = 0 := by
  have width : p.objective.length = p.size := p.objective_length
  unfold entryAt Row.entry
  rw [row_at_height _ _ (initial_height presents)]
  change (form.costs.map fun c => -c).getD (p.size + k) 0 = _
  rw [presents.costs]
  cases p.maximize <;> simp [width, Problem.rows, slack]

theorem initial_value (presents : form.Presents p) :
    (initial form).entryAt p.constraints.length (p.size + p.constraints.length) = 0 := by
  have width : (initial form).objective.coefficients.length = p.size + p.constraints.length :=
    initial_num_vars presents
  unfold entryAt Row.entry
  rw [row_at_height _ _ (initial_height presents), List.getD_eq_default _ _ (Nat.le_of_eq width)]
  rfl

end Entries

end Tableau

end LinProg
