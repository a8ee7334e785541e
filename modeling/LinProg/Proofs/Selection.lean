import LinProg.Proofs.Choice

set_option autoImplicit false

namespace LinProg

theorem Label.index_named {names : List Label} {name column : Label} {j : Nat} (distinct : Distinct names)
    (found : names[j]? = some column) (same : (column == name) = true) : names.idxOf name = j := by
  obtain ⟨inside, rfl⟩ := List.getElem?_eq_some_iff.mp found
  rw [List.idxOf, List.findIdx_eq inside]
  refine ⟨same, ?_⟩
  intro k before
  have apart := List.pairwise_iff_getElem.mp distinct k j (Nat.lt_trans before inside) inside before
  by_contra again
  have twice := BEq.trans (eq_true_of_ne_false again) (BEq.symm same)
  rw [apart] at twice
  cases twice

namespace Tableau

section Names

variable {K : Type} {t s : Tableau K}

def Heads (t : Tableau K) (j : Nat) (name : Label) : Prop :=
  ∃ column, t.columns[j]? = some column ∧ (column == name) = true

def Open (t : Tableau K) (j : Nat) : Prop := ∃ name ∈ t.nonbasic, t.Heads j name

structure Named (t : Tableau K) : Prop where
  distinct : Label.Distinct t.columns
  known : ∀ name ∈ t.nonbasic, ∃ j < t.width, t.Heads j name

structure Reordered (t s : Tableau K) : Prop where
  objective : s.objective = t.objective
  columns : s.columns = t.columns
  nonbasic : s.nonbasic.Perm t.nonbasic

theorem Reordered.named (reordered : Reordered t s) (named : Named t) : Named s := by
  constructor
  · rw [reordered.columns]
    exact named.distinct
  · intro name member
    simpa only [Heads, width, reordered.columns, reordered.objective] using
      named.known name (reordered.nonbasic.mem_iff.mp member)

theorem Reordered.open_iff (reordered : Reordered t s) (j : Nat) : s.Open j ↔ t.Open j := by
  simp only [Open, Heads, reordered.columns, reordered.nonbasic.mem_iff]

namespace Named

theorem contains (named : Named t) : ∀ name ∈ t.nonbasic, t.columns.contains name = true := by
  intro name member
  obtain ⟨j, _, column, found, same⟩ := named.known name member
  exact List.contains_iff_exists_mem_beq.mpr ⟨column, List.mem_of_getElem? found, BEq.symm same⟩

theorem mem_free_places (named : Named t) (j : Nat) : j ∈ t.freePlaces ↔ t.Open j := by
  rw [freePlaces, (rising_perm _).mem_iff, List.mem_map]
  constructor
  · intro ⟨name, member, place⟩
    obtain ⟨k, _, column, found, same⟩ := named.known name member
    rw [Label.index_named named.distinct found same] at place
    subst k
    exact ⟨name, member, column, found, same⟩
  · intro ⟨name, member, column, found, same⟩
    exact ⟨name, member, Label.index_named named.distinct found same⟩

theorem open_wide (named : Named t) {j : Nat} (free : t.Open j) : j < t.width := by
  obtain ⟨name, member, column, found, same⟩ := free
  obtain ⟨k, wide, other, again, alike⟩ := named.known name member
  have here := Label.index_named named.distinct found same
  rw [Label.index_named named.distinct again alike] at here
  rwa [← here]

end Named

theorem Labelled.named (labels : Labelled t) : Named t := by
  refine ⟨labels.distinct, ?_⟩
  intro name member
  have listed := labels.nonbasic_member member
  exact ⟨_, Nat.lt_succ_of_lt (labels.name_at_place listed).1, name, Label.index_member labels.distinct listed,
    beq_self_eq_true name⟩

end Names

theorem lowest_congr {property other : Nat → Prop} (value : Nat → Rat) (same : ∀ j, property j ↔ other j) :
    lowest property value = lowest other value := by
  rw [funext fun j => propext (same j)]

theorem Named.entering {t : Tableau Rat} (named : Named t) (tol : Rat) : ∃ choice, t.chooseEntering tol = .ok choice ∧
    (choice = none ↔ ∀ j, t.Open j → -tol ≤ t.objective.entry j) ∧
    ∀ j, choice = some j → IsLeast (lowest t.Open t.objective.entry) j := by
  have inside : ∀ j ∈ t.freePlaces, j < t.width := fun j listed => named.open_wide ((named.mem_free_places j).mp listed)
  obtain ⟨choice, least, scanned, found⟩ := entering_scanned named.contains inside tol
  simp only [entry_objective] at found
  refine ⟨choice, scanned, ?_, ?_⟩
  · cases choice with
    | none => simpa [named.mem_free_places] using found.2
    | some j =>
        have free := (named.mem_free_places j).mp (first_least_lowest (free_places_sorted t) found).1.1
        simpa using ⟨j, free, found.2.1⟩
  · intro j chosen
    subst choice
    rw [← lowest_congr _ named.mem_free_places]
    exact first_least_lowest (free_places_sorted t) found

theorem Leaves.is_least {t : Tableau Rat} {i j : Nat} (leaves : Leaves t i j) :
    IsLeast (lowest (fun k => k < t.height ∧ 0 < t.entryAt k j) fun k => t.entryAt k t.numVars / t.entryAt k j) i := by
  constructor
  · exact ⟨⟨leaves.inside, leaves.positive⟩, fun k other => leaves.least k other.1 other.2⟩
  · intro k ⟨⟨_, positive⟩, lower⟩
    by_contra before
    have strict := leaves.first k (not_le.mp before) positive
    exact absurd (lower i ⟨leaves.inside, leaves.positive⟩) (not_le.mpr strict)

theorem leaving_exact (t : Tableau Rat) {j : Nat} (wide : j < t.numVars) : ∃ choice, t.chooseLeaving j = .ok choice ∧
    (choice = none ↔ ∀ i < t.height, ¬ 0 < t.entryAt i j) ∧ ∀ i, choice = some i →
      IsLeast (lowest (fun k => k < t.height ∧ 0 < t.entryAt k j) fun k => t.entryAt k t.numVars / t.entryAt k j) i := by
  obtain ⟨choice, chosen, missing, found⟩ := choose_leaving_spec t j wide
  refine ⟨choice, chosen, ?_, fun i same => (found i same).is_least⟩
  constructor
  · intro none i inside
    exact not_lt.mpr (missing none i inside)
  · intro below
    cases choice with
    | none => rfl
    | some i => exact absurd (found i rfl).positive (below i (found i rfl).inside)

theorem choices_exact (t : Tableau Rat) :
    (Named t → ∀ tol, ∃ choice, t.chooseEntering tol = .ok choice ∧
      (choice = none ↔ ∀ j, t.Open j → -tol ≤ t.objective.entry j) ∧
      (∀ j, choice = some j → IsLeast (lowest t.Open t.objective.entry) j) ∧
      ∀ s, Reordered t s → s.chooseEntering tol = .ok choice) ∧
    ∀ col < t.numVars, ∃ choice, t.chooseLeaving col = .ok choice ∧
      (choice = none ↔ ∀ i < t.height, ¬ 0 < t.entryAt i col) ∧
      ∀ i, choice = some i → IsLeast
        (lowest (fun k => k < t.height ∧ 0 < t.entryAt k col) fun k => t.entryAt k t.numVars / t.entryAt k col) i := by
  refine ⟨?_, fun col wide => leaving_exact t wide⟩
  intro named tol
  obtain ⟨choice, chosen, missing, least⟩ := named.entering tol
  refine ⟨choice, chosen, missing, least, ?_⟩
  intro s reordered
  obtain ⟨other, picked, absent, lowest⟩ := (reordered.named named).entering tol
  simp only [reordered.open_iff, reordered.objective] at absent
  rw [lowest_congr _ reordered.open_iff, reordered.objective] at lowest
  have alike : choice = none ↔ other = none := missing.trans absent.symm
  cases choice with
  | none => rw [picked, alike.mp rfl]
  | some j =>
      cases other with
      | none => cases alike.mpr rfl
      | some k => rw [picked, (lowest k rfl).unique (least j rfl)]

-- Two columns tie for the least entry, and in the first of them two rows for the least ratio.
def standoff : Tableau Rat where
  rows := [⟨[1, 2, 1, 1, 0], 4⟩, ⟨[1, 1, 0, 0, 1], 2⟩]
  objective := ⟨[-2, -3, -3, 0, 0], 0⟩
  columns := Problem.defaultNames 3 ++ Extended.slackNames 2
  basic := Extended.slackNames 2
  nonbasic := Problem.defaultNames 3
  basic_length := rfl
  rectangular := by simp

theorem standoff_labelled : Labelled standoff := by
  refine ⟨rfl, ?_, List.perm_append_comm⟩
  exact Extended.columns_distinct (by unfold Label.Distinct; decide) (by decide)

theorem standoff_choices : Named standoff ∧
    Reordered standoff { standoff with nonbasic := (Problem.defaultNames 3).reverse } ∧
    Tableau.chooseEntering { standoff with nonbasic := (Problem.defaultNames 3).reverse } 0 = .ok (some 1) ∧
    IsLeast (lowest standoff.Open standoff.objective.entry) 1 ∧ 1 < standoff.numVars ∧
    standoff.chooseLeaving 1 = .ok (some 0) ∧
    IsLeast (lowest (fun k => k < 2 ∧ 0 < standoff.entryAt k 1) fun k => standoff.entryAt k 5 / standoff.entryAt k 1) 0 := by
  have named := standoff_labelled.named
  have reordered : Reordered standoff { standoff with nonbasic := (Problem.defaultNames 3).reverse } :=
    ⟨rfl, rfl, List.reverse_perm _⟩
  obtain ⟨choice, chosen, _, least, kept⟩ := (choices_exact standoff).1 named 0
  obtain ⟨row, left, _, tightest⟩ := (choices_exact standoff).2 1 (by decide)
  have first : standoff.chooseEntering 0 = .ok (some 1) := by cbv
  have upper : standoff.chooseLeaving 1 = .ok (some 0) := by cbv
  have entered : choice = some 1 := Except.ok.inj (chosen.symm.trans first)
  have picked : row = some 0 := Except.ok.inj (left.symm.trans upper)
  rw [entered] at kept
  exact ⟨named, reordered, kept _ reordered, least 1 entered, by decide, upper, tightest 0 picked⟩

end Tableau

end LinProg
