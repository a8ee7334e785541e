import LinProg.Proofs.Start

set_option autoImplicit false

namespace LinProg.Tableau

open Finset

theorem name_slack {K : Type} {p : Problem K} {t : Tableau K}
    (columns : t.columns = p.names ++ Extended.slackNames p.constraints.length) (i : Nat)
    (inside : i < p.constraints.length) : t.nameAt (p.size + i) = Extended.slackName i := by
  unfold nameAt Problem.size
  rw [columns, List.getD_append_right _ _ _ _ (Nat.le_add_right _ _), Nat.add_sub_cancel_left]
  simp [Extended.slackNames, inside]

def Canonical (t : Tableau Rat) : Prop :=
  ∀ i j k, i < t.height → j < t.numVars → t.basic[i]? = some (t.nameAt j) → k ≤ t.height →
    t.entryAt k j = if k = i then 1 else 0

theorem initial_canonical {p : Problem Rat} {form : StandardForm Rat} (presents : form.Presents p) :
    Canonical (initial form) := by
  intro i j k inside wide seated below
  have labels := initial_labelled presents
  rw [initial_height presents] at inside below
  have slack := name_slack (initial_columns presents) i inside
  have here : j = p.size + i := by
    refine labels.name_at_injective wide ?_ ?_
    · rw [initial_num_vars presents]
      omega
    · rw [slack]
      rw [initial_basic presents] at seated
      simpa [Extended.slackNames, inside] using seated.symm
  subst j
  by_cases objective : k = p.constraints.length
  · rw [objective, initial_cost_slack presents i inside, if_neg (Nat.ne_of_gt inside)]
  · exact initial_entry_slack presents k i (by omega) inside

theorem Canonical.pivoted {t next : Tableau Rat} {row col : Nat} (canonical : Canonical t) (labels : Labelled t)
    (inside : row < t.height) (wide : col < t.numVars) (able : Pivotable t row col)
    (done : Pivoted t row col next) : Canonical next := by
  have nonzero : t.entryAt row col ≠ 0 := ne_of_beq_false able.nonzero
  intro i j k within columns seated below
  rw [done.height] at within below
  rw [done.num_vars] at columns
  rw [done.basic, name_at_congr done.columns] at seated
  by_cases entered : i = row
  · -- The entering column becomes a unit column by the division and the elimination.
    subst i
    have here : j = col := by
      refine labels.name_at_injective columns wide ?_
      rw [List.getElem?_set_self (by rw [t.basic_length]; exact inside)] at seated
      exact (Option.some.inj seated).symm
    subst j
    by_cases same : k = row
    · rw [same, if_pos rfl, done.entry_pivot inside, div_self nonzero]
    · rw [if_neg same, done.entry_other inside k _ same, done.entry_pivot inside, div_self nonzero, mul_one, sub_self]
  · -- The other unit columns are zero in the pivot row, so nothing is added to them.
    rw [List.getElem?_set_ne (Ne.symm entered)] at seated
    have before := canonical i j k within columns seated below
    have still : t.entryAt row j = 0 := by
      rw [canonical i j row within columns seated (Nat.le_of_lt inside), if_neg (Ne.symm entered)]
    by_cases same : k = row
    · rw [same, done.entry_pivot inside, still, zero_div, if_neg (Ne.symm entered)]
    · rw [done.entry_other inside k j same, done.entry_pivot inside, still, zero_div, mul_zero, sub_zero, before]

structure Based (t : Tableau Rat) : Prop where
  labels : Labelled t
  canonical : Canonical t

theorem initial_based {p : Problem Rat} {form : StandardForm Rat} (presents : form.Presents p) :
    Based (initial form) :=
  ⟨initial_labelled presents, initial_canonical presents⟩

theorem Based.reached {start t : Tableau Rat} (base : Based start) (reached : Reached start t) : Based t := by
  refine reached_induction Based base ?_ reached
  intro t next row col based inside wide able done
  exact ⟨based.labels.pivoted inside wide able done, based.canonical.pivoted based.labels inside wide able done⟩

def seat? {K : Type} (t : Tableau K) (j : Nat) : Option Nat := t.basic.findIdx? fun name => name == t.nameAt j

-- Numbers for the rows, as numbers for the columns: each stands at the basic variable of its row.
def spread (t : Tableau Rat) (w : Nat → Rat) (j : Nat) : Rat :=
  match t.seat? j with
  | some i => w i
  | none => 0

namespace Labelled

variable {K : Type} {t : Tableau K}

theorem seat_iff (labels : Labelled t) {i j : Nat} (wide : j < t.numVars) :
    t.seat? j = some i ↔ t.basic[i]? = some (t.nameAt j) := by
  have one {k : Nat} (inside : k < t.basic.length) (same : (t.basic[k] == t.nameAt j) = true) :
      t.basic[k] = t.nameAt j :=
    Label.distinct_same labels.distinct (labels.basic_member (List.getElem_mem inside)) (labels.name_at_member wide) same
  unfold seat?
  rw [List.findIdx?_eq_some_iff_getElem, List.getElem?_eq_some_iff]
  constructor
  · intro ⟨inside, same, _⟩
    exact ⟨inside, one inside same⟩
  · intro ⟨inside, same⟩
    refine ⟨inside, ?_, ?_⟩
    · rw [same]
      exact beq_self_eq_true _
    · intro k before again
      have equal := one (Nat.lt_trans before inside) again
      have twice := (Label.distinct_nodup labels.basic_distinct).getElem_inj_iff.mp (equal.trans same.symm)
      omega

theorem seat_none_iff (labels : Labelled t) {j : Nat} (wide : j < t.numVars) :
    t.seat? j = none ↔ t.nameAt j ∉ t.basic := by
  rw [Option.eq_none_iff_forall_ne_some, List.mem_iff_getElem?]
  simp [labels.seat_iff wide]

theorem seated (labels : Labelled t) {i : Nat} (inside : i < t.height) :
    ∃ j < t.numVars, t.basic[i]? = some (t.nameAt j) := by
  have within : i < t.basic.length := by rw [t.basic_length]; exact inside
  obtain ⟨j, wide, same⟩ := labels.name_at_surjective (labels.basic_member (List.getElem_mem within))
  exact ⟨j, wide, by rw [List.getElem?_eq_getElem within, same]⟩

theorem seat_injective (labels : Labelled t) {i j k : Nat} (wide : j < t.numVars) (within : k < t.numVars)
    (found : t.seat? j = some i) (again : t.seat? k = some i) : j = k := by
  have first := (labels.seat_iff wide).mp found
  have second := (labels.seat_iff within).mp again
  rw [first] at second
  exact labels.name_at_injective wide within (Option.some.inj second)

theorem seat_inside (labels : Labelled t) {i j : Nat} (wide : j < t.numVars) (found : t.seat? j = some i) :
    i < t.height := by
  obtain ⟨within, _⟩ := List.getElem?_eq_some_iff.mp ((labels.seat_iff wide).mp found)
  rw [t.basic_length] at within
  exact within

end Labelled

namespace Based

variable {t : Tableau Rat}

theorem entry_basic (based : Based t) {i j k : Nat} (wide : j < t.numVars) (found : t.seat? j = some i)
    (below : k ≤ t.height) : t.entryAt k j = if k = i then 1 else 0 :=
  based.canonical i j k (based.labels.seat_inside wide found) wide ((based.labels.seat_iff wide).mp found) below

theorem objective_zero (based : Based t) {j : Nat} (wide : j < t.numVars) (basic : t.nameAt j ∈ t.basic) :
    t.entryAt t.height j = 0 := by
  obtain ⟨i, seated⟩ := List.mem_iff_getElem?.mp basic
  have found := (based.labels.seat_iff wide).mpr seated
  rw [based.entry_basic wide found (Nat.le_refl _), if_neg (Nat.ne_of_gt (based.labels.seat_inside wide found))]

theorem spread_column (based : Based t) (w : Nat → Rat) (k j : Nat) (wide : j < t.numVars) (below : k ≤ t.height)
    (other : t.seat? j ≠ some k) : t.entryAt k j * t.spread w j = 0 := by
  unfold spread
  cases found : t.seat? j with
  | none => exact mul_zero _
  | some i =>
      have apart : k ≠ i := by
        intro same
        rw [same] at other
        exact other found
      rw [based.entry_basic wide found below, if_neg apart, zero_mul]

theorem sum_spread (based : Based t) (w : Nat → Rat) (i : Nat) (inside : i < t.height) :
    ∑ j ∈ range t.numVars, t.entryAt i j * t.spread w j = w i := by
  obtain ⟨j, wide, seated⟩ := based.labels.seated inside
  have found := (based.labels.seat_iff wide).mpr seated
  rw [sum_eq_single_of_mem j (mem_range.mpr wide)]
  · unfold spread
    rw [found, based.entry_basic wide found (Nat.le_of_lt inside), if_pos rfl, one_mul]
  · intro k member different
    have within := mem_range.mp member
    refine based.spread_column w i k within (Nat.le_of_lt inside) ?_
    intro again
    exact different (based.labels.seat_injective within wide again found)

theorem objective_spread (based : Based t) (w : Nat → Rat) {j : Nat} (wide : j < t.numVars) :
    t.entryAt t.height j * t.spread w j = 0 := by
  refine based.spread_column w t.height j wide (Nat.le_refl _) ?_
  intro found
  exact Nat.lt_irrefl _ (based.labels.seat_inside wide found)

theorem sum_spread_objective (based : Based t) (w : Nat → Rat) :
    ∑ j ∈ range t.numVars, t.entryAt t.height j * t.spread w j = 0 := by
  refine sum_eq_zero ?_
  intro j member
  exact based.objective_spread w (mem_range.mp member)

end Based

end LinProg.Tableau
