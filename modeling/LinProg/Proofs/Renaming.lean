import LinProg.Proofs.Alternates
import LinProg.Proofs.Analysis
import LinProg.Proofs.BasicPoint
import LinProg.Proofs.Carried

set_option autoImplicit false

namespace LinProg

namespace Label

-- New names for some labels that tell apart just what the old ones did.
def Faithful (ρ : Label → Label) (names : List Label) : Prop :=
  ∀ a ∈ names, ∀ b ∈ names, (ρ a == ρ b) = (a == b)

namespace Faithful

variable {ρ : Label → Label} {names listed : List Label} {name : Label}

theorem distinct (faithful : Faithful ρ names) (apart : Distinct names) : Distinct (names.map ρ) := by
  refine List.pairwise_map.mpr (List.Pairwise.imp_of_mem ?_ apart)
  intro a b first second different
  rw [faithful a first b second, different]

theorem contains (faithful : Faithful ρ names) (within : ∀ a ∈ listed, a ∈ names) (known : name ∈ names) :
    (listed.map ρ).contains (ρ name) = listed.contains name := by
  induction listed with
  | nil => rfl
  | cons first rest ih =>
      rw [List.map_cons, List.contains_cons, List.contains_cons,
        faithful name known first (within first List.mem_cons_self),
        ih fun a member => within a (List.mem_cons_of_mem first member)]

theorem index (faithful : Faithful ρ names) (within : ∀ a ∈ listed, a ∈ names) (known : name ∈ names) :
    (listed.map ρ).idxOf (ρ name) = listed.idxOf name := by
  induction listed with
  | nil => rfl
  | cons first rest ih =>
      rw [List.map_cons, List.idxOf_cons, List.idxOf_cons,
        faithful first (within first List.mem_cons_self) name known,
        ih fun a member => within a (List.mem_cons_of_mem first member)]

end Faithful

end Label

section Renamed

variable {K : Type}

structure Problem.Renames (p : Problem K) (σ : Label → Label) : Prop where
  injective : ∀ a ∈ p.names, ∀ b ∈ p.names, (σ a == σ b) = true → (a == b) = true
  apart : ∀ name ∈ p.names, ∀ i < p.constraints.length, (σ name == Extended.slackName i) = false

theorem Problem.Renames.faithful {p : Problem K} {σ : Label → Label} (renames : p.Renames σ) :
    Label.Faithful σ p.names := by
  intro a first b second
  cases same : a == b with
  | true => rw [Label.distinct_same p.distinct first second same, beq_self_eq_true]
  | false =>
      by_contra again
      cases same.symm.trans (renames.injective a first b second (eq_true_of_ne_false again))

def Problem.rename (p : Problem K) (σ : Label → Label) (renames : p.Renames σ) : Problem K where
  objective := p.objective
  constraints := p.constraints
  names := p.names.map σ
  maximize := p.maximize
  has_names := by simpa using p.has_names
  has_constraints := p.has_constraints
  distinct := renames.faithful.distinct p.distinct
  objective_length := by rw [List.length_map, p.objective_length]
  row_length := by
    intro c member
    rw [List.length_map, p.row_length c member]

def Problem.newName (p : Problem K) (σ : Label → Label) (name : Label) : Label :=
  if p.names.contains name then σ name else name

def Tableau.rename (ρ : Label → Label) (t : Tableau K) : Tableau K :=
  { t with
    columns := t.columns.map ρ
    basic := t.basic.map ρ
    nonbasic := t.nonbasic.map ρ
    entering := t.entering.map ρ
    leaving := t.leaving.map ρ
    basic_length := by rw [List.length_map, t.basic_length] }

def Sensitivity.rename (ρ : Label → Label) (report : Sensitivity K) : Sensitivity K :=
  { report with reducedCosts := report.reducedCosts.map fun (name, x) => (ρ name, x) }

structure Solution.Renamed [Scalar K] (ρ : Label → Label) (s u : Solution K) : Prop where
  status : u.status = s.status
  history : u.history = s.history.map (·.rename ρ)
  point : u.point = s.point.map fun (name, x) => (ρ name, x)
  value : u.value = s.value
  maximize : u.maximize = s.maximize
  alternates : ∃ names, s.alternateOptima = .ok names ∧ u.alternateOptima = .ok (names.map ρ)
  analysis : ∃ report, Sensitivity.ofSolution s = .ok report ∧ Sensitivity.ofSolution u = .ok (report.rename ρ)

theorem Assignment.get_renamed {ρ : Label → Label} {listed : List Label} (faithful : Label.Faithful ρ listed)
    {names : List Label} (within : ∀ a ∈ names, a ∈ listed) {name : Label} (known : name ∈ listed) (xs : List K) :
    Assignment.get? (ρ name) ((names.map ρ).zip xs) = Assignment.get? name (names.zip xs) := by
  induction names generalizing xs with
  | nil => rfl
  | cons first rest ih =>
      cases xs with
      | nil => rfl
      | cons x xs =>
          rw [List.map_cons, List.zip_cons_cons, List.zip_cons_cons, Assignment.get_cons, Assignment.get_cons,
            faithful first (within first List.mem_cons_self) name known,
            ih fun a member => within a (List.mem_cons_of_mem first member)]

end Renamed

namespace Tableau

variable {K : Type} {ρ : Label → Label} {t : Tableau K} {i j : Nat}

theorem Labelled.renamed (labels : Labelled t) (faithful : Label.Faithful ρ t.columns) : Labelled (t.rename ρ) := by
  refine ⟨?_, faithful.distinct labels.distinct, ?_⟩
  · exact (List.length_map ..).trans labels.wide
  · change (t.basic.map ρ ++ t.nonbasic.map ρ).Perm (t.columns.map ρ)
    rw [← List.map_append]
    exact labels.split.map ρ

theorem free_places_rename (labels : Labelled t) (faithful : Label.Faithful ρ t.columns) :
    (t.rename ρ).freePlaces = t.freePlaces := by
  have places : (t.nonbasic.map ρ).map (fun name => (t.columns.map ρ).idxOf name) =
      t.nonbasic.map fun name => t.columns.idxOf name := by
    rw [List.map_map]
    exact List.map_congr_left fun name free => faithful.index (fun _ member => member) (labels.nonbasic_member free)
  exact congrArg rising places

theorem name_at_rename (labels : Labelled t) (wide : j < t.numVars) : (t.rename ρ).nameAt j = ρ (t.nameAt j) := by
  have named : j < t.columns.length := by rw [labels.wide]; exact wide
  change (t.columns.map ρ).getD j default = _
  rw [nameAt, List.getD_eq_getElem _ _ named, List.getD_eq_getElem _ _ (by simpa using named), List.getElem_map]

variable [Scalar K]

theorem entering_rename (labels : Labelled t) (faithful : Label.Faithful ρ t.columns) :
    (t.rename ρ).entering? = t.entering? := by
  have chosen : (t.rename ρ).chooseEntering tolerance = t.chooseEntering tolerance := by
    rw [choose_entering_eq labels, choose_entering_eq (labels.renamed faithful), free_places_rename labels faithful]
    rfl
  rw [entering?, entering?, chosen]
  rfl

theorem after_rename (labels : Labelled t) (faithful : Label.Faithful ρ t.columns) (free : Free t j)
    (inside : i < t.height) : (t.rename ρ).after i j = (t.after i j).rename ρ := by
  have seated : i < t.basic.length := by rw [t.basic_length]; exact inside
  have name := name_at_rename (ρ := ρ) labels free.wide
  have basic : (t.basic.map ρ).set i ((t.rename ρ).nameAt j) = (t.basic.set i (t.nameAt j)).map ρ := by
    rw [name, List.map_set]
  have place : (t.nonbasic.map ρ).idxOf (ρ (t.nameAt j)) = t.nonbasic.idxOf (t.nameAt j) :=
    faithful.index (fun _ member => labels.nonbasic_member member) (labels.name_at_member free.wide)
  have leaving : (t.basic.map ρ).getD i default = ρ (t.basic.getD i default) := by
    rw [List.getD_eq_getElem _ _ seated, List.getD_eq_getElem _ _ (by simpa using seated), List.getElem_map]
  have nonbasic : (t.nonbasic.map ρ).set ((t.nonbasic.map ρ).idxOf ((t.rename ρ).nameAt j))
        ((t.basic.map ρ).getD i default) =
      (t.nonbasic.set (t.nonbasic.idxOf (t.nameAt j)) (t.basic.getD i default)).map ρ := by
    rw [name, place, leaving, List.map_set]
  exact Tableau.ext rfl rfl rfl basic nonbasic rfl rfl rfl rfl rfl rfl rfl

theorem pivot_rename (labels : Labelled t) (faithful : Label.Faithful ρ t.columns) (free : Free t j)
    (inside : i < t.height) (able : Pivotable t i j) : (t.rename ρ).pivot i j = .ok ((t.after i j).rename ρ) := by
  have known : (t.nonbasic.map ρ).contains ((t.rename ρ).nameAt j) = true := by
    rw [name_at_rename labels free.wide,
      faithful.contains (fun _ member => labels.nonbasic_member member) (labels.name_at_member free.wide)]
    exact able.free
  have again : Pivotable (t.rename ρ) i j := ⟨by simpa [rename] using able.named, known, able.nonzero⟩
  rw [← after_rename labels faithful free inside]
  exact pivot_eq inside (Nat.lt_succ_of_lt free.wide) again

theorem rename_carries {columns : List Label} (faithful : Label.Faithful ρ columns) : Carries (K := K) columns (rename ρ) where
  entering _ labels named := entering_rename labels (named ▸ faithful)
  leaving _ _ _ := rfl
  pivot _ _ _ labels named free inside able := pivot_rename labels (named ▸ faithful) free inside able
  optimal _ := rfl
  unbounded _ _ _ := Tableau.ext rfl rfl rfl rfl rfl rfl rfl rfl rfl rfl (List.getElem?_map ..) rfl
  pivoting _ _ _ _ :=
    Tableau.ext rfl rfl rfl rfl rfl rfl rfl rfl rfl rfl (List.getElem?_map ..) (List.getElem?_map ..)

theorem values_rename (labels : Labelled t) (faithful : Label.Faithful ρ t.columns) {names : List Label}
    (within : ∀ a ∈ names, a ∈ t.columns) (distinct : Label.Distinct names) :
    (t.rename ρ).valuesOf (names.map ρ) = (t.valuesOf names).map fun (name, x) => (ρ name, x) := by
  have only : Label.Faithful ρ names := fun a first b second => faithful a (within a first) b (within b second)
  rw [values_of_written (labels.renamed faithful) (only.distinct distinct), values_of_written labels distinct,
    Assignment.written, Assignment.written, List.map_map, List.map_map]
  refine List.map_congr_left fun name member => congrArg (Prod.mk (ρ name)) ?_
  have basic : ∀ a ∈ t.basic, a ∈ t.columns := fun a here => labels.split.subset (List.mem_append_left _ here)
  exact congrArg (fun found => Option.getD found (0 : K)) (Assignment.get_renamed faithful basic (within name member) _)

theorem flat_names_rename (labels : Labelled t) (faithful : Label.Faithful ρ t.columns) :
    (t.rename ρ).flatNames = t.flatNames.map ρ := by
  change (t.nonbasic.map ρ).filter _ = _
  rw [List.filter_map, flatNames]
  refine congrArg (List.map ρ) (List.filter_congr fun name free => ?_)
  have place : (t.columns.map ρ).idxOf (ρ name) = t.columns.idxOf name :=
    faithful.index (fun _ member => member) (labels.nonbasic_member free)
  exact congrArg (fun j => decide (Scalar.abs (t.objective.entry j) ≤ tolerance)) place

end Tableau

namespace Problem

open Tableau

variable {K : Type} {p : Problem K} {σ : Label → Label}

theorem new_name_variable {name : Label} (known : name ∈ p.names) : p.newName σ name = σ name :=
  if_pos (List.contains_iff_exists_mem_beq.mpr ⟨name, known, beq_self_eq_true name⟩)

theorem rename_names (renames : p.Renames σ) : (p.rename σ renames).names = p.names.map (p.newName σ) :=
  List.map_congr_left fun _ known => (new_name_variable known).symm

theorem Apart.new_name_slack (apart : p.Apart) {i : Nat} (inside : i < p.constraints.length) :
    p.newName σ (Extended.slackName i) = Extended.slackName i := by
  refine if_neg fun known => ?_
  obtain ⟨name, member, same⟩ := List.contains_iff_exists_mem_beq.mp known
  rw [BEq.comm, apart name member i inside] at same
  cases same

theorem Apart.slack_names_renamed (apart : p.Apart) :
    (Extended.slackNames p.constraints.length).map (p.newName σ) = Extended.slackNames p.constraints.length := by
  rw [Extended.slackNames, List.map_map]
  exact List.map_congr_left fun i inside => apart.new_name_slack (List.mem_range.mp inside)

theorem Renames.presented (renames : p.Renames σ) : (p.rename σ renames).Apart := by
  intro name member i inside
  obtain ⟨old, known, rfl⟩ := List.mem_map.mp member
  exact renames.apart old known i inside

theorem Apart.faithful (apart : p.Apart) (renames : p.Renames σ) :
    Label.Faithful (p.newName σ) (p.names ++ Extended.slackNames p.constraints.length) := by
  have mixed (name : Label) (known : name ∈ p.names) (i : Nat) (inside : i < p.constraints.length) :
      (p.newName σ name == p.newName σ (Extended.slackName i)) = (name == Extended.slackName i) := by
    rw [new_name_variable known, apart.new_name_slack inside, renames.apart name known i inside,
      apart name known i inside]
  intro a first b second
  rcases List.mem_append.mp first with left | left <;> rcases List.mem_append.mp second with right | right
  · rw [new_name_variable left, new_name_variable right]
    exact renames.faithful a left b right
  · obtain ⟨i, inside, rfl⟩ := List.mem_map.mp right
    exact mixed a left i (List.mem_range.mp inside)
  · obtain ⟨i, inside, rfl⟩ := List.mem_map.mp left
    rw [BEq.comm, mixed b right i (List.mem_range.mp inside), BEq.comm]
  · obtain ⟨i, inside, rfl⟩ := List.mem_map.mp left
    obtain ⟨k, counted, rfl⟩ := List.mem_map.mp right
    rw [apart.new_name_slack (List.mem_range.mp inside), apart.new_name_slack (List.mem_range.mp counted)]

variable [Scalar K]

theorem renamed_form {form : StandardForm K} (formed : StandardForm.ofProblem p = .ok form) (renames : p.Renames σ) :
    ∃ other, StandardForm.ofProblem (p.rename σ renames) = .ok other ∧
      initial other = (initial form).rename (p.newName σ) := by
  have presents := StandardForm.of_problem_presents formed
  obtain ⟨other, again, presented⟩ := renames.presented.presented
  have decisions : other.decisions = form.decisions.map (p.newName σ) := by
    rw [presented.decisions, rename_names, presents.decisions]
  have slacks : other.slacks = form.slacks.map (p.newName σ) := by
    rw [presented.slacks, presents.slacks, p.length_rows, presents.apart.slack_names_renamed]
    exact congrArg Extended.slackNames (length_rows (p.rename σ renames))
  have rows : (initial other).rows = (initial form).rows := by
    change List.zipWith Row.mk other.rows other.rhs = List.zipWith Row.mk form.rows form.rhs
    rw [presented.rows, presented.rhs, presents.rows, presents.rhs]
    rfl
  have objective : (initial other).objective = (initial form).objective := by
    change Row.mk (other.costs.map fun c => -c) 0 = Row.mk (form.costs.map fun c => -c) 0
    rw [presented.costs, presents.costs]
    rfl
  have columns : (initial other).columns = (initial form).columns.map (p.newName σ) := by
    change other.decisions ++ other.slacks = (form.decisions ++ form.slacks).map _
    rw [decisions, slacks, List.map_append]
  exact ⟨other, again, Tableau.ext rows objective columns slacks decisions rfl rfl rfl rfl rfl rfl rfl⟩

end Problem

theorem Sensitivity.of_tableau_rename {K : Type} [Scalar K] {p : Problem K} {σ : Label → Label} (renames : p.Renames σ)
    (final : Tableau K) : ofTableau (p.rename σ renames) (final.rename (p.newName σ)) =
      (ofTableau p final).rename (p.newName σ) := by
  have size : (p.rename σ renames).size = p.size := List.length_map ..
  have costs : (ofTableau (p.rename σ renames) (final.rename (p.newName σ))).reducedCosts =
      (ofTableau p final).reducedCosts.map fun (name, x) => (p.newName σ name, x) := by
    simp only [ofTableau, Problem.rename_names, List.zipIdx_map, List.map_map]
    rfl
  have prices : (ofTableau (p.rename σ renames) (final.rename (p.newName σ))).shadowPrices =
      (ofTableau p final).shadowPrices := by
    simp only [ofTableau, size]
    rfl
  have ranges : (ofTableau (p.rename σ renames) (final.rename (p.newName σ))).rhsRanges =
      (ofTableau p final).rhsRanges := by
    simp only [ofTableau, size]
    rfl
  exact (Sensitivity.mk.injEq ..).mpr ⟨prices, costs, ranges⟩

namespace Problem

open Tableau

theorem renamed_solve {K : Type} [Scalar K] (p : Problem K) (σ : Label → Label) (renames : p.Renames σ) (limit : Limit)
    (s : Solution K) (solved : p.solve limit = .ok s) :
    (∀ name ∈ p.names, p.newName σ name = σ name) ∧
      (∀ i < p.constraints.length, p.newName σ (Extended.slackName i) = Extended.slackName i) ∧
      ∃ u, (p.rename σ renames).solve limit = .ok u ∧ s.Renamed (p.newName σ) u := by
  obtain ⟨_, _, form, formed, _⟩ := (solve_ok_iff p limit s).mp solved
  have presents := StandardForm.of_problem_presents formed
  have faithful := presents.apart.faithful renames
  obtain ⟨other, formedAgain, start⟩ := renamed_form formed renames
  have carries := rename_carries (K := K) faithful
  rw [← initial_columns presents] at carries
  have again := solve_carried formed formedAgain carries start id solved
  obtain ⟨final, last, labels, columns, analyzed⟩ := analysis_ok solved
  obtain ⟨_, lastAgain, labelsAgain, _, analyzedAgain⟩ := analysis_ok again
  have moved : (s.history.map (·.rename (p.newName σ))).getLast? = some (final.rename (p.newName σ)) := by
    rw [List.getLast?_map, last]
    rfl
  cases lastAgain.symm.trans moved
  rw [← columns] at faithful
  obtain ⟨ended, reported⟩ := solve_last solved last
  obtain ⟨endedAgain, reportedAgain⟩ := solve_last again lastAgain
  have status := endedAgain.trans ended.symm
  refine ⟨fun name known => new_name_variable known, fun i inside => presents.apart.new_name_slack inside, _, again,
    status, rfl, ?_, reportedAgain.trans reported.symm, (solve_maximize again).trans (solve_maximize solved).symm, ?_, ?_⟩
  · rw [solve_point again lastAgain, solve_point solved last, rename_names]
    refine values_rename labels faithful ?_ p.distinct
    intro name member
    rw [columns]
    exact List.mem_append_left _ member
  · refine ⟨_, alternate_optima_ok labels last, ?_⟩
    rw [alternate_optima_ok labelsAgain lastAgain, status, flat_names_rename labels faithful]
    split <;> rfl
  · refine ⟨_, analyzed, ?_⟩
    rw [analyzedAgain, Sensitivity.of_tableau_rename]

-- The first variable takes the name of the second, and the second one like that of a slack, one past the last.
def traded (name : Label) : Label := if name == Label.numbered "x" 0 then Label.numbered "x" 1 else Extended.slackName 3

theorem workshop_traded : workshop.Renames traded := ⟨by decide +kernel, by decide +kernel⟩

theorem workshop_renamed : workshop.Renames traded ∧ ∃ s u, workshop.solve (.count 50) = .ok s ∧
    (workshop.rename traded workshop_traded).solve (.count 50) = .ok u ∧ s.status = .optimal ∧
    u.point.map (·.1) = [Label.numbered "x" 1, Extended.slackName 3] ∧ u.value = 36 ∧
    s.Renamed (workshop.newName traded) u := by
  obtain ⟨s, t, solved, closes⟩ := workshop_accepted.solved 50 (by decide)
  have ending : (workshop.record 50).getLast?.map (fun t => (t.endStatus, t.value)) = some (.optimal, 36) := by cbv
  obtain ⟨final, _, noted, ended, reported⟩ := solve_noted solved _ ending
  obtain ⟨status, worth⟩ := Prod.mk.inj noted
  obtain ⟨_, _, u, again, renamed⟩ := renamed_solve workshop traded workshop_traded (.count 50) s solved
  have names : u.point.map (·.1) = (s.point.map (·.1)).map (workshop.newName traded) := by
    rw [renamed.point, List.map_map, List.map_map]
    rfl
  refine ⟨workshop_traded, s, u, solved, again, ended.trans status, ?_, renamed.value.trans (reported.trans worth), renamed⟩
  rw [names, closes.point_names]
  rfl

end Problem

end LinProg
