import LinProg.Proofs.Alternates
import LinProg.Proofs.Analysis
import LinProg.Proofs.BasicPoint
import LinProg.Proofs.Carried

set_option autoImplicit false

namespace LinProg

section Scaled

def Row.scaleBound (factor : Rat) (r : Row Rat) : Row Rat := { r with rhs := factor * r.rhs }

def Constraint.scaleBound (factor : Rat) (c : Constraint Rat) : Constraint Rat := { c with rhs := factor * c.rhs }

def Problem.scaleBounds (factor : Rat) (p : Problem Rat) : Problem Rat where
  objective := p.objective
  constraints := p.constraints.map (·.scaleBound factor)
  names := p.names
  maximize := p.maximize
  has_names := p.has_names
  has_constraints := by simpa using p.has_constraints
  distinct := p.distinct
  objective_length := p.objective_length
  row_length := by
    intro c member
    obtain ⟨old, listed, rfl⟩ := List.mem_map.mp member
    exact p.row_length old listed

def StandardForm.scaleBounds (factor : Rat) (form : StandardForm Rat) : StandardForm Rat :=
  { form with
    rhs := form.rhs.map (factor * ·)
    rhs_length := by rw [List.length_map, form.rhs_length] }

def Tableau.scaleBounds (factor : Rat) (t : Tableau Rat) : Tableau Rat :=
  { t with
    rows := t.rows.map (·.scaleBound factor)
    objective := t.objective.scaleBound factor
    basic_length := by rw [List.length_map, t.basic_length]
    rectangular := by
      intro r member
      obtain ⟨old, listed, rfl⟩ := List.mem_map.mp member
      exact t.rectangular old listed }

def RhsRange.scale (factor : Rat) (r : RhsRange Rat) : RhsRange Rat :=
  { r with
    rhs := factor * r.rhs
    decrease := r.decrease.map (factor * ·)
    increase := r.increase.map (factor * ·) }

def Sensitivity.scaleBounds (factor : Rat) (report : Sensitivity Rat) : Sensitivity Rat :=
  { report with rhsRanges := report.rhsRanges.map (·.scale factor) }

end Scaled

structure Solution.Scaled (factor : Rat) (s u : Solution Rat) : Prop where
  status : u.status = s.status
  history : u.history = s.history.map (·.scaleBounds factor)
  point : u.point = s.point.map fun (name, x) => (name, factor * x)
  value : u.value = factor * s.value
  maximize : u.maximize = s.maximize
  alternates : ∃ names, s.alternateOptima = .ok names ∧ u.alternateOptima = .ok names
  analysis : ∃ report, Sensitivity.ofSolution s = .ok report ∧ Sensitivity.ofSolution u = .ok (report.scaleBounds factor)

namespace Assignment

theorem written_map (names : List Label) (f : Label → Rat) (g : Rat → Rat) :
    (written names f).map (fun (name, x) => (name, g x)) = written names fun name => g (f name) := List.map_map ..

theorem get_map (name : Label) (values : Assignment Rat) (g : Rat → Rat) :
    get? name (values.map fun (key, x) => (key, g x)) = (get? name values).map g := by
  rw [get?, get?, List.find?_map, Option.map_map, Option.map_map]
  rfl

end Assignment

namespace Row

variable {factor : Rat} {r pivot : Row Rat} {j : Nat}

theorem entry_scale_bound (wide : j < r.coefficients.length) : (r.scaleBound factor).entry j = r.entry j := by
  simp [entry, scaleBound, wide]

theorem divide_scale_bound (x : Rat) : (r.scaleBound factor).divide x = (r.divide x).scaleBound factor := by
  simp [divide, scaleBound, mul_div_assoc]

theorem eliminate_scale_bound (wide : j < r.coefficients.length) :
    (r.scaleBound factor).eliminate (pivot.scaleBound factor) j = (r.eliminate pivot j).scaleBound factor := by
  rw [eliminate, eliminate, entry_scale_bound wide]
  cases r.entry j == 0 with
  | true => rfl
  | false =>
      have moved : factor * r.rhs - r.entry j * (factor * pivot.rhs) = factor * (r.rhs - r.entry j * pivot.rhs) := by ring
      exact congrArg (Row.mk _) moved

end Row

namespace Tableau

variable {factor : Rat} {t : Tableau Rat} {i j : Nat}

theorem row_at_scale (t : Tableau Rat) (i : Nat) : (t.scaleBounds factor).rowAt i = (t.rowAt i).scaleBound factor := by
  simp only [rowAt, scaleBounds, List.getD_eq_getElem?_getD, List.getElem?_map]
  cases t.rows[i]? <;> rfl

theorem entry_at_scale (t : Tableau Rat) (i : Nat) (wide : j < t.numVars) :
    (t.scaleBounds factor).entryAt i j = t.entryAt i j := by
  rw [entryAt, row_at_scale, Row.entry_scale_bound (lt_of_lt_of_eq wide (t.length_row_at i).symm)]
  rfl

theorem scaled_row_scale (i : Nat) (wide : j < t.numVars) :
    (t.scaleBounds factor).scaledRow i j = (t.scaledRow i j).scaleBound factor := by
  rw [scaledRow, entry_at_scale t i wide, row_at_scale, Row.divide_scale_bound]
  rfl

theorem after_scale (wide : j < t.numVars) :
    (t.scaleBounds factor).after i j = (t.after i j).scaleBounds factor := by
  have rows : ((t.scaleBounds factor).after i j).rows = ((t.after i j).scaleBounds factor).rows := by
    apply List.ext_getElem (by simp [after, scaleBounds])
    intro k left right
    have within : k < t.rows.length := by simpa [after, scaleBounds] using left
    have clears : j < t.rows[k].coefficients.length := by
      rw [t.rectangular _ (List.getElem_mem within)]
      exact wide
    simp only [after, scaleBounds, List.getElem_mapIdx, List.getElem_map]
    by_cases here : k = i
    · rw [if_pos here, if_pos here]
      exact scaled_row_scale i wide
    · rw [if_neg here, if_neg here, ← Row.eliminate_scale_bound clears, ← scaled_row_scale i wide]
      rfl
  have objective : ((t.scaleBounds factor).after i j).objective = ((t.after i j).scaleBounds factor).objective := by
    change (t.objective.scaleBound factor).eliminate ((t.scaleBounds factor).scaledRow i j) j = _
    rw [scaled_row_scale i wide, Row.eliminate_scale_bound wide]
    rfl
  exact Tableau.ext rows objective rfl rfl rfl rfl rfl rfl rfl rfl rfl rfl

theorem scaled_num_vars (t : Tableau Rat) : (t.scaleBounds factor).numVars = t.numVars := rfl

theorem scaled_height (t : Tableau Rat) : (t.scaleBounds factor).height = t.height := List.length_map ..

theorem Labelled.scaled (labels : Labelled t) : Labelled (t.scaleBounds factor) :=
  ⟨labels.wide, labels.distinct, labels.split⟩

theorem most_negative_congr (t s : Tableau Rat) (width : s.width = t.width) (bound : Rat) (places : List Nat)
    (same : ∀ j ∈ places, s.objective.entry j = t.objective.entry j) :
    s.mostNegative bound places = t.mostNegative bound places := by
  rw [most_negative_eq, most_negative_eq]
  generalize (none, bound) = state
  induction places generalizing state with
  | nil => rfl
  | cons j rest ih =>
      have step : s.scanStep state j = t.scanStep state j := by
        rw [scanStep, scanStep, width, same j List.mem_cons_self]
      have onward := ih fun k member => same k (List.mem_cons_of_mem j member)
      simp only [List.foldlM_cons, step, onward]

theorem entering_scale (labels : Labelled t) : (t.scaleBounds factor).entering? = t.entering? := by
  have same : ∀ j ∈ t.freePlaces, (t.scaleBounds factor).objective.entry j = t.objective.entry j := by
    intro j member
    exact Row.entry_scale_bound ((mem_free_places labels j).mp member).1
  have chosen : (t.scaleBounds factor).chooseEntering tolerance = t.chooseEntering tolerance := by
    rw [choose_entering_eq labels, choose_entering_eq labels.scaled]
    exact congrArg (Except.map (·.1)) (most_negative_congr t (t.scaleBounds factor) rfl _ _ same)
  rw [entering?, entering?, chosen]
  rfl

theorem ratio_at_scale (i : Nat) (wide : j < t.numVars) :
    (t.scaleBounds factor).ratioAt j i = (t.ratioAt j i).map (factor * ·) := by
  have level : (t.scaleBounds factor).entryAt i t.numVars = factor * t.entryAt i t.numVars := by
    have bound := entry_rhs (t.scaleBounds factor) i
    rw [scaled_num_vars] at bound
    rw [bound, entry_rhs, row_at_scale]
    rfl
  rw [ratioAt, ratioAt, entry_at_scale t i wide, scaled_num_vars, level]
  by_cases positive : 0 < t.entryAt i j
  · rw [if_pos positive, if_pos positive, Option.map_some, mul_div_assoc]
  · rw [if_neg positive, if_neg positive]
    rfl

-- A scan for the least ratio, with the ratios and the least so far in another unit.
theorem ratio_step_scale (positive : 0 < factor) (best : Option (Nat × Rat)) (ratio : Option Rat) (i : Nat) :
    ratioStep (best.map fun (k, x) => (k, factor * x)) (ratio.map (factor * ·), i) =
      (ratioStep best (ratio, i)).map fun (k, x) => (k, factor * x) := by
  cases ratio with
  | none => cases best <;> rfl
  | some x =>
      cases best with
      | none => rfl
      | some kept =>
          have order : factor * x < factor * kept.2 ↔ x < kept.2 := mul_lt_mul_iff_right₀ positive
          change (if factor * x < factor * kept.2 then _ else _) = Option.map _ (if x < kept.2 then _ else _)
          by_cases less : x < kept.2
          · rw [if_pos (order.mpr less), if_pos less]
            rfl
          · rw [if_neg (mt order.mp less), if_neg less]
            rfl

theorem least_ratio_scale (positive : 0 < factor) (ratios : List (Option Rat)) :
    leastRatio (ratios.map (Option.map (factor * ·))) = leastRatio ratios := by
  have scan (places : List (Option Rat × Nat)) (best : Option (Nat × Rat)) :
      (places.map fun (ratio, i) => (ratio.map (factor * ·), i)).foldl ratioStep
          (best.map fun (k, x) => (k, factor * x)) =
        (places.foldl ratioStep best).map fun (k, x) => (k, factor * x) := by
    induction places generalizing best with
    | nil => rfl
    | cons place rest ih =>
        rw [List.map_cons, List.foldl_cons, ratio_step_scale positive, ih]
        rfl
  rw [least_ratio_eq, least_ratio_eq, List.zipIdx_map]
  have all := scan ratios.zipIdx none
  rw [Option.map_none] at all
  change ((List.map (fun (ratio, i) => (ratio.map (factor * ·), i)) ratios.zipIdx).foldl ratioStep none).map (·.1) = _
  rw [all, Option.map_map]
  rfl

theorem leaving_scale (positive : 0 < factor) (wide : j < t.numVars) :
    (t.scaleBounds factor).chooseLeaving j = t.chooseLeaving j := by
  have ratios : (List.range (t.scaleBounds factor).height).map ((t.scaleBounds factor).ratioAt j) =
      ((List.range t.height).map (t.ratioAt j)).map (Option.map (factor * ·)) := by
    rw [scaled_height, List.map_map]
    exact List.map_congr_left fun i _ => ratio_at_scale i wide
  rw [chooseLeaving, chooseLeaving, ratios_eq t j wide, ratios_eq (t.scaleBounds factor) j wide, ratios]
  exact congrArg Except.ok (least_ratio_scale positive _)

theorem pivot_scale (free : Free t j) (inside : i < t.height) (able : Pivotable t i j) :
    (t.scaleBounds factor).pivot i j = .ok ((t.after i j).scaleBounds factor) := by
  have again : Pivotable (t.scaleBounds factor) i j :=
    ⟨able.named, able.free, by rw [entry_at_scale t i free.wide]; exact able.nonzero⟩
  rw [← after_scale free.wide]
  exact pivot_eq (lt_of_lt_of_eq inside (scaled_height t).symm) (Nat.lt_succ_of_lt free.wide) again

theorem scale_carries (positive : 0 < factor) (columns : List Label) : Carries columns (scaleBounds factor) where
  entering _ labels _ := entering_scale labels
  leaving _ _ wide := leaving_scale positive wide
  pivot _ _ _ _ _ free inside able := pivot_scale free inside able
  optimal _ := rfl
  unbounded _ _ _ := rfl
  pivoting _ _ _ _ := rfl

theorem alternates_scale (labels : Labelled t) : (t.scaleBounds factor).alternates = t.alternates := by
  refine List.filter_congr ?_
  intro name free
  have wide := (labels.name_at_place (labels.nonbasic_member free)).1
  change decide (|(t.objective.scaleBound factor).entry (t.columns.idxOf name)| ≤ tolerance) = _
  rw [Row.entry_scale_bound wide]

theorem values_scale (labels : Labelled t) {names : List Label} (distinct : Label.Distinct names) :
    (t.scaleBounds factor).valuesOf names = (t.valuesOf names).map fun (name, x) => (name, factor * x) := by
  have bounds : (t.scaleBounds factor).rows.map (·.rhs) = (t.rows.map (·.rhs)).map (factor * ·) := by
    simp [scaleBounds, Row.scaleBound, Function.comp_def]
  rw [values_of_written labels distinct, values_of_written labels.scaled distinct, Assignment.written_map]
  refine Assignment.written_congr ?_
  intro name _
  rw [bounds, List.zip_map_right]
  change (Assignment.get? name ((t.basic.zip (t.rows.map (·.rhs))).map fun (key, x) => (key, factor * x))).getD 0 = _
  rw [Assignment.get_map]
  cases Assignment.get? name (t.basic.zip (t.rows.map (·.rhs))) with
  | none => exact (mul_zero factor).symm
  | some x => rfl

theorem reported_value_scale (t : Tableau Rat) (maximize : Bool) :
    (t.scaleBounds factor).reportedValue maximize = factor * t.reportedValue maximize := by
  cases maximize with
  | true => rfl
  | false => exact (mul_neg factor t.value).symm

theorem initial_scale (form : StandardForm Rat) : initial (form.scaleBounds factor) = (initial form).scaleBounds factor := by
  have rows : List.zipWith Row.mk form.rows (form.rhs.map (factor * ·)) =
      (List.zipWith Row.mk form.rows form.rhs).map (·.scaleBound factor) := by
    rw [List.zipWith_map_right, List.map_zipWith]
    rfl
  have objective : (initial form).objective = (initial form).objective.scaleBound factor :=
    congrArg (Row.mk _) (mul_zero factor).symm
  exact Tableau.ext rows objective rfl rfl rfl rfl rfl rfl rfl rfl rfl rfl

end Tableau

namespace Sensitivity

variable {factor : Rat}

def scaleLimits (factor : Rat) (limits : Option Rat × Option Rat) : Option Rat × Option Rat :=
  (limits.1.map (factor * ·), limits.2.map (factor * ·))

theorem tighten_scale (positive : 0 < factor) (limit : Option Rat) (x : Rat) :
    tighten (limit.map (factor * ·)) (factor * x) = (tighten limit x).map (factor * ·) := by
  cases limit with
  | none => rfl
  | some y =>
      have order : factor * x < factor * y ↔ x < y := mul_lt_mul_iff_right₀ positive
      change (if factor * x < factor * y then _ else _) = Option.map _ (if x < y then _ else _)
      by_cases less : x < y
      · rw [if_pos (order.mpr less), if_pos less]
        rfl
      · rw [if_neg (mt order.mp less), if_neg less]
        rfl

theorem tighten_by_scale (positive : 0 < factor) (limits : Option Rat × Option Rat) (x entry : Rat) :
    tightenBy (scaleLimits factor limits) (factor * x) entry = scaleLimits factor (tightenBy limits x entry) := by
  have fall := tighten_scale positive limits.1 (x / entry)
  have rise := tighten_scale positive limits.2 (x / -entry)
  rw [← mul_div_assoc] at fall rise
  rw [tightenBy, tightenBy]
  by_cases up : tolerance < entry
  · rw [if_pos up, if_pos up]
    exact Prod.ext fall rfl
  · rw [if_neg up, if_neg up]
    by_cases down : entry < -tolerance
    · rw [if_pos down, if_pos down]
      exact Prod.ext rfl rise
    · rw [if_neg down, if_neg down]

theorem range_at_scale (positive : 0 < factor) (final : Tableau Rat) {column : Nat} (wide : column < final.numVars)
    (constraint : Label) (rhs : Rat) :
    rangeAt (final.scaleBounds factor) column constraint (factor * rhs) =
      (rangeAt final column constraint rhs).scale factor := by
  have fold (rows : List (Row Rat)) (even : ∀ r ∈ rows, column < r.coefficients.length)
      (limits : Option Rat × Option Rat) :
      (rows.map (·.scaleBound factor)).foldl (fun limits row => tightenBy limits row.rhs (row.entry column))
          (scaleLimits factor limits) =
        scaleLimits factor (rows.foldl (fun limits row => tightenBy limits row.rhs (row.entry column)) limits) := by
    induction rows generalizing limits with
    | nil => rfl
    | cons row rest ih =>
        rw [List.map_cons, List.foldl_cons, Row.entry_scale_bound (even row List.mem_cons_self)]
        change List.foldl _ (tightenBy (scaleLimits factor limits) (factor * row.rhs) _) _ = _
        rw [tighten_by_scale positive, ih fun r member => even r (List.mem_cons_of_mem row member)]
        rfl
  have even : ∀ r ∈ final.rows, column < r.coefficients.length := by
    intro r member
    rw [final.rectangular r member]
    exact wide
  have limits := fold final.rows even (none, none)
  change (final.scaleBounds factor).rows.foldl _ (none, none) = _ at limits
  simp only [rangeAt, limits]
  rfl

theorem of_tableau_scale (positive : 0 < factor) {p : Problem Rat} {final : Tableau Rat}
    (numVars : final.numVars = p.size + p.constraints.length) :
    ofTableau (p.scaleBounds factor) (final.scaleBounds factor) = (ofTableau p final).scaleBounds factor := by
  have count : (p.scaleBounds factor).constraints.length = p.constraints.length := List.length_map ..
  have bounds : (p.scaleBounds factor).rhs = p.rhs.map (factor * ·) := by
    simp [Problem.rhs, Problem.scaleBounds, Constraint.scaleBound]
  have slacks : (Extended.slackNames p.constraints.length).length = p.constraints.length := by
    simp [Extended.slackNames]
  have cost (j : Nat) (wide : j < final.numVars) :
      (final.scaleBounds factor).objective.entry j = final.objective.entry j := Row.entry_scale_bound wide
  have prices : (ofTableau (p.scaleBounds factor) (final.scaleBounds factor)).shadowPrices =
      (ofTableau p final).shadowPrices := by
    rw [ofTableau, count]
    refine List.map_congr_left ?_
    rintro ⟨name, i⟩ member
    have inside : i < p.constraints.length := by simpa [slacks] using List.snd_lt_of_mem_zipIdx member
    exact congrArg (fun x => (name, (if p.maximize then 1 else -1) * x)) (cost (p.size + i) (by omega))
  have costs : (ofTableau (p.scaleBounds factor) (final.scaleBounds factor)).reducedCosts =
      (ofTableau p final).reducedCosts := by
    refine List.map_congr_left ?_
    rintro ⟨name, j⟩ member
    have inside : j < p.size := by simpa [Problem.scaleBounds, Problem.size] using List.snd_lt_of_mem_zipIdx member
    exact congrArg (Prod.mk name) (cost j (by omega))
  have ranges : (ofTableau (p.scaleBounds factor) (final.scaleBounds factor)).rhsRanges =
      (ofTableau p final).rhsRanges.map (·.scale factor) := by
    rw [ofTableau, count, bounds, List.zip_map_right, List.zipIdx_map, List.map_map, ofTableau, List.map_map]
    refine List.map_congr_left ?_
    rintro ⟨⟨name, rhs⟩, i⟩ member
    have inside : i < p.constraints.length := by simpa [slacks, Problem.rhs] using List.snd_lt_of_mem_zipIdx member
    exact range_at_scale positive final (show p.size + i < final.numVars by omega) name rhs
  exact (Sensitivity.mk.injEq ..).mpr ⟨prices, costs, ranges⟩

end Sensitivity

theorem StandardForm.of_problem_scale (p : Problem Rat) (factor : Rat) :
    ofProblem (p.scaleBounds factor) = (ofProblem p).map (scaleBounds factor) := by
  have rows : (p.scaleBounds factor).rows = p.rows := by
    simp [Problem.rows, Problem.scaleBounds, Constraint.scaleBound]
  have bounds : (p.scaleBounds factor).rhs = p.rhs.map (factor * ·) := by
    simp [Problem.rhs, Problem.scaleBounds, Constraint.scaleBound]
  have names : Extended.clashes (p.scaleBounds factor).names (p.scaleBounds factor).rows.length =
      Extended.clashes p.names p.rows.length := by rw [rows]; rfl
  by_cases clash : Extended.clashes p.names p.rows.length = []
  · rw [ofProblem, ofProblem, if_pos clash, if_pos (names.trans clash)]
    refine congrArg Except.ok (eq_of_parts ?_ bounds)
    exact congrArg (fun rows => Extended.ofParts p.objective rows p.maximize p.names) rows
  · rw [ofProblem, ofProblem, if_neg clash, if_neg (names ▸ clash), names]
    rfl

namespace Problem

open Tableau

variable {p : Problem Rat} {factor : Rat}

theorem Accepted.scaled (accepted : p.Accepted) (positive : 0 < factor) : (p.scaleBounds factor).Accepted := by
  refine ⟨?_, ?_, ?_⟩
  · intro c member
    obtain ⟨old, listed, rfl⟩ := List.mem_map.mp member
    exact accepted.atMost old listed
  · intro c member
    obtain ⟨old, listed, rfl⟩ := List.mem_map.mp member
    exact mul_nonneg (le_of_lt positive) (accepted.origin old listed)
  · intro name member i inside
    exact accepted.apart name member i (lt_of_lt_of_eq inside (List.length_map ..))

theorem solved_scaled {limit : Limit} {s : Solution Rat} (positive : 0 < factor) (solved : p.solve limit = .ok s) :
    ∃ u, (p.scaleBounds factor).solve limit = .ok u ∧ u.history = s.history.map (·.scaleBounds factor) := by
  obtain ⟨_, _, form, formed, _⟩ := (solve_ok_iff p limit s).mp solved
  have again : StandardForm.ofProblem (p.scaleBounds factor) = .ok (form.scaleBounds factor) := by
    rw [StandardForm.of_problem_scale, formed]
    rfl
  have checked := (check_origin_ok_iff (p.scaleBounds factor)).mpr
    fun c member => ⟨((accepted_of_solved solved).scaled positive).atMost c member,
      not_lt.mpr (((accepted_of_solved solved).scaled positive).origin c member)⟩
  exact ⟨_, solve_carried formed again (scale_carries positive _) (initial_scale form) (fun _ => checked) solved, rfl⟩

theorem scaled_bounds_solve (p : Problem Rat) (limit : Limit) (factor : Rat) (positive : 0 < factor) (s : Solution Rat)
    (solved : p.solve limit = .ok s) : ∃ u, (p.scaleBounds factor).solve limit = .ok u ∧ s.Scaled factor u := by
  have accepted := accepted_of_solved solved
  obtain ⟨u, again, history⟩ := solved_scaled positive solved
  obtain ⟨final, last, recorded, analyzed⟩ := accepted.analyzed solved
  obtain ⟨_, lastAgain, _, analyzedAgain⟩ := (accepted.scaled positive).analyzed again
  have moved : u.history.getLast? = some (final.scaleBounds factor) := by
    rw [history, List.getLast?_map, last]
    rfl
  cases lastAgain.symm.trans moved
  obtain ⟨ended, reported⟩ := solve_last solved last
  obtain ⟨endedAgain, reportedAgain⟩ := solve_last again lastAgain
  have status : u.status = s.status := endedAgain.trans ended.symm
  refine ⟨u, again, status, history, ?_, ?_, (solve_maximize again).trans (solve_maximize solved).symm, ?_, ?_⟩
  · rw [solve_point again lastAgain, solve_point solved last]
    exact values_scale recorded.ready.labels p.distinct
  · rw [reportedAgain, reported]
    exact reported_value_scale final p.maximize
  · refine ⟨_, alternates_listed solved last, ?_⟩
    rw [alternates_listed again lastAgain, status, alternates_scale recorded.ready.labels]
  · refine ⟨_, analyzed, ?_⟩
    rw [analyzedAgain, Sensitivity.of_tableau_scale positive recorded.rewrites.numVars]

-- The workshop in units of which five make two of the old ones.
theorem workshop_scaled : (0 : Rat) < 5 / 2 ∧ ∃ s u, workshop.solve (.count 50) = .ok s ∧
    (workshop.scaleBounds (5 / 2)).solve (.count 50) = .ok u ∧ s.status = .optimal ∧ s.value = 36 ∧ u.value = 90 ∧
    s.Scaled (5 / 2) u := by
  obtain ⟨s, _, solved, _⟩ := workshop_accepted.solved 50 (by decide)
  have ending : (workshop.record 50).getLast?.map (fun t => (t.endStatus, t.value)) = some (.optimal, 36) := by cbv
  obtain ⟨final, _, noted, ended, reported⟩ := solve_noted solved _ ending
  obtain ⟨status, worth⟩ := Prod.mk.inj noted
  have value : s.value = 36 := reported.trans worth
  obtain ⟨u, again, scaled⟩ := scaled_bounds_solve workshop (.count 50) (5 / 2) (by norm_num) s solved
  refine ⟨by norm_num, s, u, solved, again, ended.trans status, value, ?_, scaled⟩
  rw [scaled.value, value]
  norm_num

end Problem

end LinProg
