import LinProg.Proofs.Basis
import LinProg.Simplex

set_option autoImplicit false

namespace LinProg.Tableau

-- The place found among those seen, and the value that a better one would have to be below.
def FirstLeast (f : Nat → Rat) (bound : Rat) (seen : List Nat) : Option Nat × Rat → Prop
  | (none, least) => least = bound ∧ ∀ a ∈ seen, bound ≤ f a
  | (some j, least) => least = f j ∧ f j < bound ∧
      ∃ before after, seen = before ++ j :: after ∧ (∀ a ∈ before, f j < f a) ∧ ∀ a ∈ after, f j ≤ f a

theorem first_least_below {f : Nat → Rat} {bound least : Rat} {seen : List Nat} {best : Option Nat}
    (found : FirstLeast f bound seen (best, least)) (a : Nat) (member : a ∈ seen) : least ≤ f a := by
  cases best with
  | none =>
      rw [found.1]
      exact found.2 a member
  | some j =>
      obtain ⟨same, _, before, after, split, strict, weak⟩ := found
      rw [same]
      rw [split] at member
      rcases List.mem_append.mp member with early | late
      · exact le_of_lt (strict a early)
      · rcases List.mem_cons.mp late with here | later
        · rw [here]
        · exact weak a later

theorem first_least_bound {f : Nat → Rat} {bound least : Rat} {seen : List Nat} {best : Option Nat}
    (found : FirstLeast f bound seen (best, least)) : least ≤ bound := by
  cases best with
  | none => exact le_of_eq found.1
  | some j =>
      rw [found.1]
      exact le_of_lt found.2.1

theorem first_least_step {f : Nat → Rat} {bound least : Rat} {seen : List Nat} {best : Option Nat}
    (found : FirstLeast f bound seen (best, least)) (a : Nat) :
    FirstLeast f bound (seen ++ [a]) (if f a < least then (some a, f a) else (best, least)) := by
  by_cases better : f a < least
  · rw [if_pos better]
    refine ⟨rfl, lt_of_lt_of_le better (first_least_bound found), seen, [], rfl, ?_, by simp⟩
    intro b member
    exact lt_of_lt_of_le better (first_least_below found b member)
  · rw [if_neg better]
    have notBelow : least ≤ f a := le_of_not_gt better
    cases best with
    | none =>
        refine ⟨found.1, ?_⟩
        intro b member
        rcases List.mem_append.mp member with early | late
        · exact found.2 b early
        · rw [List.mem_singleton.mp late, ← found.1]
          exact notBelow
    | some j =>
        obtain ⟨same, negative, before, after, split, strict, weak⟩ := found
        refine ⟨same, negative, before, after ++ [a], by rw [split]; simp, strict, ?_⟩
        intro b member
        rcases List.mem_append.mp member with early | late
        · exact weak b early
        · rw [List.mem_singleton.mp late, ← same]
          exact notBelow

def lowest (property : Nat → Prop) (value : Nat → Rat) : Set Nat :=
  {j | property j ∧ ∀ k, property k → value j ≤ value k}

-- Where the places seen are in order, the place found is the first of those with the least value.
theorem first_least_lowest {f : Nat → Rat} {bound least : Rat} {places : List Nat} {j : Nat}
    (sorted : places.Pairwise (· ≤ ·)) (found : FirstLeast f bound places (some j, least)) :
    IsLeast (lowest (· ∈ places) f) j := by
  have below := first_least_below found
  obtain ⟨same, _, before, after, split, strict, _⟩ := found
  have member : j ∈ places := by rw [split]; simp
  constructor
  · exact ⟨member, fun k listed => le_of_eq_of_le same.symm (below k listed)⟩
  · intro k ⟨listed, lower⟩
    rw [split] at listed sorted
    rcases List.mem_append.mp listed with early | late
    · exact absurd (lower j member) (not_le.mpr (strict k early))
    · rcases List.mem_cons.mp late with here | later
      · exact le_of_eq here.symm
      · exact (List.pairwise_cons.mp (List.pairwise_append.mp sorted).2.1).1 k later

def scanStep (t : Tableau Rat) (state : Option Nat × Rat) (j : Nat) : Except TableauError (Option Nat × Rat) :=
  if j < t.width then .ok (if t.objective.entry j < state.2 then (some j, t.objective.entry j) else state)
  else .error (.entryIndex j 0 t.width)

theorem most_negative_eq (t : Tableau Rat) (bound : Rat) (places : List Nat) :
    t.mostNegative bound places = places.foldlM t.scanStep (none, bound) := by
  have same : (fun (state : Option Nat × Rat) j => if j < t.width then
      if t.objective.entry j < state.2 then .ok (some j, t.objective.entry j) else .ok (state.1, state.2)
      else .error (.entryIndex j 0 t.width)) = t.scanStep := by
    funext state j
    unfold scanStep
    split
    · split <;> rfl
    · rfl
  rw [← same]
  rfl

theorem scan_spec (t : Tableau Rat) (bound : Rat) (seen rest : List Nat) (state : Option Nat × Rat)
    (inside : ∀ j ∈ rest, j < t.width) (found : FirstLeast (fun j => t.objective.entry j) bound seen state) :
    ∃ result, rest.foldlM t.scanStep state = .ok result ∧
      FirstLeast (fun j => t.objective.entry j) bound (seen ++ rest) result := by
  induction rest generalizing seen state with
  | nil => exact ⟨state, rfl, by rw [List.append_nil]; exact found⟩
  | cons a rest ih =>
      obtain ⟨best, least⟩ := state
      obtain ⟨result, scanned, final⟩ :=
        ih (seen ++ [a]) _ (fun j member => inside j (List.mem_cons_of_mem a member)) (first_least_step found a)
      refine ⟨result, ?_, by rw [List.append_assoc] at final; exact final⟩
      rw [List.foldlM_cons, scanStep, if_pos (inside a List.mem_cons_self)]
      exact scanned

structure Free {K : Type} (t : Tableau K) (j : Nat) : Prop where
  wide : j < t.numVars
  name : t.nameAt j ∈ t.nonbasic

theorem Free.pivotable {K : Type} [Scalar K] {t : Tableau K} {i j : Nat} (free : Free t j)
    (apart : Scalar.ZeroApart K) (labels : Labelled t) (positive : 0 < t.entryAt i j) : Pivotable t i j := by
  refine ⟨?_, ?_, apart _ positive⟩
  · rw [labels.wide]
    exact free.wide
  · exact List.contains_iff_exists_mem_beq.mpr ⟨_, free.name, beq_self_eq_true _⟩

structure Enters (t : Tableau Rat) (tol : Rat) (j : Nat) : Prop where
  wide : j < t.numVars
  free : t.nameAt j ∈ t.nonbasic
  negative : t.entryAt t.height j < -tol
  least : ∀ k < t.numVars, t.nameAt k ∈ t.nonbasic → t.entryAt t.height j ≤ t.entryAt t.height k
  first : ∀ k < j, t.nameAt k ∈ t.nonbasic → t.entryAt t.height j < t.entryAt t.height k

theorem Enters.falling {t : Tableau Rat} {j : Nat} (enters : Enters t tolerance j) : t.entryAt t.height j < 0 :=
  lt_of_lt_of_le enters.negative (neg_nonpos.mpr tolerance_nonneg)

def freePlaces {K : Type} (t : Tableau K) : List Nat :=
  rising (t.nonbasic.map fun name => t.columns.idxOf name)

theorem mem_free_places {K : Type} {t : Tableau K} (labels : Labelled t) (j : Nat) :
    j ∈ t.freePlaces ↔ j < t.numVars ∧ t.nameAt j ∈ t.nonbasic := by
  have located {name : Label} (member : name ∈ t.nonbasic) := labels.name_at_place (labels.nonbasic_member member)
  unfold freePlaces
  rw [(rising_perm _).mem_iff, List.mem_map]
  constructor
  · intro ⟨name, member, place⟩
    obtain ⟨wide, same⟩ := located member
    rw [place] at wide same
    rw [same]
    exact ⟨wide, member⟩
  · intro ⟨wide, member⟩
    obtain ⟨inside, same⟩ := located member
    exact ⟨t.nameAt j, member, labels.name_at_injective inside wide same⟩

theorem free_places_sorted {K : Type} (t : Tableau K) : t.freePlaces.Pairwise (· ≤ ·) := rising_sorted _

theorem choose_entering_scan {K : Type} [Scalar K] {t : Tableau K}
    (known : ∀ name ∈ t.nonbasic, t.columns.contains name = true) (tol : K) :
    t.chooseEntering tol = (t.mostNegative (-tol) t.freePlaces).map (·.1) := by
  have places : t.nonbasic.mapM t.columnOf = .ok (t.nonbasic.map fun name => t.columns.idxOf name) := by
    apply Outcome.mapM_ok
    intro name member
    rw [columnOf, Label.placeIn, if_pos (known name member)]
  unfold chooseEntering
  rw [places]
  unfold freePlaces
  change (t.mostNegative (-tol) _ >>= fun found => pure found.1) = _
  cases t.mostNegative (-tol) _ <;> rfl

theorem Labelled.known {K : Type} {t : Tableau K} (labels : Labelled t) :
    ∀ name ∈ t.nonbasic, t.columns.contains name = true := fun name member =>
  List.contains_iff_exists_mem_beq.mpr ⟨name, labels.nonbasic_member member, beq_self_eq_true name⟩

theorem choose_entering_eq {K : Type} [Scalar K] {t : Tableau K} (labels : Labelled t) (tol : K) :
    t.chooseEntering tol = (t.mostNegative (-tol) t.freePlaces).map (·.1) :=
  choose_entering_scan labels.known tol

theorem entering_scanned {t : Tableau Rat} (known : ∀ name ∈ t.nonbasic, t.columns.contains name = true)
    (inside : ∀ j ∈ t.freePlaces, j < t.width) (tol : Rat) : ∃ best least, t.chooseEntering tol = .ok best ∧
      FirstLeast (fun j => t.entryAt t.height j) (-tol) t.freePlaces (best, least) := by
  obtain ⟨⟨best, least⟩, scanned, found⟩ := scan_spec t (-tol) [] t.freePlaces (none, -tol) inside ⟨rfl, by simp⟩
  simp only [List.nil_append, ← entry_objective] at found
  refine ⟨best, least, ?_, found⟩
  rw [choose_entering_scan known, most_negative_eq, scanned]
  rfl

theorem enters_of_first_least {t : Tableau Rat} (labels : Labelled t) {tol least : Rat} {j : Nat}
    (found : FirstLeast (fun k => t.entryAt t.height k) (-tol) t.freePlaces (some j, least)) : Enters t tol j := by
  obtain ⟨⟨member, below⟩, first⟩ := first_least_lowest (free_places_sorted t) found
  obtain ⟨wide, free⟩ := (mem_free_places labels j).mp member
  refine ⟨wide, free, found.2.1, ?_, ?_⟩
  · intro k columns other
    exact below k ((mem_free_places labels k).mpr ⟨columns, other⟩)
  · intro k earlier other
    have listed := (mem_free_places labels k).mpr ⟨Nat.lt_trans earlier wide, other⟩
    by_contra notBelow
    have upTo : j ≤ k := first ⟨listed, fun l among => le_trans (not_lt.mp notBelow) (below l among)⟩
    omega

theorem choose_entering_spec {t : Tableau Rat} (labels : Labelled t) (tol : Rat) :
    ∃ choice, t.chooseEntering tol = .ok choice ∧
      (choice = none → ∀ j < t.numVars, t.nameAt j ∈ t.nonbasic → -tol ≤ t.entryAt t.height j) ∧
      ∀ j, choice = some j → Enters t tol j := by
  have inside : ∀ j ∈ t.freePlaces, j < t.width := by
    intro j member
    have wide : j < t.numVars := ((mem_free_places labels j).mp member).1
    exact Nat.lt_succ_of_lt wide
  obtain ⟨best, least, chosen, found⟩ := entering_scanned labels.known inside tol
  refine ⟨best, chosen, ?_, ?_⟩
  · intro missing j wide free
    rw [missing] at found
    exact found.2 j ((mem_free_places labels j).mpr ⟨wide, free⟩)
  · intro j same
    rw [same] at found
    exact enters_of_first_least labels found

def FirstRatio (seen : List (Option Rat)) : Option (Nat × Rat) → Prop
  | none => ∀ ratio ∈ seen, ratio = none
  | some (i, x) => seen[i]? = some (some x) ∧ ∀ k y, seen[k]? = some (some y) → x ≤ y ∧ (k < i → x < y)

def ratioStep {K : Type} [Scalar K] (best : Option (Nat × K)) (place : Option K × Nat) : Option (Nat × K) :=
  match place.1, best with
  | none, best => best
  | some x, none => some (place.2, x)
  | some x, some (k, least) => if x < least then some (place.2, x) else some (k, least)

theorem getElem?_snoc {α : Type} (seen : List α) (a b : α) (k : Nat) :
    (seen ++ [a])[k]? = some b ↔ seen[k]? = some b ∨ k = seen.length ∧ a = b := by
  rcases Nat.lt_trichotomy k seen.length with before | equal | after
  · rw [List.getElem?_append_left before]
    simp [Nat.ne_of_lt before]
  · subst k
    simp
  · simp [List.getElem?_eq_none (Nat.le_of_lt after), List.getElem?_append_right (Nat.le_of_lt after),
      Nat.ne_of_gt after, Nat.sub_ne_zero_of_lt after]

theorem first_ratio_new {seen : List (Option Rat)} {x : Rat}
    (below : ∀ (k : Nat) (y : Rat), seen[k]? = some (some y) → x < y) :
    FirstRatio (seen ++ [some x]) (some (seen.length, x)) := by
  refine ⟨(getElem?_snoc _ _ _ _).mpr (.inr ⟨rfl, rfl⟩), ?_⟩
  intro k y listed
  rcases (getElem?_snoc _ _ _ _).mp listed with early | ⟨here, same⟩
  · exact ⟨le_of_lt (below k y early), fun _ => below k y early⟩
  · cases same
    exact ⟨le_refl x, fun before => absurd here (Nat.ne_of_lt before)⟩

theorem first_ratio_kept {seen : List (Option Rat)} {i : Nat} {least : Rat} {ratio : Option Rat}
    (found : FirstRatio seen (some (i, least))) (above : ∀ x, ratio = some x → least ≤ x) :
    FirstRatio (seen ++ [ratio]) (some (i, least)) := by
  obtain ⟨placed, _⟩ := List.getElem?_eq_some_iff.mp found.1
  refine ⟨(getElem?_snoc _ _ _ _).mpr (.inl found.1), ?_⟩
  intro k y listed
  rcases (getElem?_snoc _ _ _ _).mp listed with early | ⟨here, same⟩
  · exact found.2 k y early
  · exact ⟨above y same, fun before => by omega⟩

theorem first_ratio_step {seen : List (Option Rat)} {best : Option (Nat × Rat)} (found : FirstRatio seen best)
    (ratio : Option Rat) : FirstRatio (seen ++ [ratio]) (ratioStep best (ratio, seen.length)) := by
  cases best with
  | none =>
      cases ratio with
      | none =>
          intro ratio member
          rcases List.mem_append.mp member with early | late
          · exact found ratio early
          · exact List.mem_singleton.mp late
      | some x =>
          refine first_ratio_new ?_
          intro k y listed
          cases found _ (List.mem_of_getElem? listed)
  | some kept =>
      obtain ⟨i, least⟩ := kept
      cases ratio with
      | none => exact first_ratio_kept found nofun
      | some x =>
          change FirstRatio _ (if x < least then _ else _)
          by_cases better : x < least
          · rw [if_pos better]
            refine first_ratio_new ?_
            intro k y listed
            exact lt_of_lt_of_le better (found.2 k y listed).1
          · rw [if_neg better]
            refine first_ratio_kept found ?_
            intro y same
            cases same
            exact le_of_not_gt better

theorem ratio_scan_spec (seen rest : List (Option Rat)) (best : Option (Nat × Rat)) (found : FirstRatio seen best) :
    FirstRatio (seen ++ rest) ((rest.zipIdx seen.length).foldl ratioStep best) := by
  induction rest generalizing seen best with
  | nil => simpa using found
  | cons ratio rest ih =>
      have next := ih (seen ++ [ratio]) _ (first_ratio_step found ratio)
      rw [List.append_assoc, List.length_append, List.length_singleton] at next
      rw [List.zipIdx_cons, List.foldl_cons]
      exact next

theorem least_ratio_eq {K : Type} [Scalar K] (ratios : List (Option K)) :
    leastRatio ratios = (ratios.zipIdx.foldl ratioStep none).map (·.1) := rfl

structure Leaves (t : Tableau Rat) (i j : Nat) : Prop where
  inside : i < t.height
  positive : 0 < t.entryAt i j
  least : ∀ k < t.height, 0 < t.entryAt k j →
    t.entryAt i t.numVars / t.entryAt i j ≤ t.entryAt k t.numVars / t.entryAt k j
  first : ∀ k < i, 0 < t.entryAt k j →
    t.entryAt i t.numVars / t.entryAt i j < t.entryAt k t.numVars / t.entryAt k j

def ratioAt {K : Type} [Scalar K] (t : Tableau K) (j i : Nat) : Option K :=
  if 0 < t.entryAt i j then some (t.entryAt i t.numVars / t.entryAt i j) else none

theorem ratios_eq {K : Type} [Scalar K] (t : Tableau K) (j : Nat) (wide : j < t.numVars) :
    t.ratios j = .ok ((List.range t.height).map (t.ratioAt j)) := by
  have inWidth : j < t.width := Nat.lt_succ_of_lt wide
  have rows : t.rows.map (fun r => if 0 < r.entry j then some (r.rhs / r.entry j) else none) =
      (List.range t.height).map (t.ratioAt j) := by
    refine List.ext_getElem (by simp [height]) ?_
    intro i inside _
    have within : i < t.rows.length := by simpa using inside
    have row : t.rowAt i = t.rows[i] := List.getD_eq_getElem _ _ within
    rw [List.getElem_map, List.getElem_map, List.getElem_range, ratioAt, entry_rhs, entryAt, row]
  unfold ratios
  rw [column_nat_cast, if_pos inWidth, ← rows]
  cases empty : t.rows.isEmpty with
  | true =>
      rw [List.isEmpty_iff.mp empty]
      rfl
  | false => rfl

theorem ratio_at_some_iff {K : Type} [Scalar K] (t : Tableau K) (i j : Nat) (x : K) :
    t.ratioAt j i = some x ↔ 0 < t.entryAt i j ∧ t.entryAt i t.numVars / t.entryAt i j = x := by
  unfold ratioAt
  split <;> rename_i positive <;> simp [positive]

theorem leaves_of_first_ratio {t : Tableau Rat} {i j : Nat} {x : Rat}
    (found : FirstRatio ((List.range t.height).map (t.ratioAt j)) (some (i, x))) : Leaves t i j := by
  have listed (k : Nat) (y : Rat) : ((List.range t.height).map (t.ratioAt j))[k]? = some (some y) ↔
      k < t.height ∧ t.ratioAt j k = some y := by
    rw [List.getElem?_map]
    rcases Nat.lt_or_ge k t.height with inside | outside
    · simp [inside]
    · simp [Nat.not_lt.mpr outside]
  obtain ⟨inside, ratio⟩ := (listed i x).mp found.1
  obtain ⟨positive, same⟩ := (ratio_at_some_iff t i j x).mp ratio
  have below (k : Nat) (within : k < t.height) (other : 0 < t.entryAt k j) :=
    found.2 k _ ((listed k _).mpr ⟨within, (ratio_at_some_iff t k j _).mpr ⟨other, rfl⟩⟩)
  refine ⟨inside, positive, ?_, ?_⟩
  · intro k within other
    rw [same]
    exact (below k within other).1
  · intro k before other
    rw [same]
    exact (below k (Nat.lt_trans before inside) other).2 before

theorem choose_leaving_spec (t : Tableau Rat) (j : Nat) (wide : j < t.numVars) :
    ∃ choice, t.chooseLeaving j = .ok choice ∧
      (choice = none → ∀ i < t.height, t.entryAt i j ≤ 0) ∧ ∀ i, choice = some i → Leaves t i j := by
  have listed (k : Nat) (inside : k < t.height) :
      ((List.range t.height).map (t.ratioAt j))[k]? = some (t.ratioAt j k) := by
    simp [inside]
  have ratio (k : Nat) (positive : 0 < t.entryAt k j) :
      t.ratioAt j k = some (t.entryAt k t.numVars / t.entryAt k j) := if_pos positive
  have found := ratio_scan_spec [] ((List.range t.height).map (t.ratioAt j)) none (by simp [FirstRatio])
  rw [List.nil_append] at found
  refine ⟨(((List.range t.height).map (t.ratioAt j)).zipIdx.foldl ratioStep none).map (·.1), ?_, ?_, ?_⟩
  · unfold chooseLeaving
    rw [ratios_eq t j wide, ← least_ratio_eq]
    rfl
  · intro missing i inside
    rw [List.length_nil, Option.map_eq_none_iff.mp missing] at found
    have none := found _ (List.mem_of_getElem? (listed i inside))
    by_contra positive
    rw [ratio i (not_le.mp positive)] at none
    cases none
  · intro i chosen
    obtain ⟨⟨_, x⟩, best, rfl⟩ := Option.map_eq_some_iff.mp chosen
    rw [List.length_nil, best] at found
    exact leaves_of_first_ratio found

theorem check_optimal_iff (t : Tableau Rat) (tol : Rat) :
    t.checkOptimal tol = true ↔ ∀ j < t.numVars, -tol ≤ t.entryAt t.height j := by
  have entry (j : Nat) (wide : j < t.objective.coefficients.length) :
      t.entryAt t.height j = t.objective.coefficients[j] :=
    (entry_objective t j).trans (List.getD_eq_getElem _ _ wide)
  simp only [checkOptimal, List.all_eq_true, decide_eq_true_eq, List.forall_mem_iff_forall_getElem]
  constructor
  · intro all j wide
    rw [entry j wide]
    exact all j wide
  · intro each j wide
    rw [← entry j wide]
    exact each j wide

-- Only the columns that are not basic count: the others have a zero in the objective row.
theorem Based.none_below {t : Tableau Rat} (based : Based t) {tol : Rat} (nonneg : 0 ≤ tol)
    (free : ∀ j < t.numVars, t.nameAt j ∈ t.nonbasic → -tol ≤ t.entryAt t.height j) :
    ∀ j < t.numVars, -tol ≤ t.entryAt t.height j := by
  intro j wide
  rcases based.labels.covered (based.labels.name_at_member wide) with basic | other
  · rw [based.objective_zero wide basic]
    exact neg_nonpos.mpr nonneg
  · exact free j wide other

theorem entering_spec {t : Tableau Rat} (based : Based t) :
    ∃ choice, t.entering? = .ok choice ∧
      (choice = none → ∀ j < t.numVars, -tolerance ≤ t.entryAt t.height j) ∧
      ∀ j, choice = some j → Enters t tolerance j := by
  by_cases done : t.checkOptimal tolerance = true
  · exact ⟨none, by rw [entering?, if_pos done], fun _ => (check_optimal_iff t tolerance).mp done, by simp⟩
  · obtain ⟨choice, chosen, missing, found⟩ := choose_entering_spec based.labels tolerance
    refine ⟨choice, by rw [entering?, if_neg done, chosen], ?_, found⟩
    intro absent
    exact based.none_below tolerance_nonneg (missing absent)

theorem entering_none {t : Tableau Rat} (based : Based t) (ended : t.entering? = .ok none) (j : Nat)
    (wide : j < t.numVars) : -tolerance ≤ t.entryAt t.height j := by
  obtain ⟨choice, chosen, missing, _⟩ := entering_spec based
  exact missing (Except.ok.inj (chosen.symm.trans ended)) j wide

theorem entering_some {t : Tableau Rat} {j : Nat} (based : Based t) (entered : t.entering? = .ok (some j)) :
    Enters t tolerance j := by
  obtain ⟨choice, chosen, _, found⟩ := entering_spec based
  exact found j (Except.ok.inj (chosen.symm.trans entered))

theorem leaving_none {t : Tableau Rat} {j : Nat} (wide : j < t.numVars) (ended : t.chooseLeaving j = .ok none)
    (i : Nat) (inside : i < t.height) : t.entryAt i j ≤ 0 := by
  obtain ⟨choice, chosen, missing, _⟩ := choose_leaving_spec t j wide
  exact missing (Except.ok.inj (chosen.symm.trans ended)) i inside

theorem leaving_some {t : Tableau Rat} {i j : Nat} (wide : j < t.numVars)
    (left : t.chooseLeaving j = .ok (some i)) : Leaves t i j := by
  obtain ⟨choice, chosen, _, found⟩ := choose_leaving_spec t j wide
  exact found i (Except.ok.inj (chosen.symm.trans left))

end LinProg.Tableau
