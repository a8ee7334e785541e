import LinProg.Proofs.Progress
import LinProg.Proofs.ShadowPrice

set_option autoImplicit false

namespace LinProg.Sensitivity

theorem tolerance_rational : (tolerance : Rat) = 1 / 10 ^ 10 := by
  norm_num [tolerance]

theorem tolerance_pos : 0 < (tolerance : Rat) := by
  norm_num [tolerance_rational]

def Least (xs : List Rat) : Option Rat → Prop
  | none => xs = []
  | some x => x ∈ xs ∧ ∀ y ∈ xs, x ≤ y

theorem tighten_least {seen : List Rat} {limit : Option Rat} (least : Least seen limit) (x : Rat) :
    Least (seen ++ [x]) (tighten limit x) := by
  cases limit with
  | none =>
      have empty : seen = [] := least
      simp [empty, tighten, Scalar.isBounded, Scalar.top?, Least]
  | some y =>
      obtain ⟨member, below⟩ := least
      by_cases lower : x < y
      · rw [tighten, if_pos lower]
        refine ⟨by simp, ?_⟩
        intro z listed
        rcases List.mem_append.mp listed with early | late
        · exact le_of_lt (lt_of_lt_of_le lower (below z early))
        · rw [List.mem_singleton.mp late]
      · rw [tighten, if_neg lower]
        refine ⟨List.mem_append_left _ member, ?_⟩
        intro z listed
        rcases List.mem_append.mp listed with early | late
        · exact below z early
        · rw [List.mem_singleton.mp late]
          exact le_of_not_gt lower

theorem tighten_all_least {seen : List Rat} {limit : Option Rat} (least : Least seen limit) (xs : List Rat) :
    Least (seen ++ xs) (xs.foldl tighten limit) := by
  induction xs generalizing seen limit with
  | nil => simpa using least
  | cons x xs ih => simpa using ih (tighten_least least x)

theorem Least.le_iff {xs : List Rat} {limit : Option Rat} (least : Least xs limit) (b : Rat) :
    (∀ x, limit = some x → b ≤ x) ↔ ∀ x ∈ xs, b ≤ x := by
  cases limit with
  | none =>
      have empty : xs = [] := least
      simp [empty]
  | some y =>
      obtain ⟨member, below⟩ := least
      constructor
      · intro bounded x listed
        exact le_trans (bounded y rfl) (below x listed)
      · intro bounded x same
        cases same
        exact bounded y member

def fallLimit (column : Nat) (row : Row Rat) : Option Rat :=
  if tolerance < row.entry column then some (row.rhs / row.entry column) else none

def riseLimit (column : Nat) (row : Row Rat) : Option Rat :=
  if row.entry column < -tolerance then some (row.rhs / -row.entry column) else none

theorem tighten_rows (column : Nat) (rows : List (Row Rat)) (limits : Option Rat × Option Rat) :
    rows.foldl (fun limits row => tightenBy limits row.rhs (row.entry column)) limits =
      ((rows.filterMap (fallLimit column)).foldl tighten limits.1,
        (rows.filterMap (riseLimit column)).foldl tighten limits.2) := by
  induction rows generalizing limits with
  | nil => rfl
  | cons row rows ih =>
      rw [List.foldl_cons, ih]
      by_cases up : tolerance < row.entry column
      · have notDown : ¬ row.entry column < -tolerance := by
          rw [tolerance_rational] at up ⊢
          linarith
        simp [tightenBy, fallLimit, riseLimit, up, notDown]
      · by_cases down : row.entry column < -tolerance <;> simp [tightenBy, fallLimit, riseLimit, up, down]

theorem range_least (final : Tableau Rat) (column : Nat) (constraint : Label) (rhs : Rat) :
    Least (final.rows.filterMap (fallLimit column)) (rangeAt final column constraint rhs).decrease ∧
      Least (final.rows.filterMap (riseLimit column)) (rangeAt final column constraint rhs).increase := by
  have start (xs : List Rat) : Least xs (xs.foldl tighten none) := by
    simpa using tighten_all_least (show Least [] none from rfl) xs
  simp only [rangeAt, tighten_rows]
  exact ⟨start _, start _⟩

theorem fall_limit_iff (column : Nat) (row : Row Rat) (δ : Rat) :
    (∀ x, fallLimit column row = some x → -δ ≤ x) ↔
      (tolerance < row.entry column → 0 ≤ row.rhs + δ * row.entry column) := by
  by_cases up : tolerance < row.entry column
  · have positive : 0 < row.entry column := lt_trans tolerance_pos up
    have level : -δ ≤ row.rhs / row.entry column ↔ 0 ≤ row.rhs + δ * row.entry column := by
      rw [le_div_iff₀ positive, neg_mul, neg_le_iff_add_nonneg]
    simp [fallLimit, up, level]
  · simp [fallLimit, up]

theorem rise_limit_iff (column : Nat) (row : Row Rat) (δ : Rat) :
    (∀ x, riseLimit column row = some x → δ ≤ x) ↔
      (tolerance < -row.entry column → 0 ≤ row.rhs + δ * row.entry column) := by
  rw [lt_neg]
  by_cases down : row.entry column < -tolerance
  · have positive : 0 < -row.entry column := lt_trans tolerance_pos (lt_neg.mpr down)
    have level : δ ≤ row.rhs / -row.entry column ↔ 0 ≤ row.rhs + δ * row.entry column := by
      rw [le_div_iff₀ positive, mul_neg, neg_le_iff_add_nonneg]
    simp only [riseLimit, down, if_true, Option.some.injEq, forall_eq', level, forall_const]
  · simp [riseLimit, down]

end LinProg.Sensitivity

namespace LinProg.RhsRange

open Sensitivity

def Allows (range : RhsRange Rat) (δ : Rat) : Prop :=
  (∀ x, range.decrease = some x → -x ≤ δ) ∧ ∀ x, range.increase = some x → δ ≤ x

-- The range is the set of moves that leave no row below zero, of the rows that answer to the bound at all.
theorem range_allows_iff (final : Tableau Rat) (column : Nat) (constraint : Label) (rhs δ : Rat) :
    (rangeAt final column constraint rhs).Allows δ ↔
      ∀ row ∈ final.rows, tolerance < |row.entry column| → 0 ≤ row.rhs + δ * row.entry column := by
  obtain ⟨falls, rises⟩ := range_least final column constraint rhs
  have down := falls.le_iff (-δ)
  have up := rises.le_iff δ
  simp only [List.mem_filterMap, forall_exists_index, and_imp] at down up
  have each (row : Row Rat) := and_congr (fall_limit_iff column row δ) (rise_limit_iff column row δ)
  have turned (x : Rat) : -x ≤ δ ↔ -δ ≤ x := neg_le
  simp only [Allows, turned, down, up, lt_abs, or_imp, ← each]
  constructor
  · intro ⟨low, high⟩ row member
    exact ⟨fun x same => low x row member same, fun x same => high x row member same⟩
  · intro within
    exact ⟨fun x row member same => (within row member).1 x same, fun x row member same => (within row member).2 x same⟩

theorem range_nonneg {final : Tableau Rat} (level : ∀ row ∈ final.rows, 0 ≤ row.rhs) (column : Nat)
    (constraint : Label) (rhs : Rat) :
    (∀ x, (rangeAt final column constraint rhs).decrease = some x → 0 ≤ x) ∧
      ∀ x, (rangeAt final column constraint rhs).increase = some x → 0 ≤ x := by
  have still : (rangeAt final column constraint rhs).Allows 0 := by
    rw [range_allows_iff]
    intro row member _
    simpa using level row member
  refine ⟨?_, still.2⟩
  intro x same
  exact neg_nonpos.mp (still.1 x same)

end LinProg.RhsRange

namespace LinProg.Tableau

open Matrix Problem

variable {p : Problem Rat} {t : Tableau Rat} {i : Nat} {δ : Rat}

-- The basic values that a tableau of p yields for the bounds of q: its block under the slacks times those.
def valuesFor (p : Problem Rat) (t : Tableau Rat) (q : Problem Rat) : Fin p.constraints.length → Rat :=
  t.slackBlock p *ᵥ fun k => q.bound k

theorem bounds_moved (inside : i < p.constraints.length) :
    (fun k : Fin p.constraints.length => (p.moveBound i δ).bound k) = p.bounds + Pi.single ⟨i, inside⟩ δ := by
  funext k
  rw [bound_at _ k (by rw [length_move_bound]; exact k.isLt), Pi.add_apply, bounds, bound_at p k k.isLt]
  by_cases here : i = k
  · have same : k = ⟨i, inside⟩ := Fin.ext here.symm
    subst k
    simp [moveBound, movedConstraints]
  · have other : k ≠ ⟨i, inside⟩ := fun same => here (congrArg Fin.val same).symm
    simp [moveBound, movedConstraints, here, other]

theorem Rewrites.values_moved (rewrites : Rewrites p t) (inside : i < p.constraints.length)
    (r : Fin p.constraints.length) :
    t.valuesFor p (p.moveBound i δ) r = (t.rowAt r).rhs + δ * (t.rowAt r).entry (p.size + i) := by
  rw [valuesFor, bounds_moved inside, mulVec_add, Pi.add_apply, ← rewrites.right_hand_side, mulVec_single]
  simp [slackBlock, slackRow, entryAt, mul_comm]

end LinProg.Tableau

namespace LinProg.Problem

open Tableau

structure Ranges (p : Problem Rat) (t : Tableau Rat) (i j : Nat) (range : RhsRange Rat) : Prop where
  constraint : range.constraint = Extended.slackName i
  rhs : p.rhs[i]? = some range.rhs
  decrease : ∀ x, range.decrease = some x → 0 ≤ x
  increase : ∀ x, range.increase = some x → 0 ≤ x
  sound : ∀ δ, range.Allows δ → ∀ r : Fin p.constraints.length,
    -(1 / 10 ^ 10 * |δ|) ≤ t.valuesFor p (p.moveBound i δ) r ∧
      (1 / 10 ^ 10 < |t.entryAt r j| → 0 ≤ t.valuesFor p (p.moveBound i δ) r)
  tight : ∀ δ, ¬ range.Allows δ → ∃ r, t.valuesFor p (p.moveBound i δ) r < 0

theorem ranges_of_recorded {p : Problem Rat} {t : Tableau Rat} {i : Nat} (recorded : Recorded p t)
    (inside : i < p.constraints.length) :
    p.Ranges t i (p.size + i)
      (Sensitivity.rangeAt t (p.size + i) (Extended.slackName i) p.constraints[i].rhs) := by
  have nonneg := RhsRange.range_nonneg recorded.ready.rhs_nonneg (p.size + i) (Extended.slackName i) p.constraints[i].rhs
  refine ⟨rfl, by simp [Problem.rhs, Sensitivity.rangeAt, inside], nonneg.1, nonneg.2, ?_, ?_⟩
  · intro δ allowed r
    have within : (r : Nat) < t.rows.length := lt_of_lt_of_eq r.isLt recorded.rewrites.height.symm
    have member : t.rowAt r ∈ t.rows := by
      rw [rowAt, List.getD_eq_getElem _ _ within]
      exact List.getElem_mem within
    have level := (RhsRange.range_allows_iff _ _ _ _ _).mp allowed _ member
    rw [Sensitivity.tolerance_rational] at level
    rw [recorded.rewrites.values_moved inside]
    refine ⟨?_, level⟩
    by_cases far : 1 / 10 ^ 10 < |(t.rowAt r).entry (p.size + i)|
    · have small : 0 ≤ 1 / 10 ^ 10 * |δ| := mul_nonneg (by norm_num) (abs_nonneg δ)
      linarith [level far]
    · -- The row hardly answers to the bound, so it loses at most the tolerance for each unit.
      have loss : -(|δ| * |(t.rowAt r).entry (p.size + i)|) ≤ δ * (t.rowAt r).entry (p.size + i) := by
        rw [← abs_mul]
        exact neg_abs_le _
      have least := mul_le_mul_of_nonneg_left (not_lt.mp far) (abs_nonneg δ)
      have base := recorded.ready.rhs_nonneg _ member
      linarith
  · intro δ refused
    rw [RhsRange.range_allows_iff] at refused
    push Not at refused
    obtain ⟨row, member, _, negative⟩ := refused
    obtain ⟨r, within, rfl⟩ := List.mem_iff_getElem.mp member
    refine ⟨⟨r, lt_of_lt_of_eq within recorded.rewrites.height⟩, ?_⟩
    rw [recorded.rewrites.values_moved inside, rowAt, List.getD_eq_getElem _ _ within]
    exact negative

theorem rhs_ranges_exact (p : Problem Rat) (limit : Int) (accepted : p.Accepted) (nonneg : 0 ≤ limit) :
    ∃ s final report, p.solve (.count limit) = .ok s ∧ s.history.getLast? = some final ∧
      Sensitivity.ofSolution s = .ok report ∧ report.rhsRanges.length = p.constraints.length ∧
      ∀ i < p.constraints.length, ∃ j range, final.columnOf (Extended.slackName i) = .ok j ∧
        report.rhsRanges[i]? = some range ∧ p.Ranges final i j range := by
  obtain ⟨s, _, solved, _⟩ := accepted.solved limit nonneg
  obtain ⟨final, last, recorded, analyzed⟩ := accepted.analyzed solved
  refine ⟨s, final, _, solved, last, analyzed, ?_, ?_⟩
  · simp [Sensitivity.ofTableau, Extended.slackNames, Problem.rhs]
  · intro i inside
    refine ⟨_, _, recorded.column_of_slack inside, ?_, ranges_of_recorded recorded inside⟩
    simp [Sensitivity.ofTableau, Extended.slackNames, Problem.rhs, inside]

-- The second bound of the workshop may move by six either way.
theorem workshop_ranges : workshop.Accepted ∧ (0 : Int) ≤ 50 ∧ 1 < workshop.constraints.length ∧
    ∃ s final report range, workshop.solve (.count 50) = .ok s ∧ s.history.getLast? = some final ∧
      Sensitivity.ofSolution s = .ok report ∧ report.rhsRanges[1]? = some range ∧
      range.rhs = 12 ∧ range.decrease = some 6 ∧ range.increase = some 6 ∧
      (∀ r, -(1 / 10 ^ 10 * 6) ≤ final.valuesFor workshop (workshop.moveBound 1 6) r) ∧
      ∃ r, final.valuesFor workshop (workshop.moveBound 1 7) r < 0 := by
  obtain ⟨s, final, report, solved, last, analyzed, _, ranged⟩ :=
    rhs_ranges_exact workshop 50 workshop_accepted (by decide)
  obtain ⟨j, range, _, listed, exact⟩ := ranged 1 (by decide)
  have ending : (workshop.record 50).getLast?.map (fun t =>
      let range := Sensitivity.rangeAt t 3 (Extended.slackName 1) 12
      (range.decrease, range.increase)) = some (some 6, some 6) := by cbv
  obtain ⟨again, kept, noted, _, _⟩ := solve_noted solved _ ending
  rw [last] at kept
  cases kept
  obtain rfl := workshop_accepted.report_eq solved last analyzed
  have same : range = Sensitivity.rangeAt final 3 (Extended.slackName 1) 12 := (Option.some.inj listed).symm
  obtain ⟨falls, rises⟩ := Prod.mk.inj noted
  rw [← same] at falls rises
  have six : range.Allows 6 := by
    constructor <;> intro x limit
    · cases falls.symm.trans limit
      norm_num
    · cases rises.symm.trans limit
      norm_num
  have seven : ¬ range.Allows 7 := by
    intro allowed
    have upTo := allowed.2 6 rises
    norm_num at upTo
  refine ⟨workshop_accepted, by decide, by decide, s, final, _, range, solved, last, analyzed, listed, ?_, falls, rises,
    ?_, exact.tight 7 seven⟩
  · rw [same]
    rfl
  · intro r
    have least := (exact.sound 6 six r).1
    norm_num at least ⊢
    exact least

end LinProg.Problem
