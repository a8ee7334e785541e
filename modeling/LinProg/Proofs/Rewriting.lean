import LinProg.Proofs.Start

set_option autoImplicit false

/-!
Every tableau that pivots lead to rewrites the rows of its problem: with D the block under the slacks, which
is invertible, its rows are D * [A | I | b], and with y the entries of the objective row there, that row is
y * [A | I | b] - [c | 0 | 0].
-/
namespace LinProg

open Matrix

namespace Problem

variable (p : Problem Rat)

abbrev Columns : Type := (Fin p.size ⊕ Fin p.constraints.length) ⊕ Unit

def place : p.Columns → Nat
  | .inl (.inl j) => j
  | .inl (.inr k) => p.size + k
  | .inr () => p.size + p.constraints.length

def matrix : Matrix (Fin p.constraints.length) (Fin p.size) Rat := .of fun i j => p.coefficient i j

def bounds (i : Fin p.constraints.length) : Rat := p.bound i

def gainCosts (j : Fin p.size) : Rat := p.gainCost j

def extended : Matrix (Fin p.constraints.length) p.Columns Rat :=
  fromCols (fromCols p.matrix 1) (replicateCol Unit p.bounds)

def extendedCosts : p.Columns → Rat := Sum.elim (Sum.elim p.gainCosts 0) 0

end Problem

namespace Tableau

variable (p : Problem Rat)

def blockRow (t : Tableau Rat) (i : Nat) (c : p.Columns) : Rat := t.entryAt i (p.place c)

def slackRow (t : Tableau Rat) (i : Nat) (k : Fin p.constraints.length) : Rat := t.entryAt i (p.size + k)

def constraintBlock (t : Tableau Rat) : Matrix (Fin p.constraints.length) p.Columns Rat :=
  .of fun i => t.blockRow p i

def slackBlock (t : Tableau Rat) : Matrix (Fin p.constraints.length) (Fin p.constraints.length) Rat :=
  .of fun i => t.slackRow p i

def objectiveBlock (t : Tableau Rat) : p.Columns → Rat := t.blockRow p p.constraints.length

def prices (t : Tableau Rat) : Fin p.constraints.length → Rat := t.slackRow p p.constraints.length

structure Rewrites (t : Tableau Rat) : Prop where
  height : t.height = p.constraints.length
  numVars : t.numVars = p.size + p.constraints.length
  invertible : IsUnit (t.slackBlock p)
  rows : t.constraintBlock p = t.slackBlock p * p.extended
  objective : t.objectiveBlock p = t.prices p ᵥ* p.extended - p.extendedCosts

variable {p}

theorem rows_iff (t : Tableau Rat) : t.constraintBlock p = t.slackBlock p * p.extended ↔
    ∀ i < p.constraints.length, t.blockRow p i = t.slackRow p i ᵥ* p.extended := by
  constructor
  · intro same i inside
    have row := congrFun same ⟨i, inside⟩
    rw [mul_apply_eq_vecMul] at row
    exact row
  · intro each
    funext i
    rw [mul_apply_eq_vecMul]
    exact each i i.isLt

theorem initial_rewrites {form : StandardForm Rat} (presents : form.Presents p) : Rewrites p (initial form) := by
  have unit : (initial form).slackBlock p = 1 := by
    ext i k
    change (initial form).entryAt i (p.size + k) = _
    rw [initial_entry_slack presents i k i.isLt k.isLt, one_apply]
    simp only [Fin.ext_iff]
  have free : (initial form).prices p = 0 := by
    funext k
    exact initial_cost_slack presents k k.isLt
  refine ⟨initial_height presents, initial_num_vars presents, ?_, ?_, ?_⟩
  · rw [unit]
    exact isUnit_one
  · rw [unit, Matrix.one_mul]
    ext i c
    rcases c with (j | k) | u
    · exact initial_entry_decision presents i j i.isLt j.isLt
    · exact congrFun (congrFun unit i) k
    · exact initial_entry_bound presents i i.isLt
  · rw [free, zero_vecMul, zero_sub]
    funext c
    rcases c with (j | k) | u
    · exact initial_cost_decision presents j j.isLt
    · exact (initial_cost_slack presents k k.isLt).trans neg_zero.symm
    · exact (initial_value presents).trans neg_zero.symm

section Pivot

variable {t next : Tableau Rat} {row col : Nat}

theorem Pivoted.block_row_pivot (done : Pivoted t row col next) (inside : row < t.height) :
    next.blockRow p row = (t.entryAt row col)⁻¹ • t.blockRow p row := by
  funext c
  change next.entryAt row _ = _ * t.entryAt row _
  rw [done.entry_pivot inside, div_eq_inv_mul]

theorem Pivoted.slack_row_pivot (done : Pivoted t row col next) (inside : row < t.height) :
    next.slackRow p row = (t.entryAt row col)⁻¹ • t.slackRow p row := by
  funext k
  change next.entryAt row _ = _ * t.entryAt row _
  rw [done.entry_pivot inside, div_eq_inv_mul]

theorem Pivoted.block_row_other (done : Pivoted t row col next) (inside : row < t.height) (i : Nat)
    (other : i ≠ row) : next.blockRow p i = t.blockRow p i - t.entryAt i col • next.blockRow p row := by
  funext c
  exact done.entry_other inside i _ other

theorem Pivoted.slack_row_other (done : Pivoted t row col next) (inside : row < t.height) (i : Nat)
    (other : i ≠ row) : next.slackRow p i = t.slackRow p i - t.entryAt i col • next.slackRow p row := by
  funext k
  exact done.entry_other inside i _ other

-- The matrix that leads back from the rows after a pivot to those before it.
def undoing (p : Problem Rat) (t : Tableau Rat) (row : Fin p.constraints.length) (col : Nat) :
    Matrix (Fin p.constraints.length) (Fin p.constraints.length) Rat :=
  updateCol 1 row fun i => t.entryAt i col

theorem undoing_at (t : Tableau Rat) (row i k : Fin p.constraints.length) (col : Nat) :
    undoing p t row col i k = if k = row then t.entryAt i col else if k = i then 1 else 0 := by
  unfold undoing
  rw [updateCol_apply, one_apply]
  simp only [eq_comm]

theorem Pivoted.slack_block_before (done : Pivoted t row col next) (inside : row < t.height)
    (within : row < p.constraints.length) (nonzero : t.entryAt row col ≠ 0) :
    t.slackBlock p = undoing p t ⟨row, within⟩ col * next.slackBlock p := by
  ext i k
  rw [mul_apply]
  by_cases same : i = ⟨row, within⟩
  · subst i
    rw [Fintype.sum_eq_single ⟨row, within⟩]
    · rw [undoing_at, if_pos rfl]
      change t.slackRow p row k = _ * next.slackRow p row k
      rw [done.slack_row_pivot inside]
      exact (mul_inv_cancel_left₀ nonzero _).symm
    · intro other different
      rw [undoing_at, if_neg different, if_neg different, zero_mul]
  · have apart : (i : Nat) ≠ row := fun equal => same (Fin.ext equal)
    rw [Fintype.sum_eq_add ⟨row, within⟩ i (Ne.symm same)]
    · rw [undoing_at, undoing_at, if_pos rfl, if_neg same, if_pos rfl, one_mul]
      change t.slackRow p i k = _ * next.slackRow p row k + next.slackRow p i k
      rw [done.slack_row_other inside i apart]
      exact (add_sub_cancel _ _).symm
    · intro other different
      rw [undoing_at, if_neg different.1, if_neg different.2, zero_mul]

theorem Rewrites.pivoted (rewrites : Rewrites p t) (inside : row < t.height) (able : Pivotable t row col)
    (done : Pivoted t row col next) : Rewrites p next := by
  have within : row < p.constraints.length := by rw [← rewrites.height]; exact inside
  have nonzero : t.entryAt row col ≠ 0 := ne_of_beq_false able.nonzero
  have before := (rows_iff t).mp rewrites.rows
  have pivotRow : next.blockRow p row = next.slackRow p row ᵥ* p.extended := by
    rw [done.block_row_pivot inside, done.slack_row_pivot inside, before row within, smul_vecMul]
  refine ⟨done.height.trans rewrites.height, done.num_vars.trans rewrites.numVars, ?_, ?_, ?_⟩
  · have product := (isUnit_iff_isUnit_det _).mp rewrites.invertible
    rw [done.slack_block_before inside within nonzero, det_mul] at product
    exact (isUnit_iff_isUnit_det _).mpr (isUnit_of_mul_isUnit_right product)
  · refine (rows_iff next).mpr ?_
    intro i below
    by_cases same : i = row
    · rw [same]
      exact pivotRow
    · rw [done.block_row_other inside i same, done.slack_row_other inside i same, sub_vecMul, smul_vecMul,
        before i below, pivotRow]
  · have apart : p.constraints.length ≠ row := Nat.ne_of_gt within
    have old : t.blockRow p p.constraints.length = _ := rewrites.objective
    change next.blockRow p p.constraints.length = next.slackRow p p.constraints.length ᵥ* _ - _
    rw [done.block_row_other inside _ apart, done.slack_row_other inside _ apart, sub_vecMul, smul_vecMul,
      old, pivotRow]
    unfold prices
    abel

end Pivot

theorem reached_rewrites {form : StandardForm Rat} {t : Tableau Rat} (presents : form.Presents p)
    (reached : Reached (initial form) t) : Rewrites p t :=
  reached_induction (Rewrites p) (initial_rewrites presents)
    (fun _ _ _ _ rewrites inside _ able done => rewrites.pivoted inside able done) reached

end Tableau

def coordinates (n : Nat) (x : List Rat) (j : Fin n) : Rat := x.getD j 0

namespace Problem

theorem slacks_iff (p : Problem Rat) (x s : List Rat) (sized : x.length = p.size)
    (filled : s.length = p.constraints.length) :
    p.slacks x = s ↔
      p.matrix *ᵥ coordinates p.size x + coordinates p.constraints.length s = p.bounds := by
  have slack (i : Fin p.constraints.length) : (p.slacks x).getD i 0 =
      p.bounds i - (p.matrix *ᵥ coordinates p.size x) i := by
    rw [p.slack_at x i i.isLt sized, Finset.sum_range]
    rfl
  constructor
  · intro same
    funext i
    have value := slack i
    rw [same] at value
    change _ + s.getD i 0 = _
    rw [value]
    exact add_sub_cancel _ _
  · intro balance
    refine List.ext_getElem (by rw [filled, length_slacks]) ?_
    intro i inside within
    rw [length_slacks] at inside
    have value := slack ⟨i, inside⟩
    rw [← balance, Pi.add_apply, add_sub_cancel_left] at value
    rw [← List.getD_eq_getElem _ 0, ← List.getD_eq_getElem _ 0]
    exact value

end Problem

namespace Tableau

variable {p : Problem Rat} {t : Tableau Rat}

theorem coefficient_eq_entry (t : Tableau Rat) (i j : Nat) (inside : j < t.numVars) :
    (t.rowAt i).coefficients.getD j 0 = t.entryAt i j := by
  have within : j < (t.rowAt i).coefficients.length := by rw [length_row_at]; exact inside
  unfold entryAt Row.entry
  rw [List.getD_eq_getElem _ _ within, List.getD_eq_getElem _ _ within]

theorem dot_row (t : Tableau Rat) (i : Nat) (x s : List Rat) (wide : t.numVars = p.size + p.constraints.length)
    (sized : x.length = p.size) (filled : s.length = p.constraints.length) :
    Scalar.dot (t.rowAt i).coefficients (x ++ s) =
      (fun j => t.blockRow p i (.inl (.inl j))) ⬝ᵥ coordinates p.size x +
        t.slackRow p i ⬝ᵥ coordinates p.constraints.length s := by
  have left : (t.rowAt i).coefficients.length = p.size + p.constraints.length := by
    rw [length_row_at]
    exact wide
  have right : (x ++ s).length = p.size + p.constraints.length := by rw [List.length_append, sized, filled]
  rw [Scalar.dot_eq_sum _ _ _ (Nat.le_of_eq left) (Nat.le_of_eq right), Finset.sum_range_add, Finset.sum_range,
    Finset.sum_range]
  refine congrArg₂ (· + ·) (Finset.sum_congr rfl ?_) (Finset.sum_congr rfl ?_)
  · intro j _
    have inside : (j : Nat) < x.length := by rw [sized]; exact j.isLt
    rw [coefficient_eq_entry t i j (by rw [wide]; omega), List.getD_append _ _ _ _ inside]
    rfl
  · intro k _
    rw [coefficient_eq_entry t i _ (by rw [wide]; omega), List.getD_append_right _ _ _ _ (by omega), sized,
      Nat.add_sub_cancel_left]
    rfl

theorem rhs_eq_entry (t : Tableau Rat) (i : Nat) (wide : t.numVars = p.size + p.constraints.length) :
    (t.rowAt i).rhs = t.blockRow p i (.inr ()) := by
  rw [← entry_rhs, wide]
  rfl

namespace Rewrites

theorem residual (rewrites : Rewrites p t) (x s : List Rat) (sized : x.length = p.size)
    (filled : s.length = p.constraints.length) (i : Fin p.constraints.length) :
    Scalar.dot (t.rowAt i).coefficients (x ++ s) = (t.slackBlock p *ᵥ
      (p.matrix *ᵥ coordinates p.size x + coordinates p.constraints.length s)) i := by
  have block := (rows_iff t).mp rewrites.rows i i.isLt
  have decisions : (fun j => t.blockRow p i (.inl (.inl j))) = t.slackRow p i ᵥ* p.matrix := by
    rw [block]
    rfl
  rw [dot_row t i x s rewrites.numVars sized filled, decisions, mulVec_add, mulVec_mulVec, Pi.add_apply,
    ← dotProduct_mulVec, ← mulVec_mulVec]
  rfl

theorem right_hand_side (rewrites : Rewrites p t) (i : Fin p.constraints.length) :
    (t.rowAt i).rhs = (t.slackBlock p *ᵥ p.bounds) i := by
  rw [rhs_eq_entry t i rewrites.numVars, (rows_iff t).mp rewrites.rows i i.isLt]
  rfl

-- A point and slacks meet all rows of the tableau just where the slacks are those that the point leaves.
theorem holds_iff (rewrites : Rewrites p t) (x s : List Rat) (sized : x.length = p.size)
    (filled : s.length = p.constraints.length) :
    (∀ i < p.constraints.length, Scalar.dot (t.rowAt i).coefficients (x ++ s) = (t.rowAt i).rhs) ↔
      p.slacks x = s := by
  rw [p.slacks_iff x s sized filled]
  constructor
  · intro each
    refine mulVec_injective_of_isUnit rewrites.invertible ?_
    funext i
    rw [← rewrites.residual x s sized filled i, ← rewrites.right_hand_side i]
    exact each i i.isLt
  · intro balance i inside
    rw [rewrites.residual x s sized filled ⟨i, inside⟩, balance, rewrites.right_hand_side ⟨i, inside⟩]

theorem value_eq (rewrites : Rewrites p t) : t.value = t.prices p ⬝ᵥ p.bounds := by
  have last := rhs_eq_entry t p.constraints.length rewrites.numVars
  rw [row_at_height t _ rewrites.height] at last
  change t.objective.rhs = _
  rw [last]
  exact (congrFun rewrites.objective (.inr ())).trans (sub_zero _)

theorem decision_costs (rewrites : Rewrites p t) :
    (fun j => t.blockRow p p.constraints.length (.inl (.inl j))) = t.prices p ᵥ* p.matrix - p.gainCosts := by
  funext j
  exact congrFun rewrites.objective (.inl (.inl j))

theorem gain_eq (rewrites : Rewrites p t) (x : List Rat) (sized : x.length = p.size) :
    p.gain x = t.value - Scalar.dot t.objective.coefficients (p.withSlacks x) := by
  have balance := (p.slacks_iff x _ sized (p.length_slacks x)).mp rfl
  have gain : p.gain x = p.gainCosts ⬝ᵥ coordinates p.size x := by
    rw [p.gain_eq_sum x sized, Finset.sum_range]
    rfl
  have dot := dot_row t p.constraints.length x _ rewrites.numVars sized (p.length_slacks x)
  rw [row_at_height t _ rewrites.height, rewrites.decision_costs, sub_dotProduct, ← dotProduct_mulVec] at dot
  unfold Problem.withSlacks
  rw [rewrites.value_eq, dot, ← balance, dotProduct_add, gain]
  unfold prices
  ring

end Rewrites

end Tableau

end LinProg
