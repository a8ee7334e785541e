import LinProg.Tableau

set_option autoImplicit false

namespace LinProg.Tableau

variable {K : Type}

def rowAt (t : Tableau K) (place : Nat) : Row K := t.rows.getD place t.objective

theorem length_row_at (t : Tableau K) (place : Nat) :
    (t.rowAt place).coefficients.length = t.objective.coefficients.length := by
  unfold rowAt
  rw [List.getD_eq_getElem?_getD]
  cases found : t.rows[place]? with
  | none => rfl
  | some r => exact t.rectangular r (List.mem_of_getElem? found)

variable [Scalar K]

-- The matrix after a pivot at a place and column: `final` stands at the place, rows above it are cleared
-- with `pivot` and rows below with `final`.
def sweep (t : Tableau K) (place j : Nat) (pivot final : Row K) : List (Row K) × Row K :=
  (t.rows.mapIdx fun i r => if i = place then final else r.eliminate (if i < place then pivot else final) j,
    if place = t.rows.length then final else t.objective.eliminate final j)

theorem length_sweep (t : Tableau K) (place j : Nat) (pivot final : Row K) :
    (t.sweep place j pivot final).1.length = t.rows.length := List.length_mapIdx

theorem rectangular_sweep (t : Tableau K) (place j : Nat) (pivot final : Row K)
    (pivotWide : pivot.coefficients.length = t.objective.coefficients.length)
    (finalWide : final.coefficients.length = t.objective.coefficients.length) :
    ∀ r ∈ (t.sweep place j pivot final).1,
      r.coefficients.length = (t.sweep place j pivot final).2.coefficients.length := by
  have objective : (t.sweep place j pivot final).2.coefficients.length = t.objective.coefficients.length := by
    unfold sweep
    dsimp only
    split
    · exact finalWide
    · exact Row.length_eliminate _ _ _ finalWide
  intro r member
  rw [objective]
  obtain ⟨i, h, rfl⟩ := List.mem_mapIdx.mp member
  have even := t.rectangular _ (List.getElem_mem h)
  split
  · exact finalWide
  · split
    · rw [Row.length_eliminate _ _ _ (by rw [pivotWide, even]), even]
    · rw [Row.length_eliminate _ _ _ (by rw [finalWide, even]), even]

def enteringAt (t : Tableau K) (col : Int) : Except TableauError Label := Label.entering t.columns t.nonbasic col

-- Pivots on a row and a column, whose name must not be basic. An index of a row that counts from the end
-- does not spare the pivot row itself when the column is cleared, and its name among the basic ones is
-- counted from their end, which the objective row has no part in.
def pivot (t : Tableau K) (row col : Int) : Except TableauError (Tableau K) := do
  let entering ← t.enteringAt col
  let some place := place? (t.rows.length + 1) row | throw (.entryIndex row 0 (t.rows.length + 1))
  let j ← t.column col 1
  let source := t.rowAt place
  if source.entry j == 0 then throw .zeroPivot
  let pivotRow := source.divide (source.entry j)
  let final := if 0 ≤ row then pivotRow else pivotRow.eliminate pivotRow j
  let some seat := place? t.basic.length row | throw .nameIndex
  let swept := t.sweep place j pivotRow final
  have pivotWide : pivotRow.coefficients.length = t.objective.coefficients.length := by
    rw [Row.length_divide, length_row_at]
  have finalWide : final.coefficients.length = t.objective.coefficients.length := by
    unfold final
    split
    · exact pivotWide
    · rw [Row.length_eliminate _ _ _ rfl, pivotWide]
  return {
    rows := swept.1
    objective := swept.2
    columns := t.columns
    basic := t.basic.set seat entering
    nonbasic := t.nonbasic.set (t.nonbasic.idxOf entering) (t.basic.getD seat default)
    iteration := t.iteration + 1
    basic_length := by rw [List.length_set, t.basic_length, length_sweep]
    rectangular := rectangular_sweep t place j pivotRow final pivotWide finalWide }

end LinProg.Tableau
