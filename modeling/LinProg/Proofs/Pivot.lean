import LinProg.Proofs.Outcome
import LinProg.Proofs.Rational
import LinProg.Tableau.Pivot

set_option autoImplicit false

namespace LinProg

theorem place_nat_cast (size i : Nat) : place? size (i : Int) = if i < size then some i else none := by
  unfold place?
  simp

namespace Row

theorem entry_divide (r : Row Rat) (x : Rat) (j : Nat) : (r.divide x).entry j = r.entry j / x := by
  unfold entry divide
  simp only [List.getD_eq_getElem?_getD, List.getElem?_map]
  cases r.coefficients[j]? <;> rfl

theorem entry_eliminate (r pivot : Row Rat) (j k : Nat)
    (same : pivot.coefficients.length = r.coefficients.length) :
    (r.eliminate pivot j).entry k = r.entry k - r.entry j * pivot.entry k := by
  unfold eliminate
  dsimp only
  split
  · rename_i zero
    have cleared : r.entry j = 0 := eq_of_beq zero
    rw [cleared, zero_mul, sub_zero]
  · unfold entry
    simp only [List.getD_eq_getElem?_getD, List.getElem?_zipWith]
    rcases Nat.lt_or_ge k r.coefficients.length with inside | outside
    · simp [inside, same]
    · rw [List.getElem?_eq_none outside]
      simp [same, outside]

end Row

namespace Tableau

variable {K : Type}

def nameAt (t : Tableau K) (col : Nat) : Label := t.columns.getD col default

theorem name_at_congr {t s : Tableau K} (columns : s.columns = t.columns) : s.nameAt = t.nameAt := by
  funext col
  rw [nameAt, nameAt, columns]

theorem entering_at_ok_iff (t : Tableau K) (col : Nat) (name : Label) :
    t.enteringAt col = .ok name ↔
      col < t.columns.length ∧ t.nonbasic.contains (t.nameAt col) = true ∧ t.nameAt col = name := by
  unfold enteringAt Label.entering nameAt
  rw [place_nat_cast]
  by_cases named : col < t.columns.length
  · rw [if_pos named]
    dsimp only
    cases free : t.nonbasic.contains (t.columns.getD col default) with
    | false =>
        constructor
        · intro refused
          cases refused
        · intro allowed
          cases allowed.2.1
    | true => simp [Outcome.pure_ok_iff, named]
  · rw [if_neg named]
    simp [Outcome.throw_ok_iff, named]

theorem column_nat_cast (t : Tableau K) (col axis : Nat) :
    t.column col axis = if col < t.width then .ok col else .error (.entryIndex col axis t.width) := by
  unfold column
  rw [place_nat_cast]
  split <;> rename_i found <;> split at found <;> simp_all

-- The entry at a place of the matrix, the objective row below the constraints and the right-hand sides
-- behind the columns.
def entryAt (t : Tableau K) (i j : Nat) : K := (t.rowAt i).entry j

theorem entry_rhs (t : Tableau K) (i : Nat) : t.entryAt i t.numVars = (t.rowAt i).rhs := by
  unfold entryAt Row.entry
  exact List.getD_eq_default _ _ (Nat.le_of_eq (t.length_row_at i))

variable [Scalar K]

def scaledRow (t : Tableau K) (row col : Nat) : Row K := (t.rowAt row).divide (t.entryAt row col)

structure Pivotable (t : Tableau K) (row col : Nat) : Prop where
  named : col < t.columns.length
  free : t.nonbasic.contains (t.nameAt col) = true
  nonzero : (t.entryAt row col == 0) = false

structure Pivoted (t : Tableau K) (row col : Nat) (next : Tableau K) : Prop where
  rows : next.rows =
    t.rows.mapIdx fun i r => if i = row then t.scaledRow row col else r.eliminate (t.scaledRow row col) col
  objective : next.objective = t.objective.eliminate (t.scaledRow row col) col
  columns : next.columns = t.columns
  basic : next.basic = t.basic.set row (t.nameAt col)
  nonbasic : next.nonbasic = t.nonbasic.set (t.nonbasic.idxOf (t.nameAt col)) (t.basic.getD row default)
  iteration : next.iteration = t.iteration + 1
  isOptimal : next.isOptimal = false
  isUnbounded : next.isUnbounded = false

theorem sweep_above (t : Tableau K) (row col : Nat) (inside : row < t.height) (pivot : Row K) :
    t.sweep row col pivot pivot =
      (t.rows.mapIdx fun i r => if i = row then pivot else r.eliminate pivot col, t.objective.eliminate pivot col) := by
  have above : row ≠ t.rows.length := Nat.ne_of_lt inside
  unfold sweep
  rw [if_neg above]
  simp only [ite_self]

def after (t : Tableau K) (row col : Nat) : Tableau K where
  rows := t.rows.mapIdx fun i r => if i = row then t.scaledRow row col else r.eliminate (t.scaledRow row col) col
  objective := t.objective.eliminate (t.scaledRow row col) col
  columns := t.columns
  basic := t.basic.set row (t.nameAt col)
  nonbasic := t.nonbasic.set (t.nonbasic.idxOf (t.nameAt col)) (t.basic.getD row default)
  iteration := t.iteration + 1
  basic_length := by rw [List.length_set, t.basic_length, List.length_mapIdx]
  rectangular := by
    have scaled : (t.scaledRow row col).coefficients.length = t.objective.coefficients.length := by
      rw [scaledRow, Row.length_divide, length_row_at]
    intro r member
    obtain ⟨i, inside, rfl⟩ := List.mem_mapIdx.mp member
    have even := t.rectangular _ (List.getElem_mem inside)
    rw [Row.length_eliminate _ _ _ scaled]
    split
    · exact scaled
    · rw [Row.length_eliminate _ _ _ (by rw [scaled, even]), even]

theorem pivot_ok {t next : Tableau K} {row col : Nat} (inside : row < t.height)
    (done : t.pivot row col = .ok next) : Pivotable t row col ∧ next = t.after row col := by
  have seated : row < t.basic.length := by rw [t.basic_length]; exact inside
  have within : row < t.rows.length + 1 := Nat.lt_succ_of_lt inside
  unfold pivot at done
  simp only [Outcome.bind_ok_iff, place_nat_cast, if_pos seated, if_pos within, column_nat_cast] at done
  obtain ⟨name, entering, j, wide, done⟩ := done
  obtain ⟨named, free, rfl⟩ := (entering_at_ok_iff t col name).mp entering
  split at wide
  · cases wide
    split at done
    · cases done
    · rename_i nonzero
      simp only [Nat.cast_nonneg, if_true, Outcome.pure_ok_iff, sweep_above t row col inside] at done
      exact ⟨⟨named, free, eq_false_of_ne_true nonzero⟩, done.symm⟩
  · cases wide

theorem pivot_spec {t next : Tableau K} {row col : Nat} (inside : row < t.height)
    (done : t.pivot row col = .ok next) : Pivotable t row col ∧ Pivoted t row col next := by
  obtain ⟨able, rfl⟩ := pivot_ok inside done
  exact ⟨able, ⟨rfl, rfl, rfl, rfl, rfl, rfl, rfl, rfl⟩⟩

theorem pivot_succeeds {t : Tableau K} {row col : Nat} (inside : row < t.height) (wide : col < t.width)
    (able : Pivotable t row col) : ∃ next, t.pivot row col = .ok next := by
  have seated : row < t.basic.length := by rw [t.basic_length]; exact inside
  have within : row < t.rows.length + 1 := Nat.lt_succ_of_lt inside
  have entering := (entering_at_ok_iff t col _).mpr ⟨able.named, able.free, rfl⟩
  have nonzero : ((t.rowAt row).entry col == 0) = false := able.nonzero
  unfold pivot
  rw [entering]
  simp only [place_nat_cast, if_pos seated, if_pos within, column_nat_cast, if_pos wide]
  exact ⟨_, by simp only [bind, Except.bind, nonzero]; rfl⟩

theorem pivot_eq {t : Tableau K} {row col : Nat} (inside : row < t.height) (wide : col < t.width)
    (able : Pivotable t row col) : t.pivot row col = .ok (t.after row col) := by
  obtain ⟨next, done⟩ := pivot_succeeds inside wide able
  rw [done, (pivot_ok inside done).2]

namespace Pivoted

variable {t next : Tableau K} {row col : Nat}

theorem height (done : Pivoted t row col next) : next.height = t.height := by
  unfold Tableau.height
  rw [done.rows, List.length_mapIdx]

theorem num_vars (done : Pivoted t row col next) : next.numVars = t.numVars := by
  unfold Tableau.numVars
  rw [done.objective, Row.length_eliminate]
  unfold scaledRow
  rw [Row.length_divide, length_row_at]

theorem row_at_pivot (done : Pivoted t row col next) (inside : row < t.height) :
    next.rowAt row = t.scaledRow row col := by
  have within : row < t.rows.length := inside
  unfold rowAt
  rw [done.rows, List.getD_eq_getElem?_getD, List.getElem?_mapIdx, List.getElem?_eq_getElem within]
  simp

theorem row_at_other (done : Pivoted t row col next) (i : Nat) (other : i ≠ row) :
    next.rowAt i = (t.rowAt i).eliminate (t.scaledRow row col) col := by
  unfold rowAt
  rw [done.rows, done.objective, List.getD_eq_getElem?_getD, List.getD_eq_getElem?_getD, List.getElem?_mapIdx]
  cases t.rows[i]? with
  | none => rfl
  | some r => simp [other]

end Pivoted

theorem length_scaled_row (t : Tableau K) (row col i : Nat) :
    (t.scaledRow row col).coefficients.length = (t.rowAt i).coefficients.length := by
  unfold scaledRow
  rw [Row.length_divide, length_row_at, length_row_at]

end Tableau

namespace Tableau.Pivoted

variable {t next : Tableau Rat} {row col : Nat}

theorem entry_pivot (done : Pivoted t row col next) (inside : row < t.height) (j : Nat) :
    next.entryAt row j = t.entryAt row j / t.entryAt row col := by
  unfold entryAt
  rw [done.row_at_pivot inside]
  unfold scaledRow
  rw [Row.entry_divide]
  rfl

theorem entry_other (done : Pivoted t row col next) (inside : row < t.height) (i j : Nat) (other : i ≠ row) :
    next.entryAt i j = t.entryAt i j - t.entryAt i col * next.entryAt row j := by
  unfold entryAt
  rw [done.row_at_pivot inside, done.row_at_other i other,
    Row.entry_eliminate _ _ _ _ (t.length_scaled_row row col i)]

end Tableau.Pivoted

end LinProg
