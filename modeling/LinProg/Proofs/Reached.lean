import LinProg.Proofs.Names
import LinProg.Proofs.Pivot

set_option autoImplicit false

namespace LinProg.Tableau

variable {K : Type}

structure Labelled (t : Tableau K) : Prop where
  wide : t.columns.length = t.numVars
  distinct : Label.Distinct t.columns
  split : (t.basic ++ t.nonbasic).Perm t.columns

namespace Labelled

variable {t : Tableau K}

theorem basic_member (labels : Labelled t) {name : Label} (member : name ∈ t.basic) : name ∈ t.columns :=
  labels.split.mem_iff.mp (List.mem_append_left _ member)

theorem nonbasic_member (labels : Labelled t) {name : Label} (member : name ∈ t.nonbasic) : name ∈ t.columns :=
  labels.split.mem_iff.mp (List.mem_append_right _ member)

theorem split_distinct (labels : Labelled t) : Label.Distinct (t.basic ++ t.nonbasic) := by
  refine labels.distinct.perm labels.split.symm ?_
  intro a b apart
  rw [BEq.comm]
  exact apart

theorem basic_distinct (labels : Labelled t) : Label.Distinct t.basic :=
  (List.pairwise_append.mp labels.split_distinct).1

theorem nonbasic_distinct (labels : Labelled t) : Label.Distinct t.nonbasic :=
  (List.pairwise_append.mp labels.split_distinct).2.1

theorem covered (labels : Labelled t) {name : Label} (member : name ∈ t.columns) :
    name ∈ t.basic ∨ name ∈ t.nonbasic :=
  List.mem_append.mp (labels.split.mem_iff.mpr member)

theorem name_at_member (labels : Labelled t) {col : Nat} (wide : col < t.numVars) : t.nameAt col ∈ t.columns := by
  have named : col < t.columns.length := by rw [labels.wide]; exact wide
  unfold nameAt
  rw [List.getD_eq_getElem _ _ named]
  exact List.getElem_mem named

theorem name_at_injective (labels : Labelled t) {j k : Nat} (first : j < t.numVars) (second : k < t.numVars)
    (same : t.nameAt j = t.nameAt k) : j = k := by
  have left : j < t.columns.length := by rw [labels.wide]; exact first
  have right : k < t.columns.length := by rw [labels.wide]; exact second
  unfold nameAt at same
  rw [List.getD_eq_getElem _ _ left, List.getD_eq_getElem _ _ right] at same
  exact (List.Nodup.getElem_inj_iff (Label.distinct_nodup labels.distinct)).mp same

theorem name_at_surjective (labels : Labelled t) {name : Label} (member : name ∈ t.columns) :
    ∃ j < t.numVars, t.nameAt j = name := by
  obtain ⟨j, inside, rfl⟩ := List.mem_iff_getElem.mp member
  refine ⟨j, by rw [← labels.wide]; exact inside, ?_⟩
  unfold nameAt
  exact List.getD_eq_getElem _ _ inside

theorem name_at_place (labels : Labelled t) {name : Label} (member : name ∈ t.columns) :
    t.columns.idxOf name < t.numVars ∧ t.nameAt (t.columns.idxOf name) = name := by
  obtain ⟨inside, same⟩ := List.getElem?_eq_some_iff.mp (Label.index_member labels.distinct member)
  refine ⟨by rw [← labels.wide]; exact inside, ?_⟩
  unfold nameAt
  rw [List.getD_eq_getElem _ _ inside, same]

theorem free_member (labels : Labelled t) {col : Nat} (wide : col < t.numVars)
    (free : t.nonbasic.contains (t.nameAt col) = true) : t.nameAt col ∈ t.nonbasic := by
  obtain ⟨name, member, same⟩ := List.contains_iff_exists_mem_beq.mp free
  have one := Label.distinct_same labels.distinct (labels.name_at_member wide) (labels.nonbasic_member member) same
  rw [one]
  exact member

end Labelled

variable [Scalar K]

theorem Labelled.pivoted {t next : Tableau K} {row col : Nat} (labels : Labelled t) (inside : row < t.height)
    (wide : col < t.numVars) (able : Pivotable t row col) (done : Pivoted t row col next) : Labelled next := by
  have member := labels.free_member wide able.free
  have found := Label.index_member labels.nonbasic_distinct member
  obtain ⟨place, entering⟩ := List.getElem?_eq_some_iff.mp found
  have seated : row < t.basic.length := by rw [t.basic_length]; exact inside
  refine ⟨?_, ?_, ?_⟩
  · rw [done.columns, done.num_vars, labels.wide]
  · rw [done.columns]
    exact labels.distinct
  · rw [done.columns, done.basic, done.nonbasic, List.getD_eq_getElem _ _ seated]
    have traded := Label.exchange_perm t.basic t.nonbasic row _ seated place
    rw [entering] at traded
    exact traded.trans labels.split

inductive Reached (start : Tableau K) : Tableau K → Prop
  | start : Reached start start
  | pivot {t next : Tableau K} (row col : Nat) : Reached start t → row < t.height → col < t.numVars →
      t.pivot row col = .ok next → Reached start next

-- Holds of the start and is kept by every pivot, and so holds of all that is reached.
theorem reached_induction {start t : Tableau K} (property : Tableau K → Prop) (base : property start)
    (step : ∀ t next row col, property t → row < t.height → col < t.numVars → Pivotable t row col →
      Pivoted t row col next → property next)
    (reached : Reached start t) : property t := by
  induction reached with
  | start => exact base
  | pivot row col _ inside wide done ih =>
      obtain ⟨able, result⟩ := pivot_spec inside done
      exact step _ _ row col ih inside wide able result

theorem reached_columns {start t : Tableau K} (reached : Reached start t) : t.columns = start.columns := by
  refine reached_induction (fun t => t.columns = start.columns) rfl ?_ reached
  intro _ _ _ _ same _ _ _ done
  exact done.columns.trans same

theorem reached_labelled {start t : Tableau K} (base : Labelled start) (reached : Reached start t) : Labelled t :=
  reached_induction Labelled base
    (fun _ _ _ _ labels inside wide able done => labels.pivoted inside wide able done) reached

end LinProg.Tableau
