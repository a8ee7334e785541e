import LinProg.Proofs.Region

set_option autoImplicit false

namespace LinProg

theorem Scalar.larger_rational (x y : Rat) : larger x y = max x y := by
  rw [larger, max_def_lt]

namespace Graph

theorem fold_larger_greatest (x : Rat) (xs : List Rat) :
    IsGreatest {v | v ∈ x :: xs} (xs.foldl Scalar.larger x) := by
  induction xs generalizing x with
  | nil => simp [IsGreatest, upperBounds]
  | cons y xs ih =>
      obtain ⟨member, above⟩ := ih (Scalar.larger x y)
      have top : max x y ≤ (y :: xs).foldl Scalar.larger x := by
        rw [← Scalar.larger_rational]
        exact above List.mem_cons_self
      constructor
      · rcases List.mem_cons.mp member with first | later
        · rw [List.foldl_cons, first, Scalar.larger_rational]
          rcases max_choice x y with left | right
          · simp [left]
          · simp [right]
        · exact List.mem_cons_of_mem x (List.mem_cons_of_mem y later)
      · intro v listed
        rcases List.mem_cons.mp listed with rfl | rest
        · exact (le_max_left v y).trans top
        · rcases List.mem_cons.mp rest with rfl | later
          · exact (le_max_right x v).trans top
          · exact above (List.mem_cons_of_mem _ later)

theorem extent_greatest (xs : List Rat) : ∃ top, IsGreatest {v | v ∈ xs ∨ v = 1} top ∧ extent xs = top * margin := by
  cases xs with
  | nil => exact ⟨1, by simp [IsGreatest, upperBounds], rfl⟩
  | cons x xs =>
      refine ⟨(xs ++ [1]).foldl Scalar.larger x, ?_, rfl⟩
      have greatest := fold_larger_greatest x (xs ++ [1])
      have same : {v | v ∈ x :: (xs ++ [1])} = {v | v ∈ x :: xs ∨ v = 1} := by
        ext v
        simp [or_assoc]
      rwa [same] at greatest

theorem extent_congr {xs ys : List Rat} (same : ∀ v, v ∈ xs ↔ v ∈ ys) : extent xs = extent ys := by
  obtain ⟨first, greatest, reach⟩ := extent_greatest xs
  obtain ⟨second, largest, limit⟩ := extent_greatest ys
  simp only [same] at greatest
  rw [reach, limit, greatest.unique largest]

end Graph

end LinProg
