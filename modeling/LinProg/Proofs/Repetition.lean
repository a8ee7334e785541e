import LinProg.Proofs.Merging

set_option autoImplicit false

namespace LinProg

-- The second list is the first with copies put in of what stands before them, or of what was seen before either.
inductive Echoes {α : Type} : List α → List α → List α → Prop
  | done {seen : List α} : Echoes seen [] []
  | same {seen xs ys : List α} (x : α) : Echoes (x :: seen) xs ys → Echoes seen (x :: xs) (x :: ys)
  | again {seen xs ys : List α} {x : α} : x ∈ seen → Echoes seen xs ys → Echoes seen xs (x :: ys)

namespace Echoes

variable {α : Type} {seen more xs ys us vs : List α}

theorem refl (seen xs : List α) : Echoes seen xs xs := by
  induction xs generalizing seen with
  | nil => exact .done
  | cons x xs ih => exact .same x (ih (x :: seen))

theorem widen (echoes : Echoes seen xs ys) (within : seen ⊆ more) : Echoes more xs ys := by
  induction echoes generalizing more with
  | done => exact .done
  | same x _ ih => exact .same x (ih (List.cons_subset_cons x within))
  | again member _ ih => exact .again (within member) (ih within)

theorem repeated (echoes : Echoes seen xs ys) (copies : us ⊆ seen) : Echoes seen xs (us ++ ys) := by
  induction us with
  | nil => exact echoes
  | cons u us ih =>
      obtain ⟨member, rest⟩ := List.cons_subset.mp copies
      exact .again member (ih rest)

theorem append (first : Echoes seen xs ys) (second : Echoes (xs ++ seen) us vs) :
    Echoes seen (xs ++ us) (ys ++ vs) := by
  induction first with
  | done => exact second
  | same x _ ih =>
      refine .same x (ih (second.widen ?_))
      intro y member
      simp only [List.mem_append, List.mem_cons] at member ⊢
      tauto
  | again member _ ih => exact .again member (ih second)

theorem filter (keeps : α → Bool) (echoes : Echoes seen xs ys) :
    Echoes (seen.filter keeps) (xs.filter keeps) (ys.filter keeps) := by
  induction echoes with
  | done => exact .done
  | same x _ ih =>
      by_cases kept : keeps x = true
      · rw [List.filter_cons_of_pos kept] at ih ⊢
        rw [List.filter_cons_of_pos kept]
        exact .same x ih
      · rw [List.filter_cons_of_neg kept] at ih ⊢
        rw [List.filter_cons_of_neg kept]
        exact ih
  | @again _ _ _ x member _ ih =>
      by_cases kept : keeps x = true
      · rw [List.filter_cons_of_pos kept]
        exact .again (List.mem_filter.mpr ⟨member, kept⟩) ih
      · rw [List.filter_cons_of_neg kept]
        exact ih

end Echoes

namespace Plane

-- Once a point was looked at, one that is kept is near it, and stays.
theorem keep_all_echoes {seen xs ys kept : List (Point Rat)} (echoes : Echoes seen xs ys)
    (covered : ∀ p ∈ seen, ∃ q ∈ kept, near p q = true) : ys.foldl keep kept = xs.foldl keep kept := by
  induction echoes generalizing kept with
  | done => rfl
  | same p _ ih =>
      refine ih ?_
      intro r member
      rcases List.mem_cons.mp member with rfl | earlier
      · exact keep_covers kept r
      · obtain ⟨q, listed, close⟩ := covered r earlier
        exact ⟨q, keep_kept p listed, close⟩
  | @again _ _ _ p member _ ih =>
      have close : kept.any (near p) = true := List.any_eq_true.mpr (covered p member)
      rw [List.foldl_cons, keep, if_pos close]
      exact ih covered

theorem merge_echoes {xs ys : List (Point Rat)} (echoes : Echoes [] xs ys) : merge ys = merge xs := by
  have covered : ∀ p ∈ ([] : List (Point Rat)), ∃ q ∈ ([] : List (Point Rat)), near p q = true := by
    intro p member
    cases member
  exact keep_all_echoes echoes covered

end Plane

end LinProg
