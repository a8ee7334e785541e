import LinProg.Proofs.Repetition

set_option autoImplicit false

namespace LinProg.Plane

namespace Net

variable {points : List (Point Rat)} {net : List (Point Rat × Nat)} {p : Point Rat}

theorem init {early late : List (Point Rat × Nat)} (sparse : Net (points ++ [p]) (early ++ late))
    (front : early.Sublist points.zipIdx) (back : late.Sublist [(p, points.length)]) : Net points early := by
  refine ⟨front, (List.pairwise_append.mp sparse.apart).1, ?_⟩
  intro r looked
  have again : r ∈ (points ++ [p]).zipIdx := by
    rw [numbered_snoc]
    exact List.mem_append_left _ looked
  obtain ⟨q, member, before, close⟩ := sparse.covers r again
  rcases List.mem_append.mp member with first | last
  · exact ⟨q, first, before, close⟩
  · rw [List.mem_singleton.mp (back.subset last)] at before
    exact absurd (place_inside looked) (Nat.not_lt.mpr before)

-- The last point is left out only if it is covered, and listed only if it is not.
theorem exists_init (sparse : Net (points ++ [p]) net) :
    ∃ early, Net points early ∧ net = Plane.keepAt early (p, points.length) := by
  have listed := sparse.listed
  rw [numbered_snoc] at listed
  obtain ⟨early, late, rfl, front, back⟩ := List.sublist_append_iff.mp listed
  refine ⟨early, sparse.init front back, ?_⟩
  rcases List.sublist_singleton.mp back with rfl | rfl
  · have looked : (p, points.length) ∈ (points ++ [p]).zipIdx := by simp [numbered_snoc]
    obtain ⟨q, member, _, close⟩ := sparse.covers _ looked
    rw [List.append_nil] at member ⊢
    rw [keep_at_close _ member close]
  · refine (keep_at_apart _ ?_).symm
    intro q member
    rw [close_swap]
    exact (List.pairwise_append.mp sparse.apart).2.2 q member (p, points.length) (List.mem_singleton_self _)

-- Two nets of a list are made from nets of the shorter list, so from one and the same.
theorem unique {other : List (Point Rat × Nat)} (sparse : Net points net) (also : Net points other) : other = net := by
  induction points using List.reverseRecOn generalizing net other with
  | nil => rw [List.sublist_nil.mp sparse.listed, List.sublist_nil.mp also.listed]
  | append_singleton points p ih =>
      obtain ⟨early, first, step⟩ := sparse.exists_init
      obtain ⟨again, second, other⟩ := also.exists_init
      rw [step, other, ih first second]

theorem points_eq (sparse : Net points net) : merge points = net.map Prod.fst := by
  obtain ⟨other, found, merged⟩ := exists_net points
  rw [merged, sparse.unique found]

end Net

theorem Spread.net {points : List (Point Rat)} (spread : Spread points) : Net points points.zipIdx := by
  refine ⟨List.Sublist.refl _, ?_, ?_⟩
  · have numbered : (points.zipIdx.map Prod.fst).Pairwise fun p q => near p q = false := by
      rw [List.zipIdx_map_fst]
      exact spread
    exact (List.pairwise_map.mp numbered).imp fun {p q} apart => (apart_iff p.1 q.1).mp apart
  · intro p member
    exact ⟨p, member, le_refl _, close_self p.1⟩

theorem Spread.merge_eq {points : List (Point Rat)} (spread : Spread points) : merge points = points := by
  rw [spread.net.points_eq, List.zipIdx_map_fst]

theorem merge_first_seen (points : List (Point Rat)) :
    (∃ net, Net points net ∧ merge points = net.map Prod.fst ∧ ∀ other, Net points other → other = net) ∧
      merge (merge points) = merge points ∧ ∀ longer, Echoes [] points longer → merge longer = merge points := by
  obtain ⟨net, sparse, merged⟩ := exists_net points
  refine ⟨⟨net, sparse, merged, ?_⟩, (merge_spread points).merge_eq, ?_⟩
  · intro other also
    exact sparse.unique also
  · intro longer echoes
    exact merge_echoes echoes

-- Each point is close to the next one, the first and the last are not.
def chain : List (Point Rat) := [⟨0, 0⟩, ⟨6 / 10 ^ 7, 0⟩, ⟨12 / 10 ^ 7, 0⟩]

theorem chain_first_seen : Net chain [(⟨0, 0⟩, 0), (⟨12 / 10 ^ 7, 0⟩, 2)] ∧
    Echoes [] chain [⟨0, 0⟩, ⟨6 / 10 ^ 7, 0⟩, ⟨0, 0⟩, ⟨12 / 10 ^ 7, 0⟩, ⟨6 / 10 ^ 7, 0⟩] ∧
    merge [⟨0, 0⟩, ⟨6 / 10 ^ 7, 0⟩, ⟨0, 0⟩, ⟨12 / 10 ^ 7, 0⟩, ⟨6 / 10 ^ 7, 0⟩] = [⟨0, 0⟩, ⟨12 / 10 ^ 7, (0 : Rat)⟩] := by
  have sparse : Net chain [(⟨0, 0⟩, 0), (⟨12 / 10 ^ 7, 0⟩, 2)] := by
    refine ⟨.cons_cons _ (.cons _ (.cons_cons _ .slnil)), ?_, ?_⟩
    · norm_num [Close]
    · norm_num [chain, Close, abs_lt]
  have echoes : Echoes [] chain [⟨0, 0⟩, ⟨6 / 10 ^ 7, 0⟩, ⟨0, 0⟩, ⟨12 / 10 ^ 7, 0⟩, ⟨6 / 10 ^ 7, 0⟩] :=
    .same _ (.same _ (.again (by simp) (.same _ (.again (by simp) .done))))
  obtain ⟨⟨net, _, merged, alone⟩, _, repeated⟩ := merge_first_seen chain
  refine ⟨sparse, echoes, ?_⟩
  rw [repeated _ echoes, merged, ← alone _ sparse]
  rfl

end LinProg.Plane
