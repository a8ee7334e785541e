import LinProg.Plane.Polygon
import LinProg.Proofs.Lines

set_option autoImplicit false

namespace LinProg.Plane

theorem near_iff (p q : Point Rat) : near p q = true ↔ |p.x - q.x| < 1 / 10 ^ 6 ∧ |p.y - q.y| < 1 / 10 ^ 6 := by
  have tolerance : (mergeTolerance : Rat) = 1 / 10 ^ 6 := by norm_num [mergeTolerance]
  simp only [near, Scalar.abs_rational, tolerance, decide_eq_true_eq]

theorem near_self (p : Point Rat) : near p p = true := by
  simp [near_iff]

theorem near_swap (p q : Point Rat) : near p q = near q p := by
  rw [Bool.eq_iff_iff, near_iff, near_iff, abs_sub_comm p.x, abs_sub_comm p.y]

def Close (p q : Point Rat) : Prop := |p.x - q.x| < 1 / 10 ^ 6 ∧ |p.y - q.y| < 1 / 10 ^ 6

theorem near_close_iff (p q : Point Rat) : near p q = true ↔ Close p q := near_iff p q

theorem apart_iff (p q : Point Rat) : near p q = false ↔ ¬ Close p q := by
  rw [← near_close_iff, Bool.not_eq_true]

theorem close_swap (p q : Point Rat) : Close p q ↔ Close q p := by
  rw [← near_close_iff, near_swap, near_close_iff]

theorem close_self (p : Point Rat) : Close p p := (near_close_iff p p).mp (near_self p)

def Spread (points : List (Point Rat)) : Prop := points.Pairwise fun p q => near p q = false

def keep (kept : List (Point Rat)) (p : Point Rat) : List (Point Rat) := if kept.any (near p) then kept else kept ++ [p]

theorem keep_kept {kept : List (Point Rat)} (p : Point Rat) {q : Point Rat} (member : q ∈ kept) : q ∈ keep kept p := by
  by_cases close : kept.any (near p) = true
  · rw [keep, if_pos close]
    exact member
  · simp [keep, close, member]

theorem keep_covers (kept : List (Point Rat)) (p : Point Rat) : ∃ q ∈ keep kept p, near p q = true := by
  by_cases close : kept.any (near p) = true
  · rw [keep, if_pos close]
    exact List.any_eq_true.mp close
  · exact ⟨p, by simp [keep, close], near_self p⟩

-- Points of a list with their places, in the order of the list: no two are close, and each point of the list is close
-- to one at no later place.
structure Net (points : List (Point Rat)) (net : List (Point Rat × Nat)) : Prop where
  listed : net.Sublist points.zipIdx
  apart : net.Pairwise fun p q => ¬ Close p.1 q.1
  covers : ∀ p ∈ points.zipIdx, ∃ q ∈ net, q.2 ≤ p.2 ∧ Close p.1 q.1

def keepAt (net : List (Point Rat × Nat)) (p : Point Rat × Nat) : List (Point Rat × Nat) :=
  if net.any fun q => near p.1 q.1 then net else net ++ [p]

theorem keep_at_points (net : List (Point Rat × Nat)) (p : Point Rat × Nat) :
    keep (net.map Prod.fst) p.1 = (keepAt net p).map Prod.fst := by
  unfold keep keepAt
  rw [List.any_map, Function.comp_def]
  split <;> simp

section Kept

variable {net : List (Point Rat × Nat)} {p : Point Rat}

theorem keep_at_close (place : Nat) {q : Point Rat × Nat} (member : q ∈ net) (close : Close p q.1) :
    keepAt net (p, place) = net := by
  have found : net.any (fun q => near p q.1) = true :=
    List.any_eq_true.mpr ⟨q, member, (near_close_iff p q.1).mpr close⟩
  rw [keepAt, if_pos found]

theorem keep_at_apart (place : Nat) (apart : ∀ q ∈ net, ¬ Close p q.1) : keepAt net (p, place) = net ++ [(p, place)] := by
  have missed : net.any (fun q => near p q.1) = false := by
    rw [List.any_eq_false]
    intro q member close
    exact apart q member ((near_close_iff p q.1).mp close)
  rw [keepAt, missed, if_neg Bool.false_ne_true]

end Kept

theorem numbered_snoc (points : List (Point Rat)) (p : Point Rat) :
    (points ++ [p]).zipIdx = points.zipIdx ++ [(p, points.length)] := by
  rw [List.zipIdx_append, List.zipIdx_singleton, Nat.zero_add]

theorem place_inside {points : List (Point Rat)} {p : Point Rat × Nat} (member : p ∈ points.zipIdx) :
    p.2 < points.length := by
  have bound := (List.mem_zipIdx member).2.1
  omega

namespace Net

variable {points : List (Point Rat)} {net : List (Point Rat × Nat)} {p : Point Rat}

theorem kept (sparse : Net points net) {q : Point Rat × Nat} (member : q ∈ net) (close : Close p q.1) :
    Net (points ++ [p]) net := by
  have listed : net.Sublist (points ++ [p]).zipIdx := by
    rw [numbered_snoc]
    exact sparse.listed.trans (List.sublist_append_left _ _)
  refine ⟨listed, sparse.apart, ?_⟩
  intro r looked
  rw [numbered_snoc] at looked
  rcases List.mem_append.mp looked with early | last
  · exact sparse.covers r early
  · rw [List.mem_singleton.mp last]
    exact ⟨q, member, (place_inside (sparse.listed.subset member)).le, close⟩

theorem joined (sparse : Net points net) (apart : ∀ q ∈ net, ¬ Close p q.1) :
    Net (points ++ [p]) (net ++ [(p, points.length)]) := by
  have listed : (net ++ [(p, points.length)]).Sublist (points ++ [p]).zipIdx := by
    rw [numbered_snoc]
    exact sparse.listed.append_right _
  refine ⟨listed, List.pairwise_append.mpr ⟨sparse.apart, List.pairwise_singleton _ _, ?_⟩, ?_⟩
  · intro q member r last
    rw [List.mem_singleton.mp last, close_swap]
    exact apart q member
  · intro r looked
    rw [numbered_snoc] at looked
    rcases List.mem_append.mp looked with early | last
    · obtain ⟨q, member, before, close⟩ := sparse.covers r early
      exact ⟨q, List.mem_append_left _ member, before, close⟩
    · rw [List.mem_singleton.mp last]
      exact ⟨_, List.mem_append_right _ (List.mem_singleton_self _), le_refl _, close_self p⟩

theorem keep_at (sparse : Net points net) (p : Point Rat) :
    Net (points ++ [p]) (Plane.keepAt net (p, points.length)) := by
  by_cases covered : ∃ q ∈ net, Close p q.1
  · obtain ⟨q, member, close⟩ := covered
    rw [keep_at_close _ member close]
    exact sparse.kept member close
  · push Not at covered
    rw [keep_at_apart _ covered]
    exact sparse.joined covered

end Net

-- By induction from the end of the list, for merging looks at the last point last.
theorem net_numbered (points : List (Point Rat)) : Net points (points.zipIdx.foldl keepAt []) := by
  induction points using List.reverseRecOn with
  | nil => exact ⟨List.Sublist.slnil, List.Pairwise.nil, by simp⟩
  | append_singleton points p ih =>
      rw [numbered_snoc, List.foldl_append]
      exact ih.keep_at p

theorem merge_net (points : List (Point Rat)) : merge points = (points.zipIdx.foldl keepAt []).map Prod.fst := by
  calc merge points = (points.zipIdx.map Prod.fst).foldl keep ([].map Prod.fst) := by
        rw [List.zipIdx_map_fst]
        rfl
    _ = points.zipIdx.foldl (fun kept p => keep kept p.1) ([].map Prod.fst) := List.foldl_map
    _ = (points.zipIdx.foldl keepAt []).map Prod.fst := List.foldl_hom (List.map Prod.fst) keep_at_points

theorem exists_net (points : List (Point Rat)) : ∃ net, Net points net ∧ merge points = net.map Prod.fst :=
  ⟨_, net_numbered points, merge_net points⟩

theorem Net.sublist {points : List (Point Rat)} {net : List (Point Rat × Nat)} (sparse : Net points net) :
    (net.map Prod.fst).Sublist points := by
  have shorter := sparse.listed.map Prod.fst
  rwa [List.zipIdx_map_fst] at shorter

theorem mem_merge {points : List (Point Rat)} {q : Point Rat} (member : q ∈ merge points) : q ∈ points := by
  obtain ⟨net, sparse, merged⟩ := exists_net points
  rw [merged] at member
  exact sparse.sublist.subset member

theorem merge_covers {points : List (Point Rat)} {p : Point Rat} (member : p ∈ points) :
    ∃ q ∈ merge points, near p q = true := by
  obtain ⟨net, sparse, merged⟩ := exists_net points
  rw [← List.zipIdx_map_fst 0 points] at member
  obtain ⟨r, looked, rfl⟩ := List.mem_map.mp member
  obtain ⟨q, kept, _, close⟩ := sparse.covers r looked
  rw [merged]
  exact ⟨q.1, List.mem_map_of_mem kept, (near_close_iff r.1 q.1).mpr close⟩

theorem merge_nil_iff (points : List (Point Rat)) : merge points = [] ↔ points = [] := by
  simp only [List.eq_nil_iff_forall_not_mem]
  constructor
  · intro none p member
    obtain ⟨q, kept, _⟩ := merge_covers member
    exact none q kept
  · intro none q member
    exact none q (mem_merge member)

theorem merge_spread (points : List (Point Rat)) : Spread (merge points) := by
  obtain ⟨net, sparse, merged⟩ := exists_net points
  rw [merged]
  exact List.pairwise_map.mpr (sparse.apart.imp fun {p q} apart => (apart_iff p.1 q.1).mpr apart)

theorem polygon_perm (points : List (Point Rat)) : (polygon points).Perm points := by
  by_cases few : points.length < 3
  · simp [polygon, few]
  · simp [polygon, few, byAngle, Angular.hasAngle, List.mergeSort_perm]

theorem Spread.polygon {points : List (Point Rat)} (spread : Spread points) : Spread (polygon points) := by
  refine (List.Perm.pairwise_iff ?_ (polygon_perm points)).mpr spread
  intro p q apart
  rw [near_swap, apart]

theorem mem_polygon (points : List (Point Rat)) (p : Point Rat) : p ∈ polygon points ↔ p ∈ points :=
  (polygon_perm points).mem_iff

end LinProg.Plane
