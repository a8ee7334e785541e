import LinProg.Proofs.Convexity

set_option autoImplicit false

namespace LinProg.Plane

variable {points others rest : List (Point Rat)} {p q r z : Point Rat}

theorem beyond_of_rotated {α : Type} {items after : List α} {a b : α} (key : α → ℝ)
    (rises : items.Pairwise fun x y => key x < key y) (turned : items.IsRotated (a :: b :: after)) :
    ∀ x ∈ items, Beyond (key a) (key b) (key x) := by
  obtain ⟨n, short, turned⟩ := List.isRotated_iff_mod.mp turned
  rw [List.rotate_eq_drop_append_take short] at turned
  rw [← List.take_append_drop n items] at rises ⊢
  generalize items.take n = early at turned rises
  generalize items.drop n = late at turned rises
  obtain ⟨first, second, across⟩ := List.pairwise_append.mp rises
  intro x member
  -- The two neighbours are the first two, the last and the first, or two in a row further on.
  rcases late with _ | ⟨c, _ | ⟨d, late⟩⟩
  · rw [List.nil_append] at turned
    subst turned
    obtain ⟨above, later⟩ := List.pairwise_cons.mp first
    have step := above b List.mem_cons_self
    rw [List.append_nil] at member
    rcases List.mem_cons.mp member with rfl | behind
    · exact beyond_start _ _
    · rcases List.mem_cons.mp behind with rfl | last
      · exact beyond_end _ _
      · exact .inl ⟨step, .inr (le_of_lt ((List.pairwise_cons.mp later).1 x last))⟩
  · obtain ⟨rfl, rfl⟩ := List.cons_eq_cons.mp turned
    refine .inr ?_
    rcases List.mem_append.mp member with front | back
    · refine ⟨?_, le_of_lt (across x front c List.mem_cons_self)⟩
      rcases List.mem_cons.mp front with rfl | further
      · exact le_rfl
      · exact le_of_lt ((List.pairwise_cons.mp first).1 x further)
    · rw [List.mem_singleton.mp back]
      exact ⟨le_of_lt (across b List.mem_cons_self c List.mem_cons_self), le_rfl⟩
  · obtain ⟨rfl, further⟩ := List.cons_eq_cons.mp turned
    obtain ⟨rfl, rfl⟩ := List.cons_eq_cons.mp further
    obtain ⟨above, later⟩ := List.pairwise_cons.mp second
    have step := above d List.mem_cons_self
    rcases List.mem_append.mp member with front | back
    · exact .inl ⟨step, .inl (le_of_lt (across x front c List.mem_cons_self))⟩
    · rcases List.mem_cons.mp back with rfl | behind
      · exact beyond_start _ _
      · rcases List.mem_cons.mp behind with rfl | last
        · exact beyond_end _ _
        · exact .inl ⟨step, .inr (le_of_lt ((List.pairwise_cons.mp later).1 x last))⟩

theorem polygon_eq (three : 3 ≤ points.length) : polygon points = byAngle (direction points) points := by
  rw [polygon, if_neg (not_lt.mpr three)]
  rfl

theorem polygon_rises (three : 3 ≤ points.length) (convex : StrictlyConvex points) :
    (polygon points).Pairwise fun p q => angle (direction points p) < angle (direction points q) := by
  have sorted := by_angle_sorted (direction points) points
  rw [← polygon_eq three, List.pairwise_iff_forall_sublist] at sorted
  rw [List.pairwise_iff_forall_sublist]
  intro p q ordered
  obtain ⟨rest, split⟩ := ordered.exists_perm_append
  exact lt_of_le_of_ne (sorted ordered) (convex.angle_ne ((polygon_perm points).symm.trans split))

def LeftTurning (corners : List (Point Rat)) : Prop :=
  ∀ p q others, corners.IsRotated (p :: q :: others) → ∀ r ∈ others, 0 < turn p q r

theorem polygon_left_turning (three : 3 ≤ points.length) (convex : StrictlyConvex points) :
    LeftTurning (polygon points) := by
  intro p q others turned r member
  obtain ⟨before, after, rfl⟩ := List.append_of_mem member
  have split : points.Perm (p :: q :: r :: (before ++ after)) :=
    (polygon_perm points).symm.trans (turned.perm.trans ((List.perm_middle.cons q).cons p))
  have beyond (z : Point Rat) (listed : z ∈ points) :=
    beyond_of_rotated (fun w => angle (direction points w)) (polygon_rises three convex) turned z
      ((mem_polygon points z).mpr listed)
  refine convex.left_of_edge split (convex.turns_left split beyond) ?_
  rintro ⟨left, right⟩
  have listed : r ∈ points := split.mem_iff.mpr (by simp)
  exact (beyond r listed).not_between ⟨sin_pos_of_cross left, sin_pos_of_cross right⟩

def OnEdge (p q z : Point Rat) : Prop := ∃ t, 0 ≤ t ∧ t ≤ 1 ∧ z = p.along ⟨q.x - p.x, q.y - p.y⟩ t

def Simple (corners : List (Point Rat)) : Prop :=
  ∀ p q others p' q' others', corners.IsRotated (p :: q :: others) → corners.IsRotated (p' :: q' :: others') →
    ∀ z, OnEdge p q z → OnEdge p' q' z → (p = p' ∧ q = q') ∨ (z = q ∧ q = p') ∨ (z = p ∧ p = q')

theorem turn_reversed (p q r : Point Rat) : turn q p r = -turn p q r := by
  simp only [turn, cross]
  ring

theorem turn_opened (p q r : Point Rat) : turn p r q = -turn p q r := by
  simp only [turn, cross]
  ring

theorem turn_back (p q r : Point Rat) : turn r q p = -turn p q r := by
  simp only [turn, cross]
  ring

theorem turn_start (p q : Point Rat) : turn p q p = 0 := by
  simp [turn, cross]

theorem turn_end (p q : Point Rat) : turn p q q = 0 := by
  simp only [turn, cross]
  ring

-- How far a point of another edge is to the left lies between what its ends are.
theorem OnEdge.turn_eq {p' q' : Point Rat} (on : OnEdge p' q' z) (p q : Point Rat) :
    ∃ t, 0 ≤ t ∧ t ≤ 1 ∧ z = p'.along ⟨q'.x - p'.x, q'.y - p'.y⟩ t ∧
      turn p q z = (1 - t) * turn p q p' + t * turn p q q' := by
  obtain ⟨t, low, high, rfl⟩ := on
  refine ⟨t, low, high, rfl, ?_⟩
  simp only [turn, cross, Point.along]
  ring

theorem OnEdge.level (on : OnEdge p q z) : turn p q z = 0 := by
  obtain ⟨t, _, _, _, between⟩ := on.turn_eq p q
  rw [between, turn_start, turn_end, mul_zero, mul_zero, add_zero]

-- An edge that starts where another one lies, or to its left, and ends to its left meets it in its start only.
theorem OnEdge.at_start {p' q' : Point Rat} (on : OnEdge p q z) (other : OnEdge p' q' z) (start : 0 ≤ turn p q p')
    (rises : 0 < turn p q q') : z = p' := by
  obtain ⟨t, low, high, place, between⟩ := other.turn_eq p q
  rw [on.level] at between
  have begun := mul_nonneg (sub_nonneg.mpr high) start
  have level : t * turn p q q' = 0 := le_antisymm (by linarith) (mul_nonneg low (le_of_lt rises))
  have still : t = 0 := (mul_eq_zero.mp level).resolve_right (ne_of_gt rises)
  cases p'
  simp [place, still, Point.along]

theorem OnEdge.at_end {p' q' : Point Rat} (on : OnEdge p q z) (other : OnEdge p' q' z) (falls : 0 < turn p q p')
    (finish : 0 ≤ turn p q q') : z = q' := by
  obtain ⟨t, low, high, place, between⟩ := other.turn_eq p q
  rw [on.level] at between
  have ended := mul_nonneg low finish
  have level : (1 - t) * turn p q p' = 0 :=
    le_antisymm (by linarith) (mul_nonneg (sub_nonneg.mpr high) (le_of_lt falls))
  have through : 1 - t = 0 := (mul_eq_zero.mp level).resolve_right (ne_of_gt falls)
  have all : t = 1 := by linarith
  cases q'
  simp [place, all, Point.along]

section Edges

variable {corners others' : List (Point Rat)} {p' q' : Point Rat}

theorem rest_of_rotated (turned : corners.IsRotated (p :: q :: others)) (member : z ∈ corners) (first : z ≠ p)
    (second : z ≠ q) : z ∈ others := by
  simpa [first, second] using turned.mem_iff.mp member

theorem ends_apart (apart : corners.Nodup) (turned : corners.IsRotated (p :: q :: others)) : q ≠ p := by
  have distinct : (p :: q :: others).Nodup := turned.perm.nodup_iff.mp apart
  exact fun same => (List.nodup_cons.mp distinct).1 (same ▸ List.mem_cons_self)

namespace LeftTurning

variable (turning : LeftTurning corners) (apart : corners.Nodup)
include turning apart

-- Two edges from one corner would have each other's ends to their left, and so would two edges into one corner.

theorem end_unique (first : corners.IsRotated (p :: q :: others)) (second : corners.IsRotated (p :: q' :: others')) :
    q = q' := by
  by_contra different
  have one := turning p q others first q'
    (rest_of_rotated first (second.mem_iff.mpr (by simp)) (ends_apart apart second) (Ne.symm different))
  have two := turning p q' others' second q
    (rest_of_rotated second (first.mem_iff.mpr (by simp)) (ends_apart apart first) different)
  rw [turn_opened] at two
  linarith

theorem start_unique (first : corners.IsRotated (p :: q :: others)) (second : corners.IsRotated (p' :: q :: others')) :
    p = p' := by
  by_contra different
  have one := turning p q others first p'
    (rest_of_rotated first (second.mem_iff.mpr (by simp)) (Ne.symm different) (ends_apart apart second).symm)
  have two := turning p' q others' second p
    (rest_of_rotated second (first.mem_iff.mpr (by simp)) different (ends_apart apart first).symm)
  rw [turn_back] at two
  linarith

theorem not_reversed (three : 3 ≤ corners.length) (first : corners.IsRotated (p :: q :: others)) :
    ¬ corners.IsRotated (q :: p :: others') := by
  intro second
  have distinct : (p :: q :: others).Nodup := first.perm.nodup_iff.mp apart
  simp only [List.nodup_cons, List.mem_cons, not_or] at distinct
  obtain ⟨⟨_, notFirst⟩, notSecond, _⟩ := distinct
  have more : others ≠ [] := by
    intro none
    have count := first.perm.length_eq
    simp only [none, List.length_cons, List.length_nil] at count
    omega
  obtain ⟨r, member⟩ := List.exists_mem_of_ne_nil others more
  have listed := rest_of_rotated second (first.mem_iff.mpr (by simp [member])) (fun same => notSecond (same ▸ member))
    (fun same => notFirst (same ▸ member))
  have one := turning p q others first r member
  have two := turning q p others' second r listed
  rw [turn_reversed] at two
  linarith

theorem simple (three : 3 ≤ corners.length) : Simple corners := by
  intro p q others p' q' others' first second z here there
  have left := turning p q others first
  have startListed : p' ∈ corners := second.mem_iff.mpr (by simp)
  have endListed : q' ∈ corners := second.mem_iff.mpr (by simp)
  by_cases start : p' = p
  · subst start
    exact .inl ⟨rfl, turning.end_unique apart first second⟩
  by_cases finish : q' = q
  · subst finish
    exact .inl ⟨turning.start_unique apart first second, rfl⟩
  by_cases next : p' = q
  · subst next
    have back : q' ≠ p := by
      rintro rfl
      exact turning.not_reversed apart three first second
    have rises := left q' (rest_of_rotated first endListed back finish)
    exact .inr (.inl ⟨here.at_start there (le_of_eq (turn_end p p').symm) rises, rfl⟩)
  have falls := left p' (rest_of_rotated first startListed start next)
  by_cases before : q' = p
  · subst before
    exact .inr (.inr ⟨here.at_end there falls (le_of_eq (turn_start q' q).symm), rfl⟩)
  · have rises := left q' (rest_of_rotated first endListed before finish)
    have same := (here.at_start there (le_of_lt falls) rises).symm.trans (here.at_end there falls (le_of_lt rises))
    exact absurd same.symm (ends_apart apart second)

end LeftTurning

end Edges

-- The corners in their order around the centroid, with what makes the outline a convex one, whichever order they came in.
theorem polygon_convex (points : List (Point Rat)) (three : 3 ≤ points.length) (convex : StrictlyConvex points) :
    (polygon points).Perm points ∧
      (polygon points).Pairwise (fun p q => angle (direction points p) < angle (direction points q)) ∧
      (∀ p q r rest, (polygon points).IsRotated (p :: q :: r :: rest) → 0 < turn p q r) ∧
      (∀ p q others, (polygon points).IsRotated (p :: q :: others) → ∀ r ∈ others, 0 < turn p q r) ∧
      Simple (polygon points) ∧ ∀ found, found.Perm points → polygon found = polygon points := by
  have rises := polygon_rises three convex
  have turning := polygon_left_turning three convex
  have apart : (polygon points).Nodup := rises.imp fun less same => (ne_of_lt less) (congrArg _ (congrArg _ same))
  refine ⟨polygon_perm points, rises, ?_, turning, turning.simple apart ?_, ?_⟩
  · intro p q r rest turned
    exact turning p q (r :: rest) turned r List.mem_cons_self
  · rw [(polygon_perm points).length_eq]
    exact three
  · intro found same
    have many : 3 ≤ found.length := same.length_eq ▸ three
    have other := polygon_rises many (convex.perm same.symm)
    have seen : direction found = direction points := by
      funext p
      rw [direction, direction, centroid_perm same]
    rw [seen] at other
    refine List.Perm.eq_of_pairwise ?_ other rises ((polygon_perm found).trans (same.trans (polygon_perm points).symm))
    intro p q _ _ less more
    exact absurd less (not_lt_of_gt more)

-- A point ahead of all others in some direction is no combination of them.
theorem strictly_convex_of_ahead (apart : points.Nodup) (ahead : ∀ p ∈ points, ∃ a b : Rat, ∀ q ∈ points, q ≠ p →
    a * q.x + b * q.y < a * p.x + b * p.y) : StrictlyConvex points := by
  intro p others split blended
  obtain ⟨a, b, below⟩ := ahead p (split.mem_iff.mpr List.mem_cons_self)
  have alone : p ∉ others := (List.nodup_cons.mp (split.nodup_iff.mp apart)).1
  have half : Convex Rat {v : Rat × Rat | a * v.1 + b * v.2 < a * p.x + b * p.y} := by
    refine convex_halfSpace_lt (IsLinearMap.mk ?_ ?_) _
    · intro u v
      simp only [Prod.fst_add, Prod.snd_add]
      ring
    · intro t v
      simp only [Prod.smul_fst, Prod.smul_snd, smul_eq_mul]
      ring
  have inside := convexHull_min (by
    rintro _ ⟨q, member, rfl⟩
    exact below q (split.mem_iff.mpr (List.mem_cons_of_mem p member)) fun same => alone (same ▸ member)) half blended
  simp [Point.pair] at inside

def kite : List (Point Rat) := [⟨-2, 0⟩, ⟨2, 0⟩, ⟨0, -1⟩, ⟨0, 1⟩]

theorem kite_convex : StrictlyConvex kite := by
  refine strictly_convex_of_ahead (by norm_num [kite]) ?_
  intro p member
  refine ⟨p.x, p.y, ?_⟩
  simp only [kite, List.mem_cons, List.not_mem_nil, or_false] at member ⊢
  rcases member with rfl | rfl | rfl | rfl <;> simp

theorem kite_outlined : 3 ≤ kite.length ∧ StrictlyConvex kite ∧
    polygon kite = [⟨0, -1⟩, ⟨2, 0⟩, ⟨0, 1⟩, ⟨-2, 0⟩] ∧ Simple (polygon kite) ∧
    0 < turn ⟨0, 1⟩ ⟨-2, 0⟩ ⟨0, -1⟩ ∧ 0 < turn ⟨0, 1⟩ ⟨-2, 0⟩ ⟨2, 0⟩ := by
  obtain ⟨_, _, _, left, simple, _⟩ := polygon_convex kite (by decide) kite_convex
  have order : polygon kite = [⟨0, -1⟩, ⟨2, 0⟩, ⟨0, 1⟩, ⟨-2, 0⟩] := by cbv
  have turned : (polygon kite).IsRotated [⟨0, 1⟩, ⟨-2, 0⟩, ⟨0, -1⟩, ⟨2, 0⟩] := ⟨2, by rw [order]; rfl⟩
  have beside := left _ _ _ turned
  exact ⟨by decide, kite_convex, order, simple, beside _ (by simp), beside _ (by simp)⟩

end LinProg.Plane
