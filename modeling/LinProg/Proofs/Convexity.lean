import LinProg.Proofs.Angles

set_option autoImplicit false

namespace LinProg.Plane

def Point.pair (z : Point Rat) : Rat × Rat := (z.x, z.y)

def blends (points : List (Point Rat)) : Set (Rat × Rat) := convexHull Rat {v | ∃ q ∈ points, q.pair = v}

def StrictlyConvex (points : List (Point Rat)) : Prop :=
  ∀ q others, points.Perm (q :: others) → q.pair ∉ blends others

def direction (points : List (Point Rat)) (p : Point Rat) : Point Rat :=
  ⟨p.x - (centroid points).x, p.y - (centroid points).y⟩

def Point.scaled (t : Rat) (u : Point Rat) : Point Rat := ⟨t * u.x, t * u.y⟩

variable {points others rest : List (Point Rat)} {p q r : Point Rat}

theorem pair_blends (member : q ∈ points) : q.pair ∈ blends points := subset_convexHull _ _ ⟨q, member, rfl⟩

-- Three combinations blend into another one, with weights of any sum.
theorem blend_of_three {u v w z : Rat × Rat} (first : u ∈ blends points) (second : v ∈ blends points)
    (third : w ∈ blends points) {a b c t : Rat} (ha : 0 ≤ a) (hb : 0 ≤ b) (hc : 0 ≤ c) (some : 0 < t)
    (whole : a + b + c = t) (x : t * z.1 = a * u.1 + b * v.1 + c * w.1) (y : t * z.2 = a * u.2 + b * v.2 + c * w.2) :
    z ∈ blends points := by
  have weights : ∀ i ∈ Finset.univ, 0 ≤ (![a / t, b / t, c / t] : Fin 3 → Rat) i := by
    have scale := le_of_lt some
    simp [Fin.forall_fin_succ, div_nonneg ha scale, div_nonneg hb scale, div_nonneg hc scale]
  have members : ∀ i ∈ Finset.univ, (![u, v, w] : Fin 3 → Rat × Rat) i ∈ blends points := by
    simp [Fin.forall_fin_succ, first, second, third]
  have one : a / t + b / t + c / t = 1 := by rw [← add_div, ← add_div, whole, div_self (ne_of_gt some)]
  have mixed : ∑ i, (![a / t, b / t, c / t] : Fin 3 → Rat) i • (![u, v, w] : Fin 3 → Rat × Rat) i ∈ blends points :=
    (convex_convexHull Rat _).sum_mem weights (by simpa [Fin.sum_univ_three] using one) members
  have same : z = (a / t) • u + (b / t) • v + (c / t) • w := by
    ext
    · simp only [Prod.fst_add, Prod.smul_fst, smul_eq_mul]
      field_simp
      linarith
    · simp only [Prod.snd_add, Prod.smul_snd, smul_eq_mul]
      field_simp
      linarith
  rw [same]
  simpa [Fin.sum_univ_three] using mixed

theorem exists_mean (present : points ≠ []) : ∃ m ∈ blends points,
    points.length * m.1 = (points.map (·.x)).sum ∧ points.length * m.2 = (points.map (·.y)).sum := by
  induction points with
  | nil => exact absurd rfl present
  | cons q points ih =>
      have wider : blends points ⊆ blends (q :: points) :=
        convexHull_mono fun v ⟨r, member, same⟩ => ⟨r, List.mem_cons_of_mem q member, same⟩
      have own : q.pair ∈ blends (q :: points) := pair_blends List.mem_cons_self
      by_cases alone : points = []
      · subst alone
        exact ⟨q.pair, own, by simp [Point.pair]⟩
      · obtain ⟨m, blended, x, y⟩ := ih alone
        have count : (0 : Rat) < points.length + 1 := by positivity
        have mean (a b : Rat) : (points.length + 1) * ((a + points.length * b) / (points.length + 1)) =
            a + points.length * b := mul_div_cancel₀ _ (ne_of_gt count)
        refine ⟨((q.x + points.length * m.1) / (points.length + 1), (q.y + points.length * m.2) / (points.length + 1)),
          blend_of_three own (wider blended) own zero_le_one (Nat.cast_nonneg points.length) le_rfl count (by ring) ?_ ?_,
          ?_, ?_⟩
        · rw [mean, zero_mul, add_zero, one_mul]
          rfl
        · rw [mean, zero_mul, add_zero, one_mul]
          rfl
        · rw [List.length_cons, List.map_cons, List.sum_cons, ← x, Nat.cast_succ, mean]
        · rw [List.length_cons, List.map_cons, List.sum_cons, ← y, Nat.cast_succ, mean]

theorem centroid_rational (points : List (Point Rat)) : centroid points =
    ⟨(points.map (·.x)).sum / points.length, (points.map (·.y)).sum / points.length⟩ := by
  have count : (Scalar.ofNat points.length : Rat) = points.length := by
    change Rat.ofScientific points.length false 0 = points.length
    simp [Rat.ofScientific]
  simp only [centroid, Scalar.sum_rational, count]

theorem centroid_perm {xs ys : List (Point Rat)} (same : xs.Perm ys) : centroid xs = centroid ys := by
  rw [centroid_rational, centroid_rational, (same.map _).sum_eq, (same.map _).sum_eq, same.length_eq]

theorem StrictlyConvex.perm {xs ys : List (Point Rat)} (convex : StrictlyConvex xs) (same : xs.Perm ys) :
    StrictlyConvex ys :=
  fun q others split => convex q others (same.trans split)

theorem sum_cross_from (points : List (Point Rat)) (c v : Point Rat) :
    (points.map fun p => cross ⟨p.x - c.x, p.y - c.y⟩ v).sum =
      ((points.map (·.x)).sum - points.length * c.x) * v.y - ((points.map (·.y)).sum - points.length * c.y) * v.x := by
  induction points with
  | nil => simp
  | cons p points ih =>
      rw [List.map_cons, List.sum_cons, ih]
      simp only [List.map_cons, List.sum_cons, List.length_cons, cross]
      push_cast
      ring

-- What the directions have to the left of a line they have to the right of it.
theorem sum_cross (present : points ≠ []) (v : Point Rat) :
    (points.map fun p => cross (direction points p) v).sum = 0 := by
  have count : (points.length : Rat) ≠ 0 := by exact_mod_cast ne_of_gt (List.length_pos_of_ne_nil present)
  have centered := sum_cross_from points (centroid points) v
  rw [centroid_rational] at centered
  simp only [mul_div_cancel₀ _ count, sub_self, zero_mul] at centered
  simpa only [direction, centroid_rational] using centered

theorem StrictlyConvex.outside (convex : StrictlyConvex points) (split : points.Perm (q :: others)) (first : p ∈ others)
    (second : r ∈ others) {s t : Rat} (left : 0 ≤ s) (right : 0 ≤ t) (within : s + t ≤ 1)
    (x : (direction points q).x = s * (direction points p).x + t * (direction points r).x)
    (y : (direction points q).y = s * (direction points p).y + t * (direction points r).y) : False := by
  obtain ⟨m, blended, mx, my⟩ := exists_mean (List.ne_nil_of_mem first)
  have size : (points.length : Rat) = others.length + 1 := by exact_mod_cast split.length_eq
  have many : (1 : Rat) ≤ others.length := by exact_mod_cast List.length_pos_of_mem first
  have nonzero : (points.length : Rat) ≠ 0 := by linarith
  have cx : (points.length : Rat) * (centroid points).x = q.x + others.length * m.1 := by
    rw [centroid_rational, mul_div_cancel₀ _ nonzero, (split.map _).sum_eq, List.map_cons, List.sum_cons, mx]
  have cy : (points.length : Rat) * (centroid points).y = q.y + others.length * m.2 := by
    rw [centroid_rational, mul_div_cancel₀ _ nonzero, (split.map _).sum_eq, List.map_cons, List.sum_cons, my]
  have room : 0 < points.length - (1 - s - t) := by linarith
  refine convex q others split (blend_of_three blended (pair_blends first) (pair_blends second)
    (mul_nonneg (sub_nonneg.mpr within) (Nat.cast_nonneg others.length)) (mul_nonneg (Nat.cast_nonneg points.length) left)
    (mul_nonneg (Nat.cast_nonneg points.length) right) room ?_ ?_ ?_)
  · rw [size]
    ring
  · simp only [direction] at x
    simp only [Point.pair]
    linear_combination (points.length : Rat) * x + (1 - s - t) * cx
  · simp only [direction] at y
    simp only [Point.pair]
    linear_combination (points.length : Rat) * y + (1 - s - t) * cy

variable {u v w : Point Rat}

theorem inner_self_pos (moves : v ≠ ⟨0, 0⟩) : 0 < inner v v := by
  refine lt_of_le_of_ne (add_nonneg (mul_self_nonneg v.x) (mul_self_nonneg v.y)) ?_
  intro zero
  have both := (mul_self_add_mul_self_eq_zero (a := v.x) (b := v.y)).mp zero.symm
  refine moves ?_
  cases v
  simpa using both

theorem eq_scaled_of_cross (moves : v ≠ ⟨0, 0⟩) (level : cross u v = 0) :
    ∃ t, u = v.scaled t ∧ (0 ≤ t ↔ 0 ≤ inner u v) := by
  have positive := inner_self_pos moves
  have long := ne_of_gt positive
  have along : u.x * v.y = u.y * v.x := sub_eq_zero.mp level
  refine ⟨inner u v / inner v v, ?_, by rw [le_div_iff₀ positive, zero_mul]⟩
  cases u
  simp only [Point.scaled, Point.mk.injEq, eq_div_iff long, div_mul_eq_mul_div]
  simp only [inner] at along ⊢
  constructor
  · linear_combination v.y * along
  · linear_combination -v.x * along

section Around

variable (convex : StrictlyConvex points)
include convex

theorem StrictlyConvex.moves (split : points.Perm (p :: q :: rest)) : direction points p ≠ ⟨0, 0⟩ := by
  intro still
  refine convex.outside split List.mem_cons_self List.mem_cons_self le_rfl le_rfl (by norm_num) ?_ ?_
  · simp [still]
  · simp [still]

theorem StrictlyConvex.not_along (split : points.Perm (p :: q :: rest)) {t : Rat} (ahead : 0 ≤ t) :
    direction points p ≠ (direction points q).scaled t := by
  intro along
  have x : (direction points p).x = t * (direction points q).x := congrArg Point.x along
  have y : (direction points p).y = t * (direction points q).y := congrArg Point.y along
  rcases le_or_gt t 1 with short | long
  · refine convex.outside split List.mem_cons_self List.mem_cons_self ahead le_rfl (by simpa using short) ?_ ?_
    · rw [x, zero_mul, add_zero]
    · rw [y, zero_mul, add_zero]
  · have positive : 0 < t := lt_trans one_pos long
    have swapped : points.Perm (q :: p :: rest) := split.trans (List.Perm.swap q p rest)
    refine convex.outside swapped List.mem_cons_self List.mem_cons_self (s := 1 / t) (t := 0) (by positivity) le_rfl ?_ ?_ ?_
    · rw [add_zero, div_le_one positive]
      exact le_of_lt long
    · rw [x]
      field_simp
      ring
    · rw [y]
      field_simp
      ring

theorem StrictlyConvex.angle_ne (split : points.Perm (p :: q :: rest)) :
    angle (direction points p) ≠ angle (direction points q) := by
  intro same
  have level : cross (direction points p) (direction points q) = 0 := by
    have polar := cross_polar (direction points p) (direction points q)
    rw [same, sub_self, Real.sin_zero, mul_zero] at polar
    exact_mod_cast polar
  have ahead : 0 ≤ inner (direction points p) (direction points q) := by
    rw [← Rat.cast_nonneg (K := ℝ), inner_polar, same, sub_self, Real.cos_zero, mul_one]
    exact mul_nonneg (extension_nonneg _) (extension_nonneg _)
  have swapped : points.Perm (q :: p :: rest) := split.trans (List.Perm.swap q p rest)
  obtain ⟨t, along, sign⟩ := eq_scaled_of_cross (convex.moves swapped) level
  exact convex.not_along split (sign.mpr ahead) along

-- From a point to the next one around it is less than half a turn, or all points would stand on one line.
theorem StrictlyConvex.turns_left (split : points.Perm (p :: q :: r :: rest)) (beyond : ∀ z ∈ points,
    Beyond (angle (direction points p)) (angle (direction points q)) (angle (direction points z))) :
    0 < cross (direction points p) (direction points q) := by
  by_contra wide
  have swapped : points.Perm (q :: p :: r :: rest) := split.trans (List.Perm.swap q p _)
  have turned : points.Perm (r :: p :: q :: rest) := split.trans
    (List.perm_middle : ([p, q] ++ r :: rest).Perm (r :: ([p, q] ++ rest)))
  have present : points ≠ [] := fun empty => by simp [empty] at split
  have moves := convex.moves split
  rw [cross_pos_iff moves (convex.moves swapped), not_lt] at wide
  have right : ∀ c ∈ points.map fun z => cross (direction points z) (direction points p), 0 ≤ c := by
    intro c member
    obtain ⟨z, listed, rfl⟩ := List.mem_map.mp member
    exact cross_nonneg ((beyond z listed).half_plane wide)
  have level (z : Point Rat) (listed : z ∈ points) : cross (direction points z) (direction points p) = 0 :=
    List.all_zero_of_le_zero_le_of_sum_eq_zero right (sum_cross present _) (List.mem_map_of_mem listed)
  obtain ⟨a, first, _⟩ := eq_scaled_of_cross moves (level q (swapped.mem_iff.mpr List.mem_cons_self))
  obtain ⟨b, second, _⟩ := eq_scaled_of_cross moves (level r (turned.mem_iff.mpr List.mem_cons_self))
  have behind : a < 0 := not_le.mp fun ahead => convex.not_along swapped ahead first
  have opposite : b < 0 := not_le.mp fun ahead => convex.not_along turned ahead second
  have beside : points.Perm (q :: r :: p :: rest) := swapped.trans ((List.Perm.swap r p rest).cons q)
  refine convex.not_along beside (div_nonneg_of_nonpos (le_of_lt behind) (le_of_lt opposite)) ?_
  rw [first, second]
  simp only [Point.scaled, Point.mk.injEq]
  have nonzero := ne_of_lt opposite
  constructor <;> field_simp

end Around

-- How far a point is to the left of the way from one to another, times the length of the way.
def turn (p q r : Point Rat) : Rat := cross ⟨q.x - p.x, q.y - p.y⟩ ⟨r.x - p.x, r.y - p.y⟩

theorem cross_swap (u v : Point Rat) : cross v u = -cross u v := by
  simp only [cross]
  ring

theorem turn_eq (points : List (Point Rat)) (p q r : Point Rat) : turn p q r =
    cross (direction points p) (direction points q) + cross (direction points q) (direction points r) -
      cross (direction points p) (direction points r) := by
  simp only [turn, cross, direction]
  ring

theorem cross_combination (u v w : Point Rat) : cross u w * v.x = cross v w * u.x + cross u v * w.x ∧
    cross u w * v.y = cross v w * u.y + cross u v * w.y := by
  simp only [cross]
  constructor <;> ring

-- A point passed on the way around from one to another is outside of the triangle that they make with the centroid.
theorem StrictlyConvex.passed_outside (convex : StrictlyConvex points) (split : points.Perm (q :: others)) (first : p ∈ others)
    (second : r ∈ others) (ahead : 0 ≤ cross (direction points p) (direction points q))
    (past : 0 ≤ cross (direction points q) (direction points r))
    (wide : 0 < cross (direction points p) (direction points r)) :
    cross (direction points p) (direction points r) <
      cross (direction points q) (direction points r) + cross (direction points p) (direction points q) := by
  by_contra short
  obtain ⟨x, y⟩ := cross_combination (direction points p) (direction points q) (direction points r)
  refine convex.outside split first second (div_nonneg past (le_of_lt wide)) (div_nonneg ahead (le_of_lt wide)) ?_ ?_ ?_
  · rw [← add_div, div_le_one wide]
    exact not_lt.mp short
  · field_simp
    linarith
  · field_simp
    linarith

theorem StrictlyConvex.left_of_edge (convex : StrictlyConvex points) (split : points.Perm (p :: q :: r :: rest))
    (ahead : 0 < cross (direction points p) (direction points q))
    (outside : ¬ (0 < cross (direction points p) (direction points r) ∧
      0 < cross (direction points r) (direction points q))) : 0 < turn p q r := by
  rw [turn_eq points]
  by_contra right
  rw [cross_swap (direction points q) (direction points r), neg_pos] at outside
  rcases le_or_gt 0 (cross (direction points q) (direction points r)) with later | earlier
  · have swapped : points.Perm (q :: p :: r :: rest) := split.trans (List.Perm.swap q p _)
    have passed := convex.passed_outside swapped (p := p) (r := r) (by simp) (by simp) (le_of_lt ahead) later (by linarith)
    linarith
  · have behind : cross (direction points p) (direction points r) ≤ 0 := not_lt.mp fun left => outside ⟨left, earlier⟩
    have passed := convex.passed_outside split (p := r) (r := q) (by simp) (by simp)
      (by rw [cross_swap (direction points p)]; exact neg_nonneg.mpr behind) (le_of_lt ahead)
      (by rw [cross_swap (direction points q)]; exact neg_pos.mpr earlier)
    rw [cross_swap (direction points p) (direction points r), cross_swap (direction points q) (direction points r)] at passed
    linarith

end LinProg.Plane
