import Mathlib
import LinProg.Plane.Polygon
import LinProg.Proofs.Merging

set_option autoImplicit false

namespace LinProg.Plane

open Real

-- Twice the area between two directions, positive where the second is to the left of the first.
def cross (u v : Point Rat) : Rat := u.x * v.y - u.y * v.x

def inner (u v : Point Rat) : Rat := u.x * v.x + u.y * v.y

noncomputable def angle (u : Point Rat) : ℝ := Complex.arg ⟨u.x, u.y⟩

noncomputable def extension (u : Point Rat) : ℝ := ‖(⟨u.x, u.y⟩ : ℂ)‖

theorem angle_range (u : Point Rat) : -π < angle u ∧ angle u ≤ π := Complex.arg_mem_Ioc _

theorem extension_cos (u : Point Rat) : extension u * cos (angle u) = u.x := Complex.norm_mul_cos_arg _

theorem extension_sin (u : Point Rat) : extension u * sin (angle u) = u.y := Complex.norm_mul_sin_arg _

theorem extension_nonneg (u : Point Rat) : 0 ≤ extension u := norm_nonneg _

theorem extension_pos {u : Point Rat} (moves : u ≠ ⟨0, 0⟩) : 0 < extension u := by
  refine norm_pos_iff.mpr ?_
  intro zero
  have x : (u.x : ℝ) = 0 := congrArg Complex.re zero
  have y : (u.y : ℝ) = 0 := congrArg Complex.im zero
  cases u
  simp_all

theorem cross_polar (u v : Point Rat) :
    (cross u v : ℝ) = extension u * extension v * sin (angle v - angle u) := by
  rw [cross, sin_sub]
  push_cast
  rw [← extension_cos u, ← extension_cos v, ← extension_sin u, ← extension_sin v]
  ring

theorem inner_polar (u v : Point Rat) :
    (inner u v : ℝ) = extension u * extension v * cos (angle v - angle u) := by
  rw [inner, cos_sub]
  push_cast
  rw [← extension_cos u, ← extension_cos v, ← extension_sin u, ← extension_sin v]
  ring

theorem cross_pos_iff {u v : Point Rat} (first : u ≠ ⟨0, 0⟩) (second : v ≠ ⟨0, 0⟩) :
    0 < cross u v ↔ 0 < sin (angle v - angle u) := by
  have scale : 0 < extension u * extension v := mul_pos (extension_pos first) (extension_pos second)
  rw [← Rat.cast_pos (K := ℝ), cross_polar, mul_pos_iff_of_pos_left scale]

theorem sin_pos_of_cross {u v : Point Rat} (left : 0 < cross u v) : 0 < sin (angle v - angle u) := by
  rw [← Rat.cast_pos (K := ℝ), cross_polar] at left
  exact pos_of_mul_pos_right left (mul_nonneg (extension_nonneg u) (extension_nonneg v))

theorem cross_nonneg {u v : Point Rat} (left : 0 ≤ sin (angle v - angle u)) : 0 ≤ cross u v := by
  rw [← Rat.cast_nonneg (K := ℝ), cross_polar]
  exact mul_nonneg (mul_nonneg (extension_nonneg u) (extension_nonneg v)) left

-- Where the angles of a quarter lie. Two quarters are open, the other two are single directions.
theorem quarter_angle (u : Point Rat) :
    (quarter u = 0 ∧ u.y ≠ 0 ∧ angle u < 0) ∨ (quarter u = 1 ∧ u.y = 0 ∧ angle u = 0) ∨
      (quarter u = 2 ∧ u.y ≠ 0 ∧ 0 < angle u ∧ angle u < π) ∨ (quarter u = 3 ∧ u.y = 0 ∧ angle u = π) := by
  rcases lt_trichotomy u.y 0 with below | level | above
  · refine .inl ⟨by simp [quarter, below], ne_of_lt below, ?_⟩
    exact Complex.arg_neg_iff.mpr (Rat.cast_lt_zero.mpr below)
  · by_cases left : u.x < 0
    · refine .inr (.inr (.inr ⟨by simp [quarter, level, left], level, ?_⟩))
      exact Complex.arg_eq_pi_iff.mpr ⟨Rat.cast_lt_zero.mpr left, by simp [level]⟩
    · refine .inr (.inl ⟨by simp [quarter, level, left], level, ?_⟩)
      exact Complex.arg_eq_zero_iff.mpr ⟨Rat.cast_nonneg.mpr (not_lt.mp left), by simp [level]⟩
  · refine .inr (.inr (.inl ⟨by simp [quarter, above, not_lt_of_gt above], ne_of_gt above, ?_, ?_⟩))
    · have positive : (0 : ℝ) < u.y := Rat.cast_pos.mpr above
      refine lt_of_le_of_ne (Complex.arg_nonneg_iff.mpr (le_of_lt positive)) ?_
      intro flat
      exact ne_of_gt positive (Complex.arg_eq_zero_iff.mp flat.symm).2
    · exact Complex.arg_lt_pi_iff.mpr (.inr (Rat.cast_ne_zero.mpr (ne_of_gt above)))

theorem angle_lt_of_quarter_lt {u v : Point Rat} (earlier : quarter u < quarter v) : angle u < angle v := by
  have turn := pi_pos
  -- One case for two quarters each: those in the wrong order are no cases.
  have first := quarter_angle u
  have second := quarter_angle v
  rcases first with ⟨q, _, a⟩ | ⟨q, _, a⟩ | ⟨q, _, a, b⟩ | ⟨q, _, a⟩ <;>
  rcases second with ⟨r, _, c⟩ | ⟨r, _, c⟩ | ⟨r, _, c, d⟩ | ⟨r, _, c⟩ <;>
  first | (exfalso; omega) | linarith

theorem sin_pos_iff_of_short {t : ℝ} (low : -π < t) (high : t < π) : 0 < sin t ↔ 0 < t := by
  constructor
  · intro above
    by_contra past
    exact not_le_of_gt above (sin_nonpos_of_nonpos_of_neg_pi_le (not_lt.mp past) (le_of_lt low))
  · exact fun positive => sin_pos_of_pos_of_lt_pi positive high

theorem cross_of_quarter_eq {u v : Point Rat} (same : quarter u = quarter v) : 0 < cross u v ↔ angle u < angle v := by
  have level (first : u.y = 0) (second : v.y = 0) (one : angle u = angle v) : 0 < cross u v ↔ angle u < angle v := by
    simp [cross, first, second, one]
  have slanted (first : u.y ≠ 0) (second : v.y ≠ 0) (low : -π < angle v - angle u) (high : angle v - angle u < π) :
      0 < cross u v ↔ angle u < angle v := by
    have moves (w : Point Rat) (high : w.y ≠ 0) : w ≠ ⟨0, 0⟩ := fun zero => high (congrArg Point.y zero)
    rw [cross_pos_iff (moves u first) (moves v second), sin_pos_iff_of_short low high, sub_pos]
  have first := angle_range u
  have second := angle_range v
  rcases quarter_angle u with ⟨q, y, a⟩ | ⟨q, y, a⟩ | ⟨q, y, a, b⟩ | ⟨q, y, a⟩ <;>
  rcases quarter_angle v with ⟨r, z, c⟩ | ⟨r, z, c⟩ | ⟨r, z, c, d⟩ | ⟨r, z, c⟩ <;>
  first
  | (exfalso; omega)
  | exact level y z (a.trans c.symm)
  | exact slanted y z (by linarith) (by linarith)

theorem before_iff_angle (u v : Point Rat) : Angular.before u v = true ↔ angle u < angle v := by
  have meaning : Angular.before u v = true ↔ quarter u < quarter v ∨ (quarter u = quarter v ∧ 0 < cross u v) :=
    decide_eq_true_iff
  rw [meaning]
  constructor
  · rintro (earlier | ⟨same, left⟩)
    · exact angle_lt_of_quarter_lt earlier
    · exact (cross_of_quarter_eq same).mp left
  · intro less
    rcases Nat.lt_trichotomy (quarter u) (quarter v) with earlier | same | later
    · exact .inl earlier
    · exact .inr ⟨same, (cross_of_quarter_eq same).mpr less⟩
    · exact absurd (angle_lt_of_quarter_lt later) (not_lt_of_gt less)

theorem by_angle_sorted {α : Type} (direction : α → Point Rat) (items : List α) :
    (byAngle direction items).Pairwise fun p q => angle (direction p) ≤ angle (direction q) := by
  have order (p q : α) : (!Angular.before (direction q) (direction p)) = true ↔
      angle (direction p) ≤ angle (direction q) := by
    rw [Bool.not_eq_true', ← Bool.not_eq_true, before_iff_angle, not_lt]
  have defined : items.all (fun p => Angular.hasAngle (direction p)) = true := by simp [Angular.hasAngle]
  rw [byAngle, if_pos defined]
  refine (List.pairwise_mergeSort ?_ ?_ items).imp fun {p q} ordered => (order p q).mp ordered
  · intro p q r first second
    exact (order p r).mpr (((order p q).mp first).trans ((order q r).mp second))
  · intro p q
    rw [Bool.or_eq_true, order, order]
    exact le_total _ _

-- Whether an angle is not strictly inside the turn to the left from one angle to another.
def Beyond (a b t : ℝ) : Prop := (a < b ∧ (t ≤ a ∨ b ≤ t)) ∨ (b ≤ t ∧ t ≤ a)

theorem beyond_start (a b : ℝ) : Beyond a b a := by
  rcases lt_or_ge a b with rises | wraps
  · exact .inl ⟨rises, .inl le_rfl⟩
  · exact .inr ⟨wraps, le_rfl⟩

theorem beyond_end (a b : ℝ) : Beyond a b b := by
  rcases lt_or_ge a b with rises | wraps
  · exact .inl ⟨rises, .inr le_rfl⟩
  · exact .inr ⟨le_rfl, wraps⟩

variable {u v w : Point Rat}

theorem sin_nonneg_far {t : ℝ} (low : -(2 * π) ≤ t) (high : t ≤ -π) : 0 ≤ sin t := by
  rw [← sin_add_two_pi]
  exact sin_nonneg_of_nonneg_of_le_pi (by linarith) (by linarith)

theorem sin_pos_iff_of_turn {t : ℝ} (low : -(2 * π) < t) (high : t < 2 * π) :
    0 < sin t ↔ t < -π ∨ (0 < t ∧ t < π) := by
  constructor
  · intro above
    by_contra outside
    push Not at outside
    obtain ⟨near, far⟩ := outside
    rcases le_or_gt t 0 with back | ahead
    · exact not_le_of_gt above (sin_nonpos_of_nonpos_of_neg_pi_le back near)
    · have wide : 0 ≤ sin (-t) := sin_nonneg_far (by linarith) (neg_le_neg (far ahead))
      rw [sin_neg] at wide
      linarith
  · rintro (far | ⟨ahead, short⟩)
    · rw [← sin_add_two_pi]
      exact sin_pos_of_pos_of_lt_pi (by linarith) (by linarith)
    · exact sin_pos_of_pos_of_lt_pi ahead short

theorem Beyond.not_between (beyond : Beyond (angle u) (angle v) (angle w)) :
    ¬ (0 < sin (angle w - angle u) ∧ 0 < sin (angle v - angle w)) := by
  have first := angle_range u
  have second := angle_range v
  have third := angle_range w
  rw [sin_pos_iff_of_turn (by linarith) (by linarith), sin_pos_iff_of_turn (by linarith) (by linarith)]
  rcases beyond with ⟨rises, before | after⟩ | ⟨low, high⟩ <;>
  · rintro ⟨far | near, other⟩ <;> rcases other with back | ahead <;> linarith

theorem Beyond.half_plane (beyond : Beyond (angle u) (angle v) (angle w)) (wide : sin (angle v - angle u) ≤ 0) :
    0 ≤ sin (angle u - angle w) := by
  have first := angle_range u
  have second := angle_range v
  have third := angle_range w
  have narrow := not_lt_of_ge wide
  rw [sin_pos_iff_of_turn (by linarith) (by linarith)] at narrow
  push Not at narrow
  obtain ⟨near, far⟩ := narrow
  rcases beyond with ⟨rises, before | after⟩ | ⟨low, high⟩
  · have half := far (sub_pos.mpr rises)
    exact sin_nonneg_of_nonneg_of_le_pi (by linarith) (by linarith)
  · have half := far (sub_pos.mpr rises)
    exact sin_nonneg_far (by linarith) (by linarith)
  · exact sin_nonneg_of_nonneg_of_le_pi (by linarith) (by linarith)

end LinProg.Plane
