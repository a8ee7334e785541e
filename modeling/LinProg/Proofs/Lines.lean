import LinProg.Plane.Line
import LinProg.Proofs.Rational

set_option autoImplicit false

namespace LinProg.Plane

def Point.along (p d : Point Rat) (t : Rat) : Point Rat := ⟨p.x + t * d.x, p.y + t * d.y⟩

namespace Line

def room (l : Line Rat) (p : Point Rat) : Rat := l.rhs - (l.a * p.x + l.b * p.y)

def slope (l : Line Rat) (d : Point Rat) : Rat := l.a * d.x + l.b * d.y

theorem room_along (l : Line Rat) (p d : Point Rat) (t : Rat) : l.room (p.along d t) = l.room p - t * l.slope d := by
  simp only [room, slope, Point.along]
  ring

theorem parallel_tolerance_rational : (parallelTolerance : Rat) = 1 / 10 ^ 8 := by
  norm_num [parallelTolerance]

def Apart (l m : Line Rat) : Prop := determinant l m = 0 ∨ 1 / 10 ^ 8 ≤ |determinant l m|

theorem determinant_swap (l m : Line Rat) : determinant m l = -determinant l m := by
  simp only [determinant]
  ring

theorem meet_eq {l m : Line Rat} {p : Point Rat} (apart : Apart l m) (crossing : determinant l m ≠ 0)
    (first : l.room p = 0) (second : m.room p = 0) : meet? l m = some p := by
  have wide : 1 / 10 ^ 8 ≤ |determinant l m| := apart.resolve_left crossing
  have met : ¬ Scalar.abs (determinant l m) < parallelTolerance := by
    rw [Scalar.abs_rational, parallel_tolerance_rational]
    exact not_lt.mpr wide
  have left : l.rhs = l.a * p.x + l.b * p.y := sub_eq_zero.mp first
  have right : m.rhs = m.a * p.x + m.b * p.y := sub_eq_zero.mp second
  have x : (l.rhs * m.b - m.rhs * l.b) / determinant l m = p.x := by
    rw [div_eq_iff crossing, left, right, determinant]
    ring
  have y : (l.a * m.rhs - m.a * l.rhs) / determinant l m = p.y := by
    rw [div_eq_iff crossing, left, right, determinant]
    ring
  simp only [meet?, if_neg met, x, y]

theorem meet_on {l m : Line Rat} {p : Point Rat} (met : meet? l m = some p) :
    determinant l m ≠ 0 ∧ l.room p = 0 ∧ m.room p = 0 := by
  by_cases parallel : Scalar.abs (determinant l m) < parallelTolerance
  · rw [meet?, if_pos parallel] at met
    cases met
  · rw [meet?, if_neg parallel, Option.some.injEq] at met
    have crossing : determinant l m ≠ 0 := by
      intro level
      refine parallel ?_
      rw [level, Scalar.abs_rational, abs_zero, parallel_tolerance_rational]
      norm_num
    refine ⟨crossing, ?_, ?_⟩
    all_goals
      rw [← met, room]
      field_simp
      rw [determinant]
      ring

theorem exists_meeting {lines : List (Line Rat)} {p : Point Rat} (listed : p ∈ meetings lines) :
    ∃ l m, [l, m].Sublist lines ∧ meet? l m = some p := by
  induction lines with
  | nil => cases listed
  | cons first rest ih =>
      rw [meetings, List.mem_append] at listed
      cases listed with
      | inl here =>
          obtain ⟨m, member, met⟩ := List.mem_filterMap.mp here
          exact ⟨first, m, (List.singleton_sublist.mpr member).cons_cons first, met⟩
      | inr later =>
          obtain ⟨l, m, ordered, met⟩ := ih later
          exact ⟨l, m, ordered.cons first, met⟩

theorem meet_listed {lines : List (Line Rat)} {l m : Line Rat} {p : Point Rat} (ordered : [l, m].Sublist lines)
    (met : meet? l m = some p) : p ∈ meetings lines := by
  induction lines with
  | nil => cases ordered
  | cons first rest ih =>
      rw [meetings, List.mem_append]
      cases ordered with
      | cons _ later => exact .inr (ih later)
      | cons_cons _ later =>
          have member : m ∈ rest := List.singleton_sublist.mp later
          exact .inl (List.mem_filterMap.mpr ⟨m, member, met⟩)

def Listed (lines : List (Line Rat)) (p : Point Rat) (l m : Line Rat) : Prop :=
  determinant l m ≠ 0 → l.room p = 0 → m.room p = 0 → p ∈ meetings lines

-- Whichever of two lines comes first, they meet at the point that is on both.
theorem crossing_listed {lines : List (Line Rat)} {l m : Line Rat} (separated : lines.Pairwise Apart) (p : Point Rat)
    (first : l ∈ lines) (second : m ∈ lines) : Listed lines p l m := by
  have ordered : lines.Pairwise (Listed lines p) := by
    rw [List.pairwise_iff_forall_sublist] at separated ⊢
    intro l m before crossing left right
    exact meet_listed before (meet_eq (separated before) crossing left right)
  have turned : lines.Pairwise (flip (Listed lines p)) := by
    refine ordered.imp ?_
    intro l m listed crossing right left
    rw [determinant_swap, neg_ne_zero] at crossing
    exact listed crossing left right
  have same : ∀ l ∈ lines, Listed lines p l l := by
    intro l _ crossing
    rw [determinant, sub_self] at crossing
    exact absurd rfl crossing
  exact ordered.forall_of_forall_of_flip same turned first second

theorem x_intercept_eq {l : Line Rat} {p : Point Rat} (sloped : l.a ≠ 0) (ground : p.y = 0) (on : l.room p = 0) :
    l.xIntercept? = some p := by
  have x : l.rhs / l.a = p.x := by
    rw [room, ground, mul_zero, add_zero, sub_eq_zero] at on
    rw [on, mul_div_cancel_left₀ _ sloped]
  cases p
  simp_all [xIntercept?]

theorem y_intercept_eq {l : Line Rat} {p : Point Rat} (sloped : l.b ≠ 0) (wall : p.x = 0) (on : l.room p = 0) :
    l.yIntercept? = some p := by
  have y : l.rhs / l.b = p.y := by
    rw [room, wall, mul_zero, zero_add, sub_eq_zero] at on
    rw [on, mul_div_cancel_left₀ _ sloped]
  cases p
  simp_all [yIntercept?]

theorem x_intercept_on {l : Line Rat} {p : Point Rat} (met : l.xIntercept? = some p) :
    l.a ≠ 0 ∧ p.y = 0 ∧ l.room p = 0 := by
  by_cases level : l.a = 0
  · simp [xIntercept?, level] at met
  · simp only [xIntercept?, beq_eq_false_iff_ne.mpr level, Bool.false_eq_true, if_false, Option.some.injEq] at met
    subst p
    refine ⟨level, rfl, ?_⟩
    rw [room, mul_div_cancel₀ _ level, mul_zero, add_zero, sub_self]

theorem y_intercept_on {l : Line Rat} {p : Point Rat} (met : l.yIntercept? = some p) :
    l.b ≠ 0 ∧ p.x = 0 ∧ l.room p = 0 := by
  by_cases level : l.b = 0
  · simp [yIntercept?, level] at met
  · simp only [yIntercept?, beq_eq_false_iff_ne.mpr level, Bool.false_eq_true, if_false, Option.some.injEq] at met
    subst p
    refine ⟨level, rfl, ?_⟩
    rw [room, mul_div_cancel₀ _ level, mul_zero, zero_add, sub_self]

theorem mem_candidates_iff (lines : List (Line Rat)) (p : Point Rat) : p ∈ candidates lines ↔
    p = ⟨0, 0⟩ ∨ (∃ l ∈ lines, l.xIntercept? = some p ∨ l.yIntercept? = some p) ∨ p ∈ meetings lines := by
  simp [candidates]

end Line

end LinProg.Plane
