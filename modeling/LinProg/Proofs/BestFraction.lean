import Mathlib
import LinProg.Report.Number

set_option autoImplicit false

/-!
The closest fraction with a bounded denominator. Along a continued fraction two convergents in a row stand next to each
other, with the number between them; where the next denominator would be too large, no other fraction within the bound is
between the last two that are left, so the nearer of these is a closest one.
-/
namespace LinProg.Fraction

theorem distance_eq (x y : Rat) : distance x y = |x - y| := by
  by_cases less : x < y
  · rw [distance, if_pos less, abs_of_neg (sub_neg.mpr less), neg_sub]
  · rw [distance, if_neg less, abs_of_nonneg (sub_nonneg.mpr (not_lt.mp less))]

theorem mk_rat_parts {p q : Int} (positive : 0 < q) (coprime : IsCoprime p q) :
    mkRat p q.toNat = p / q ∧ ((mkRat p q.toNat).den : Int) = q := by
  have size : ((q.toNat : Nat) : Int) = q := Int.toNat_of_nonneg (le_of_lt positive)
  have nonzero : q.toNat ≠ 0 := by omega
  constructor
  · rw [Rat.mkRat_eq_div, ← Int.cast_natCast, size]
  · have single : q.toNat.gcd p.natAbs = 1 := by
      rw [Nat.gcd_comm, show q.toNat = q.natAbs by omega]
      exact Int.isCoprime_iff_gcd_eq_one.mp coprime
    rw [Rat.den_mkRat, if_neg nonzero, single, Nat.div_one, size]

namespace Convergents

-- What is left of the continued fraction of x is num / den, after two convergents in a row.
structure Follows (limit : Nat) (x : Rat) (c : Convergents) (num : Int) (den : Nat) : Prop where
  value : x * (c.q1 * num + c.q0 * den) = c.p1 * num + c.p0 * den
  unit : c.p1 * c.q0 - c.p0 * c.q1 = 1 ∨ c.p1 * c.q0 - c.p0 * c.q1 = -1
  nonneg : 0 ≤ c.q0
  grows : c.q0 ≤ c.q1
  positive : 0 < c.q1
  whole : c.q0 = 0 → c.q1 = 1
  within : c.q1 ≤ limit
  proper : (den : Int) < num

variable {limit : Nat} {x : Rat} {c : Convergents} {num : Int} {den : Nat}

theorem rest_eq (num : Int) {den : Nat} (left : 0 < den) :
    ((num % den).toNat : Int) = num - den * (num / den) ∧ ((num % den).toNat : Int) < den := by
  have nonzero : (den : Int) ≠ 0 := by exact_mod_cast ne_of_gt left
  rw [Int.toNat_of_nonneg (Int.emod_nonneg num nonzero)]
  exact ⟨Int.emod_def num den, Int.emod_lt_of_pos num (by exact_mod_cast left)⟩

theorem Follows.next (follows : Follows limit x c num den) (left : 0 < den)
    (short : (c.next (num / den)).q1 ≤ limit) :
    Follows limit x (c.next (num / den)) den (num % den).toNat := by
  obtain ⟨rest, less⟩ := rest_eq num left
  have whole : 1 ≤ num / den := (Int.le_ediv_iff_mul_le (by exact_mod_cast left)).mpr (by linarith [follows.proper])
  have reach : c.q1 ≤ num / den * c.q1 := le_mul_of_one_le_left (le_of_lt follows.positive) whole
  have start := follows.nonneg
  have positive := follows.positive
  refine { value := ?_, unit := ?_, nonneg := le_of_lt positive, grows := ?_, positive := ?_, whole := ?_,
           within := short, proper := less }
  · have rest' : ((num % den).toNat : Rat) = num - den * (num / den : Int) := by exact_mod_cast rest
    simp only [Convergents.next, rest']
    push_cast
    linear_combination follows.value
  · have turned : (c.next (num / den)).p1 * (c.next (num / den)).q0 - (c.next (num / den)).p0 * (c.next (num / den)).q1 =
        -(c.p1 * c.q0 - c.p0 * c.q1) := by
      simp only [Convergents.next]
      ring
    rw [turned]
    rcases follows.unit with one | other
    · exact .inr (by rw [one])
    · exact .inl (by rw [other, neg_neg])
  · change c.q1 ≤ c.q0 + num / den * c.q1
    linarith
  · change 0 < c.q0 + num / den * c.q1
    linarith
  · intro zero
    exact absurd zero (ne_of_gt positive)

theorem first_step (room : 1 ≤ limit) (x : Rat) :
    Follows limit x (start.next (x.num / x.den)) x.den (x.num % x.den).toNat := by
  obtain ⟨rest, less⟩ := rest_eq x.num x.den_pos
  have one : (start.next (x.num / x.den)).q1 = 1 := by simp [start, Convergents.next]
  refine { value := ?_, unit := ?_, nonneg := le_rfl, grows := ?_, positive := ?_, whole := fun _ => one,
           within := ?_, proper := less }
  · have rest' : ((x.num % x.den).toNat : Rat) = x.num - x.den * (x.num / x.den : Int) := by exact_mod_cast rest
    simp only [start, Convergents.next, rest']
    push_cast
    linear_combination Rat.mul_den_eq_num x
  · simp [start, Convergents.next]
  · rw [one]
    exact zero_le_one
  · rw [one]
    exact one_pos
  · rw [one]
    exact_mod_cast room

theorem Follows.ends (follows : Follows limit x c num den) : ∃ last rest,
    Follows limit x (c.follow limit num den) last rest ∧
      (rest = 0 ∨ (limit : Int) < ((c.follow limit num den).next (last / rest)).q1) := by
  fun_induction follow limit c num den with
  | case1 c num den left quotient beyond => exact ⟨num, den, follows, .inr beyond⟩
  | case2 c num den left quotient short ih => exact ih (follows.next left (not_lt.mp short))
  | case3 c num den none => exact ⟨num, den, follows, .inl (Nat.eq_zero_of_not_pos none)⟩

def steps (c : Convergents) (limit : Nat) : Int := (limit - c.q0) / c.q1

end Convergents

-- Two fractions next to each other, p / q and P / Q, with x between them or on one. What is between them has a denominator
-- beyond the limit.
structure Brackets (limit : Nat) (x : Rat) (side p q P Q : Int) : Prop where
  unit : side = 1 ∨ side = -1
  apart : p * Q - P * q = side
  near : 0 < q
  far : 0 < Q
  nearWithin : q ≤ limit
  farWithin : Q ≤ limit
  beyond : limit < q + Q
  fromFar : 0 ≤ side * (x * Q - P)
  toNear : 0 ≤ side * (p - x * q)

namespace Brackets

variable {limit : Nat} {x : Rat} {side p q P Q : Int}

theorem side_square (brackets : Brackets limit x side p q P Q) : side * side = 1 := by
  rcases brackets.unit with rfl | rfl <;> rfl

theorem near_coprime (brackets : Brackets limit x side p q P Q) : IsCoprime p q :=
  ⟨side * Q, -(side * P), by linear_combination side * brackets.apart + brackets.side_square⟩

theorem far_coprime (brackets : Brackets limit x side p q P Q) : IsCoprime P Q :=
  ⟨-(side * q), side * p, by linear_combination side * brackets.apart + brackets.side_square⟩

theorem outside (brackets : Brackets limit x side p q P Q) {r : Rat} (within : r.den ≤ limit) :
    side * (r * Q - P) ≤ 0 ∨ side * (p - r * q) ≤ 0 := by
  have whole := Rat.mul_den_eq_num r
  have positive : (0 : Rat) < r.den := by exact_mod_cast r.den_pos
  have above := brackets.near
  have high := brackets.far
  have low := brackets.beyond
  by_contra between
  push Not at between
  obtain ⟨first, second⟩ := between
  have left : 0 < side * (r.num * Q - P * r.den) := by
    have scaled := mul_pos first positive
    have same : side * (r * Q - P) * r.den = (side * (r.num * Q - P * r.den) : Int) := by
      push_cast
      rw [← whole]
      ring
    rw [same] at scaled
    exact_mod_cast scaled
  have right : 0 < side * (p * r.den - r.num * q) := by
    have scaled := mul_pos second positive
    have same : side * (p - r * q) * r.den = (side * (p * r.den - r.num * q) : Int) := by
      push_cast
      rw [← whole]
      ring
    rw [same] at scaled
    exact_mod_cast scaled
  have sum : side * (r.num * Q - P * r.den) * q + side * (p * r.den - r.num * q) * Q = r.den := by
    linear_combination (r.den : Int) * side * brackets.apart + (r.den : Int) * brackets.side_square
  have one := le_mul_of_one_le_left (le_of_lt above) left
  have other := le_mul_of_one_le_left (le_of_lt high) right
  have small : (r.den : Int) ≤ limit := by exact_mod_cast within
  linarith

-- Seen from x, what is past an end is farther than the end.
theorem farther {x r : Rat} {side n d : Int} (unit : side = 1 ∨ side = -1) (positive : 0 < d)
    (toward : 0 ≤ side * (x * d - n)) (past : side * (r * d - n) ≤ 0) : r = n / d ∨ |n / d - x| < |r - x| := by
  have scale : (0 : Rat) < d := by exact_mod_cast positive
  refine or_iff_not_imp_left.mpr ?_
  intro other
  rcases unit with rfl | rfl
  · have above : (n : Rat) / d ≤ x := by
      rw [div_le_iff₀ scale]
      push_cast at toward
      linarith
    have below : r < n / d := by
      refine lt_of_le_of_ne ?_ other
      rw [le_div_iff₀ scale]
      push_cast at past
      linarith
    rw [abs_of_nonpos (by linarith), abs_of_neg (by linarith)]
    linarith
  · have below : x ≤ n / d := by
      rw [le_div_iff₀ scale]
      push_cast at toward
      linarith
    have above : (n : Rat) / d < r := by
      refine lt_of_le_of_ne ?_ (Ne.symm other)
      rw [div_le_iff₀ scale]
      push_cast at past
      linarith
    rw [abs_of_nonneg (by linarith), abs_of_pos (by linarith)]
    linarith

theorem no_closer (brackets : Brackets limit x side p q P Q) {r : Rat} (within : r.den ≤ limit) :
    (r = p / q ∨ |p / q - x| < |r - x|) ∨ (r = P / Q ∨ |P / Q - x| < |r - x|) := by
  rcases brackets.outside within with past | past
  · exact .inr (farther brackets.unit brackets.far brackets.fromFar past)
  · have turned : -side = 1 ∨ -side = -1 := by
      rcases brackets.unit with rfl | rfl <;> simp
    refine .inl (farther turned brackets.near ?_ ?_)
    · have toward := brackets.toNear
      push_cast
      linarith
    · push_cast
      linarith

end Brackets

-- How far a fraction n / d is from x, read off the difference of n and x * d up to a sign.
theorem distance_of_gap {x n d w g s : Rat} (unit : s * s = 1) (scale : 0 < d) (weight : 0 < w) (nonneg : 0 ≤ g)
    (gap : s * (n - x * d) * w = g) : |n / d - x| * d * w = g := by
  have one : |s| = 1 := (mul_self_eq_one_iff.mp unit).elim (by simp [·]) (by simp [·])
  have cleared : (n / d - x) * d = n - x * d := by rw [sub_mul, div_mul_cancel₀ _ (ne_of_gt scale)]
  calc |n / d - x| * d * w = |(n / d - x) * d| * w := by rw [abs_mul, abs_of_pos scale]
    _ = |s * (n - x * d) * w| := by rw [cleared, abs_mul, abs_mul, one, one_mul, abs_of_pos weight]
    _ = g := by rw [gap, abs_of_nonneg nonneg]

namespace Convergents

variable {limit : Nat} {x : Rat} {c : Convergents} {num : Int} {den : Nat}

def side (c : Convergents) : Int := c.p1 * c.q0 - c.p0 * c.q1

def farTop (c : Convergents) (limit : Nat) : Int := c.p0 + c.steps limit * c.p1

def farBase (c : Convergents) (limit : Nat) : Int := c.q0 + c.steps limit * c.q1

namespace Follows

variable (follows : Follows limit x c num den)
include follows

theorem side_square : (c.side : Rat) * c.side = 1 := by
  rcases follows.unit with one | other
  · rw [side, one]
    norm_num
  · rw [side, other]
    norm_num

theorem weight_pos : (0 : Rat) < c.q1 * num + c.q0 * den := by
  have last : 0 < num := lt_of_le_of_lt (Int.natCast_nonneg den) follows.proper
  have product : 0 < c.q1 * num + c.q0 * den :=
    add_pos_of_pos_of_nonneg (mul_pos follows.positive last) (mul_nonneg follows.nonneg (Int.natCast_nonneg den))
  exact_mod_cast product

theorem near_gap : c.side * (c.p1 - x * c.q1) * (c.q1 * num + c.q0 * den) = den := by
  have square := follows.side_square
  simp only [side] at square ⊢
  push_cast at square ⊢
  linear_combination (-(c.p1 * c.q0 - c.p0 * c.q1) * c.q1 : Rat) * follows.value + (den : Rat) * square

theorem far_gap (limit : Nat) : c.side * (x * c.farBase limit - c.farTop limit) * (c.q1 * num + c.q0 * den) =
    num - c.steps limit * den := by
  have square := follows.side_square
  simp only [side, farBase, farTop] at square ⊢
  push_cast at square ⊢
  linear_combination ((c.p1 * c.q0 - c.p0 * c.q1) * (c.q0 + c.steps limit * c.q1) : Rat) * follows.value +
    (num - c.steps limit * den : Rat) * square

theorem steps_bounds : 0 ≤ c.steps limit ∧ c.farBase limit ≤ limit ∧ limit < c.farBase limit + c.q1 := by
  have positive := follows.positive
  have room : 0 ≤ limit - c.q0 := by linarith [follows.grows, follows.within]
  have below := Int.ediv_mul_le (limit - c.q0) (ne_of_gt positive)
  have above := Int.lt_ediv_add_one_mul_self (limit - c.q0) positive
  refine ⟨Int.ediv_nonneg room (le_of_lt positive), ?_, ?_⟩
  · rw [farBase, steps]
    linarith
  · rw [farBase, steps]
    linarith

theorem passed (left : 0 < den) (beyond : (limit : Int) < (c.next (num / den)).q1) : c.steps limit * den ≤ num := by
  have less : c.farBase limit < (c.next (num / den)).q1 := lt_of_le_of_lt follows.steps_bounds.2.1 beyond
  have fewer : c.steps limit < num / den :=
    lt_of_mul_lt_mul_right (lt_of_add_lt_add_left less) (le_of_lt follows.positive)
  exact Int.mul_le_of_le_ediv (by exact_mod_cast left) (le_of_lt fewer)

theorem brackets (left : 0 < den) (beyond : (limit : Int) < (c.next (num / den)).q1) :
    Brackets limit x c.side c.p1 c.q1 (c.farTop limit) (c.farBase limit) := by
  have positive := follows.positive
  obtain ⟨forward, reached, past⟩ := follows.steps_bounds
  have base : 0 ≤ c.farBase limit := add_nonneg follows.nonneg (mul_nonneg forward (le_of_lt positive))
  have far : 0 < c.farBase limit := by linarith [follows.within]
  refine { unit := follows.unit, apart := ?_, near := positive, far := far, nearWithin := follows.within,
           farWithin := reached, beyond := by linarith, fromFar := ?_, toNear := ?_ }
  · rw [farBase, farTop, side]
    ring
  · refine nonneg_of_mul_nonneg_left ?_ follows.weight_pos
    rw [follows.far_gap limit, sub_nonneg]
    exact_mod_cast follows.passed left beyond
  · refine nonneg_of_mul_nonneg_left ?_ follows.weight_pos
    rw [follows.near_gap]
    exact Nat.cast_nonneg den

theorem finished (none : den = 0) : x.den ≤ limit := by
  have weight := follows.weight_pos
  have value := follows.value
  rw [none, Nat.cast_zero, mul_zero, add_zero] at weight value
  rw [mul_zero, add_zero] at value
  have last : (num : Rat) ≠ 0 := by
    rintro zero
    simp [zero] at weight
  have reached : x * c.q1 = c.p1 := mul_right_cancel₀ last (by rw [mul_assoc, value])
  have whole : x.num * c.q1 = c.p1 * x.den := by
    have scaled : (x * x.den) * c.q1 = c.p1 * x.den := by rw [← reached]; ring
    rw [Rat.mul_den_eq_num] at scaled
    exact_mod_cast scaled
  have divides : (x.den : Int) ∣ c.q1 := by
    have coprime : IsCoprime (x.den : Int) x.num := (Rat.isCoprime_num_den x).symm
    exact coprime.dvd_of_dvd_mul_left ⟨c.p1, by rw [whole, mul_comm]⟩
  have small := Int.le_of_dvd follows.positive divides
  have within := follows.within
  omega

-- Where both are equally far from x, the convergent has the smaller denominator, unless only whole numbers are allowed.
theorem tie (passed : c.steps limit * den ≤ num) (far : 0 < c.farBase limit) (room : 2 ≤ limit)
    (same : |(c.p1 : Rat) / c.q1 - x| = |(c.farTop limit : Rat) / c.farBase limit - x|) : c.q1 < c.farBase limit := by
  have positive := follows.positive
  have start := follows.nonneg
  have grows := follows.grows
  have proper := follows.proper
  have within := follows.within
  obtain ⟨forward, reached, past⟩ := follows.steps_bounds
  have ahead : (0 : Rat) ≤ num - c.steps limit * den := sub_nonneg.mpr (by exact_mod_cast passed)
  have near := distance_of_gap follows.side_square (by exact_mod_cast positive) follows.weight_pos (Nat.cast_nonneg den)
    follows.near_gap
  have other : |(c.farTop limit : Rat) / c.farBase limit - x| * c.farBase limit * (c.q1 * num + c.q0 * den) =
      num - c.steps limit * den :=
    distance_of_gap (s := -c.side) (by linear_combination follows.side_square) (by exact_mod_cast far)
      follows.weight_pos ahead (by linear_combination follows.far_gap limit)
  rw [← same] at other
  have balance : (den : Rat) * c.farBase limit = (num - c.steps limit * den) * c.q1 := by
    linear_combination (c.q1 : Rat) * other - (c.farBase limit : Rat) * near
  have whole : (den : Int) * c.farBase limit = (num - c.steps limit * den) * c.q1 := by exact_mod_cast balance
  have base : c.farBase limit = c.q0 + c.steps limit * c.q1 := rfl
  by_contra small
  rcases eq_or_lt_of_le forward with none | some
  · rw [base, ← none, zero_mul, add_zero, zero_mul, sub_zero] at whole
    have less : den * c.q0 < num * c.q1 :=
      lt_of_le_of_lt (mul_le_mul_of_nonneg_left grows (Int.natCast_nonneg den)) (mul_lt_mul_of_pos_right proper positive)
    exact ne_of_lt less whole
  · have more : c.q1 ≤ c.steps limit * c.q1 := le_mul_of_one_le_left (le_of_lt positive) some
    have zero : c.q0 = 0 := by linarith
    have one := follows.whole zero
    have least : (2 : Int) ≤ limit := by exact_mod_cast room
    linarith

end Follows

theorem current_parts (positive : 0 < c.q1) (coprime : IsCoprime c.p1 c.q1) :
    c.current = c.p1 / c.q1 ∧ (c.current.den : Int) = c.q1 :=
  mk_rat_parts positive coprime

theorem between_parts (positive : 0 < c.farBase limit) (coprime : IsCoprime (c.farTop limit) (c.farBase limit)) :
    c.between limit = c.farTop limit / c.farBase limit ∧ ((c.between limit).den : Int) = c.farBase limit :=
  mk_rat_parts positive coprime

theorem start_follow (room : 1 ≤ limit) (x : Rat) : start.follow limit x.num x.den =
    (start.next (x.num / x.den)).follow limit x.den (x.num % x.den).toNat := by
  have short : ¬ (limit : Int) < (start.next (x.num / x.den)).q1 := by
    have one : (start.next (x.num / x.den)).q1 = 1 := by simp [start, Convergents.next]
    rw [one]
    omega
  rw [follow, dif_pos x.den_pos]
  exact if_neg short

end Convergents

-- Of the fractions within the limit none is closer to x than the best one, and those as close have larger denominators,
-- unless only whole numbers are within the limit.
structure Closest (limit : Nat) (x best : Rat) : Prop where
  within : best.den ≤ limit
  least : ∀ r : Rat, r.den ≤ limit → r = best ∨ |best - x| < |r - x| ∨
    (|best - x| = |r - x| ∧ (2 ≤ limit → best.den < r.den))

theorem closest_spec {limit : Nat} (room : 1 ≤ limit) (x : Rat) : Closest limit x (closest limit x) := by
  by_cases small : x.den ≤ limit
  · rw [closest, if_pos small]
    refine ⟨small, ?_⟩
    intro r _
    by_cases same : r = x
    · exact .inl same
    · refine .inr (.inl ?_)
      rw [sub_self, abs_zero]
      exact abs_pos.mpr (sub_ne_zero.mpr same)
  · obtain ⟨num, den, follows, done⟩ := (Convergents.first_step room x).ends
    rw [← Convergents.start_follow room] at follows done
    rw [closest, if_neg small]
    generalize Convergents.start.follow limit x.num x.den = c at follows done
    have left : 0 < den := Nat.pos_of_ne_zero fun none => small (follows.finished none)
    have beyond := done.resolve_left (ne_of_gt left)
    have brackets := follows.brackets left beyond
    obtain ⟨near, nearBase⟩ := Convergents.current_parts brackets.near brackets.near_coprime
    obtain ⟨far, farBase⟩ := Convergents.between_parts brackets.far brackets.far_coprime
    simp only [distance_eq]
    by_cases prefers : |c.current - x| ≤ |c.between limit - x|
    · rw [if_pos prefers]
      refine ⟨by exact_mod_cast nearBase.trans_le brackets.nearWithin, ?_⟩
      intro r within
      rcases brackets.no_closer within with (same | less) | (same | less)
      · exact .inl (same.trans near.symm)
      · exact .inr (.inl (near ▸ less))
      · rw [← far] at same
        rcases eq_or_lt_of_le prefers with equal | less
        · refine .inr (.inr ⟨same ▸ equal, fun wide => ?_⟩)
          have smaller := follows.tie (follows.passed left beyond) brackets.far wide (by rw [← near, ← far, equal])
          rw [same]
          exact_mod_cast (nearBase.trans_lt smaller).trans_eq farBase.symm
        · exact .inr (.inl (same ▸ less))
      · rw [← far] at less
        exact .inr (.inl (lt_of_le_of_lt prefers less))
    · rw [if_neg prefers]
      have nearer := not_le.mp prefers
      refine ⟨by exact_mod_cast farBase.trans_le brackets.farWithin, ?_⟩
      intro r within
      rcases brackets.no_closer within with (same | less) | (same | less)
      · rw [← near] at same
        exact .inr (.inl (same ▸ nearer))
      · rw [← near] at less
        exact .inr (.inl (nearer.trans less))
      · exact .inl (same.trans far.symm)
      · exact .inr (.inl (far ▸ less))

namespace Closest

variable {limit : Nat} {x s t : Rat}

theorem le (best : Closest limit x s) {r : Rat} (within : r.den ≤ limit) : |s - x| ≤ |r - x| := by
  rcases best.least r within with rfl | less | ⟨equal, _⟩
  · exact le_rfl
  · exact le_of_lt less
  · exact le_of_eq equal

theorem unique (wide : 2 ≤ limit) (first : Closest limit x s) (second : Closest limit x t) : s = t := by
  have equal : |s - x| = |t - x| := le_antisymm (first.le second.within) (second.le first.within)
  rcases first.least t second.within with same | less | ⟨_, smaller⟩
  · exact same.symm
  · exact absurd equal (ne_of_lt less)
  · rcases second.least s first.within with same | less | ⟨_, larger⟩
    · exact same
    · exact absurd equal.symm (ne_of_lt less)
    · exact absurd (smaller wide) (Nat.lt_asymm (larger wide))

theorem opposite (best : Closest limit x s) : Closest limit (-x) (-s) := by
  have mirrored (a : Rat) : |-a - -x| = |a - x| := by rw [neg_sub_neg, abs_sub_comm]
  refine ⟨by simpa using best.within, ?_⟩
  intro r within
  have turned := best.least (-r) (by simpa using within)
  rw [← mirrored s, ← mirrored (-r), neg_neg, Rat.neg_den, neg_eq_iff_eq_neg] at turned
  simpa using turned

end Closest

theorem closest_neg {limit : Nat} (wide : 2 ≤ limit) (x : Rat) : closest limit (-x) = -closest limit x := by
  have room : 1 ≤ limit := le_trans one_le_two wide
  exact (closest_spec room (-x)).unique wide (closest_spec room x).opposite

theorem apart {r s : Rat} (different : r ≠ s) : 1 ≤ |r - s| * (r.den * s.den) := by
  have left : (0 : Rat) < r.den := by exact_mod_cast r.den_pos
  have right : (0 : Rat) < s.den := by exact_mod_cast s.den_pos
  have crossed : r.num * s.den - s.num * r.den ≠ 0 := by
    intro equal
    refine different ?_
    rw [← Rat.num_div_den r, ← Rat.num_div_den s, div_eq_div_iff (ne_of_gt left) (ne_of_gt right)]
    exact_mod_cast sub_eq_zero.mp equal
  have gap : (r - s) * (r.den * s.den) = (r.num * s.den - s.num * r.den : Int) := by
    push_cast
    linear_combination (s.den : Rat) * Rat.mul_den_eq_num r - (r.den : Rat) * Rat.mul_den_eq_num s
  have one : (1 : Rat) ≤ |((r.num * s.den - s.num * r.den : Int) : Rat)| := by exact_mod_cast Int.one_le_abs crossed
  rw [← gap, abs_mul, abs_of_pos (mul_pos left right)] at one
  exact one

theorem apart_within {limit : Nat} {r s : Rat} (first : r.den ≤ limit) (second : s.den ≤ limit) (different : r ≠ s) :
    1 / (limit * limit : Rat) ≤ |r - s| := by
  have positive : (0 : Rat) < limit := by exact_mod_cast lt_of_lt_of_le r.den_pos first
  have small : (r.den * s.den : Rat) ≤ limit * limit := by exact_mod_cast Nat.mul_le_mul first second
  have most := (apart different).trans (mul_le_mul_of_nonneg_left small (abs_nonneg (r - s)))
  exact (div_le_iff₀ (mul_pos positive positive)).mpr most

theorem apart_from_zero {limit : Nat} {r : Rat} (within : r.den ≤ limit) (nonzero : r ≠ 0) : 1 / (limit : Rat) ≤ |r| := by
  have positive : (0 : Rat) < limit := by exact_mod_cast lt_of_lt_of_le r.den_pos within
  have small : (r.den : Rat) ≤ limit := by exact_mod_cast within
  have one := apart nonzero
  rw [sub_zero, Rat.den_zero, Nat.cast_one, mul_one] at one
  exact (div_le_iff₀ positive).mpr (one.trans (mul_le_mul_of_nonneg_left small (abs_nonneg r)))

theorem Closest.recovers {limit : Nat} {x r best : Rat} (closest : Closest limit x best) (within : r.den ≤ limit)
    (near : |x - r| < 1 / (2 * limit * limit)) : best = r := by
  by_contra different
  have far := apart_within closest.within within different
  have path := abs_sub_le best x r
  have nearer := closest.le within
  have half : 1 / (limit * limit : Rat) = 2 * (1 / (2 * limit * limit)) := by ring
  rw [abs_sub_comm r x] at nearer
  linarith

end LinProg.Fraction
