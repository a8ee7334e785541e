import LinProg.Report.Number
import LinProg.Proofs.BestFraction
import LinProg.Proofs.Extent
import LinProg.Proofs.Readable

set_option autoImplicit false

namespace LinProg.Report

theorem tolerance_rational : (tolerance : Rat) = 1 / 10 ^ 9 := by
  unfold tolerance
  norm_num

def CloseTo (x r : Rat) : Prop := |r - x| ≤ 1 / 10 ^ 9 * max 1 |x|

theorem close_to_neg (x r : Rat) : CloseTo (-x) (-r) ↔ CloseTo x r := by
  rw [CloseTo, CloseTo, neg_sub_neg, abs_sub_comm, abs_neg]

variable {limit : Nat} {x r : Rat} {text : String}

theorem finite_text_close (close : CloseTo x (Fraction.closest limit x)) :
    finiteText limit x x = fractionText (Fraction.closest limit x) := by
  simp only [finiteText, tolerance_rational, Scalar.abs_rational, Scalar.larger_rational]
  exact if_neg (not_lt.mpr close)

theorem finite_text_far (far : ¬ CloseTo x (Fraction.closest limit x)) :
    finiteText limit x x = Decimal.briefText (.ofRat x) := by
  simp only [finiteText, tolerance_rational, Scalar.abs_rational, Scalar.larger_rational]
  exact if_pos (not_le.mp far)

theorem number_within_eq (room : 1 ≤ limit) (x : Rat) :
    numberWithin limit x = .ok (if |x| < 1 / 10 ^ 9 then "0" else finiteText limit x x) := by
  have value : (Scalar.value x).rational? = some x := Decimal.rational_of_rat x
  have above : ¬ (limit : Int) < 1 := by omega
  simp only [numberWithin, value, tolerance_rational, Scalar.abs_rational, if_neg above, Int.toNat_natCast]
  split <;> rfl

inductive Written (limit : Nat) : Rat → String → Prop
  | whole (p : Int) : Written limit p (toString p)
  | parts (p : Int) (q : Nat) (proper : 1 < q) (within : q ≤ limit) (reduced : p.natAbs.Coprime q) :
      Written limit (p / q) s!"{p}/{q}"

theorem fraction_written (within : r.den ≤ limit) : Written limit r (fractionText r) := by
  rw [fractionText]
  by_cases whole : r.den = 1
  · rw [if_pos whole]
    have text := @Written.whole limit r.num
    rw [Rat.coe_int_num_of_den_eq_one whole] at text
    exact text
  · rw [if_neg whole]
    have text := Written.parts r.num r.den (by have := r.den_pos; omega) within r.reduced
    rw [Rat.num_div_den] at text
    exact text

theorem Written.unique (written : Written limit r text) : text = fractionText r := by
  cases written with
  | whole p => simp [fractionText]
  | parts p q proper within reduced =>
      have positive : (0 : Int) < q := by omega
      have num : (p / q : Rat).num = p := Rat.num_div_eq_of_coprime positive reduced
      have den : (p / q : Rat).den = q := by exact_mod_cast Rat.den_div_eq_of_coprime positive reduced
      rw [fractionText, num, den, if_neg (ne_of_gt proper)]

-- Near to a fraction other than zero nothing is shown as zero, unless the denominators go beyond what can be seen.
theorem visible_near (within : r.den ≤ limit) (nonzero : r ≠ 0) (near : |x - r| < 1 / (2 * limit * limit))
    (small : limit < 10 ^ 9) : 1 / 10 ^ 9 ≤ |x| := by
  have whole : 1 ≤ limit := le_trans r.den_pos within
  have positive : (0 : Rat) < limit := by exact_mod_cast whole
  have least : (1 : Rat) ≤ limit := by exact_mod_cast whole
  have most : (limit : Rat) + 1 ≤ 10 ^ 9 := by exact_mod_cast small
  have away := Fraction.apart_from_zero within nonzero
  have path := abs_sub_abs_le_abs_sub r x
  rw [abs_sub_comm] at path
  have left : 1 / 10 ^ 9 ≤ 1 / (limit : Rat) - 1 / (2 * limit * limit) := by
    have same : 1 / (limit : Rat) - 1 / (2 * limit * limit) = (2 * limit - 1) / (2 * limit * limit) := by
      field_simp
    rw [same, div_le_div_iff₀ (by norm_num) (by positivity)]
    nlinarith
  linarith

theorem text_close (room : 1 ≤ limit) (visible : 1 / 10 ^ 9 ≤ |x|) (close : CloseTo x (Fraction.closest limit x)) :
    numberWithin limit x = .ok (fractionText (Fraction.closest limit x)) := by
  rw [number_within_eq room, if_neg (not_lt.mpr visible), finite_text_close close]

theorem text_far (room : 1 ≤ limit) (visible : 1 / 10 ^ 9 ≤ |x|) (far : ¬ CloseTo x (Fraction.closest limit x)) :
    numberWithin limit x = .ok (Decimal.briefText (.ofRat x)) := by
  rw [number_within_eq room, if_neg (not_lt.mpr visible), finite_text_far far]

theorem text_near (within : r.den ≤ limit) (near : |x - r| < 1 / (2 * limit * limit)) (close : CloseTo x r)
    (seen : |x| < 1 / 10 ^ 9 → r = 0 ∨ limit < 10 ^ 9) : numberWithin limit x = .ok (fractionText r) := by
  have room : 1 ≤ limit := le_trans r.den_pos within
  by_cases hidden : |x| < 1 / 10 ^ 9
  · have zero : r = 0 := by
      by_contra nonzero
      have small := (seen hidden).resolve_left nonzero
      exact absurd (visible_near within nonzero near small) (not_le.mpr hidden)
    rw [number_within_eq room, if_pos hidden, zero]
    rfl
  · have same := (Fraction.closest_spec room x).recovers within near
    rw [← same] at close ⊢
    exact text_close room (not_lt.mp hidden) close

-- A closest fraction is shown where it is close enough, and six digits where not. So a fraction within the limit is found
-- again from what is near to it. Numbers below the tolerance are all shown as zero, which matters to the second part only
-- where a denominator of 10 ^ 9 is within the limit.
theorem best_fraction_shown (limit : Nat) (room : 1 ≤ limit) :
    (∀ x : Rat, 1 / 10 ^ 9 ≤ |x| → ∃ best : Rat, best.den ≤ limit ∧ (∀ r : Rat, r.den ≤ limit → |best - x| ≤ |r - x|) ∧
      ∃ text, numberWithin limit x = .ok text ∧
        (CloseTo x best → Written limit best text) ∧
        (¬ CloseTo x best → text = Decimal.briefText (.ofRat x) ∧ ∃ n, Decimal.Numeral.parse? text.toList = some n ∧
          Decimal.SixDigits x n.toRat ∧ |n.toRat - x| ≤ 5 / 10 ^ 6 * |x|)) ∧
    (∀ x r : Rat, r.den ≤ limit → |x - r| < 1 / (2 * limit * limit) → CloseTo x r →
      (|x| < 1 / 10 ^ 9 → r = 0 ∨ limit < 10 ^ 9) → ∃ text, numberWithin limit x = .ok text ∧ Written limit r text) := by
  constructor
  · intro x visible
    have closest := Fraction.closest_spec room x
    refine ⟨_, closest.within, fun r within => closest.le within, ?_⟩
    by_cases close : CloseTo x (Fraction.closest limit x)
    · exact ⟨_, text_close room visible close, fun _ => fraction_written closest.within, fun far => absurd close far⟩
    · have nonzero : x ≠ 0 := by
        rintro rfl
        norm_num at visible
      obtain ⟨n, read, six⟩ := Decimal.brief_reads nonzero
      exact ⟨_, text_far room visible close, fun near => absurd near close, fun _ => ⟨rfl, n, read, six, six.near⟩⟩
  · intro x r within near close seen
    exact ⟨_, text_near within near close seen, fraction_written within⟩

-- What is near a third is shown as a third, and a third itself in six digits where only whole numbers are within the limit.
theorem third_shown : numberWithin 1000 (333333333333 / 10 ^ 12 : Rat) = .ok "1/3" ∧
    ∃ text n, numberWithin 1 (1 / 3 : Rat) = .ok text ∧ Decimal.Numeral.parse? text.toList = some n ∧
      Decimal.SixDigits (1 / 3) n.toRat := by
  constructor
  · obtain ⟨text, shown, written⟩ := (best_fraction_shown 1000 (by norm_num)).2 (333333333333 / 10 ^ 12) (1 / 3)
      (by norm_num) (by norm_num [abs_lt]) (by norm_num [CloseTo, abs_le]) (fun _ => .inr (by norm_num))
    have third : fractionText (1 / 3) = "1/3" := by decide +kernel
    rw [written.unique, third] at shown
    exact shown
  · obtain ⟨best, within, -, text, shown, -, six⟩ := (best_fraction_shown 1 le_rfl).1 (1 / 3) (by norm_num)
    have far : ¬ CloseTo (1 / 3) best := by
      intro close
      have other : best ≠ 1 / 3 := by
        rintro rfl
        norm_num at within
      have apart := @Fraction.apart_within 3 _ _ (le_trans within (by norm_num)) (by norm_num) other
      norm_num [CloseTo, abs_of_pos] at close apart
      linarith
    obtain ⟨-, n, read, digits, -⟩ := six far
    exact ⟨text, n, shown, read, digits⟩

theorem to_string_neg {p : Int} (positive : 0 < p) : toString (-p) = "-" ++ toString p := by
  have below : ¬ 0 ≤ -p := by omega
  rw [Int.toString_eq_repr, Int.toString_eq_repr, Int.repr_eq_if, if_neg below, neg_neg, Int.repr_eq_if,
    if_pos (le_of_lt positive)]

theorem fraction_text_neg (positive : 0 < r) :
    fractionText r ≠ "0" ∧ fractionText (-r) = "-" ++ fractionText r := by
  have num : 0 < r.num := Rat.num_pos.mpr positive
  rw [fractionText, fractionText, Rat.den_neg_eq_den, Rat.num_neg_eq_neg_num, to_string_neg num]
  by_cases whole : r.den = 1
  · rw [if_pos whole, if_pos whole]
    refine ⟨?_, rfl⟩
    intro zero
    have none : r.num = 0 := Int.repr_inj.mp zero
    exact ne_of_gt num none
  · rw [if_neg whole, if_neg whole]
    refine ⟨?_, by simp only [String.append_assoc]⟩
    intro zero
    have slash : '/' ∈ (toString r.num ++ toString "/" ++ toString r.den).toList := by
      rw [String.toList_append, String.toList_append]
      exact List.mem_append_left _ (List.mem_append_right _ (by decide))
    rw [zero] at slash
    exact absurd slash (by decide)

theorem brief_text_neg (positive : 0 < x) :
    Decimal.briefText (.ofRat x) ≠ "0" ∧ Decimal.briefText (.ofRat (-x)) = "-" ++ Decimal.briefText (.ofRat x) := by
  constructor
  · intro zero
    obtain ⟨n, read, six⟩ := Decimal.brief_reads (ne_of_gt positive)
    have near := six.near
    rw [zero, show Decimal.Numeral.parse? "0".toList = some ⟨false, 0, 0⟩ by decide, Option.some.injEq] at read
    rw [← read, abs_of_pos positive] at near
    norm_num [Decimal.Numeral.toRat, abs_of_pos positive] at near
    linarith
  · have below : ¬ x < 0 := not_lt.mpr (le_of_lt positive)
    have above : -x < 0 := neg_lt_zero.mpr positive
    simp [Decimal.of_rat_eq, Decimal.briefText, Decimal.Layout.write, Decimal.sign, below, above]

theorem closest_nonneg (room : 1 ≤ limit) (nonneg : 0 ≤ x) : 0 ≤ Fraction.closest limit x := by
  have nearer := (Fraction.closest_spec room x).le (r := 0) room
  rw [zero_sub, abs_neg, abs_of_nonneg nonneg] at nearer
  linarith [(abs_le.mp nearer).1]

theorem text_of_opposite (wide : 2 ≤ limit) (positive : 0 < x) :
    ∃ text, numberWithin limit x = .ok text ∧ numberWithin limit (-x) = .ok (if text = "0" then "0" else "-" ++ text) := by
  have room : 1 ≤ limit := le_trans one_le_two wide
  have opposite := Fraction.closest_neg wide x
  by_cases hidden : |x| < 1 / 10 ^ 9
  · refine ⟨"0", ?_, ?_⟩
    · rw [number_within_eq room, if_pos hidden]
    · rw [number_within_eq room, abs_neg, if_pos hidden, if_pos rfl]
  · have visible := not_lt.mp hidden
    have mirrored : 1 / 10 ^ 9 ≤ |-x| := by rwa [abs_neg]
    by_cases close : CloseTo x (Fraction.closest limit x)
    · refine ⟨_, text_close room visible close, ?_⟩
      rw [text_close room mirrored (by rw [opposite, close_to_neg]; exact close), opposite]
      rcases eq_or_lt_of_le (closest_nonneg room (le_of_lt positive)) with zero | above
      · rw [← zero]
        rfl
      · obtain ⟨other, signed⟩ := fraction_text_neg above
        rw [if_neg other, signed]
    · refine ⟨_, text_far room visible close, ?_⟩
      obtain ⟨other, signed⟩ := brief_text_neg positive
      rw [text_far room mirrored (by rw [opposite, close_to_neg]; exact close), if_neg other, signed]

-- Two halves that are equally near: the same one is shown on either side of zero.
theorem quarter_opposite : numberWithin 2 (10 ^ 9 + 1 / 4 : Rat) = .ok "1000000000" ∧
    numberWithin 2 (-(10 ^ 9 + 1 / 4) : Rat) = .ok "-1000000000" := by
  obtain ⟨text, shown, opposite⟩ := text_of_opposite (le_refl 2) (show (0 : Rat) < 10 ^ 9 + 1 / 4 by norm_num)
  have whole : (numberWithin 2 (10 ^ 9 + 1 / 4 : Rat)).toOption = some "1000000000" := by decide +kernel
  have same : text = "1000000000" := by
    rw [← Option.some.injEq, ← whole]
    exact congrArg Except.toOption shown.symm
  subst same
  exact ⟨shown, opposite⟩

end LinProg.Report
