import Mathlib
import LinProg.Decimal.Layout

set_option autoImplicit false

namespace LinProg.Decimal

theorem ten_to (n : Nat) : tenTo n = 10 ^ n := rfl

theorem digit_count_bounds {n : Nat} (positive : 0 < n) : 10 ^ digitCount n ≤ 10 * n ∧ n < 10 ^ digitCount n := by
  induction n using Nat.strong_induction_on with
  | _ n ih =>
      rw [digitCount, if_neg (ne_of_gt positive), pow_succ]
      by_cases short : n / 10 = 0
      · have small : n < 10 := by omega
        simp [short, digitCount]
        omega
      · obtain ⟨low, high⟩ := ih (n / 10) (by omega) (Nat.pos_of_ne_zero short)
        omega

def Leads (e : Int) (x : Rat) : Prop := 10 ^ e ≤ x ∧ x < 10 ^ (e + 1)

theorem leading_exponent_leads {num den : Nat} (top : 0 < num) (bottom : 0 < den) :
    Leads (leadingExponent num den) (num / den) := by
  have unit : (0 : Rat) < den := by exact_mod_cast bottom
  by_cases whole : den ≤ num
  · obtain ⟨low, high⟩ := digit_count_bounds (Nat.div_pos whole bottom)
    have below : num / den * den ≤ num := Nat.div_mul_le_self num den
    have above : num < 10 ^ digitCount (num / den) * den := (Nat.div_lt_iff_lt_mul bottom).mp high
    rw [leadingExponent, if_pos whole]
    constructor
    · have reach : 10 ^ digitCount (num / den) * den ≤ 10 * num := by nlinarith
      rw [zpow_sub_one₀ (by norm_num), zpow_natCast, le_div_iff₀ unit]
      field_simp
      exact_mod_cast reach
    · rw [sub_add_cancel, zpow_natCast, div_lt_iff₀ unit]
      exact_mod_cast above
  · obtain ⟨low, high⟩ := digit_count_bounds (n := (den - 1) / num) (Nat.div_pos (by omega) top)
    have below : (den - 1) / num * num ≤ den - 1 := Nat.div_mul_le_self (den - 1) num
    have above : den - 1 < 10 ^ digitCount ((den - 1) / num) * num := (Nat.div_lt_iff_lt_mul top).mp high
    rw [leadingExponent, if_neg whole]
    constructor
    · have reach : den ≤ 10 ^ digitCount ((den - 1) / num) * num := by omega
      rw [zpow_neg, zpow_natCast, le_div_iff₀ unit]
      field_simp
      exact_mod_cast reach
    · have reach : num * 10 ^ digitCount ((den - 1) / num) < 10 * den := by
        have least : 1 ≤ den := bottom
        nlinarith [Nat.sub_add_cancel least]
      rw [zpow_add_one₀ (by norm_num), zpow_neg, zpow_natCast, div_lt_iff₀ unit]
      field_simp
      exact_mod_cast reach

theorem in_units_eq (num : Nat) {den : Nat} (bottom : 0 < den) (e : Int) :
    0 < (inUnits num den e).2 ∧ ((inUnits num den e).1 / (inUnits num den e).2 : Rat) * 10 ^ e = num / den := by
  have unit : (den : Rat) ≠ 0 := by exact_mod_cast ne_of_gt bottom
  by_cases forward : 0 ≤ e
  · obtain ⟨n, rfl⟩ := Int.eq_ofNat_of_zero_le forward
    rw [inUnits, if_pos forward, ten_to, Int.toNat_natCast]
    refine ⟨by positivity, ?_⟩
    push_cast
    rw [zpow_natCast]
    field_simp
  · obtain ⟨n, same⟩ := Int.eq_ofNat_of_zero_le (a := -e) (by omega)
    rw [inUnits, if_neg forward, ten_to, same, Int.toNat_natCast, show e = -(n : Int) by omega]
    refine ⟨bottom, ?_⟩
    push_cast
    rw [zpow_neg, zpow_natCast]
    field_simp

theorem round_even_near (num : Nat) {den : Nat} (bottom : 0 < den) : |(roundEven num den : Rat) - num / den| ≤ 1 / 2 := by
  have unit : (0 : Rat) < den := by exact_mod_cast bottom
  have parts := Nat.div_add_mod num den
  have less := Nat.mod_lt num bottom
  have half : 2 * num ≤ 2 * (den * roundEven num den) + den ∧ 2 * (den * roundEven num den) ≤ 2 * num + den := by
    have step : den * (num / den + 1) = den * (num / den) + den := Nat.mul_succ _ _
    rw [roundEven]
    split
    · omega
    · split
      · omega
      · rcases Nat.mod_two_eq_zero_or_one (num / den) with even | odd
        · rw [even, Nat.add_zero]
          omega
        · rw [odd]
          omega
  have low : (2 * num : Rat) ≤ 2 * (den * roundEven num den) + den := by exact_mod_cast half.1
  have high : (2 * (den * roundEven num den) : Rat) ≤ 2 * num + den := by exact_mod_cast half.2
  rw [abs_le]
  constructor
  · rw [neg_le_sub_iff_le_add, div_le_iff₀ unit]
    linarith
  · rw [sub_le_iff_le_add, ← sub_le_iff_le_add', le_div_iff₀ unit]
    linarith

def Digits.value (d : Digits) : Rat := d.coefficient * 10 ^ d.exponent

theorem rounded_near (count : Nat) {num den : Nat} (top : 0 < num) (bottom : 0 < den) : ∃ e,
    Leads e (num / den) ∧ (Digits.rounded count num den).exponent = e - count + 1 ∧
      |(Digits.rounded count num den).value - num / den| ≤ 10 ^ (e - count + 1) / 2 := by
  refine ⟨_, leading_exponent_leads top bottom, ?_⟩
  rw [Digits.rounded, if_neg (ne_of_gt top)]
  generalize leadingExponent num den - count + 1 = e
  obtain ⟨unit, same⟩ := in_units_eq num bottom e
  refine ⟨rfl, ?_⟩
  have near := round_even_near (inUnits num den e).1 unit
  have scale : (0 : Rat) < 10 ^ e := by positivity
  rw [Digits.value, ← same, ← sub_mul, abs_mul, abs_of_pos scale]
  linarith [mul_le_mul_of_nonneg_right near (le_of_lt scale)]

end LinProg.Decimal
