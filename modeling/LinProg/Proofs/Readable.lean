import LinProg.Decimal.Numeral
import LinProg.Proofs.Significant

set_option autoImplicit false

namespace LinProg.Decimal

variable {digits whole places tail : List Char}

theorem of_digits_eq (digits : List Char) : ofDigits digits = Nat.ofDigitChars 10 digits 0 := by
  rw [ofDigits, Nat.ofDigitChars_eq_foldl]

theorem of_digits_zeros (digits : List Char) (n : Nat) :
    ofDigits (digits ++ List.replicate n '0') = 10 ^ n * ofDigits digits := by
  rw [of_digits_eq, of_digits_eq, Nat.ofDigitChars_append, Nat.ofDigitChars_replicate_zero]

theorem zeros_of_digits (n : Nat) (digits : List Char) : ofDigits (List.replicate n '0' ++ digits) = ofDigits digits := by
  rw [of_digits_eq, of_digits_eq, Nat.ofDigitChars_append, Nat.ofDigitChars_replicate_zero, Nat.mul_zero]

theorem of_digits_written (n : Nat) : ofDigits (Nat.toDigits 10 n) = n := by
  rw [of_digits_eq, Nat.ofDigitChars_ten_toDigits]

def Digital (text : List Char) : Prop := ∀ c ∈ text, c.isDigit = true

theorem digital_written (n : Nat) : Digital (Nat.toDigits 10 n) :=
  fun _ member => Nat.isDigit_of_mem_toDigits (by decide) (by decide) member

theorem digital_zeros (n : Nat) : Digital (List.replicate n '0') := by
  intro c member
  rw [List.eq_of_mem_replicate member]
  rfl

theorem Digital.append (first : Digital whole) (second : Digital places) : Digital (whole ++ places) :=
  List.forall_mem_append.mpr ⟨first, second⟩

theorem exists_trimmed (written : List Char) :
    ∃ n, written = (written.reverse.dropWhile (· = '0')).reverse ++ List.replicate n '0' := by
  refine ⟨(written.reverse.takeWhile (· = '0')).length, ?_⟩
  have zeros : written.reverse.takeWhile (· = '0') = List.replicate (written.reverse.takeWhile (· = '0')).length '0' :=
    List.eq_replicate_of_mem fun c member => by simpa using List.mem_takeWhile_imp member
  rw [← List.reverse_replicate, ← zeros, ← List.reverse_append, List.takeWhile_append_dropWhile, List.reverse_reverse]

structure Spells (digits : List Char) (leading : Int) (x : Rat) : Prop where
  present : digits ≠ []
  digital : Digital digits
  value : (ofDigits digits : Rat) * 10 ^ (leading + 1 - digits.length) = x

theorem leading_spells (d : Digits) : Spells d.leading.1 d.leading.2 d.value := by
  obtain ⟨n, split⟩ := exists_trimmed (Nat.toDigits 10 d.coefficient)
  have digital := digital_written d.coefficient
  have count := of_digits_written d.coefficient
  have size := congrArg List.length split
  rw [Digits.leading]
  generalize ((Nat.toDigits 10 d.coefficient).reverse.dropWhile (· = '0')).reverse = kept at split size ⊢
  rw [split, of_digits_zeros] at count
  by_cases none : kept = []
  · subst none
    have zero : d.coefficient = 0 := by simpa [ofDigits] using count.symm
    refine ⟨by simp, by simp [Digital], ?_⟩
    simp [Digits.value, zero, ofDigits]
  · have shown : kept.isEmpty = false := by simpa using none
    simp only [shown, Bool.false_eq_true, if_false]
    refine ⟨none, fun c member => digital c (by rw [split]; exact List.mem_append_left _ member), ?_⟩
    have written : d.exponent + (Nat.toDigits 10 d.coefficient).length - 1 + 1 - kept.length = d.exponent + n := by
      simp only [List.length_append, List.length_replicate] at size
      omega
    rw [written, Digits.value, ← count, zpow_add₀ (by norm_num), zpow_natCast]
    push_cast
    ring

def Stops (rest : List Char) : Prop := ∀ c ∈ rest.head?, c.isDigit = false

theorem run_of_digits {rest : List Char} (digital : Digital digits) (stops : Stops rest) :
    (digits ++ rest).takeWhile Char.isDigit = digits ∧ (digits ++ rest).dropWhile Char.isDigit = rest := by
  rw [List.takeWhile_append_of_pos digital, List.dropWhile_append_of_pos digital]
  cases rest with
  | nil => simp
  | cons c after =>
      have other : c.isDigit = false := stops c rfl
      simp [other]

structure Ends (tail : List Char) (e : Int) : Prop where
  reads : exponent? tail = some e
  stops : Stops tail
  pointless : ∀ c ∈ tail.head?, c ≠ '.'

theorem nothing_ends : Ends [] 0 := ⟨rfl, by simp [Stops], by simp⟩

theorem exponent_written (e : Int) : ∃ written, Layout.exponentText e = (if e < 0 then '-' else '+') :: written ∧
    Digital written ∧ written ≠ [] ∧ ofDigits written = e.natAbs := by
  refine ⟨_, rfl, (digital_zeros _).append (digital_written _), ?_, ?_⟩
  · exact List.append_ne_nil_of_right_ne_nil _ Nat.toDigits_ne_nil
  · rw [zeros_of_digits, of_digits_written]

theorem exponent_ends (e : Int) : Ends ('e' :: Layout.exponentText e) e := by
  refine ⟨?_, by simp [Stops], by simp⟩
  obtain ⟨written, same, digital, present, value⟩ := exponent_written e
  have all : written.all Char.isDigit = true := List.all_eq_true.mpr digital
  by_cases negative : e < 0
  · simp only [same, if_pos negative, exponent?, takeSign, true_or, true_and, present, ne_eq, not_false_eq_true, all,
      if_true, value]
    congr 1
    omega
  · simp only [same, if_neg negative, exponent?, takeSign, true_or, true_and, present, ne_eq, not_false_eq_true, all,
      if_true, value, Bool.false_eq_true, if_false]
    congr 1
    omega

structure Shows (body : List Char) (x : Rat) : Prop where
  starts : ∃ c rest, body = c :: rest ∧ c.isDigit = true
  reads : ∃ k e, Numeral.magnitude? body = some (k, e) ∧ (k : Rat) * 10 ^ e = x

theorem starts_with_digit (digital : Digital whole) (present : whole ≠ []) (rest : List Char) :
    ∃ c after, whole ++ rest = c :: after ∧ c.isDigit = true := by
  obtain ⟨c, after, rfl⟩ := List.exists_cons_of_ne_nil present
  exact ⟨c, after ++ rest, rfl, digital c List.mem_cons_self⟩

theorem whole_shows {e : Int} (digital : Digital whole) (present : whole ≠ []) (ends : Ends tail e) :
    Shows (whole ++ tail) (ofDigits whole * 10 ^ e) := by
  refine ⟨starts_with_digit digital present tail, ofDigits whole, e, ?_, rfl⟩
  obtain ⟨run, rest⟩ := run_of_digits digital ends.stops
  unfold Numeral.magnitude?
  simp only [run, rest]
  split
  · exact absurd rfl (ends.pointless '.' rfl)
  · simp [present, ends.reads]

theorem point_shows {e : Int} (digital : Digital whole) (present : whole ≠ []) (fraction : Digital places) (ends : Ends tail e) :
    Shows (whole ++ '.' :: (places ++ tail)) (ofDigits (whole ++ places) * 10 ^ (e - places.length)) := by
  refine ⟨starts_with_digit digital present _, ofDigits (whole ++ places), e - places.length, ?_, rfl⟩
  obtain ⟨run, rest⟩ := run_of_digits digital (show Stops ('.' :: (places ++ tail)) by simp [Stops])
  obtain ⟨after, last⟩ := run_of_digits fraction ends.stops
  unfold Numeral.magnitude?
  simp only [run, rest, after, last, present, false_and, if_false, ends.reads, Option.map_some]

-- The point in front of the digits, among them or behind them.

theorem plain_before {x : Rat} {leading : Int} (layout : Layout) (spells : Spells digits leading x) (below : leading < 0) :
    Shows (layout.plain digits leading) x := by
  have shown := point_shows (show Digital ['0'] by simp [Digital]) (by simp)
    ((digital_zeros (-leading - 1).toNat).append spells.digital) nothing_ends
  have same : ofDigits (['0'] ++ (List.replicate (-leading - 1).toNat '0' ++ digits)) = ofDigits digits :=
    (zeros_of_digits 1 _).trans (zeros_of_digits _ digits)
  have place : (0 : Int) - (List.replicate (-leading - 1).toNat '0' ++ digits).length = leading + 1 - digits.length := by
    rw [List.length_append, List.length_replicate]
    omega
  rw [same, place, spells.value, List.append_nil] at shown
  rw [Layout.plain, if_pos below]
  exact shown

theorem plain_among {x : Rat} {leading : Int} (layout : Layout) (spells : Spells digits leading x) (above : ¬ leading < 0)
    (long : leading.toNat + 1 < digits.length) : Shows (layout.plain digits leading) x := by
  have present : digits.take (leading.toNat + 1) ≠ [] := by simpa using spells.present
  have fraction : Digital (digits.drop (leading.toNat + 1)) := fun c member => spells.digital c (List.mem_of_mem_drop member)
  have shown := point_shows (fun c member => spells.digital c (List.mem_of_mem_take member)) present fraction nothing_ends
  have place : (0 : Int) - (digits.drop (leading.toNat + 1)).length = leading + 1 - digits.length := by
    rw [List.length_drop]
    omega
  rw [List.take_append_drop, place, spells.value, List.append_nil] at shown
  have rest : (digits.drop (leading.toNat + 1)).isEmpty = false := by simpa using long
  have zeros : leading.toNat + 1 - digits.length = 0 := by omega
  rw [Layout.plain, if_neg above]
  simpa [rest, zeros] using shown

theorem plain_behind {x : Rat} {leading : Int} (layout : Layout) (spells : Spells digits leading x) (above : ¬ leading < 0)
    (short : digits.length ≤ leading.toNat + 1) : Shows (layout.plain digits leading) x := by
  have digital := spells.digital.append (digital_zeros (leading.toNat + 1 - digits.length))
  have present := List.append_ne_nil_of_left_ne_nil spells.present (List.replicate (leading.toNat + 1 - digits.length) '0')
  have same : (ofDigits (digits ++ List.replicate (leading.toNat + 1 - digits.length) '0') : Rat) = x := by
    rw [of_digits_zeros, ← spells.value, show leading + 1 - digits.length = (leading.toNat + 1 - digits.length : Nat) by omega,
      zpow_natCast]
    push_cast
    ring
  have whole : (digits.drop (leading.toNat + 1)).isEmpty = true := by simpa using short
  rw [Layout.plain, if_neg above]
  simp only [whole, if_true, List.take_of_length_le short]
  cases layout.keepsPoint with
  | false =>
      have shown := whole_shows digital present nothing_ends
      rw [same, zpow_zero, mul_one] at shown
      exact shown
  | true =>
      have shown := point_shows digital present (digital_zeros 1) nothing_ends
      rw [of_digits_zeros, Nat.cast_mul, same] at shown
      simpa [mul_comm, mul_assoc] using shown

theorem plain_shows {x : Rat} {leading : Int} (layout : Layout) (spells : Spells digits leading x) :
    Shows (layout.plain digits leading) x := by
  by_cases below : leading < 0
  · exact plain_before layout spells below
  · rcases Nat.lt_or_ge (leading.toNat + 1) digits.length with long | short
    · exact plain_among layout spells below long
    · exact plain_behind layout spells below short

theorem scientific_shows {x : Rat} {leading : Int} (spells : Spells digits leading x) :
    Shows (Layout.scientific digits leading) x := by
  have digital := spells.digital
  have value := spells.value
  match digits, spells.present with
  | [first], _ =>
      have shown := whole_shows digital (by simp) (exponent_ends leading)
      simpa [Layout.scientific, ← value] using shown
  | first :: second :: rest, _ =>
      obtain ⟨one, others⟩ := List.forall_mem_cons.mp digital
      have shown := point_shows (show Digital [first] by simpa [Digital] using one) (by simp) others (exponent_ends leading)
      have place : leading - (second :: rest).length = leading + 1 - (first :: second :: rest).length := by simp
      rw [place, List.singleton_append, List.singleton_append, value] at shown
      exact shown

def Numeral.toRat (n : Numeral) : Rat := (if n.negative then -1 else 1) * (n.coefficient * 10 ^ n.exponent)

theorem take_sign_digit {c : Char} (digit : c.isDigit = true) (rest : List Char) : takeSign (c :: rest) = (false, c :: rest) := by
  unfold takeSign
  split
  · rename_i same
    cases same
    contradiction
  · rename_i same
    cases same
    contradiction
  · rfl

theorem Shows.parse {body : List Char} {x : Rat} (shown : Shows body x) (negative : Bool) :
    ∃ n, Numeral.parse? ((sign negative).toList ++ body) = some n ∧ n.toRat = if negative then -x else x := by
  obtain ⟨⟨c, rest, rfl, digit⟩, k, e, read, value⟩ := shown
  refine ⟨⟨negative, k, e⟩, ?_, ?_⟩
  · have signed : takeSign ((sign negative).toList ++ c :: rest) = (negative, c :: rest) := by
      cases negative with
      | false => exact take_sign_digit digit rest
      | true => rfl
    rw [Numeral.parse?, signed]
    simp only [read, Option.map_some]
  · cases negative <;> simp [Numeral.toRat, value]

theorem write_reads (layout : Layout) (negative : Bool) (d : Digits) :
    ∃ n, Numeral.parse? (layout.write negative d).toList = some n ∧ n.toRat = if negative then -d.value else d.value := by
  have spells := leading_spells d
  simp only [Layout.write, String.toList_append, String.toList_ofList]
  by_cases fits : layout.least ≤ d.leading.2 ∧ d.leading.2 < layout.limit
  · rw [if_pos fits]
    exact (plain_shows layout spells).parse negative
  · rw [if_neg fits]
    exact (scientific_shows spells).parse negative

-- A number that is x to six digits: a multiple of the sixth digit's unit, and half a unit from x at most.
def SixDigits (x y : Rat) : Prop := ∃ e m : Int, Leads e |x| ∧ y = m * 10 ^ (e - 5) ∧ |y - x| ≤ 10 ^ (e - 5) / 2

theorem SixDigits.near {x y : Rat} (six : SixDigits x y) : |y - x| ≤ 5 / 10 ^ 6 * |x| := by
  obtain ⟨e, m, leads, -, half⟩ := six
  have unit : (10 : Rat) ^ (e - 5) = 10 ^ e / 10 ^ 5 := by
    rw [zpow_sub₀ (by norm_num)]
    norm_num
  rw [unit] at half
  linarith [leads.1]

theorem of_rat_eq (x : Rat) : Value.ofRat x = .finite (x < 0) |x| := by
  by_cases negative : x < 0
  · rw [Value.ofRat, if_pos negative, abs_of_neg negative]
  · rw [Value.ofRat, if_neg negative, abs_of_nonneg (not_lt.mp negative)]

theorem rational_of_rat (x : Rat) : (Value.ofRat x).rational? = some x := by
  by_cases negative : x < 0 <;> simp [Value.ofRat, Value.rational?, negative]

theorem parts_div {x : Rat} (nonneg : 0 ≤ x) : (x.num.natAbs : Rat) / x.den = x := by
  have whole : (x.num.natAbs : Int) = x.num := Int.natAbs_of_nonneg (Rat.num_nonneg.mpr nonneg)
  rw [← Int.cast_natCast, whole, Rat.num_div_den]

theorem brief_reads {x : Rat} (nonzero : x ≠ 0) :
    ∃ n, Numeral.parse? (briefText (.ofRat x)).toList = some n ∧ SixDigits x n.toRat := by
  have positive : 0 < |x| := abs_pos.mpr nonzero
  obtain ⟨e, leads, place, half⟩ := rounded_near 6 (Int.natAbs_pos.mpr (Rat.num_ne_zero.mpr (ne_of_gt positive))) |x|.den_pos
  rw [parts_div (le_of_lt positive)] at leads half
  generalize unit : Digits.rounded 6 |x|.num.natAbs |x|.den = d at place half
  obtain ⟨n, read, value⟩ := write_reads .brief (x < 0) d
  refine ⟨n, ?_, ?_⟩
  · rw [of_rat_eq, briefText, unit]
    exact read
  · rw [value]
    have sixth : e - (6 : Nat) + 1 = e - 5 := by push_cast; ring
    rw [sixth] at place half
    by_cases negative : x < 0
    · rw [abs_of_neg negative] at half
      refine ⟨e, -d.coefficient, leads, ?_, ?_⟩
      · simp [negative, Digits.value, place]
      · simp only [negative, decide_true, if_true]
        rw [show -d.value - x = -(d.value - -x) by ring, abs_neg]
        exact half
    · rw [abs_of_nonneg (not_lt.mp negative)] at half
      refine ⟨e, d.coefficient, leads, ?_, ?_⟩
      · simp [negative, Digits.value, place]
      · simpa [negative] using half

end LinProg.Decimal
