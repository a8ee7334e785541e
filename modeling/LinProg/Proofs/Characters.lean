import LinProg.Proofs.NumberText

set_option autoImplicit false

namespace LinProg

namespace Decimal

def signs : List Char := ['+', '-', '.', '/', 'e', 'i', 'n', 'f', 'a']

def Numeric (text : List Char) : Prop := ∀ c ∈ text, c.isDigit = true ∨ c ∈ signs

variable {first second digits : List Char}

theorem numeric_of_signs (all : ∀ c ∈ digits, c ∈ signs) : Numeric digits := fun c member => .inr (all c member)

theorem Digital.numeric (digital : Digital digits) : Numeric digits := fun c member => .inl (digital c member)

theorem Numeric.append (left : Numeric first) (right : Numeric second) : Numeric (first ++ second) :=
  List.forall_mem_append.mpr ⟨left, right⟩

theorem Numeric.lacks {c : Char} (numeric : Numeric digits) (apart : c.isDigit = false ∧ c ∉ signs) : c ∉ digits := by
  intro member
  rcases numeric c member with digit | sign
  · rw [apart.1] at digit
    cases digit
  · exact apart.2 sign

theorem numeric_sign (negative : Bool) : Numeric (sign negative).toList := by
  apply numeric_of_signs
  cases negative <;> simp [sign, signs]

theorem point_numeric : Numeric ['.'] := numeric_of_signs (by simp [signs])

theorem plain_numeric (layout : Layout) (leading : Int) (digital : Digital digits) :
    Numeric (layout.plain digits leading) := by
  have zero : Digital ['0'] := by simp [Digital]
  by_cases below : leading < 0
  · rw [Layout.plain, if_pos below]
    exact zero.numeric.append (point_numeric.append ((digital_zeros _).append digital).numeric)
  · have front : Digital (digits.take (leading.toNat + 1)) := fun c member => digital c (List.mem_of_mem_take member)
    have back : Digital (digits.drop (leading.toNat + 1)) := fun c member => digital c (List.mem_of_mem_drop member)
    have whole := (front.append (digital_zeros (leading.toNat + 1 - digits.length))).numeric
    rw [Layout.plain, if_neg below]
    dsimp only
    split
    · cases layout.keepsPoint with
      | false => exact whole.append (numeric_of_signs (by simp))
      | true => exact whole.append (point_numeric.append zero.numeric)
    · exact whole.append (point_numeric.append back.numeric)

theorem exponent_numeric (e : Int) : Numeric (Layout.exponentText e) := by
  obtain ⟨written, same, digital, _⟩ := exponent_written e
  have direction : Numeric [if e < 0 then '-' else '+'] := by
    apply numeric_of_signs
    by_cases negative : e < 0 <;> simp [negative, signs]
  rw [same]
  exact direction.append digital.numeric

theorem scientific_numeric (leading : Int) (digital : Digital digits) : Numeric (Layout.scientific digits leading) := by
  have mark : Numeric ['e'] := numeric_of_signs (by simp [signs])
  have tail : Numeric ('e' :: Layout.exponentText leading) := mark.append (exponent_numeric leading)
  match digits with
  | [] => exact tail
  | [_] => exact digital.numeric.append tail
  | c :: d :: rest =>
      obtain ⟨one, others⟩ := List.forall_mem_cons.mp digital
      have front : Digital [c] := by simpa [Digital] using one
      exact (front.numeric.append (point_numeric.append (Digital.numeric others))).append tail

structure Spelled (text : String) : Prop where
  numeric : Numeric text.toList
  present : text.toList ≠ []

theorem write_spelled (layout : Layout) (negative : Bool) (d : Digits) : Spelled (layout.write negative d) := by
  constructor
  · have digital := (leading_spells d).digital
    simp only [Layout.write, String.toList_append, String.toList_ofList]
    apply (numeric_sign negative).append
    split
    · exact plain_numeric layout _ digital
    · exact scientific_numeric _ digital
  · obtain ⟨n, read, _⟩ := write_reads layout negative d
    intro empty
    rw [empty] at read
    cases read

theorem brief_spelled (value : Value) : Spelled (briefText value) := by
  cases value with
  | finite negative magnitude => exact write_spelled _ _ _
  | infinite negative =>
      rw [briefText, infinity]
      constructor
      · rw [String.toList_append]
        exact (numeric_sign negative).append (numeric_of_signs (by simp [signs]))
      · simp
  | undefined => exact ⟨numeric_of_signs (by simp [briefText, notANumber, signs]), by simp [briefText, notANumber]⟩

theorem repr_spelled (n : Nat) : Spelled n.repr := by
  rw [Nat.repr_eq_ofList_toDigits]
  constructor
  · rw [String.toList_ofList]
    exact (digital_written n).numeric
  · rw [String.toList_ofList]
    exact Nat.toDigits_ne_nil

theorem Spelled.prepend {front back : String} (numeric : Numeric front.toList) (spelled : Spelled back) :
    Spelled (front ++ back) := by
  constructor
  · rw [String.toList_append]
    exact numeric.append spelled.numeric
  · rw [String.toList_append]
    exact List.append_ne_nil_of_right_ne_nil _ spelled.present

theorem int_spelled (p : Int) : Spelled (toString p) := by
  rw [Int.toString_eq_repr, Int.repr_eq_if]
  by_cases nonneg : 0 ≤ p
  · rw [if_pos nonneg]
    exact repr_spelled _
  · rw [if_neg nonneg]
    exact (repr_spelled _).prepend (numeric_sign true)

end Decimal

namespace Report

open Decimal

variable {K : Type} [Scalar K]

theorem fraction_spelled (q : Rat) : Spelled (fractionText q) := by
  rw [fractionText]
  by_cases whole : q.den = 1
  · rw [if_pos whole]
    exact int_spelled q.num
  · have bar : Numeric "/".toList := numeric_of_signs (by simp [signs])
    have front := (int_spelled q.num).numeric.append bar
    rw [← String.toList_append] at front
    rw [if_neg whole]
    exact (repr_spelled q.den).prepend front

theorem number_spelled (x : K) : Spelled (number x) := by
  unfold number
  split
  · exact brief_spelled _
  · split
    · exact repr_spelled 0
    · unfold finiteText
      dsimp only
      split
      · exact brief_spelled _
      · exact fraction_spelled _

theorem mem_of_string_iff (s : String) (c : Char) : Symbol.char c ∈ Text.ofString s ↔ c ∈ s.toList := by
  simp [Text.ofString]

theorem number_lacks {c : Char} (x : K) (apart : c.isDigit = false ∧ c ∉ signs) :
    Symbol.char c ∉ Text.ofString (number x) := by
  rw [mem_of_string_iff]
  exact (number_spelled x).numeric.lacks apart

theorem number_present (x : K) : Text.ofString (number x) ≠ [] := by
  simpa [Text.ofString] using (number_spelled x).present

end Report

end LinProg
