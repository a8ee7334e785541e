import Mathlib
import LinProg.Constraint

set_option autoImplicit false

namespace LinProg

namespace Text

section Trim

variable {α : Type} {drops : α → Bool}

theorem drop_while_append {left rest : List α} (all : ∀ x ∈ left, drops x = true) :
    (left ++ rest).dropWhile drops = rest.dropWhile drops := by
  induction left with
  | nil => rfl
  | cons x left ih =>
      rw [List.cons_append, List.dropWhile_cons_of_pos (all x List.mem_cons_self)]
      exact ih fun y member => all y (List.mem_cons_of_mem x member)

-- What is cut off both ends is dropped, so that the rest is padded with it.
theorem exists_padding (drops : α → Bool) (text : List α) : ∃ left right, text = left ++ trim drops text ++ right ∧
    (∀ x ∈ left, drops x = true) ∧ ∀ x ∈ right, drops x = true := by
  refine ⟨text.takeWhile drops, (text.dropWhile drops).rtakeWhile drops, ?_, ?_, ?_⟩
  · calc text = text.takeWhile drops ++ text.dropWhile drops := List.takeWhile_append_dropWhile.symm
      _ = text.takeWhile drops ++ (trim drops text ++ (text.dropWhile drops).rtakeWhile drops) :=
          congrArg _ List.rdropWhile_append_rtakeWhile.symm
      _ = _ := (List.append_assoc ..).symm
  · exact fun x => List.mem_takeWhile_imp
  · exact fun x => List.mem_rtakeWhile_imp

theorem trim_padded {left core right : List α} (before : ∀ x ∈ left, drops x = true)
    (kept : ∀ x ∈ core, drops x = false) (after : ∀ x ∈ right, drops x = true) :
    trim drops (left ++ core ++ right) = core := by
  rw [trim, List.append_assoc, drop_while_append before]
  cases core with
  | nil =>
      have dropped : right.dropWhile drops = [] := List.dropWhile_eq_nil_iff.mpr after
      rw [List.nil_append, dropped]
      rfl
  | cons x core =>
      have stops : ((x :: core).reverse).dropWhile drops = (x :: core).reverse := by
        rw [List.dropWhile_eq_self_iff]
        intro inside
        simpa using kept _ (List.mem_reverse.mp (List.getElem_mem inside))
      rw [List.cons_append, List.dropWhile_cons_of_neg (by simp [kept x List.mem_cons_self]), ← List.cons_append,
        List.reverse_append, drop_while_append (by simpa using after), stops, List.reverse_reverse]

end Trim

theorem chars_some_iff (text : Text) (chars : List Char) : chars? text = some chars ↔ text = chars.map .char := by
  induction text generalizing chars with
  | nil => cases chars <;> simp [chars?]
  | cons symbol rest ih =>
      have step : chars? (symbol :: rest) = symbol.char?.bind fun c => (chars? rest).bind fun cs => some (c :: cs) := by
        rw [chars?, List.mapM_cons]
        rfl
      cases symbol with
      | surrogate place => cases chars <;> simp [step, Symbol.char?]
      | char c => cases chars <;> simp [step, Symbol.char?, Option.bind_eq_some_iff, ih, and_comm]

theorem to_string_some_iff (text : Text) (s : String) : toString? text = some s ↔ text = ofString s := by
  rw [toString?, Option.map_eq_some_iff, ofString]
  constructor
  · rintro ⟨chars, read, rfl⟩
    simpa using (chars_some_iff text chars).mp read
  · intro same
    exact ⟨s.toList, (chars_some_iff text s.toList).mpr same, String.ofList_toList⟩

end Text

namespace Sense

def signs : Sense → List String
  | .atMost => ["<=", "≤", "=<"]
  | .atLeast => [">=", "≥", "=>"]
  | .equal => ["=", "=="]

def Written (s : Sense) (text : Text) : Prop := ∃ sign ∈ s.signs, ∃ left right : Text,
  text = left ++ Text.ofString sign ++ right ∧ (∀ x ∈ left, Text.isBlank x = true) ∧ ∀ x ∈ right, Text.isBlank x = true

theorem spelling_sign : ∀ entry ∈ spellings, entry.1 ∈ entry.2.signs := by
  decide

theorem sign_spells (s : Sense) : ∀ sign ∈ s.signs, spellings.lookup sign = some s := by
  cases s <;> decide

theorem sign_solid (s : Sense) : ∀ sign ∈ s.signs, ∀ x ∈ Text.ofString sign, Text.isBlank x = false := by
  cases s <;> decide

theorem lookup_some_iff (sign : String) (s : Sense) : spellings.lookup sign = some s ↔ sign ∈ s.signs := by
  constructor
  · intro found
    obtain ⟨before, after, listed, _⟩ := List.lookup_eq_some_iff.mp found
    exact spelling_sign (sign, s) (by simp [listed])
  · exact sign_spells s sign

theorem of_text_some_iff (text : Text) (s : Sense) : ofText? text = some s ↔ s.Written text := by
  rw [ofText?, Option.bind_eq_some_iff]
  simp only [Text.to_string_some_iff, lookup_some_iff]
  constructor
  · rintro ⟨sign, trimmed, member⟩
    obtain ⟨left, right, padded, before, after⟩ := Text.exists_padding Text.isBlank text
    exact ⟨sign, member, left, right, trimmed ▸ padded, before, after⟩
  · rintro ⟨sign, member, left, right, rfl, before, after⟩
    exact ⟨sign, Text.trim_padded before (sign_solid s sign member) after, member⟩

end Sense

end LinProg
