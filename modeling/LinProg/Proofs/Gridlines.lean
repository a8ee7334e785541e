import Mathlib
import LinProg.Report.Table

set_option autoImplicit false

namespace LinProg

namespace Text

def Inline (text : Text) : Prop := .char '\n' ∉ text

instance (text : Text) : Decidable text.Inline := inferInstanceAs (Decidable (¬ _))

theorem Inline.append {first second : Text} (left : first.Inline) (right : second.Inline) : (first ++ second : Text).Inline := by
  intro member
  rcases List.mem_append.mp member with here | there
  · exact left here
  · exact right there

theorem mem_joined {gap : Text} {parts : List Text} {s : Symbol} (member : s ∈ joined gap parts) :
    s ∈ gap ∨ ∃ part ∈ parts, s ∈ part := by
  induction parts with
  | nil => simp [joined] at member
  | cons part rest ih =>
      cases rest with
      | nil => exact .inr ⟨part, List.mem_cons_self, by simpa [joined] using member⟩
      | cons next rest =>
          rw [joined, List.intercalate_cons_cons, List.append_assoc, List.mem_append, List.mem_append] at member
          rcases member with here | between | later
          · exact .inr ⟨part, List.mem_cons_self, here⟩
          · exact .inl between
          · rcases ih later with between | ⟨other, listed, inside⟩
            · exact .inl between
            · exact .inr ⟨other, List.mem_cons_of_mem part listed, inside⟩

section Columns

variable {width : Nat} {parts : List Text}

theorem joined_length (gap : Symbol) (even : ∀ part ∈ parts, part.length = width) :
    (joined [gap] parts).length = parts.length * (width + 1) - 1 := by
  induction parts with
  | nil => simp [joined]
  | cons part rest ih =>
      obtain ⟨first, others⟩ := List.forall_mem_cons.mp even
      cases rest with
      | nil => simpa [joined] using first
      | cons next rest =>
          have later := ih others
          have positive : 0 < (next :: rest).length * (width + 1) := by simp
          rw [joined, List.intercalate_cons_cons, List.length_append, List.length_append, ← joined, later, first,
            List.length_cons (a := part), Nat.succ_mul, List.length_singleton]
          omega

theorem joined_drop (gap : Symbol) (even : ∀ part ∈ parts, part.length = width) {k : Nat} (inside : k < parts.length) :
    (joined [gap] parts).drop (k * (width + 1)) = joined [gap] (parts.drop k) := by
  induction k generalizing parts with
  | zero => simp
  | succ k ih =>
      match parts, inside with
      | part :: next :: rest, inside =>
          obtain ⟨first, others⟩ := List.forall_mem_cons.mp even
          have front : (part ++ [gap]).length = width + 1 := by simp [first]
          rw [joined, List.intercalate_cons_cons, Nat.succ_mul, Nat.add_comm, ← front, List.drop_length_add_append, front,
            List.drop_succ_cons, ← joined]
          exact ih others (Nat.lt_of_succ_lt_succ inside)

theorem joined_front {part : Text} (gap : Symbol) (rest : List Text) (first : part.length = width) :
    (joined [gap] (part :: rest)).take width = part ∧ (rest ≠ [] → (joined [gap] (part :: rest))[width]? = some gap) := by
  cases rest with
  | nil => simp [joined, ← first]
  | cons next rest =>
      rw [joined, List.intercalate_cons_cons, List.append_assoc, ← first]
      exact ⟨List.take_left, fun _ => by simp⟩

end Columns

end Text

namespace Report

open Text

-- A line of as many cells as said: each in columns of its own, with two of them free at least, and a space between.
structure Aligned (count width : Nat) (cells : List Text) (row : Text) : Prop where
  complete : cells.length = count
  length : row.length = count * (width + 1) - 1
  roomy : ∀ cell ∈ cells, cell.length + 2 ≤ width
  placed : ∀ k cell, cells[k]? = some cell → (row.drop (k * (width + 1))).take width = padLeft width cell
  apart : ∀ k, k + 1 < count → row[k * (width + 1) + width]? = some (.char ' ')

theorem cell_width_roomy {cells : List Text} {cell : Text} (member : cell ∈ cells) : cell.length + 2 ≤ cellWidth cells := by
  have listed : cell.length ∈ cells.map List.length := List.mem_map_of_mem member
  have longest := List.le_max?_getD_of_mem (k := 0) listed
  rw [cellWidth, List.foldl_max]
  omega

theorem grid_line_aligned {width : Nat} {cells : List Text} (roomy : ∀ cell ∈ cells, cell.length + 2 ≤ width) :
    Aligned cells.length width cells (gridLine width cells) := by
  have even : ∀ part ∈ cells.map (padLeft width), part.length = width := by
    intro part member
    obtain ⟨cell, listed, rfl⟩ := List.mem_map.mp member
    have room := roomy cell listed
    simp only [padLeft, spaces, List.length_append, List.length_replicate]
    omega
  have size : (cells.map (padLeft width)).length = cells.length := List.length_map ..
  have onward (k : Nat) (inside : k < cells.length) : (gridLine width cells).drop (k * (width + 1)) =
      joined [' '] (padLeft width cells[k] :: (cells.map (padLeft width)).drop (k + 1)) := by
    have within : k < (cells.map (padLeft width)).length := by rwa [size]
    rw [← List.getElem_map (padLeft width) (h := within), ← List.drop_eq_getElem_cons within]
    exact joined_drop ' ' even within
  have full (k : Nat) (inside : k < cells.length) : (padLeft width cells[k]).length = width :=
    even _ (List.mem_map_of_mem (List.getElem_mem inside))
  refine ⟨rfl, ?_, roomy, ?_, ?_⟩
  · rw [← size]
    exact joined_length ' ' even
  · intro k cell found
    obtain ⟨inside, rfl⟩ := List.getElem?_eq_some_iff.mp found
    rw [onward k inside]
    exact (joined_front ' ' _ (full k inside)).1
  · intro k inside
    have here := Nat.lt_of_succ_lt inside
    rw [← List.getElem?_drop, onward k here]
    apply (joined_front ' ' _ (full k here)).2
    simpa using inside

theorem grid_line_inline {width : Nat} {cells : List Text} (inline : ∀ cell ∈ cells, cell.Inline) :
    (gridLine width cells).Inline := by
  intro member
  rcases mem_joined member with blank | ⟨part, listed, inside⟩
  · exact absurd blank (by decide)
  · obtain ⟨cell, found, rfl⟩ := List.mem_map.mp listed
    rcases List.mem_append.mp inside with padding | here
    · exact absurd (List.eq_of_mem_replicate padding) (by decide)
    · exact inline cell found here

end Report

end LinProg
