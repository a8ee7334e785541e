import LinProg.Problem.Writer
import LinProg.Proofs.Unreported

set_option autoImplicit false

namespace LinProg

namespace Json

theorem numbers_real (xs : List Float) : Numbers (xs.map .real) xs := by
  rw [Numbers, List.forall₂_map_left_iff, List.forall₂_same]
  exact fun _ _ => rfl

theorem row_of_numbers (xs : List Float) : (ofNumbers xs).Row xs := ⟨_, rfl, numbers_real xs⟩

end Json

namespace Problem

-- The problems that can be built: from parts, from constraints that were built before, or from a model.
inductive Built : Problem Float → Prop
  | parts {objective constraints : Json} {names maximize : Option Json} {p : Problem Float} :
      ofParts objective constraints names maximize = .ok p → Built p
  | data {objective : List Float} {constraints : List (Constraint Float)} {names : List Json} {maximize : Bool}
      {p : Problem Float} : ofData objective constraints names maximize = .ok p → Built p
  | model {model : Json} {maximize : Option Bool} {p : Problem Float} : ofModel model maximize = .ok p → Built p

theorem data_of_parts {objective constraints : Json} {names maximize : Option Json} {p : Problem Float}
    (made : ofParts objective constraints names maximize = .ok p) :
    ∃ xs built given direction, ofData xs built given direction = .ok p := by
  obtain ⟨xs, _, made⟩ := (Outcome.bind_ok_iff _ _ _).mp made
  obtain ⟨items, _, made⟩ := (Outcome.bind_ok_iff _ _ _).mp made
  obtain ⟨built, _, made⟩ := (Outcome.bind_ok_iff _ _ _).mp made
  cases names with
  | none => exact ⟨xs, built, [], _, made⟩
  | some value =>
      obtain ⟨given, _, made⟩ := (Outcome.bind_ok_iff _ _ _).mp made
      exact ⟨xs, built, given, _, made⟩

theorem data_of_model {model : Json} {maximize : Option Bool} {p : Problem Float} (read : ofModel model maximize = .ok p) :
    ∃ xs constraints names direction, ofData xs constraints names direction = .ok p := by
  rcases fields_or_fails model maximize with ⟨costs, a, b, has⟩ | ⟨_, failed⟩ | ⟨_, failed⟩
  · rcases lined_or_fails has maximize with ⟨lines, lined⟩ | ⟨_, failed, _⟩
    · rw [of_model_lined lined, read_lines_ok_iff] at read
      obtain ⟨constraints, _, names, xs, _, _, _, _, made⟩ := read
      exact ⟨xs, constraints, names, _, made⟩
    · cases failed.symm.trans read
  · cases failed.symm.trans read
  · cases failed.symm.trans read

theorem single_of_data {objective : List Float} {constraints : List (Constraint Float)} {given : List Json}
    {maximize : Bool} {p : Problem Float} (made : ofData objective constraints given maximize = .ok p) :
    ∀ name ∈ p.names, name.value.Single := by
  obtain ⟨single, made⟩ := (of_data_ok_iff p).mp made
  obtain ⟨_, _, names, _⟩ := (make_ok_iff p).mp made
  intro name member
  rw [names] at member
  cases empty : (given.map Label.mk).isEmpty with
  | true =>
      rw [if_pos empty, defaultNames] at member
      obtain ⟨i, _, rfl⟩ := List.mem_map.mp member
      rfl
  | false =>
      rw [if_neg (by simp [empty])] at member
      obtain ⟨value, listed, rfl⟩ := List.mem_map.mp member
      exact single value listed

theorem Built.single {p : Problem Float} (built : Built p) : ∀ name ∈ p.names, name.value.Single := by
  cases built with
  | parts made =>
      obtain ⟨_, _, _, _, made⟩ := data_of_parts made
      exact single_of_data made
  | data made => exact single_of_data made
  | model read =>
      obtain ⟨_, _, _, _, made⟩ := data_of_model read
      exact single_of_data made

theorem written_lists (p : Problem Float) : Lists p.toModel (p.objective.map .real) (p.rows.map .ofNumbers)
    (p.constraints.map fun c => .text c.sense.symbol) (p.rhs.map .real) (p.names.map Label.value) := by
  refine ⟨⟨_, rfl, rfl⟩, ⟨_, rfl, rfl⟩, ⟨_, rfl, rfl⟩, ?_, ?_⟩
  · rw [relations, if_pos p.senses_given]
    rfl
  · rw [givenNames, if_pos p.variables_given]
    rfl

theorem written_reads {p : Problem Float} (single : ∀ name ∈ p.names, name.value.Single) (direction : Bool) :
    Reads { p with maximize := direction } (p.objective.map .real) (p.rows.map .ofNumbers)
      (p.constraints.map fun c => .text c.sense.symbol) (p.rhs.map .real) (p.names.map Label.value) where
  objective := Json.numbers_real p.objective
  rows := by
    rw [List.forall₂_map_left_iff]
    exact List.forall₂_same.mpr fun xs _ => Json.row_of_numbers xs
  senses := by
    rw [List.forall₂_map_left_iff, List.forall₂_map_right_iff]
    exact List.forall₂_same.mpr fun c _ => Sense.of_text_symbol c.sense
  rhs := Json.numbers_real p.rhs
  single := by simpa using single
  names := by simp [p.has_names, Function.comp_def]

theorem read_written {p : Problem Float} (single : ∀ name ∈ p.names, name.value.Single) (maximize : Option Bool) :
    ofModel p.toModel maximize = .ok { p with maximize := maximize.getD p.maximize } := by
  rw [of_model_ok_iff p.written_lists]
  exact ⟨written_reads single _, by cases maximize <;> rfl⟩

def rewritten (model : Json) (maximize : Option Bool) : Except ModelError Json := toModel <$> ofModel model maximize

theorem round_trip :
    (∀ p, Built p → ofModel p.toModel none = .ok p ∧ ∀ v, ofModel p.toModel (some v) = .ok { p with maximize := v }) ∧
    ∀ model maximize written, rewritten model maximize = .ok written → rewritten written none = .ok written := by
  have back {p : Problem Float} (built : Built p) : ofModel p.toModel none = .ok p := read_written built.single none
  refine ⟨fun p built => ⟨back built, fun v => read_written built.single (some v)⟩, ?_⟩
  intro model maximize written done
  obtain ⟨p, read, rfl⟩ := (Outcome.map_ok_iff _ _ _).mp done
  rw [rewritten, back (.model read)]
  rfl

-- Two variables without names of their own, a bound above and one below.
def twoBounds : Problem Float where
  objective := [2, 3]
  constraints := [⟨[1, 1], .atMost, 4⟩, ⟨[1, -1], .atLeast, 1⟩]
  names := (List.range 2).map (Label.numbered "x")
  maximize := true
  has_names := by decide
  has_constraints := by simp
  distinct := by decide
  objective_length := rfl
  row_length := by simp

def twoBoundsModel : Json := .object [
  ("c", .array [.real 2, .real 3]), ("A", .array [.array [.real 1, .real 1], .array [.real 1, .real (-1)]]),
  ("b", .array [.real 4, .real 1]), ("senses", .array [.text (Text.ofString "=<"), .text (Text.ofString " => ")])]

def twoBoundsParts : Json := .array [
  .array [.array [.real 1, .real 1], .text (Text.ofString "<="), .real 4],
  .array [.array [.real 1, .real (-1)], .text (Text.ofString "≥"), .real 1]]

theorem two_bounds_round_trip : Built twoBounds ∧ ofModel twoBounds.toModel none = .ok twoBounds ∧
    ofModel twoBounds.toModel (some false) = .ok { twoBounds with maximize := false } ∧
    rewritten twoBoundsModel none = .ok twoBounds.toModel ∧ rewritten twoBounds.toModel none = .ok twoBounds.toModel := by
  have made : ofParts (.array [.real 2, .real 3]) twoBoundsParts none none = .ok twoBounds := rfl
  have read : ofModel twoBoundsModel none = .ok twoBounds := rfl
  have first : rewritten twoBoundsModel none = .ok twoBounds.toModel := by
    rw [rewritten, read]
    rfl
  obtain ⟨same, turned⟩ := round_trip.1 twoBounds (.parts made)
  exact ⟨.parts made, same, turned false, first, round_trip.2 _ _ _ first⟩

end Problem

end LinProg
