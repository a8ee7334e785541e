import LinProg.Constraint
import LinProg.Label
import LinProg.Json

set_option autoImplicit false

namespace LinProg

inductive ModelError where
  | missingField (name : String)
  | notFields (kind : Json.Kind)
  | notSized (kind : Json.Kind)
  | notMembers (kind : Json.Kind)
  | rowCounts
  | unknownSense (given : Json)
  | number (cause : NumberError)
  | constraintData (cause : ModelError)
  | notParts (kind : Json.Kind)
  | fewParts (count : Nat)
  | manyParts (count : Nat)
  | noVariables
  | noConstraints
  | unusableName (kind : Json.Kind)
  | repeatedName (names : List Label)
  | objectiveLength (coefficients names : Nat)
  | rowLength (row coefficients names : Nat)

namespace ModelError

def missingParts : Nat → String
  | 0 => "3 required positional arguments: 'coefficients', 'sense', and 'rhs'"
  | 1 => "2 required positional arguments: 'sense' and 'rhs'"
  | _ => "1 required positional argument: 'rhs'"

def message : ModelError → String
  | .missingField name => "missing field " ++ Text.quoted name
  | .notFields .array => "list indices must be integers or slices, not str"
  | .notFields .text => "string indices must be integers, not 'str'"
  | .notFields kind => s!"'{kind.name}' object is not subscriptable"
  | .notSized kind => s!"object of type '{kind.name}' has no len()"
  | .notMembers kind => s!"'{kind.name}' object is not iterable"
  | .rowCounts => "A, b and senses must have the same number of rows"
  | .unknownSense given => s!"sense must be one of <=, >=, = (got {given.display})"
  | .number cause => cause.message
  | .constraintData cause => "invalid constraint data: " ++ cause.message
  | .notParts kind =>
    s!"simplex_tutor.problem.Constraint() argument after * must be an iterable, not {kind.name}"
  | .fewParts count => "Constraint.__init__() missing " ++ missingParts count
  | .manyParts count => s!"Constraint.__init__() takes 4 positional arguments but {count + 1} were given"
  | .noVariables => "problem has no decision variables"
  | .noConstraints => "problem has no constraints"
  | .unusableName kind => s!"unhashable type: '{kind.name}'"
  | .repeatedName names => "variable names must be unique: " ++ Label.displayAll names
  | .objectiveLength coefficients names =>
    s!"objective has {coefficients} coefficients for {names} variables"
  | .rowLength row coefficients names =>
    s!"constraint {row + 1} has {coefficients} coefficients for {names} variables"

def failureKind : ModelError → FailureKind
  | .notFields _ | .notSized _ | .notMembers _ | .notParts _ | .fewParts _ | .manyParts _ | .unusableName _ => .badType
  | .number cause => cause.failureKind
  | _ => .invalidModel

end ModelError

structure Problem (K : Type) where
  objective : List K
  constraints : List (Constraint K)
  names : List Label
  maximize : Bool
  has_names : names ≠ []
  has_constraints : constraints ≠ []
  distinct : names.Pairwise fun a b => (a == b) = false
  objective_length : objective.length = names.length
  row_length : ∀ c ∈ constraints, c.coefficients.length = names.length

namespace Problem

variable {K : Type}

def size (p : Problem K) : Nat := p.names.length

def rows (p : Problem K) : List (List K) := p.constraints.map (·.coefficients)

def rhs (p : Problem K) : List K := p.constraints.map (·.rhs)

def objectiveValue [Scalar K] (p : Problem K) (values : List K) : K := Scalar.dot p.objective values

def defaultNames (n : Nat) : List Label := (List.range n).map (Label.numbered "x")

def misfit? (n : Nat) (constraints : List (Constraint K)) : Option (Nat × Constraint K) :=
  (constraints.zipIdx.find? fun (c, _) => c.coefficients.length ≠ n).map fun (c, i) => (i, c)

theorem misfit?_eq_none {n : Nat} {constraints : List (Constraint K)} (none : misfit? n constraints = none) :
    ∀ c ∈ constraints, c.coefficients.length = n := by
  intro c member
  obtain ⟨i, h, rfl⟩ := List.mem_iff_getElem.mp member
  have found := List.find?_eq_none.mp (Option.map_eq_none_iff.mp none) (constraints[i], i)
    (List.mk_mem_zipIdx_iff_getElem?.mpr (by simp [h]))
  simpa using found

def make? (objective : List K) (constraints : List (Constraint K)) (given : List Label) (maximize : Bool) :
    Except ModelError (Problem K) :=
  let names := if given.isEmpty then defaultNames objective.length else given
  if noVariables : names = [] then .error .noVariables
  else if noConstraints : constraints = [] then .error .noConstraints
  else if distinct : names.Pairwise fun a b => (a == b) = false then
    if objectiveLength : objective.length = names.length then
      match misfits : misfit? names.length constraints with
      | some (row, c) => .error (.rowLength row c.coefficients.length names.length)
      | none => .ok {
          objective, constraints, names, maximize
          has_names := noVariables
          has_constraints := noConstraints
          distinct := distinct
          objective_length := objectiveLength
          row_length := misfit?_eq_none misfits }
    else .error (.objectiveLength objective.length names.length)
  else .error (.repeatedName names)

end Problem

end LinProg
