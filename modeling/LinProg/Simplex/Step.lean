import LinProg.Simplex

set_option autoImplicit false

namespace LinProg

inductive Action where
  | convert
  | initialTableau
  | selectEntering
  | selectLeaving
  | pivot
  | optimal
  | unbounded
  | nonConvergent
deriving DecidableEq

namespace Action

def name : Action → String
  | .convert => "convert-to-standard-form"
  | .initialTableau => "initial-tableau"
  | .selectEntering => "select-entering-variable"
  | .selectLeaving => "select-leaving-variable"
  | .pivot => "pivot"
  | .optimal => "optimal"
  | .unbounded => "unbounded"
  | .nonConvergent => "non-convergent"

def all : List Action := [
  .convert, .initialTableau, .selectEntering, .selectLeaving, .pivot, .optimal, .unbounded, .nonConvergent]

def ofName? (name : String) : Option Action := all.find? fun action => action.name == name

end Action

structure Step (K : Type) where
  iteration : Nat
  title : Text
  action : Action
  detail : Text
  tableau : Option (Tableau K) := none

namespace Step

variable {K : Type} [Scalar K]

def brief (x : K) : String := Decimal.briefText (Scalar.value x)

def nameText : Option Label → Text
  | some label => label.plain
  | none => "None"

def labelList (labels : List Label) : Text := Text.joined ", " (labels.map Label.plain)

def conversion (form : StandardForm K) : Step K where
  iteration := 0
  title := "Convert to standard form"
  action := .convert
  detail :=
    (if form.maximize then "Maximization" else "Minimization converted to maximization")
      ++ "; slack variables " ++ labelList form.slacks ++ " added."

def arrival (previous : Option (Tableau K)) (t : Tableau K) : Step K :=
  match previous with
  | none => {
      iteration := t.iteration
      title := "Initial tableau"
      action := .initialTableau
      detail := "Slack variables form the initial basis: " ++ labelList t.basic ++ "."
      tableau := some t }
  | some p => {
      iteration := t.iteration
      title := "Pivot"
      action := .pivot
      detail :=
        s!"Pivot on element ({p.pivotRow.getD 0 + 1}, {p.pivotColumn.getD 0 + 1}): "
          ++ nameText p.leaving ++ " leaves, " ++ nameText p.entering ++ " enters."
      tableau := some t }

def optimum (t : Tableau K) : Step K where
  iteration := t.iteration
  title := "Optimal solution found"
  action := .optimal
  detail := "All objective-row coefficients are non-negative."

def limitReached (limit : Limit) (t : Tableau K) : Step K where
  iteration := t.iteration
  title := "Iteration limit reached"
  action := .nonConvergent
  detail := s!"Stopped after {limit.plain} pivots without reaching an optimal or unbounded tableau."

def entering (t : Tableau K) (j : Nat) : Step K where
  iteration := t.iteration + 1
  title := "Select entering variable"
  action := .selectEntering
  detail :=
    "Entering variable: " ++ nameText t.entering ++ s!" (column {j + 1}), "
      ++ s!"most negative objective-row coefficient {brief (t.objective.entry j)}."

def noLimit (t : Tableau K) : Step K where
  iteration := t.iteration + 1
  title := "Problem is unbounded"
  action := .unbounded
  detail := "No positive entry in column " ++ nameText t.entering ++ "; the objective can grow without limit."

def leaving (t : Tableau K) (i j : Nat) : Step K where
  iteration := t.iteration + 1
  title := "Select leaving variable"
  action := .selectLeaving
  detail :=
    let r := t.rowAt i
    "Leaving variable: " ++ nameText t.leaving ++ s!" (row {i + 1}), "
      ++ s!"minimum ratio {brief (r.rhs / r.entry j)}."

def decisions (limit : Limit) (t : Tableau K) : List (Step K) :=
  if t.isOptimal then [optimum t]
  else match t.pivotColumn, t.pivotRow with
    | some j, some i => [entering t j, leaving t i j]
    | some j, none => [entering t j, noLimit t]
    | none, _ => [limitReached limit t]

def narrate (limit : Limit) : Option (Tableau K) → List (Tableau K) → List (Step K)
  | _, [] => []
  | previous, t :: rest => arrival previous t :: (decisions limit t ++ narrate limit (some t) rest)

end Step

inductive VocabularyError where
  | status (given : Json)
  | action (given : Json)

namespace VocabularyError

def message : VocabularyError → String
  | .status given => given.display ++ " is not a valid SolveStatus"
  | .action given => given.display ++ " is not a valid StepAction"

def failureKind : VocabularyError → FailureKind
  | .status _ | .action _ => .badValue

end VocabularyError

def readWord {α : Type} (ofName? : String → Option α) (fault : Json → VocabularyError) (given : Json) :
    Except VocabularyError α :=
  match given with
  | .text name => match (Text.toString? name).bind ofName? with
    | some word => .ok word
    | none => .error (fault given)
  | _ => .error (fault given)

def Status.read (given : Json) : Except VocabularyError Status := readWord Status.ofName? .status given

def Action.read (given : Json) : Except VocabularyError Action := readWord Action.ofName? .action given

end LinProg
