import LinProg.Problem

set_option autoImplicit false

namespace LinProg

namespace Json

def members (value : Json) : Except ModelError (List Json) :=
  match value.members? with
  | some items => .ok items
  | none => .error (.notMembers value.kind)

def sized (value : Json) : Except ModelError (List Json) :=
  match value.members? with
  | some items => .ok items
  | none => .error (.notSized value.kind)

def readNumber (value : Json) : Except ModelError Float := value.number.mapError .number

def readNumbers (value : Json) : Except ModelError (List Float) := do
  (← value.members).mapM readNumber

def readSense (value : Json) : Except ModelError Sense :=
  match Sense.ofText? value.plain with
  | some sense => .ok sense
  | none => .error (.unknownSense value)

def readNames (values : List Json) : Except ModelError (List Label) :=
  values.mapM fun value => match Label.single? value with
    | some label => .ok label
    | none => .error (.unusableName value.kind)

end Json

namespace Constraint

def read (coefficients sense rhs : Json) : Except ModelError (Constraint Float) := do
  let coefficients ← coefficients.readNumbers
  let sense ← sense.readSense
  let rhs ← rhs.readNumber
  return { coefficients, sense, rhs }

def ofParts (parts : Json) : Except ModelError (Constraint Float) :=
  match parts.members? with
  | none => .error (.notParts parts.kind)
  | some [coefficients, sense, rhs] => read coefficients sense rhs
  | some items => .error (if items.length < 3 then .fewParts items.length else .manyParts items.length)

end Constraint

-- A fault in the data of a constraint is reported as one of the model; numbers beyond all bounds and
-- unknown relations speak for themselves.
def ModelError.inConstraint : ModelError → ModelError
  | .number .tooLarge => .number .tooLarge
  | .unknownSense given => .unknownSense given
  | cause => .constraintData cause

namespace Problem

def ofData (objective : List Float) (constraints : List (Constraint Float)) (names : List Json) (maximize : Bool) :
    Except ModelError (Problem Float) := do
  if constraints.isEmpty then make? objective constraints (names.map fun _ => ⟨.null⟩) maximize
  else make? objective constraints (← Json.readNames names) maximize

def required (model : Json) (name : String) : Except ModelError Json :=
  match model with
  | .object fields => match Json.field? name fields with
    | some value => .ok value
    | none => .error (.missingField name)
  | value => .error (.notFields value.kind)

def optional (model : Json) (name : String) : Json :=
  match model with
  | .object fields => (Json.field? name fields).getD .null
  | _ => .null

def givenSenses (model rows : Json) : Except ModelError Json := do
  let senses := optional model "senses"
  if senses.isGiven then return senses
  return .array ((← rows.sized).map fun _ => .text Sense.atMost.symbol)

def direction (model : Json) (maximize : Option Bool) : Bool :=
  maximize.getD <| match model with
    | .object fields => ((Json.field? "maximize" fields).map Json.isGiven).getD true
    | _ => true

def ofModel (model : Json) (maximize : Option Bool) : Except ModelError (Problem Float) := do
  let objective ← required model "c"
  let rows ← required model "A"
  let rhs ← required model "b"
  let senses ← givenSenses model rows
  let rowItems ← rows.sized
  let rhsItems ← rhs.sized
  if rowItems.length ≠ rhsItems.length then throw .rowCounts
  let senseItems ← senses.sized
  if rowItems.length ≠ senseItems.length then throw .rowCounts
  let constraints ← (rowItems.zip (senseItems.zip rhsItems)).mapM fun (row, sense, bound) =>
    (Constraint.read row sense bound).mapError ModelError.inConstraint
  let costs ← objective.members
  let given := optional model "variables"
  let names ← if given.isGiven then given.members else pure []
  ofData (← costs.mapM Json.readNumber) constraints names (direction model maximize)

def ofParts (objective constraints : Json) (names maximize : Option Json) :
    Except ModelError (Problem Float) := do
  let objective ← objective.readNumbers
  let constraints ← (← constraints.members).mapM Constraint.ofParts
  let names ← match names with
    | some given => given.members
    | none => pure []
  ofData objective constraints names ((maximize.map Json.isGiven).getD true)

end Problem

end LinProg
