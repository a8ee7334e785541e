import LinProg.Sheet.Block

set_option autoImplicit false

namespace LinProg

inductive Draft where
  | sheet (s : Sheet)
  | block (b : Block)

namespace Draft

def ofTableau (t : Tableau Float) : Draft := .sheet (.ofTableau t)

def grid : Draft → Grid
  | .sheet s => s.grid
  | .block b => b.grid

def names : Draft → Tableau.Names
  | .sheet s => s.tableau.names
  | .block b => b.names

def notes : Draft → Notes
  | .sheet s => s.notes
  | .block b => b.notes

def ofParts (grid : Grid) (names : Tableau.Names) (notes : Notes) : Except SheetError Draft := do
  match grid.shape with
  | [] => throw .fewDimensions
  | height :: rest =>
    if names.basic.length + 1 ≠ height then throw (.tableau .basisSize)
    match rest with
    | [width + 1] =>
      match Tableau.ofEntries? (Grid.cut height (width + 1) grid.numbers) names with
      | some t => return .sheet ⟨t, notes⟩
      | none => throw (.tableau .basisSize)
    | _ => return .block ⟨grid, names, notes⟩

def requiredFields : List String := ["matrix", "columns", "basic", "nonbasic"]

def optionalFields : List String :=
  ["iteration", "is_optimal", "is_unbounded", "pivot_row", "pivot_column", "entering", "leaving"]

def checkFields (fields : List (Text × Json)) : Except SheetError Unit :=
  let known := (requiredFields ++ optionalFields).map Text.ofString
  match (fields.map (·.1)).find? fun name => !known.contains name with
  | some name => .error (.unknownField name)
  | none => .ok ()

def requireFields (fields : List (Text × Json)) : Except SheetError Unit :=
  let missing := requiredFields.filter fun name => (Json.field? name fields).isNone
  if missing.isEmpty then .ok () else .error (.missingFields missing)

def readMembers (value : Json) : Except SheetError (List Json) :=
  match value.members? with
  | some items => .ok items
  | none => .error (.notMembers value.kind)

def readNames (old : Tableau.Names) (fields : List (Text × Json)) : Except SheetError Tableau.Names := do
  let list (name : String) (former : List Label) : Except SheetError (List Label) :=
    match Json.field? name fields with
    | some value => return (← readMembers value).map Label.mk
    | none => .ok former
  return {
    columns := ← list "columns" old.columns
    basic := ← list "basic" old.basic
    nonbasic := ← list "nonbasic" old.nonbasic }

def readNotes (old : Notes) (fields : List (Text × Json)) : Notes :=
  let note (name : String) (former : Json) : Json := (Json.field? name fields).getD former
  { iteration := note "iteration" old.iteration
    isOptimal := note "is_optimal" old.isOptimal
    isUnbounded := note "is_unbounded" old.isUnbounded
    pivotRow := note "pivot_row" old.pivotRow
    pivotColumn := note "pivot_column" old.pivotColumn
    entering := note "entering" old.entering
    leaving := note "leaving" old.leaving }

def replace (old : Draft) (changes : Json) : Except SheetError Draft := do
  let .object fields := changes | throw (.notFields changes.kind)
  checkFields fields
  let grid ← match Json.field? "matrix" fields with
    | some value => pure (← Grid.ofJson value).1
    | none => pure old.grid
  ofParts grid (← readNames old.names fields) (readNotes old.notes fields)

def readRows (value : Json) : Except SheetError (List (List Float)) := do
  (← readMembers value).mapM fun row => do (← readMembers row).mapM fun entry => liftM entry.number

def ofFields (fields : List (Text × Json)) : Except SheetError Draft := do
  let rows ← ((Json.field? "matrix" fields).mapM readRows)
  checkFields fields
  requireFields fields
  let rows := rows.getD []
  let width := (rows.head?.map List.length).getD 0
  if rows.any fun row => row.length ≠ width then throw (.grid (.ragged [rows.length]))
  ofParts (.ofRows rows) (← readNames {} fields) (readNotes {} fields)

def ratios (d : Draft) (col : Json) : Except SheetError (List (Option Float)) :=
  match d with
  | .sheet s => s.ratios col
  | .block b => b.ratios col

def chooseLeaving (d : Draft) (col : Json) : Except SheetError (Option Nat) := do
  return Tableau.leastRatio (← d.ratios col)

def chooseEntering (d : Draft) (tol : Float) : Except SheetError (Option Nat) :=
  match d with
  | .sheet s => liftM (s.tableau.chooseEntering tol)
  | .block b => b.chooseEntering tol

def checkOptimal (d : Draft) (tol : Float) : Except SheetError Bool :=
  match d with
  | .sheet s => .ok (s.tableau.checkOptimal tol)
  | .block b => b.checkOptimal tol

def columnOf (d : Draft) (name : Json) : Except SheetError Nat := liftM ((Label.mk name).placeIn d.names.columns)

def basicValues (d : Draft) : Except SheetError (Assignment Float) :=
  match d with
  | .sheet s => s.basicValues
  | .block b => b.basicValues

def summary (d : Draft) : Except SheetError (Tableau Float) :=
  match d with
  | .sheet s => .ok s.tableau
  | .block b => .error b.summaryFault

def extract (d : Draft) (names : Json) (maximize : Bool) : Except SheetError (Float × Assignment Float) :=
  match d with
  | .sheet s => s.extract names maximize
  | .block b => do
    let _ ← Grid.namesOf names
    throw b.rhsFault

def pivot (d : Draft) (row col : Json) : Except SheetError Draft :=
  match d with
  | .sheet s => return .sheet (← s.pivot row col)
  | .block b => return .block (← b.pivot row col)

end Draft

end LinProg
