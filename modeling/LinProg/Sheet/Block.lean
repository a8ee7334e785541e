import LinProg.Sheet

set_option autoImplicit false

namespace LinProg

open Grid (Place)

structure Block where
  grid : Grid
  names : Tableau.Names
  notes : Notes := {}

namespace Block

def height (b : Block) : Nat := b.names.basic.length

def entryShape (b : Block) : List Nat := b.grid.shape.drop 2

def isLine (b : Block) : Bool := b.grid.shape.length < 2

def width (b : Block) : Nat := b.grid.shape.getD 1 0

def objective (b : Block) : Grid := match b.grid with
  | .number x => .number x
  | .nest rows => rows.getLastD (.nest [])

def entryFault (b : Block) (j : Int) : SheetError :=
  if b.isLine then .notList
  else if (place? b.width j).isNone then .tableau (.entryIndex j 0 b.width)
  else .notNumber

def rhsFault (b : Block) : SheetError :=
  if b.isLine then .place (.tooMany 1 2)
  else if b.width = 0 then .tableau (.entryIndex (-1) 1 0)
  else .notNumber

def summaryFault (b : Block) : SheetError := if b.isLine then .fewDimensions else b.rhsFault

def collapsed? (b : Block) : Option (Tableau Float) :=
  if b.entryShape ≠ [] ∧ b.entryShape.all (· = 1) ∧ b.width ≠ 0 then
    Tableau.ofEntries? (Grid.cut (b.height + 1) b.width b.grid.numbers) b.names
  else none

def wrap : Nat → Float → Grid
  | 0, x => .number x
  | depth + 1, x => .nest [wrap depth x]

def ofCollapsed (depth : Nat) (t : Tableau Float) (notes : Notes) : Block where
  grid := .nest (t.entries.map fun row => .nest (row.map (wrap depth)))
  names := t.names
  notes := notes

def ratios (b : Block) (col : Json) : Except SheetError (List (Option Float)) := do
  if b.names.basic.isEmpty then return []
  b.grid.ratiosAt b.height (← Place.ofJson col)

def chooseEntering (b : Block) (tol : Float) : Except SheetError (Option Nat) := do
  match b.collapsed? with
  | some t => t.chooseEntering tol
  | none =>
    match (← b.names.nonbasic.mapM fun name => name.placeIn b.names.columns).min? with
    | none => return none
    | some j =>
      if b.isLine then throw .notList
      else if b.width ≤ j then throw (.tableau (.entryIndex j 0 b.width))
      else throw (.place (if b.entryShape.contains 0 then .noEntry else .manyEntries))

def checkOptimal (b : Block) (tol : Float) : Except SheetError Bool := do
  if b.isLine then throw .notList
  return (← b.objective.members).dropLast.all fun entry => entry.numbers.all fun x => -tol ≤ x

def basicValues (b : Block) : Except SheetError (Assignment Float) :=
  if b.names.basic.isEmpty then .ok [] else .error b.rhsFault

def pivot (b : Block) (row col : Json) : Except SheetError Block := do
  let index ← Sequence.names.index col
  let _ ← Label.entering b.names.columns b.names.nonbasic index
  match b.collapsed?, ← Place.ofJson row, ← Place.ofJson col with
  | some t, .index i, .index j => return .ofCollapsed b.entryShape.length (← t.pivot i j) (← b.notes.next)
  | _, row, col => throw (b.grid.pivotFault row col)

end Block

end LinProg
