import LinProg.Grid.Place
import LinProg.Tableau
import LinProg.Tableau.Pivot

set_option autoImplicit false

namespace LinProg

structure Notes where
  iteration : Json := .int 0
  isOptimal : Json := .bool false
  isUnbounded : Json := .bool false
  pivotRow : Json := .null
  pivotColumn : Json := .null
  entering : Json := .null
  leaving : Json := .null

inductive Sequence where
  | names | history
deriving DecidableEq

inductive SheetError where
  | tableau (cause : TableauError)
  | place (cause : PlaceError)
  | grid (cause : GridError)
  | number (cause : NumberError)
  | notIndex (sequence : Sequence) (kind : Json.Kind)
  | farIndex
  | unusableName (kind : Json.Kind)
  | noNext (kind : Json.Kind)
  | notNumber
  | notList
  | unfit (target result : List Nat)
  | fewDimensions
  | unknownField (name : Text)
  | missingFields (names : List String)
  | notFields (kind : Json.Kind)
  | notMembers (kind : Json.Kind)

namespace SheetError

def enumeration (names : List String) : String :=
  if names.length < 3 then " and ".intercalate names
  else ", ".intercalate names.dropLast ++ ", and " ++ names.getLastD ""

def shapeText : List Nat → String
  | [size] => s!"({size},)"
  | extents => "(" ++ ",".intercalate (extents.map toString) ++ ")"

def message : SheetError → Text
  | .tableau cause => cause.message
  | .place cause => cause.message
  | .grid cause => cause.message
  | .number cause => cause.message
  | .notIndex .names kind => s!"tuple indices must be integers or slices, not {kind.name}"
  | .notIndex .history kind => s!"list indices must be integers or slices, not {kind.name}"
  | .farIndex => "cannot fit 'int' into an index-sized integer"
  | .unusableName kind => s!"unhashable type: '{kind.name}'"
  | .noNext .text => "can only concatenate str (not \"int\") to str"
  | .noNext .array => "can only concatenate list (not \"int\") to list"
  | .noNext kind => s!"unsupported operand type(s) for +: '{kind.name}' and 'int'"
  | .notNumber => "only 0-dimensional arrays can be converted to Python scalars"
  | .notList => "invalid index to scalar variable."
  | .unfit target result =>
    s!"non-broadcastable output operand with shape {shapeText target} "
      ++ s!"doesn't match the broadcast shape {shapeText result}"
  | .fewDimensions => "tuple index out of range"
  | .unknownField name => "Tableau.__init__() got an unexpected keyword argument '" ++ name ++ "'"
  | .missingFields names =>
    let plural := if names.length = 1 then "" else "s"
    s!"Tableau.__init__() missing {names.length} required positional argument{plural}: "
      ++ enumeration (names.map fun name => Text.quoted (Text.ofString name))
  | .notFields kind => s!"dataclasses.replace() argument after ** must be a mapping, not {kind.name}"
  | .notMembers kind => s!"'{kind.name}' object is not iterable"

def failureKind : SheetError → FailureKind
  | .tableau cause => cause.failureKind
  | .place cause => cause.failureKind
  | .grid cause => cause.failureKind
  | .number cause => cause.failureKind
  | .notIndex .. | .unusableName _ | .noNext _ | .notNumber | .unknownField _ | .missingFields _ | .notFields _
  | .notMembers _ => .badType
  | .farIndex | .notList | .fewDimensions => .outOfRange
  | .unfit .. => .badValue

end SheetError

instance : MonadLift (Except TableauError) (Except SheetError) := ⟨Except.mapError .tableau⟩
instance : MonadLift (Except PlaceError) (Except SheetError) := ⟨Except.mapError .place⟩
instance : MonadLift (Except GridError) (Except SheetError) := ⟨Except.mapError .grid⟩
instance : MonadLift (Except NumberError) (Except SheetError) := ⟨Except.mapError .number⟩

namespace Notes

def successor : Json → Except SheetError Json
  | .int n => .ok (.int (n + 1))
  | .bool flag => .ok (.int (if flag then 2 else 1))
  | .real x => .ok (.real (x + 1))
  | value => .error (.noNext value.kind)

def next (notes : Notes) : Except SheetError Notes := do return { iteration := ← successor notes.iteration }

def ofTableau {K : Type} (t : Tableau K) : Notes where
  iteration := .int t.iteration
  isOptimal := .bool t.isOptimal
  isUnbounded := .bool t.isUnbounded
  pivotRow := (t.pivotRow.map fun i => .int i).getD .null
  pivotColumn := (t.pivotColumn.map fun j => .int j).getD .null
  entering := (t.entering.map (·.value)).getD .null
  leaving := (t.leaving.map (·.value)).getD .null

end Notes

def Sequence.index (sequence : Sequence) : Json → Except SheetError Int
  | .int n => if Grid.Place.isIndex n then .ok n else .error .farIndex
  | .bool flag => .ok (if flag then 1 else 0)
  | value => .error (.notIndex sequence value.kind)

def lookUp {α : Type} (history : List α) (index : Json) : Except SheetError α := do
  match (place? history.length (← Sequence.history.index index)).bind (history[·]?) with
  | some found => return found
  | none => throw (.tableau .historyIndex)

def Label.requireSingle (labels : List Label) : Except SheetError Unit :=
  match labels.find? fun label => !label.isSingle with
  | some label => .error (.unusableName label.value.kind)
  | none => .ok ()

namespace Grid

def ofRows (rows : List (List Float)) : Grid := .nest (rows.map fun row => .nest (row.map .number))

-- Ratios down a place that is no column: a row whose one entry there is positive has no single ratio.
def ratiosAt (grid : Grid) (height : Nat) (col : Place) : Except SheetError (List (Option Float)) :=
  (List.range height).mapM fun (i : Nat) => do
    let x ← grid.entryAt [.index i, col]
    if 0 < x then
      let _ ← grid.numbersAt [.index i, .index (-1)]
      throw .notNumber
    return none

-- The shape that the pivot row has after it is divided, where row and column are no single places.
def dividedShape (grid : Grid) (row col : Place) : List Nat :=
  let wide := grid.shape.drop 1
  match row, col with
  | .indices _ shape, _ => shape ++ wide
  | .flags list _, _ => (list.filter id).length :: wide
  | .index _, _ => 1 :: wide
  | .added _, _ => 1 :: grid.shape

def pivotFault (grid : Grid) (row col : Place) : SheetError :=
  match grid.entryAt [row, col] with
  | .error cause => .place cause
  | .ok x =>
    if x == 0 then .tableau .zeroPivot
    else match grid.shape, row, col with
      | [_], _, _ => .place (.tooMany 1 2)
      | [_, width], .added _, .index j =>
        if (place? width j).isNone then .place (.outside j 1 width) else .unfit [width] (grid.dividedShape row col)
      | shape, _, _ => .unfit (shape.drop 1) (grid.dividedShape row col)

end Grid

structure Sheet where
  tableau : Tableau Float
  notes : Notes := {}

namespace Sheet

def ofTableau (t : Tableau Float) : Sheet := ⟨t, .ofTableau t⟩

def grid (s : Sheet) : Grid := .ofRows s.tableau.entries

def ratios (s : Sheet) (col : Json) : Except SheetError (List (Option Float)) := do
  if s.tableau.rows.isEmpty then return []
  match ← Grid.Place.ofJson col with
  | .index j => s.tableau.ratios j
  | place => s.grid.ratiosAt s.tableau.height place

def pivot (s : Sheet) (row col : Json) : Except SheetError Sheet := do
  let _ ← s.tableau.enteringAt (← Sequence.names.index col)
  match ← Grid.Place.ofJson row, ← Grid.Place.ofJson col with
  | .index i, .index j => return ⟨← s.tableau.pivot i j, ← s.notes.next⟩
  | row, col => throw (s.grid.pivotFault row col)

def basicValues (s : Sheet) : Except SheetError (Assignment Float) := do
  Label.requireSingle s.tableau.basic
  return s.tableau.basicValues

def extract (s : Sheet) (names : Json) (maximize : Bool) : Except SheetError (Float × Assignment Float) := do
  let names ← Grid.namesOf names
  Label.requireSingle s.tableau.basic
  return (s.tableau.reportedValue maximize, s.tableau.valuesOf names)

end Sheet

end LinProg
