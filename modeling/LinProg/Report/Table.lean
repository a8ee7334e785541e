import LinProg.Tableau
import LinProg.Report.Number

set_option autoImplicit false

namespace LinProg.Report

inductive ReportError where
  | tableau (cause : TableauError)
  | nameLength (kind : Json.Kind)
  | nameAlignment (kind : Json.Kind)
  | header (kind : Json.Kind)

namespace ReportError

def message : ReportError → Text
  | .tableau cause => cause.message
  | .nameLength kind => s!"object of type '{kind.name}' has no len()"
  | .nameAlignment kind => s!"unsupported format string passed to {kind.name}.__format__"
  | .header kind => s!"sequence item 0: expected str instance, {kind.name} found"

def failureKind : ReportError → FailureKind
  | .tableau cause => cause.failureKind
  | .nameLength _ | .nameAlignment _ | .header _ => .badType

end ReportError

-- Only names with a length can be measured; that of lists and objects counts their members.
def measure (name : Label) : Except ReportError Unit :=
  match name.value.members? with
  | some _ => .ok ()
  | none => .error (.nameLength name.value.kind)

def nameCell (name : Label) : Except ReportError Text :=
  match name.value with
  | .text s => .ok s
  | value => .error (.nameAlignment value.kind)

def gridLine (width : Nat) (cells : List Text) : Text := Text.joined " " (cells.map (Text.padLeft width))

def cellWidth (cells : List Text) : Nat := max 6 ((cells.map List.length).foldl max 0 + 2)

variable {K : Type} [Scalar K]

structure Frame (K : Type) where
  title : Json
  isPivot : Nat → Nat → Bool
  ratios : List (Option K)
  notes : List Text

def headings (t : Tableau K) : Except ReportError (List Text) := do
  return Text.ofString "Z" :: (← t.columns.mapM nameCell) ++ ["RHS", "BV", "Ratio"].map Text.ofString

def objectiveCells (t : Tableau K) : List Text :=
  ("Z" :: t.objective.coefficients.map number ++ [number t.objective.rhs, "Z", ""]).map Text.ofString

def entryCell (isPivot : Bool) (x : K) : Text := if isPivot then "[" ++ number x ++ "]" else number x

def ratioCell : Option K → Text
  | some x => number x
  | none => []

def rowCells (frame : Frame K) (i : Nat) (r : Row K) (name : Label) (ratio : Option K) :
    Except ReportError (List Text) := do
  let cells := r.coefficients.mapIdx fun j x => entryCell (frame.isPivot i j) x
  return [] :: cells ++ [Text.ofString (number r.rhs), ← nameCell name, ratioCell ratio]

def pivotNotes (entering leaving : Option Text) : List Text :=
  match entering, leaving with
  | some entering, some leaving => ["Entering: " ++ entering ++ "   Leaving: " ++ leaving]
  | some entering, none => ["Entering: " ++ entering]
  | none, _ => []

def tableLines (t : Tableau K) (frame : Frame K) : Except ReportError (List Text) := do
  t.columns.forM measure
  t.basic.forM measure
  let headings ← headings t
  let rows ← (t.rows.zip (t.basic.zip frame.ratios)).zipIdx.mapM fun ((r, name, ratio), i) =>
    rowCells frame i r name ratio
  let cells := objectiveCells t :: rows
  let width := cellWidth (headings ++ cells.flatten)
  let ruler : Text := List.replicate (headings.length * (width + 1)) '-'
  return gridLine width headings :: ruler :: cells.map (gridLine width) ++ frame.notes

def framed (t : Tableau K) (frame : Frame K) : Except ReportError Text := do
  let lines ← tableLines t frame
  match frame.title with
  | .text title => return Text.joined "\n" (title :: lines)
  | value => throw (.header value.kind)

def title (header : Json) (iteration : Text) : Json :=
  if header.isGiven then header else .text ("Iteration " ++ iteration)

def ratioColumn (t : Tableau K) : Except ReportError (List (Option K)) :=
  match t.pivotColumn with
  | some j => (t.ratios j).mapError .tableau
  | none => .ok (t.rows.map fun _ => none)

def table (t : Tableau K) (header : Json) : Except ReportError Text := do
  framed t {
    title := title header (toString t.iteration)
    isPivot := fun i j => t.pivotRow = some i ∧ t.pivotColumn = some j
    ratios := ← ratioColumn t
    notes := pivotNotes (t.entering.map Label.plain) (t.leaving.map Label.plain) }

end LinProg.Report
