import LinProg.Sensitivity
import LinProg.Sheet.Draft
import LinProg.Failure

set_option autoImplicit false

namespace LinProg

namespace Account

structure Entry where
  iteration : Json
  title : Json
  action : Action
  detail : Json
  draft : Option Draft

end Account

structure Account where
  status : Status
  value : Float
  point : Assignment Float
  drafts : List Draft
  entries : List Account.Entry
  maximize : Json

namespace Account

def readPair (name value : Json) : Except SheetError (Label × Float) := do
  let x ← value.number
  Label.requireSingle [⟨name⟩]
  return (⟨name⟩, x)

def pivots (a : Account) : Json := (a.drafts.getLast?.map fun d => d.notes.iteration).getD (.int 0)

def tableaux (a : Account) : List (Tableau Float) :=
  a.drafts.filterMap fun
    | .sheet s => some s.tableau
    | .block _ => none

def solution (a : Account) : Solution Float where
  status := a.status
  value := a.value
  point := a.point
  history := a.tableaux
  steps := []
  maximize := a.maximize.isGiven

-- Nothing can be said about names once the last draft is a block: the entry of the first is missing.
def blockAlternates (b : Block) : Except SheetError (List Label) := do
  match b.names.nonbasic with
  | [] => return []
  | name :: _ => throw (b.entryFault (← name.placeIn b.names.columns))

def alternateOptima (a : Account) : Except SheetError (List Label) :=
  match a.status, a.drafts.getLast? with
  | .optimal, some (.block b) => blockAlternates b
  | _, _ => liftM a.solution.alternateOptima

-- Why a block as the last draft leaves nothing to analyse, after a first draft with m basic and n other
-- names.
def analysisFault (b : Block) (m n : Nat) : SheetError :=
  if 0 < m then b.entryFault n else if 0 < n then b.entryFault 0 else b.rhsFault

def analysisAfterBlock (first : Block) (final : Tableau Float) (maximize : Bool) :
    Except SheetError (Sensitivity Float) := do
  let n := first.names.nonbasic.length
  let names := Sensitivity.constraintNames first.names.basic
  let shadowPrices ← Sensitivity.prices final n names maximize
  let reducedCosts ← Sensitivity.costs final first.names.nonbasic
  match names with
  | [] => return { shadowPrices, reducedCosts, rhsRanges := [] }
  | name :: _ => do
    let _ ← Sensitivity.range final names.length n name 0
    throw first.rhsFault

def sensitivity (a : Account) : Except SheetError (Sensitivity Float) := do
  match a.drafts.head?, a.drafts.getLast? with
  | some (.sheet first), some (.sheet final) =>
    Sensitivity.between first.tableau final.tableau a.maximize.isGiven
  | some first, some (.block final) =>
    throw (analysisFault final first.names.basic.length first.names.nonbasic.length)
  | some (.block first), some (.sheet final) => analysisAfterBlock first final.tableau a.maximize.isGiven
  | _, _ => throw (.tableau .historyIndex)

end Account

end LinProg

namespace LinProg.Report

def note? : Json → Option Text
  | .null => none
  | value => some value.plain

def notedRatios (d : Draft) : Except SheetError (List (Option Float)) :=
  match d.notes.pivotColumn with
  | .null => .ok (d.names.basic.map fun _ => none)
  | col => d.ratios col

def draft (d : Draft) (header : Json) : Except Failure Text := do
  let notes := d.notes
  let ratios ← notedRatios d
  match d with
  | .block b => throw (.sheet (b.entryFault (-1)))
  | .sheet s => framed s.tableau {
      title := title header notes.iteration.plain
      isPivot := fun i j => notes.pivotRow.equals (.int i) && notes.pivotColumn.equals (.int j)
      ratios := ratios
      notes := pivotNotes (note? notes.entering) (note? notes.leaving) }

def entry (e : Account.Entry) : Except Failure Text := do
  let line : Text := "[" ++ e.iteration.plain ++ "] " ++ e.title.plain ++ ": " ++ e.detail.plain
  match e.action, e.draft with
  | .initialTableau, some d | .pivot, some d => return line ++ "\n\n" ++ (← draft d .null)
  | _, _ => return line

def entries (entries : List Account.Entry) : Except Failure Text :=
  return Text.joined "\n\n" (← entries.mapM entry)

def account (a : Account) : Except SheetError Text := do
  return outcome a.solution (← a.alternateOptima) a.pivots.plain

end LinProg.Report
