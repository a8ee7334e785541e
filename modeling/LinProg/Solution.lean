import LinProg.Simplex.Step

set_option autoImplicit false

namespace LinProg

structure Solution (K : Type) where
  status : Status
  value : K
  point : Assignment K
  history : List (Tableau K)
  steps : List (Step K)
  maximize : Bool := true

namespace Solution

variable {K : Type} [Scalar K]

def isOptimal (s : Solution K) : Bool := s.status = .optimal

def isUnbounded (s : Solution K) : Bool := s.status = .unbounded

def pivots (s : Solution K) : Nat := (s.history.getLast?.map (·.iteration)).getD 0

def final (s : Solution K) : Except TableauError (Tableau K) :=
  match s.history.getLast? with
  | some t => .ok t
  | none => .error .historyIndex

def reducedCost (t : Tableau K) (name : Label) : Except TableauError K := do
  let j ← t.columnOf name
  if j < t.width then return t.objective.entry j else throw (.entryIndex j 0 t.width)

def alternateOptima (s : Solution K) : Except TableauError (List Label) := do
  if !s.isOptimal then return []
  let t ← s.final
  t.nonbasic.filterM fun name => do
    return decide (Scalar.abs (← reducedCost t name) ≤ Tableau.tolerance)

end Solution

namespace Problem

variable {K : Type} [Scalar K]

def history (form : StandardForm K) (limit : Limit) : Except SolveError (List (Tableau K)) :=
  match limit.pivots? with
  | some pivots => ((Tableau.initial form).run pivots).mapError .tableau
  | none => do
    match ← ((Tableau.initial form).entering?).mapError .tableau with
    | none => return [(Tableau.initial form).markOptimal]
    | some _ => throw .undefinedLimit

def report (form : StandardForm K) (limit : Limit) (history : List (Tableau K)) : Solution K :=
  let final := history.getLastD (Tableau.initial form)
  { status := final.endStatus
    value := final.reportedValue form.maximize
    point := final.valuesOf form.decisions
    history := history
    steps := .conversion form :: Step.narrate limit none history
    maximize := form.maximize }

def solve (p : Problem K) (limit : Limit) : Except SolveError (Solution K) := do
  p.checkOrigin
  if limit.isNegative then throw .negativeLimit
  let form ← (StandardForm.ofProblem p).mapError .clash
  return report form limit (← history form limit)

def solveWithin (p : Problem K) (limit : Json) : Except SolveError (Solution K) := do
  p.checkOrigin
  p.solve (← Limit.ofJson? limit)

end Problem

end LinProg
