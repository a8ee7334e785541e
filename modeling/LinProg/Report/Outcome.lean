import LinProg.Report.Table
import LinProg.Sensitivity

set_option autoImplicit false

namespace LinProg.Report

variable {K : Type} [Scalar K]

def step (s : Step K) : Except ReportError Text := do
  let line : Text := s!"[{s.iteration}] " ++ s.title ++ ": " ++ s.detail
  match s.action, s.tableau with
  | .initialTableau, some t | .pivot, some t => return line ++ "\n\n" ++ (← table t .null)
  | _, _ => return line

def steps (steps : List (Step K)) : Except ReportError Text :=
  return Text.joined "\n\n" (← steps.mapM step)

def assignment (values : Assignment K) : Text :=
  Text.joined ", " (values.map fun (name, x) => name.plain ++ s!" = {number x}")

def outcomeLines (s : Solution K) (alternates : List Label) (pivots : Text) : List Text :=
  match s.status with
  | .optimal =>
    let note : List String := if alternates.isEmpty then [] else [
      "Note: Infinite many optimal solutions (alternate optimal).",
      "Zero reduced-cost nonbasic vars: " ++ Label.displayAll alternates]
    Text.ofString s!"Optimal value: {number s.value}" :: ("Solution: " ++ assignment s.point)
      :: note.map Text.ofString
  | .unbounded => ["The objective is unbounded on the feasible region."]
  | .nonConvergent => ["No optimum after " ++ pivots ++ " pivots; last basic solution: " ++ assignment s.point]

def outcome (s : Solution K) (alternates : List Label) (pivots : Text) : Text :=
  let status : Text := s!"Status: {s.status.name}"
  Text.joined "\n" (status :: outcomeLines s alternates pivots ++ ["Iterations: " ++ pivots])

def solution (s : Solution K) : Except ReportError Text := do
  return outcome s (← s.alternateOptima.mapError .tableau) (toString s.pivots)

-- A name right-aligned in six characters; a flag counts as its number.
def nameColumn (name : Label) : Except ReportError Text :=
  match name.value with
  | .bool flag => .ok (Text.padLeft 6 (if flag then "1" else "0"))
  | .null | .array _ | .object _ => .error (.nameAlignment name.value.kind)
  | value => .ok (Text.padLeft 6 value.plain)

def limit (negative : Bool) : Option K → String
  | some x => number x
  | none => Decimal.infinity negative

def interval (r : RhsRange K) : String := s!"[{limit true r.lower}, {limit false r.upper}]"

def shadowLine (price : Label × K) (r : RhsRange K) : Except ReportError Text := do
  let name ← nameColumn price.1
  return "  " ++ name ++ "  " ++ Text.padLeft 10 (number price.2) ++ s!"   RHS {number r.rhs} valid in {interval r}"

def costLine (cost : Label × K) : Except ReportError Text := do
  let name ← nameColumn cost.1
  return "  " ++ name ++ "  " ++ Text.padLeft 10 (number cost.2)

def sensitivity (s : Sensitivity K) : Except ReportError Text := do
  let shadows ← (s.shadowPrices.zip s.rhsRanges).mapM fun (price, r) => shadowLine price r
  let costs ← s.reducedCosts.mapM costLine
  return Text.joined "\n" (Text.ofString "Shadow prices:" :: shadows ++ Text.ofString "Reduced costs:" :: costs)

end LinProg.Report
