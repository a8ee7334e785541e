import LinProg.Decimal.Layout
import LinProg.Tableau.Pivot

set_option autoImplicit false

namespace LinProg

inductive Status where
  | optimal
  | unbounded
  | nonConvergent
deriving DecidableEq

namespace Status

def name : Status → String
  | .optimal => "optimal"
  | .unbounded => "unbounded"
  | .nonConvergent => "non_convergent"

def all : List Status := [.optimal, .unbounded, .nonConvergent]

def ofName? (name : String) : Option Status := all.find? fun status => status.name == name

end Status

inductive Limit where
  | count (n : Int)
  | truth (flag : Bool)
  | real (x : Float)

inductive SolveError where
  | notAtMost (row : Nat) (sense : Sense)
  | negativeRhs (row : Nat) (rhs : Decimal.Value)
  | negativeLimit
  | unorderedLimit (kind : Json.Kind)
  | undefinedLimit
  | clash (names : SlackClash)
  | tableau (cause : TableauError)

namespace Limit

def ofJson? : Json → Except SolveError Limit
  | .int n => .ok (.count n)
  | .bool flag => .ok (.truth flag)
  | .real x => .ok (.real x)
  | value => .error (.unorderedLimit value.kind)

def plain : Limit → String
  | .count n => toString n
  | .truth flag => (Json.bool flag).display
  | .real x => (Json.real x).display

def standard : Limit := .count 50

def isNegative : Limit → Bool
  | .count n => n < 0
  | .truth _ => false
  | .real x => x < 0

-- The number of pivots up to which a run may go on. An infinite limit is one that no run reaches.
def pivots? : Limit → Option Nat
  | .count n => some n.toNat
  | .truth flag => some (if flag then 1 else 0)
  | .real x => match Decimal.Value.ofFloat x with
    | .finite _ magnitude => some magnitude.ceil.toNat
    | .infinite _ => some (Decimal.twoTo 1024)
    | .undefined => none

end Limit

namespace SolveError

def message : SolveError → Text
  | .notAtMost row sense =>
    s!"constraint {row + 1} uses '{sense.symbol}'; "
      ++ "only '<=' constraints are supported by the tableau solver (no phase 1)"
  | .negativeRhs row rhs =>
    s!"constraint {row + 1} has negative right-hand side {Decimal.briefText rhs}; the origin must be feasible"
  | .negativeLimit => "max_iterations must be non-negative"
  | .unorderedLimit kind => s!"'<' not supported between instances of '{kind.name}' and 'int'"
  | .undefinedLimit => "unsupported operand type(s) for +: 'NoneType' and 'int'"
  | .clash names => names.message
  | .tableau cause => cause.message

def failureKind : SolveError → FailureKind
  | .notAtMost .. | .negativeRhs .. | .clash _ => .invalidModel
  | .negativeLimit => .badValue
  | .unorderedLimit _ | .undefinedLimit => .badType
  | .tableau cause => cause.failureKind

end SolveError

namespace Problem

variable {K : Type} [Scalar K]

def originFault? (c : Constraint K) (row : Nat) : Option SolveError :=
  if c.sense ≠ .atMost then some (.notAtMost row c.sense)
  else if c.rhs < 0 then some (.negativeRhs row (Scalar.value c.rhs))
  else none

-- Refuses problems whose origin would need a first phase to be left.
def checkOrigin (p : Problem K) : Except SolveError Unit :=
  match p.constraints.zipIdx.findSome? fun (c, row) => originFault? c row with
  | some fault => .error fault
  | none => .ok ()

end Problem

namespace Tableau

variable {K : Type} [Scalar K]

def entering? (t : Tableau K) : Except TableauError (Option Nat) :=
  if t.checkOptimal tolerance then .ok none else t.chooseEntering tolerance

def markOptimal (t : Tableau K) : Tableau K := { t with isOptimal := true }

def markUnbounded (t : Tableau K) (j : Nat) : Tableau K :=
  { t with isUnbounded := true, pivotColumn := some j, entering := t.columns[j]? }

def markPivot (t : Tableau K) (i j : Nat) : Tableau K :=
  { t with pivotRow := some i, pivotColumn := some j, entering := t.columns[j]?, leaving := t.basic[i]? }

def run : Nat → Tableau K → Except TableauError (List (Tableau K))
  | remaining, t => do
    let some j ← t.entering? | return [t.markOptimal]
    match remaining with
    | 0 => return [t]
    | left + 1 =>
      let some i ← t.chooseLeaving j | return [t.markUnbounded j]
      return t.markPivot i j :: (← run left (← t.pivot i j))

def endStatus (t : Tableau K) : Status :=
  if t.isOptimal then .optimal else if t.isUnbounded then .unbounded else .nonConvergent

end Tableau

end LinProg
