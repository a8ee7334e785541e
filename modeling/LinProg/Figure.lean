import LinProg.Graph
import LinProg.Report.Number

set_option autoImplicit false

namespace LinProg

open Plane

inductive Stroke where
  | solid | dashed | marker
deriving DecidableEq

structure Curve (K : Type) where
  label : Text
  color : String
  stroke : Stroke
  faint : Bool
  points : List (Point K)
  -- Upright over the whole height, so that its ordinates are fractions of that.
  upright : Bool := false

structure Figure (K : Type) where
  curves : List (Curve K)
  polygon : List (Point K)
  corners : List (Point K)
  note : Option (String × Point K)
  maxX : K
  maxY : K
  xLabel : Text
  yLabel : Text

inductive FigureError where
  | limits
  | ticks

def FigureError.message : FigureError → String
  | .limits => "Axis limits cannot be NaN or Inf"
  | .ticks => "cannot convert float infinity to integer"

def FigureError.failureKind : FigureError → FailureKind
  | .limits => .badValue
  | .ticks => .overflow

-- What a figure is drawn on: where lines are sampled up to a limit, the colours of the constraints, which come over and
-- over, and the test that the limits of both axes must pass. The layout of labels is left to it and taken to succeed.
structure Canvas (K : Type) where
  abscissas : K → List K
  palette : List String
  colored : 0 < palette.length
  check : K → K → Except FigureError Unit

namespace Canvas

variable {K : Type} [Scalar K]

def color (canvas : Canvas K) (i : Nat) : String :=
  canvas.palette.get ⟨i % canvas.palette.length, Nat.mod_lt i canvas.colored⟩

def samples : Nat := 400

def evenly (maxX : K) : List K :=
  let step := maxX / Scalar.ofNat (samples - 1)
  (List.range (samples - 1)).map (fun i => Scalar.ofNat i * step) ++ [maxX]

def isFinite (x : K) : Bool := (Scalar.value x).rational?.isSome

-- The longest step between ticks, for axes whose limits come close to all bounds.
def tickStep : K := 2e307

-- The tick that closes an axis with the longest step: the first that is not below the limit, but for a
-- trifle.
def closingTick? (limit : K) : Option K :=
  ((List.range 10).find? fun n => limit ≤ (Scalar.ofNat n + 1e-10) * tickStep).map fun n =>
    Scalar.ofNat n * tickStep

def hasTicks (limit : K) : Bool := match closingTick? limit with
  | some tick => isFinite tick
  | none => true

def checkAxes (maxX maxY : K) : Except FigureError Unit :=
  if !(isFinite maxX && isFinite maxY) then .error .limits
  else if !(hasTicks maxX && hasTicks maxY) then .error .ticks
  else .ok ()

def standard : Canvas K where
  abscissas := evenly
  palette := [
    "#1f77b4", "#ff7f0e", "#2ca02c", "#d62728", "#9467bd", "#8c564b", "#e377c2", "#7f7f7f", "#bcbd22", "#17becf"]
  colored := by decide
  check := checkAxes

end Canvas

namespace Figure

variable {K : Type} [Scalar K]

def title : String := "Constraints, Feasible Region, Iso-profit"

def polygonLabel : String := "feasible region"

def cornersLabel : String := "vertices"

def red : String := "#ff0000"

def polygonFace : String := "#e8f7ffcc"

def polygonEdge : String := "#7fb8d8cc"

def flatTolerance : K := 1e-12

def sampled (xs : List K) (l : Line K) : List (Point K) :=
  xs.map fun x => ⟨x, (l.rhs - l.a * x) / l.b⟩

def uprightAt (x : K) : List (Point K) := [⟨x, 0⟩, ⟨x, 1⟩]

def curveOf? (label uprightLabel : Text) (color : String) (stroke : Stroke) (faint : Bool) (xs : List K) (l : Line K)
    (drawsUpright : K → Bool) : Option (Curve K) :=
  if Scalar.abs l.b < flatTolerance then
    if drawsUpright (Scalar.abs l.a) then
      some { label := uprightLabel, color, stroke, faint, points := uprightAt (l.rhs / l.a), upright := true }
    else none
  else some { label, color, stroke, faint, points := sampled xs l }

def constraintLabel (names : Label × Label) (i : Nat) (sense : Sense) (l : Line K) : Text :=
  s!"Constraint {i + 1}: {Report.number l.a}" ++ names.1.plain ++ s!" + {Report.number l.b}" ++ names.2.plain
    ++ s!" {sense.symbol} {Report.number l.rhs}"

def constraintCurve? (canvas : Canvas K) (names : Label × Label) (maxX : K) (i : Nat) (sense : Sense) (l : Line K) :
    Option (Curve K) :=
  let label := constraintLabel names i sense l
  curveOf? label label (canvas.color i) .solid true (canvas.abscissas maxX) l
    fun size => !decide (size < flatTolerance)

def equalObjective? (canvas : Canvas K) (maxX c1 c2 value : K) : Option (Curve K) :=
  curveOf? "iso-profit (through optimum)" "iso-profit" red .dashed false (canvas.abscissas maxX) ⟨c1, c2, value⟩
    fun size => flatTolerance < size

def optimumCurve (p : Point K) : Curve K where
  label := s!"optimal ({Report.number p.x}, {Report.number p.y})"
  color := red
  stroke := .marker
  faint := false
  points := [p]

def legend (f : Figure K) : List Text :=
  let (constraints, rest) := f.curves.partition (·.faint)
  constraints.map (·.label) ++ (if f.polygon.isEmpty then [] else [Text.ofString polygonLabel])
    ++ (if f.corners.isEmpty then [] else [Text.ofString cornersLabel]) ++ rest.map (·.label)

def axisText : Label → Text
  | ⟨.null⟩ => []
  | name => name.plain

def draw (canvas : Canvas K) (graph : Graph K) (names : Label × Label) (c1 c2 : K)
    (constraints : List (Sense × Line K)) : Figure K where
  curves :=
    (constraints.zipIdx.filterMap fun ((sense, l), i) => constraintCurve? canvas names graph.maxX i sense l)
      ++ match graph.optimum with
        | none => []
        | some (p, value) => (equalObjective? canvas graph.maxX c1 c2 value).toList ++ [optimumCurve p]
  polygon := if graph.region.length < 3 then [] else graph.region
  corners := graph.region
  note := graph.optimum.map fun (p, value) => (s!"Z* = {Report.number value}", p)
  maxX := graph.maxX
  maxY := graph.maxY
  xLabel := axisText names.1
  yLabel := axisText names.2

end Figure

namespace Problem

variable {K : Type} [Scalar K]

def figureOn (canvas : Canvas K) (p : Problem K) (graph : Graph K) : Except FigureError (Option (Figure K)) :=
  let line? (c : Constraint K) : Option (Sense × Line K) := (Line.ofConstraint c).toOption.map fun l => (c.sense, l)
  match p.names, p.objective, p.constraints.mapM line? with
  | [x, y], [c1, c2], some lines => do
    canvas.check graph.maxX graph.maxY
    return some (Figure.draw canvas graph (x, y) c1 c2 lines)
  | _, _, _ => .ok none

def figure (p : Problem K) (graph : Graph K) : Except FigureError (Option (Figure K)) := p.figureOn .standard graph

end Problem

end LinProg
