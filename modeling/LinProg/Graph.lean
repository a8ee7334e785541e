import LinProg.Problem
import LinProg.Plane.Polygon

set_option autoImplicit false

namespace LinProg

open Plane

structure Graph (K : Type) where
  intercepts : List (List (Point K))
  region : List (Point K)
  optimum : Option (Point K × K)
  maxX : K
  maxY : K

namespace Graph

variable {K : Type} [Scalar K]

def tolerance : K := 1e-8

def isFeasible (constraints : List (Constraint K)) (p : Point K) : Bool :=
  constraints.all (fun c => c.isSatisfied [p.x, p.y] tolerance) ∧ 0 ≤ p.x ∧ 0 ≤ p.y

def objectiveAt (c1 c2 : K) (p : Point K) : K := c1 * p.x + c2 * p.y

def bestOf (c1 c2 : K) (maximize : Bool) (points : List (Point K)) : Option (Point K × K) :=
  points.foldl (fun best p =>
    let value := objectiveAt c1 c2 p
    match best with
    | none => some (p, value)
    | some (_, top) => if (if maximize then top < value else value < top) then some (p, value) else best) none

def margin : K := 1.1

def extent (xs : List K) : K :=
  (match xs ++ [1] with
    | [] => 1
    | x :: rest => rest.foldl Scalar.larger x) * margin

end Graph

namespace Problem

variable {K : Type} [Scalar K] [Angular K]

def graphOf (p : Problem K) (c1 c2 : K) (lines : List (Line K)) : Graph K :=
  let corners := merge ((Line.candidates lines).filter (Graph.isFeasible p.constraints))
  let region := polygon corners
  let intercepts := lines.map Line.intercepts
  let drawn := intercepts.flatten ++ region
  { intercepts, region
    optimum := Graph.bestOf c1 c2 p.maximize corners
    maxX := Graph.extent (drawn.map (·.x))
    maxY := Graph.extent (drawn.map (·.y)) }

def graph? (p : Problem K) : Option (Graph K) :=
  match p.objective, p.constraints.mapM fun c => (Line.ofConstraint c).toOption with
  | [c1, c2], some lines => some (p.graphOf c1 c2 lines)
  | _, _ => none

end Problem

end LinProg
