import LinProg.Constraint

set_option autoImplicit false

namespace LinProg.Plane

structure Point (K : Type) where
  x : K
  y : K

structure Line (K : Type) where
  a : K
  b : K
  rhs : K

inductive LineError where
  | coefficients (count : Nat)

def LineError.message : LineError → String
  | .coefficients count =>
    if count < 2 then s!"not enough values to unpack (expected 2, got {count})"
    else "too many values to unpack (expected 2)"

def LineError.failureKind : LineError → FailureKind
  | .coefficients _ => .badValue

namespace Line

variable {K : Type} [Scalar K]

def ofConstraint (c : Constraint K) : Except LineError (Line K) :=
  match c.coefficients with
  | [a, b] => .ok ⟨a, b, c.rhs⟩
  | coefficients => .error (.coefficients coefficients.length)

def yIntercept? (l : Line K) : Option (Point K) := if l.b == 0 then none else some ⟨0, l.rhs / l.b⟩

def xIntercept? (l : Line K) : Option (Point K) := if l.a == 0 then none else some ⟨l.rhs / l.a, 0⟩

def intercepts (l : Line K) : List (Point K) := l.yIntercept?.toList ++ l.xIntercept?.toList

def parallelTolerance : K := 1e-8

def determinant (l m : Line K) : K := l.a * m.b - m.a * l.b

def meet? (l m : Line K) : Option (Point K) :=
  let det := determinant l m
  if Scalar.abs det < parallelTolerance then none
  else some ⟨(l.rhs * m.b - m.rhs * l.b) / det, (l.a * m.rhs - m.a * l.rhs) / det⟩

def meetings : List (Line K) → List (Point K)
  | [] => []
  | l :: rest => rest.filterMap (meet? l) ++ meetings rest

def candidates (lines : List (Line K)) : List (Point K) :=
  ⟨0, 0⟩ :: (lines.flatMap fun l => l.xIntercept?.toList ++ l.yIntercept?.toList) ++ meetings lines

end Line

end LinProg.Plane
