import LinProg.Text
import LinProg.Scalar

set_option autoImplicit false

namespace LinProg

inductive Sense where
  | atMost
  | atLeast
  | equal
deriving DecidableEq

namespace Sense

def symbol : Sense → String
  | .atMost => "<="
  | .atLeast => ">="
  | .equal => "="

def spellings : List (String × Sense) := [
  ("<=", .atMost), ("≤", .atMost), ("=<", .atMost), (">=", .atLeast), ("≥", .atLeast), ("=>", .atLeast),
  ("=", .equal), ("==", .equal)]

def ofText? (text : Text) : Option Sense :=
  (Text.toString? (Text.trim Text.isBlank text)).bind fun s => spellings.lookup s

end Sense

structure Constraint (K : Type) where
  coefficients : List K
  sense : Sense
  rhs : K

namespace Constraint

variable {K : Type} [Scalar K]

def lhs (c : Constraint K) (values : List K) : K := Scalar.dot c.coefficients values

def tolerance : K := 1e-8

def isSatisfied (c : Constraint K) (values : List K) (tol : K) : Bool :=
  match c.sense with
  | .atMost => c.lhs values ≤ c.rhs + tol
  | .atLeast => c.rhs - tol ≤ c.lhs values
  | .equal => Scalar.abs (c.lhs values - c.rhs) ≤ tol

end Constraint

end LinProg
