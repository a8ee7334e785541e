import LinProg.Decimal.Binary

set_option autoImplicit false

namespace LinProg

class Scalar (K : Type) extends Zero K, One K, Add K, Sub K, Mul K, Div K, Neg K, LT K, LE K, BEq K,
    OfScientific K where
  ltDecidable : DecidableLT K
  leDecidable : DecidableLE K
  value : K → Decimal.Value
  ofRat : Rat → K
  top? : Option K

attribute [reducible, instance] Scalar.ltDecidable Scalar.leDecidable

namespace Scalar

variable {K : Type} [Scalar K]

def abs (x : K) : K := if x < 0 then -x else x

-- The larger of two numbers, the first unless the second is above it.
def larger (x y : K) : K := if x < y then y else x

-- From the left, each partial sum rounded: nothing makes up for what rounding loses, as in runtimes before 3.12.
def sum (xs : List K) : K := xs.foldl (· + ·) 0

def dot (xs ys : List K) : K := sum (List.zipWith (· * ·) xs ys)

def isBounded (x : K) : Bool := match (top? : Option K) with
  | some top => x < top
  | none => true

def agree (x y : K) : Bool := x == y || !(x == x) && !(y == y)

def agreeAll (xs ys : List K) : Bool := xs.length == ys.length && (xs.zip ys).all fun (x, y) => agree x y

def ofNat (n : Nat) : K := OfScientific.ofScientific n false 0

end Scalar

instance : Scalar Rat where
  zero := Rat.ofInt 0
  one := Rat.ofInt 1
  ltDecidable := inferInstance
  leDecidable := inferInstance
  value := Decimal.Value.ofRat
  ofRat := id
  top? := none

instance : Scalar Float where
  ltDecidable := inferInstance
  leDecidable := inferInstance
  value := Decimal.Value.ofFloat
  ofRat := Decimal.nearestToRat
  top? := some (Float.ofBits 0x7ff0000000000000)

end LinProg
