set_option autoImplicit false

namespace LinProg.Decimal

-- A number as reports see it. Zero keeps its sign.
inductive Value where
  | finite (negative : Bool) (magnitude : Rat)
  | infinite (negative : Bool)
  | undefined
deriving DecidableEq

namespace Value

def ofRat (q : Rat) : Value := .finite (q < 0) (if q < 0 then -q else q)

def rational? : Value → Option Rat
  | .finite negative magnitude => some (if negative then -magnitude else magnitude)
  | _ => none

end Value

def sign (negative : Bool) : String := if negative then "-" else ""

def infinity (negative : Bool) : String := sign negative ++ "inf"

def notANumber : String := "nan"

def twoTo (exponent : Nat) : Nat := Nat.pow 2 exponent

def tenTo (exponent : Nat) : Nat := Nat.pow 10 exponent

def digitCount (n : Nat) : Nat :=
  if n = 0 then 0 else digitCount (n / 10) + 1

-- The exponent of ten of the leading digit of num / den, both positive. Below one it is the count
-- of digits of the quotient's inverse, rounded up and less one.
def leadingExponent (num den : Nat) : Int :=
  if den ≤ num then (digitCount (num / den) : Int) - 1 else -(digitCount ((den - 1) / num) : Int)

def inUnits (num den : Nat) (exponent : Int) : Nat × Nat :=
  if 0 ≤ exponent then (num, den * tenTo exponent.toNat) else (num * tenTo (-exponent).toNat, den)

def roundEven (num den : Nat) : Nat :=
  let below := num / den
  let rest := 2 * (num % den)
  if rest < den then below else if den < rest then below + 1 else below + below % 2

structure Binary where
  mantissa : Nat
  exponent : Int
deriving DecidableEq

namespace Binary

def leastExponent : Int := -1074

def quotient (b : Binary) : Nat × Nat :=
  if 0 ≤ b.exponent then (b.mantissa * twoTo b.exponent.toNat, 1) else (b.mantissa, twoTo (-b.exponent).toNat)

def toRat (b : Binary) : Rat := mkRat b.quotient.1 b.quotient.2

def ofBits (bits : Nat) : Binary :=
  let field : Nat := bits / twoTo 52 % twoTo 11
  let fraction := bits % twoTo 52
  if field = 0 then ⟨fraction, leastExponent⟩ else ⟨twoTo 52 + fraction, (field : Int) - 1075⟩

-- The lower 63 bits of the number nearest to num / den; a tie goes to the even mantissa, and what
-- is too large to infinity.
def nearestBits (num den : Nat) : Nat :=
  if num = 0 then 0 else
    let guess : Int := (num.log2 : Int) - den.log2 - 52
    let units (e : Int) : Nat × Nat :=
      if 0 ≤ e then (num, den * twoTo e.toNat) else (num * twoTo (-e).toNat, den)
    let fitting := if (units guess).1 < twoTo 52 * (units guess).2 then guess - 1 else guess
    let exponent := max fitting leastExponent
    let mantissa := roundEven (units exponent).1 (units exponent).2
    min ((exponent - leastExponent).toNat * twoTo 52 + mantissa) (2047 * twoTo 52)

end Binary

def isNegative (x : Float) : Bool := twoTo 63 ≤ x.toBits.toNat

def Value.ofFloat (x : Float) : Value :=
  let bits := x.toBits.toNat
  if bits / twoTo 52 % twoTo 11 = 2047 then
    if bits % twoTo 52 = 0 then .infinite (isNegative x) else .undefined
  else .finite (isNegative x) (Binary.ofBits bits).toRat

def nearest (negative : Bool) (num den : Nat) : Float :=
  Float.ofBits (UInt64.ofNat (Binary.nearestBits num den + if negative then twoTo 63 else 0))

def nearestToRat (q : Rat) : Float := nearest (q < 0) q.num.natAbs q.den

end LinProg.Decimal
