import LinProg.Scalar
import LinProg.Decimal.Layout
import LinProg.Json

set_option autoImplicit false

namespace LinProg.Fraction

structure Convergents where
  p0 : Int
  q0 : Int
  p1 : Int
  q1 : Int

namespace Convergents

def start : Convergents := ⟨0, 1, 1, 0⟩

def next (c : Convergents) (quotient : Int) : Convergents :=
  ⟨c.p1, c.q1, c.p0 + quotient * c.p1, c.q0 + quotient * c.q1⟩

def follow (limit : Nat) (c : Convergents) (num : Int) (den : Nat) : Convergents :=
  if _ : 0 < den then
    let quotient := num / den
    if limit < (c.next quotient).q1 then c else follow limit (c.next quotient) den (num % den).toNat
  else c
termination_by den
decreasing_by
  have := Int.emod_lt_of_pos num (by omega : (0 : Int) < den)
  have := Int.emod_nonneg num (by omega : (den : Int) ≠ 0)
  omega

-- The last fraction between the two convergents whose denominator is within the limit.
def between (c : Convergents) (limit : Nat) : Rat :=
  let steps := (limit - c.q0) / c.q1
  mkRat (c.p0 + steps * c.p1) (c.q0 + steps * c.q1).toNat

def current (c : Convergents) : Rat := mkRat c.p1 c.q1.toNat

end Convergents

def distance (x y : Rat) : Rat := if x < y then y - x else x - y

-- A fraction closest to x among those of denominator at most `limit`, the convergent where two are
-- equally close.
def closest (limit : Nat) (x : Rat) : Rat :=
  if x.den ≤ limit then x else
    let c := Convergents.start.follow limit x.num x.den
    if distance c.current x ≤ distance (c.between limit) x then c.current else c.between limit

end LinProg.Fraction

namespace LinProg.Report

inductive DenominatorError where
  | belowOne
  | notWhole
  | unordered (kind : Json.Kind)

def DenominatorError.message : DenominatorError → String
  | .belowOne => "max_denominator should be at least 1"
  | .notWhole => "both arguments should be Rational instances"
  | .unordered kind => s!"'<' not supported between instances of '{kind.name}' and 'int'"

def DenominatorError.failureKind : DenominatorError → FailureKind
  | .belowOne => .badValue
  | .notWhole | .unordered _ => .badType

variable {K : Type} [Scalar K]

-- Below this a number is shown as zero; relative to a number, or to one if that is more, a fraction may
-- miss it by as much.
def tolerance : K := 1e-9

def fractionText (q : Rat) : String := if q.den = 1 then toString q.num else s!"{q.num}/{q.den}"

def finiteText (limit : Nat) (x : K) (exact : Rat) : String :=
  let closest := Fraction.closest limit exact
  if tolerance * Scalar.larger 1 (Scalar.abs x) < Scalar.abs (Scalar.ofRat closest - x) then
    Decimal.briefText (Scalar.value x)
  else fractionText closest

def numberWithin (limit : Int) (x : K) : Except DenominatorError String :=
  match (Scalar.value x).rational? with
  | none => .ok (Decimal.briefText (Scalar.value x))
  | some exact =>
    if Scalar.abs x < tolerance then .ok "0"
    else if limit < 1 then .error .belowOne
    else .ok (finiteText limit.toNat x exact)

-- The text of a number, with denominators up to a given value. One that is not whole serves only for numbers
-- whose own denominators it admits.
def numberUpTo (bound : Json) (x : K) : Except DenominatorError String :=
  match bound, (Scalar.value x).rational? with
  | .int limit, _ => numberWithin limit x
  | .bool flag, _ => numberWithin (if flag then 1 else 0) x
  | _, none => .ok (Decimal.briefText (Scalar.value x))
  | bound, some exact =>
    if Scalar.abs x < tolerance then .ok "0"
    else match bound with
      | .real limit =>
        if limit < 1 then .error .belowOne
        else if Scalar.ofRat exact.den ≤ limit then .ok (finiteText exact.den x exact)
        else .error .notWhole
      | value => .error (.unordered value.kind)

def number (x : K) : String :=
  match (Scalar.value x).rational? with
  | none => Decimal.briefText (Scalar.value x)
  | some exact => if Scalar.abs x < tolerance then "0" else finiteText 1000 x exact

end LinProg.Report
