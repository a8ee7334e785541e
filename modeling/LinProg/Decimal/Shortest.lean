import LinProg.Decimal.Layout

set_option autoImplicit false

namespace LinProg.Decimal

namespace Binary

def atPower (b : Binary) : Bool := b.mantissa = twoTo 52 ∧ leastExponent < b.exponent

-- The magnitudes that round to this one, in quarters of 2 ^ exponent.
def lowest (b : Binary) : Nat := 4 * b.mantissa - if b.atPower then 1 else 2

def highest (b : Binary) : Nat := 4 * b.mantissa + 2

-- One unit of 10 ^ exponent of the decimal grid, and a quarter of 2 ^ exponent, over one
-- denominator.
def grid (b : Binary) (exponent : Int) : Nat × Nat :=
  let quarter := quotient ⟨1, b.exponent - 2⟩
  let ten := if 0 ≤ exponent then (tenTo exponent.toNat, 1) else (1, tenTo (-exponent).toNat)
  (ten.1 * quarter.2, quarter.1 * ten.2)

-- Whether coefficient * 10 ^ exponent rounds to this magnitude. The ends of the interval round to
-- it exactly when its mantissa is even.
def admits (b : Binary) (exponent : Int) (coefficient : Nat) : Bool :=
  let (step, quarter) := b.grid exponent
  if b.mantissa % 2 = 0 then b.lowest * quarter ≤ coefficient * step ∧ coefficient * step ≤ b.highest * quarter
  else b.lowest * quarter < coefficient * step ∧ coefficient * step < b.highest * quarter

-- The better of the two neighbours on the grid of 10 ^ exponent, if one rounds to this magnitude:
-- the nearer, and of two equally near the even one.
def onGrid? (b : Binary) (exponent : Int) : Option Digits :=
  let (step, quarter) := b.grid exponent
  let exact := 4 * b.mantissa * quarter
  let below := exact / step
  let best := roundEven exact step
  let other := if best = below then below + 1 else below
  if b.admits exponent best then some ⟨best, exponent⟩
  else if b.admits exponent other then some ⟨other, exponent⟩
  else none

-- The shortest decimal that rounds to this magnitude. Seventeen digits always do.
def shortest (b : Binary) : Digits :=
  if b.mantissa = 0 then .ofNat 0 else
    let (num, den) := b.quotient
    let leading := leadingExponent num den
    ((List.range 17).findSome? fun (used : Nat) => b.onGrid? (leading - used)).getD ⟨0, 0⟩

end Binary

def fullText (x : Float) : String :=
  match Value.ofFloat x with
  | .finite negative _ => Layout.full.write negative (Binary.ofBits x.toBits.toNat).shortest
  | .infinite negative => infinity negative
  | .undefined => notANumber

end LinProg.Decimal
