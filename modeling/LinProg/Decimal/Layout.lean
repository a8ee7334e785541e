import LinProg.Decimal.Binary

set_option autoImplicit false

namespace LinProg.Decimal

structure Digits where
  coefficient : Nat
  exponent : Int
deriving DecidableEq

namespace Digits

def ofNat (n : Nat) : Digits := ⟨n, 0⟩

def leading (d : Digits) : List Char × Int :=
  let written := Nat.toDigits 10 d.coefficient
  let kept := (written.reverse.dropWhile (· = '0')).reverse
  if kept.isEmpty then (['0'], 0) else (kept, d.exponent + written.length - 1)

end Digits

-- How numbers are written: those whose leading exponent lies from `least` to below `limit` with a
-- plain point, all others with an exponent of at least two digits.
structure Layout where
  least : Int
  limit : Int
  keepsPoint : Bool

namespace Layout

def full : Layout := { least := -4, limit := 16, keepsPoint := true }

def brief : Layout := { least := -4, limit := 6, keepsPoint := false }

def plain (layout : Layout) (digits : List Char) (leading : Int) : List Char :=
  if leading < 0 then '0' :: '.' :: (List.replicate (-leading - 1).toNat '0' ++ digits)
  else
    let size := leading.toNat + 1
    let whole := digits.take size ++ List.replicate (size - digits.length) '0'
    let rest := digits.drop size
    if rest.isEmpty then whole ++ (if layout.keepsPoint then ['.', '0'] else []) else whole ++ '.' :: rest

def exponentText (e : Int) : List Char :=
  let written := Nat.toDigits 10 e.natAbs
  (if e < 0 then '-' else '+') :: (List.replicate (2 - written.length) '0' ++ written)

def scientific (digits : List Char) (leading : Int) : List Char :=
  let mantissa := match digits with
    | first :: second :: rest => first :: '.' :: second :: rest
    | short => short
  mantissa ++ 'e' :: exponentText leading

def write (layout : Layout) (negative : Bool) (d : Digits) : String :=
  let (digits, leading) := d.leading
  let body :=
    if layout.least ≤ leading ∧ leading < layout.limit then layout.plain digits leading
    else scientific digits leading
  sign negative ++ String.ofList body

end Layout

def Digits.rounded (count num den : Nat) : Digits :=
  if num = 0 then .ofNat 0 else
    let exponent := leadingExponent num den - count + 1
    let (scaled, unit) := inUnits num den exponent
    ⟨roundEven scaled unit, exponent⟩

def briefText : Value → String
  | .finite negative magnitude =>
    Layout.brief.write negative (Digits.rounded 6 magnitude.num.natAbs magnitude.den)
  | .infinite negative => infinity negative
  | .undefined => notANumber

end LinProg.Decimal
