import LinProg.Decimal.Binary
import LinProg.Text

set_option autoImplicit false

namespace LinProg.Decimal

structure Numeral where
  negative : Bool
  coefficient : Nat
  exponent : Int
deriving DecidableEq

def ofDigits (digits : List Char) : Nat := digits.foldl (fun n c => 10 * n + (c.toNat - '0'.toNat)) 0

def takeSign : List Char → Bool × List Char
  | '-' :: rest => (true, rest)
  | '+' :: rest => (false, rest)
  | rest => (false, rest)

def exponent? : List Char → Option Int
  | [] => some 0
  | mark :: rest =>
    let (negative, digits) := takeSign rest
    if (mark = 'e' ∨ mark = 'E') ∧ digits ≠ [] ∧ digits.all Char.isDigit then
      some (if negative then -(ofDigits digits : Int) else ofDigits digits)
    else none

namespace Numeral

def magnitude? (text : List Char) : Option (Nat × Int) :=
  let whole := text.takeWhile Char.isDigit
  let rest := text.dropWhile Char.isDigit
  let (places, rest) := match rest with
    | '.' :: after => (after.takeWhile Char.isDigit, after.dropWhile Char.isDigit)
    | _ => ([], rest)
  if whole = [] ∧ places = [] then none
  else (exponent? rest).map fun e => (ofDigits (whole ++ places), e - places.length)

def parse? (text : List Char) : Option Numeral :=
  let (negative, rest) := takeSign text
  (magnitude? rest).map fun (coefficient, exponent) => ⟨negative, coefficient, exponent⟩

-- The nearest 64-bit number. Magnitudes far outside the format are settled by their leading digit.
def toFloat (n : Numeral) : Float :=
  let leading := n.exponent + digitCount n.coefficient
  if n.coefficient = 0 ∨ leading < -400 then nearest n.negative 0 1
  else if 400 < leading then nearest n.negative (twoTo 1024) 1
  else if 0 ≤ n.exponent then nearest n.negative (n.coefficient * tenTo n.exponent.toNat) 1
  else nearest n.negative n.coefficient (tenTo (-n.exponent).toNat)

end Numeral

-- Digits of any script as the ten plain ones and blanks of any script as spaces. A text of plain
-- characters stays as it is; a character that can stand in no number is reported by `none`.
def plain? (text : List Char) : Option (List Char) :=
  if text.all (·.toNat < 0x80) then some text
  else text.mapM fun c =>
    if c.toNat < 0x7f then some c
    else if Text.isBlank c then some ' '
    else (Text.digitValue? c).map fun d => Char.ofNat ('0'.toNat + d)

-- A text without its underscores, each of which must stand between two digits.
def withoutUnderscores? : List Char → Option (List Char)
  | [] => some []
  | '_' :: _ => none
  | [c] => some [c]
  | c :: '_' :: next :: rest =>
    if c.isDigit ∧ next.isDigit then (withoutUnderscores? (next :: rest)).map (c :: ·) else none
  | c :: rest => (withoutUnderscores? rest).map (c :: ·)

def isNamed (names : List String) (text : List Char) : Bool :=
  names.contains (String.ofList (text.map Char.toLower))

def readFloat? (text : Text) : Option Float := do
  let plain ← plain? (← text.chars?)
  let digits ← withoutUnderscores? (Text.trim Text.isSpacing plain)
  let (negative, rest) := takeSign digits
  if isNamed ["inf", "infinity"] rest then some (nearest negative (twoTo 1024) 1)
  else if isNamed ["nan"] rest then some (Float.ofBits 0x7ff8000000000000)
  else (Numeral.parse? digits).map Numeral.toFloat

def wholeDigitLimit : Nat := 4300

def readInt? (text : Text) : Option Int := do
  let plain ← plain? (← text.chars?)
  let digits ← withoutUnderscores? (Text.trim Text.isSpacing plain)
  let (negative, rest) := takeSign digits
  if rest = [] ∨ !rest.all Char.isDigit ∨ wholeDigitLimit < rest.length then none
  else some (if negative then -(ofDigits rest : Int) else ofDigits rest)

end LinProg.Decimal
