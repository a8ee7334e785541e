import LinProg.Json
import LinProg.Decimal.Numeral

set_option autoImplicit false

namespace LinProg.Json

inductive Flaw where
  | value
  | name
  | colon
  | comma
  | afterEnd
  | unterminated
  | control
  | escape
  | unicodeEscape
  | byteOrderMark
deriving DecidableEq

inductive Mark where
  | openArray | closeArray | openObject | closeObject | comma | colon
deriving DecidableEq

inductive Piece where
  | mark (m : Mark)
  | literal (value : Json)
  | text (s : Text)
  | brokenText (flaw : Flaw) (position : Nat)
  | longNumber (digits : Nat)
  | unknown
  | finish

structure Token where
  position : Nat
  piece : Piece

def hexValue? (c : Char) : Option Nat :=
  if c.isDigit then some (c.toNat - '0'.toNat)
  else if 'a' ≤ c ∧ c ≤ 'f' then some (c.toNat - 'a'.toNat + 10)
  else if 'A' ≤ c ∧ c ≤ 'F' then some (c.toNat - 'A'.toNat + 10)
  else none

def hexNumber? (digits : Text) : Option Nat :=
  (digits.mapM fun (digit : Symbol) => digit.char?.bind hexValue?).map (·.foldl (16 * · + ·) 0)

def escapeValue? : Symbol → Option Nat
  | .char '"' => some 0x22
  | .char '\\' => some 0x5c
  | .char '/' => some 0x2f
  | .char 'b' => some 8
  | .char 'f' => some 12
  | .char 'n' => some 10
  | .char 'r' => some 13
  | .char 't' => some 9
  | _ => none

structure CodeUnit where
  code : Nat
  numbered : Bool

-- A text after its opening quote at `start`: its code units, and the position after its closing quote.
-- A numbered escape needs four digits with something after them.
def unitsFrom (start position : Nat) : Text → Except (Flaw × Nat) (List CodeUnit × Nat)
  | [] => .error (.unterminated, start)
  | .char '"' :: _ => .ok ([], position + 1)
  | [.char '\\'] => .error (.unterminated, start)
  | .char '\\' :: .char 'u' :: a :: b :: c :: d :: rest =>
    match hexNumber? [a, b, c, d], rest with
    | none, _ | _, [] => .error (.unicodeEscape, position + 1)
    | some code, rest =>
      (unitsFrom start (position + 6) rest).map fun (units, after) => (⟨code, true⟩ :: units, after)
  | .char '\\' :: .char 'u' :: _ => .error (.unicodeEscape, position + 1)
  | .char '\\' :: s :: rest =>
    match escapeValue? s with
    | none => .error (.escape, position)
    | some code => (unitsFrom start (position + 2) rest).map fun (units, after) => (⟨code, false⟩ :: units, after)
  | s :: rest =>
    if s.code < 0x20 then .error (.control, position)
    else (unitsFrom start (position + 1) rest).map fun (units, after) => (⟨s.code, false⟩ :: units, after)

-- Code points from code units: a high surrogate and the low one after it are one if both are numbered.
def joinUnits : List CodeUnit → Text
  | [] => []
  | high :: low :: rest =>
    if high.numbered ∧ low.numbered ∧ 0xd800 ≤ high.code ∧ high.code < 0xdc00 ∧ 0xdc00 ≤ low.code
        ∧ low.code < 0xe000 then
      Symbol.ofCode (0x10000 + (high.code - 0xd800) * 0x400 + (low.code - 0xdc00)) :: joinUnits rest
    else Symbol.ofCode high.code :: joinUnits (low :: rest)
  | [unit] => [Symbol.ofCode unit.code]

def wholeDigits : List Char → List Char
  | '0' :: _ => ['0']
  | chars => chars.takeWhile Char.isDigit

def fractionPart : List Char → List Char
  | '.' :: rest => if (rest.takeWhile Char.isDigit).isEmpty then [] else '.' :: rest.takeWhile Char.isDigit
  | _ => []

def exponentPart : List Char → List Char
  | mark :: rest =>
    let sign := rest.takeWhile (fun c => c = '+' ∨ c = '-') |>.take 1
    let digits := (rest.drop sign.length).takeWhile Char.isDigit
    if (mark = 'e' ∨ mark = 'E') ∧ !digits.isEmpty then mark :: sign ++ digits else []
  | [] => []

def isNumeric : Symbol → Bool
  | .char c => c.isDigit || "+-.eE".toList.contains c
  | .surrogate _ => false

def number? (text : Text) : Option (Piece × Nat) :=
  let chars := (text.takeWhile isNumeric).filterMap Symbol.char?
  let sign := chars.takeWhile (· = '-') |>.take 1
  let unsigned := chars.drop sign.length
  let whole := wholeDigits unsigned
  let fraction := fractionPart (unsigned.drop whole.length)
  let exponent := exponentPart (unsigned.drop (whole.length + fraction.length))
  let width := sign.length + whole.length + fraction.length + exponent.length
  if whole.isEmpty then none
  else if fraction.isEmpty ∧ exponent.isEmpty then
    if Decimal.wholeDigitLimit < whole.length then some (.longNumber whole.length, width)
    else
      let n : Int := Decimal.ofDigits whole
      some (.literal (.int (if sign.isEmpty then n else -n)), width)
  else (Decimal.Numeral.parse? (chars.take width)).map fun n => (.literal (.real n.toFloat), width)

def constants : List (String × Json) := [
  ("null", .null), ("true", .bool true), ("false", .bool false), ("NaN", .real (Float.ofBits 0x7ff8000000000000)),
  ("Infinity", .real (Float.ofBits 0x7ff0000000000000)), ("-Infinity", .real (Float.ofBits 0xfff0000000000000))]

def constant? (text : Text) : Option (Piece × Nat) :=
  (constants.find? fun (word, _) => (Text.ofString word).isPrefixOf text).map fun (word, value) =>
    (.literal value, word.length)

def mark? : Symbol → Option Mark
  | .char '[' => some .openArray
  | .char ']' => some .closeArray
  | .char '\x7b' => some .openObject
  | .char '\x7d' => some .closeObject
  | .char ',' => some .comma
  | .char ':' => some .colon
  | _ => none

def pieceAt (position : Nat) (s : Symbol) (rest : Text) : Piece × Nat :=
  if s = .char '"' then
    match unitsFrom position (position + 1) rest with
    | .ok (units, after) => (.text (joinUnits units), after - position)
    | .error (flaw, place) => (.brokenText flaw place, 1)
  else match mark? s with
    | some m => (.mark m, 1)
    | none => ((constant? (s :: rest)).or (number? (s :: rest))).getD (.unknown, 1)

def Piece.isReadable : Piece → Bool
  | .brokenText .. | .unknown | .longNumber _ | .finish => false
  | _ => true

def isSpace (s : Symbol) : Bool := s = .char ' ' ∨ s = .char '\t' ∨ s = .char '\n' ∨ s = .char '\r'

-- What cannot be read is a token too, so that the reader alone decides which flaw comes first.
def tokens (position : Nat) (text : Text) : List Token :=
  match text with
  | [] => [⟨position, .finish⟩]
  | s :: rest =>
    if isSpace s then tokens (position + 1) rest
    else
      let (piece, width) := pieceAt position s rest
      ⟨position, piece⟩ :: if piece.isReadable then tokens (position + width) (rest.drop (width - 1)) else []
termination_by text.length
decreasing_by all_goals simp only [List.length_cons, List.length_drop]; omega

end LinProg.Json
