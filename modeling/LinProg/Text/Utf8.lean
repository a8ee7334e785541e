import LinProg.Text

set_option autoImplicit false

namespace LinProg.Text

inductive Utf8Fault where
  | first
  | tail
  | ending
deriving DecidableEq

structure Utf8Error where
  fault : Utf8Fault
  byte : Nat
  start : Nat
  stop : Nat
deriving DecidableEq

def Utf8Fault.message : Utf8Fault → String
  | .first => "invalid start byte"
  | .tail => "invalid continuation byte"
  | .ending => "unexpected end of data"

def Utf8Error.message (e : Utf8Error) : String :=
  let digits := Nat.toDigits 16 e.byte
  let place :=
    if e.stop = e.start + 1 then
      "byte 0x" ++ String.ofList (List.replicate (2 - digits.length) '0' ++ digits) ++ s!" in position {e.start}"
    else s!"bytes in position {e.start}-{e.stop - 1}"
  s!"'utf-8' codec can't decode {place}: {e.fault.message}"

-- What a first byte announces: how many tails follow, between what bounds the first of them lies, and its
-- share of the code point.
structure Lead where
  tails : Nat
  least : Nat
  greatest : Nat
  share : Nat

def lead? (byte : Nat) : Option Lead :=
  if byte < 0x80 then some ⟨0, 0x80, 0xbf, byte⟩
  else if byte < 0xc2 then none
  else if byte < 0xe0 then some ⟨1, 0x80, 0xbf, byte - 0xc0⟩
  else if byte < 0xf0 then
    some ⟨2, if byte = 0xe0 then 0xa0 else 0x80, if byte = 0xed then 0x9f else 0xbf, byte - 0xe0⟩
  else if byte < 0xf5 then
    some ⟨3, if byte = 0xf0 then 0x90 else 0x80, if byte = 0xf4 then 0x8f else 0xbf, byte - 0xf0⟩
  else none

-- The code point once so many tails are read, or the fault with the count of good tails before it.
def tailsFrom (tails least greatest code : Nat) (good : Nat) : List UInt8 → Except (Utf8Fault × Nat) Nat
  | bytes => match tails, bytes with
    | 0, _ => .ok code
    | _ + 1, [] => .error (.ending, good)
    | left + 1, byte :: rest =>
      if least ≤ byte.toNat ∧ byte.toNat ≤ greatest then
        tailsFrom left 0x80 0xbf (code * 64 + (byte.toNat - 0x80)) (good + 1) rest
      else .error (.tail, good)

def decodeFrom (position : Nat) (bytes : List UInt8) : Except Utf8Error (List Char) :=
  match bytes with
  | [] => .ok []
  | byte :: rest =>
    match lead? byte.toNat with
    | none => .error ⟨.first, byte.toNat, position, position + 1⟩
    | some lead =>
      match tailsFrom lead.tails lead.least lead.greatest lead.share 0 rest with
      | .error (fault, good) => .error ⟨fault, byte.toNat, position, position + 1 + good⟩
      | .ok code =>
        (decodeFrom (position + 1 + lead.tails) (rest.drop lead.tails)).map (Char.ofNat code :: ·)
termination_by bytes.length
decreasing_by simp only [List.length_cons, List.length_drop]; omega

-- Line ends of two characters, or of the first of them, become the second.
def plainLines : List Char → List Char
  | '\r' :: '\n' :: rest => '\n' :: plainLines rest
  | '\r' :: rest => '\n' :: plainLines rest
  | c :: rest => c :: plainLines rest
  | [] => []

def ofBytes (bytes : List UInt8) : Except Utf8Error Text :=
  (decodeFrom 0 bytes).map fun chars => (plainLines chars).map .char

end LinProg.Text
