set_option autoImplicit false

namespace LinProg

-- Half of a surrogate pair is a code point but no character; text that comes from outside may hold one alone.
inductive Symbol where
  | char (c : Char)
  | surrogate (place : Fin 2048)
deriving DecidableEq

abbrev Text := List Symbol

namespace Symbol

def code : Symbol → Nat
  | .char c => c.toNat
  | .surrogate place => 0xd800 + place

def ofCode (n : Nat) : Symbol :=
  if surrogate : 0xd800 ≤ n ∧ n < 0xe000 then .surrogate ⟨n - 0xd800, by omega⟩ else .char (Char.ofNat n)

def char? : Symbol → Option Char
  | .char c => some c
  | .surrogate _ => none

instance : Coe Char Symbol := ⟨.char⟩

end Symbol

namespace Text

def ofString (s : String) : Text := s.toList.map .char

instance : Coe String Text := ⟨ofString⟩

def isUpTo : Text → Text → Bool
  | [], _ => true
  | _ :: _, [] => false
  | a :: rest, b :: others => a.code < b.code || (a.code == b.code && isUpTo rest others)

def chars? (text : Text) : Option (List Char) := text.mapM Symbol.char?

def toString? (text : Text) : Option String := text.chars?.map String.ofList

theorem chars_of_string (s : String) : (ofString s).chars? = some s.toList := by
  unfold ofString chars?
  induction s.toList with
  | nil => rfl
  | cons c rest step => rw [List.map_cons, List.mapM_cons, step]; rfl

def blanks : List (Nat × Nat) := [
  (0x09, 0x0d), (0x1c, 0x20), (0x85, 0x85), (0xa0, 0xa0), (0x1680, 0x1680), (0x2000, 0x200a), (0x2028, 0x2029),
  (0x202f, 0x202f), (0x205f, 0x205f), (0x3000, 0x3000)]

def isBlank (s : Symbol) : Bool := blanks.any fun (first, last) => first ≤ s.code ∧ s.code ≤ last

-- The space and the five controls that move the writing position.
def isSpacing (c : Char) : Bool := c = ' ' ∨ (0x09 ≤ c.toNat ∧ c.toNat ≤ 0x0d)

def trim {α : Type} (drops : α → Bool) (text : List α) : List α :=
  ((text.dropWhile drops).reverse.dropWhile drops).reverse

-- The zeros of the scripts, each followed by its other nine digits.
def zeros : List Nat := [
  0x30, 0x660, 0x6f0, 0x7c0, 0x966, 0x9e6, 0xa66, 0xae6, 0xb66, 0xbe6, 0xc66, 0xce6, 0xd66, 0xde6, 0xe50,
  0xed0, 0xf20, 0x1040, 0x1090, 0x17e0, 0x1810, 0x1946, 0x19d0, 0x1a80, 0x1a90, 0x1b50, 0x1bb0, 0x1c40,
  0x1c50, 0xa620, 0xa8d0, 0xa900, 0xa9d0, 0xa9f0, 0xaa50, 0xabf0, 0xff10, 0x104a0, 0x10d30, 0x11066, 0x110f0,
  0x11136, 0x111d0, 0x112f0, 0x11450, 0x114d0, 0x11650, 0x116c0, 0x11730, 0x118e0, 0x11950, 0x11c50, 0x11d50,
  0x11da0, 0x16a60, 0x16ac0, 0x16b50, 0x1d7ce, 0x1d7d8, 0x1d7e2, 0x1d7ec, 0x1d7f6, 0x1e140, 0x1e2f0, 0x1e950,
  0x1fbf0]

def digitValue? (c : Char) : Option Nat :=
  (zeros.find? fun first => first ≤ c.toNat ∧ c.toNat < first + 10).map (c.toNat - ·)

def spaces (count : Nat) : Text := List.replicate count ' '

def padLeft (width : Nat) (text : Text) : Text := spaces (width - text.length) ++ text

def joined (separator : Text) (parts : List Text) : Text := separator.intercalate parts

end Text

inductive FailureKind where
  -- A model that is not well formed, or a problem of a shape that the solver does not take.
  | invalidModel
  | badValue
  | badType
  | overflow
  | zeroPivot
  | outOfRange
  | undecodable
  | unencodable
deriving DecidableEq

end LinProg
