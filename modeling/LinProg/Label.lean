import LinProg.Json

set_option autoImplicit false

namespace LinProg

namespace Json

inductive Trait where
  | null
  | number (value : Decimal.Value)
  | text (s : Text)
  | array (size : Nat)
  | object (size : Nat)
deriving DecidableEq

def numberTrait (x : Float) : Trait :=
  .number <| match (Decimal.Value.ofFloat x).rational? with
    | some q => .ofRat q
    | none => Decimal.Value.ofFloat x

def joinedTraits (fields : List (Text × List Trait)) : List Trait :=
  (fields.mergeSort fun a b => Text.isUpTo a.1 b.1).flatMap fun (name, traits) => .text name :: traits

mutual

-- What a value has in common with all that equal it: numbers by what they are, objects by their fields in
-- any order.
def traits : Json → List Trait
  | .null => [.null]
  | .bool flag => [.number (.ofRat (if flag then 1 else 0))]
  | .int n => [.number (.ofRat n)]
  | .real x => [numberTrait x]
  | .text s => [.text s]
  | .array items => .array items.length :: traitsAll items
  | .object fields => .object fields.length :: joinedTraits (traitsFields fields)

def traitsAll : List Json → List Trait
  | [] => []
  | value :: rest => value.traits ++ traitsAll rest

def traitsFields : List (Text × Json) → List (Text × List Trait)
  | [] => []
  | (name, value) :: rest => (name, value.traits) :: traitsFields rest

end

def equals (a b : Json) : Bool := a.traits == b.traits

end Json

-- A value as a name. Numbers that are equal are one name; a list or an object serves as one in comparisons only.
structure Label where
  value : Json

namespace Label

def key (label : Label) : List Json.Trait := label.value.traits

instance : BEq Label where
  beq a b := a.key == b.key

instance : EquivBEq Label where
  rfl := by intro a; exact beq_self_eq_true a.key
  symm := by intro a b same; exact BEq.symm (α := List Json.Trait) same
  trans := by intro a b c first second; exact BEq.trans (α := List Json.Trait) first second

instance : Inhabited Label := ⟨⟨.null⟩⟩

def isSingle (label : Label) : Bool :=
  match label.value with
  | .array _ | .object _ => false
  | _ => true

def single? (value : Json) : Option Label := if (Label.mk value).isSingle then some ⟨value⟩ else none

def plain (label : Label) : Text := label.value.plain

def display (label : Label) : String := label.value.display

def displayAll (labels : List Label) : String := "[" ++ ", ".intercalate (labels.map display) ++ "]"

def isGiven (label : Label) : Bool := label.value.isGiven

def numberedText (letter : String) (i : Nat) : String := letter ++ toString (i + 1)

def numbered (letter : String) (i : Nat) : Label := ⟨.text (Text.ofString (numberedText letter i))⟩

end Label

abbrev Assignment (K : Type) := List (Label × K)

namespace Assignment

variable {K : Type}

def put (name : Label) (value : K) : Assignment K → Assignment K
  | [] => [(name, value)]
  | (key, old) :: rest => if key == name then (key, value) :: rest else (key, old) :: put name value rest

def get? (name : Label) (values : Assignment K) : Option K :=
  (values.find? fun (key, _) => key == name).map (·.2)

def has (name : Label) (values : Assignment K) : Bool := values.any fun (key, _) => key == name

def ofPairs (pairs : List (Label × K)) : Assignment K := pairs.foldl (fun values (name, x) => put name x values) []

end Assignment

end LinProg
