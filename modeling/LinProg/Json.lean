import LinProg.Decimal.Shortest
import LinProg.Text.Quoted
import LinProg.Decimal.Numeral

set_option autoImplicit false

namespace LinProg

inductive Json where
  | null
  | bool (flag : Bool)
  | int (n : Int)
  | real (x : Float)
  | text (s : Text)
  | array (items : List Json)
  | object (fields : List (Text × Json))

namespace Json

inductive Kind where
  | null | bool | int | real | text | array | object
deriving DecidableEq

def Kind.name : Kind → String
  | .null => "NoneType"
  | .bool => "bool"
  | .int => "int"
  | .real => "float"
  | .text => "str"
  | .array => "list"
  | .object => "dict"

def kind : Json → Kind
  | .null => .null
  | .bool _ => .bool
  | .int _ => .int
  | .real _ => .real
  | .text _ => .text
  | .array _ => .array
  | .object _ => .object

def isGiven : Json → Bool
  | .null => false
  | .bool flag => flag
  | .int n => n != 0
  | .real x => !(x == 0)
  | .text s => !s.isEmpty
  | .array items => !items.isEmpty
  | .object fields => !fields.isEmpty

-- The members of a value that holds some: the items of an array, the characters of a text, the names of
-- an object's fields.
def members? : Json → Option (List Json)
  | .array items => some items
  | .text s => some (s.map fun symbol => .text [symbol])
  | .object fields => some (fields.map fun (name, _) => .text name)
  | _ => none

def field? (name : String) (fields : List (Text × Json)) : Option Json :=
  (fields.find? fun (key, _) => key == Text.ofString name).map (·.2)

-- A field in its place; a name that is written again keeps its place and takes the new value.
def put (name : Text) (value : Json) : List (Text × Json) → List (Text × Json)
  | [] => [(name, value)]
  | (key, old) :: rest => if key == name then (key, value) :: rest else (key, old) :: put name value rest

mutual

def display : Json → String
  | .null => "None"
  | .bool flag => if flag then "True" else "False"
  | .int n => toString n
  | .real x => Decimal.fullText x
  | .text s => Text.quoted s
  | .array items => "[" ++ ", ".intercalate (displayAll items) ++ "]"
  | .object fields => "\x7b" ++ ", ".intercalate (displayFields fields) ++ "\x7d"

def displayAll : List Json → List String
  | [] => []
  | value :: rest => value.display :: displayAll rest

def displayFields : List (Text × Json) → List String
  | [] => []
  | (name, value) :: rest => (Text.quoted name ++ ": " ++ value.display) :: displayFields rest

end

def plain : Json → Text
  | .text s => s
  | value => value.display

end Json

inductive NumberError where
  | noNumber (kind : Json.Kind)
  | unreadable (text : Text)
  | tooLarge
deriving DecidableEq

namespace NumberError

def message : NumberError → String
  | .noNumber kind => s!"float() argument must be a string or a real number, not '{kind.name}'"
  | .unreadable text => "could not convert string to float: " ++ Text.quoted text
  | .tooLarge => "int too large to convert to float"

def failureKind : NumberError → FailureKind
  | .noNumber _ => .badType
  | .unreadable _ => .badValue
  | .tooLarge => .overflow

end NumberError

namespace Json

def wholeNumber (n : Int) : Except NumberError Float :=
  let x := Decimal.nearest (n < 0) n.natAbs 1
  if x.isFinite then .ok x else .error .tooLarge

def number : Json → Except NumberError Float
  | .int n => wholeNumber n
  | .real x => .ok x
  | .bool flag => .ok (if flag then 1 else 0)
  | .text s => match Decimal.readFloat? s with
    | some x => .ok x
    | none => .error (.unreadable s)
  | value => .error (.noNumber value.kind)

end Json

end LinProg
