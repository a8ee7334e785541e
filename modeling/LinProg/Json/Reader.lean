import LinProg.Json.Token

set_option autoImplicit false

namespace LinProg.Json

structure Place where
  position : Nat
  line : Nat
  column : Nat
deriving DecidableEq

inductive ReadError where
  | flaw (cause : Flaw) (place : Place)
  | longNumber (digits : Nat)
deriving DecidableEq

def Place.of (text : Text) (position : Nat) : Place :=
  let before := text.take position
  { position
    line := before.count (.char '\n') + 1
    column := (before.reverse.takeWhile (· ≠ .char '\n')).length + 1 }

def Flaw.message : Flaw → String
  | .value => "Expecting value"
  | .name => "Expecting property name enclosed in double quotes"
  | .colon => "Expecting ':' delimiter"
  | .comma => "Expecting ',' delimiter"
  | .afterEnd => "Extra data"
  | .unterminated => "Unterminated string starting at"
  | .control => "Invalid control character at"
  | .escape => "Invalid \\escape"
  | .unicodeEscape => "Invalid \\uXXXX escape"
  | .byteOrderMark => "Unexpected UTF-8 BOM (decode using utf-8-sig)"

def ReadError.message : ReadError → String
  | .flaw cause place =>
    s!"{cause.message}: line {place.line} column {place.column} (char {place.position})"
  | .longNumber digits =>
    s!"Exceeds the limit ({Decimal.wholeDigitLimit} digits) for integer string conversion: value has {digits} digits; "
      ++ "use sys.set_int_max_str_digits() to increase the limit"

-- A container that is still open, its members so far in reverse.
inductive Frame where
  | array (done : List Json)
  | object (done : List (Text × Json)) (name : Text)

inductive Wanted where
  | value
  | valueOrClose
  | name (done : List (Text × Json))
  | nameOrClose
  | colon (done : List (Text × Json)) (name : Text)
  | afterValue (value : Json)

structure Progress where
  wanted : Wanted
  stack : List Frame

def Progress.start : Progress := ⟨.value, []⟩

inductive Obstacle where
  | flaw (cause : Flaw) (position : Nat)
  | longNumber (digits : Nat)

def readValue (stack : List Frame) (token : Token) : Except Obstacle Progress :=
  match token.piece with
  | .literal value => .ok ⟨.afterValue value, stack⟩
  | .text s => .ok ⟨.afterValue (.text s), stack⟩
  | .mark .openArray => .ok ⟨.valueOrClose, .array [] :: stack⟩
  | .mark .openObject => .ok ⟨.nameOrClose, stack⟩
  | .brokenText cause position => .error (.flaw cause position)
  | .longNumber digits => .error (.longNumber digits)
  | _ => .error (.flaw .value token.position)

def readName (done : List (Text × Json)) (stack : List Frame) (token : Token) : Except Obstacle Progress :=
  match token.piece with
  | .text s => .ok ⟨.colon done s, stack⟩
  | .brokenText cause position => .error (.flaw cause position)
  | _ => .error (.flaw .name token.position)

def resume (value : Json) (stack : List Frame) (token : Token) : Except Obstacle Progress :=
  match stack, token.piece with
  | .array done :: outer, .mark .comma => .ok ⟨.value, .array (value :: done) :: outer⟩
  | .array done :: outer, .mark .closeArray => .ok ⟨.afterValue (.array (value :: done).reverse), outer⟩
  | .object done name :: outer, .mark .comma => .ok ⟨.name (put name value done), outer⟩
  | .object done name :: outer, .mark .closeObject => .ok ⟨.afterValue (.object (put name value done)), outer⟩
  | [], .finish => .ok ⟨.afterValue value, []⟩
  | [], _ => .error (.flaw .afterEnd token.position)
  | _, _ => .error (.flaw .comma token.position)

def Progress.step (progress : Progress) (token : Token) : Except Obstacle Progress :=
  match progress.wanted, token.piece with
  | .value, _ => readValue progress.stack token
  | .valueOrClose, .mark .closeArray => .ok ⟨.afterValue (.array []), progress.stack.drop 1⟩
  | .valueOrClose, _ => readValue progress.stack token
  | .name done, _ => readName done progress.stack token
  | .nameOrClose, .mark .closeObject => .ok ⟨.afterValue (.object []), progress.stack⟩
  | .nameOrClose, _ => readName [] progress.stack token
  | .colon done name, .mark .colon => .ok ⟨.value, .object done name :: progress.stack⟩
  | .colon _ _, _ => .error (.flaw .colon token.position)
  | .afterValue value, _ => resume value progress.stack token

-- Containers may be nested to any depth.
def parse (text : Text) : Except ReadError Json :=
  let locate : Obstacle → ReadError
    | .flaw cause position => .flaw cause (.of text position)
    | .longNumber digits => .longNumber digits
  if text.head? = some (.ofCode 0xfeff) then .error (locate (.flaw .byteOrderMark 0))
  else match (tokens 0 text).foldlM Progress.step .start with
    | .error obstacle => .error (locate obstacle)
    | .ok ⟨.afterValue value, _⟩ => .ok value
    | .ok _ => .error (locate (.flaw .value text.length))

end LinProg.Json
