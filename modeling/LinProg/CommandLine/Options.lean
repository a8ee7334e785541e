import LinProg.Decimal.Numeral
import LinProg.Text.Quoted

set_option autoImplicit false

namespace LinProg.CommandLine

inductive Flag where
  | help
  | sense
  | min
  | maxIter
  | noVerbose
  | sensitivity
  | graph
deriving DecidableEq

namespace Flag

def spellings : List (String × Flag) := [
  ("-h", .help), ("--help", .help), ("--sense", .sense), ("--min", .min), ("--max-iter", .maxIter),
  ("--no-verbose", .noVerbose), ("--sensitivity", .sensitivity), ("--graph", .graph)]

def ofText? (text : Text) : Option Flag := (Text.toString? text).bind (List.lookup · spellings)

def takesValue : Flag → Bool
  | .sense | .maxIter => true
  | _ => false

def title (flag : Flag) : String :=
  "/".intercalate ((spellings.filter fun (_, other) => other = flag).map (·.1))

end Flag

inductive UsageError where
  | ambiguous (argument : Text) (candidates : List String)
  | ignoredValue (flag : Flag) (value : Text)
  | missingValue (flag : Flag)
  | notWhole (flag : Flag) (value : Text)
  | unknownChoice (flag : Flag) (value : Text)
  | missingPath
  | unrecognized (arguments : List Text)
  | negativeLimit
deriving DecidableEq

def directions : List (String × Bool) := [("max", true), ("min", false)]

namespace UsageError

def message : UsageError → Text
  | .ambiguous argument candidates => "ambiguous option: " ++ argument ++ " could match " ++ ", ".intercalate candidates
  | .ignoredValue flag value => s!"argument {flag.title}: ignored explicit argument {Text.quoted value}"
  | .missingValue flag => s!"argument {flag.title}: expected one argument"
  | .notWhole flag value => s!"argument {flag.title}: invalid int value: {Text.quoted value}"
  | .unknownChoice flag value =>
    let choices := ", ".intercalate (directions.map fun (word, _) => Text.quoted (Text.ofString word))
    s!"argument {flag.title}: invalid choice: {Text.quoted value} (choose from {choices})"
  | .missingPath => "the following arguments are required: json"
  | .unrecognized arguments => "unrecognized arguments: " ++ Text.joined " " arguments
  | .negativeLimit => "--max-iter must be non-negative"

end UsageError

inductive Item where
  | word (text : Text)
  | divider
  | option (flag : Flag) (value : Option Text)
  | cluster (rest : Text)
  | unknown (text : Text)

-- A minus sign and a number in plain notation, perhaps with a line end after it.
def looksNegative (argument : Text) : Bool :=
  let isDigit (s : Symbol) : Bool := (s.char?.bind Text.digitValue?).isSome
  match argument with
  | .char '-' :: rest =>
    let rest := if rest.getLast? = some (.char '\n') then rest.dropLast else rest
    match rest.dropWhile isDigit with
    | [] => !rest.isEmpty
    | .char '.' :: places => !places.isEmpty && places.all isDigit
    | _ => false
  | _ => false

def splitValue (argument : Text) : Text × Option Text :=
  let isName (s : Symbol) : Bool := s ≠ '='
  match argument.dropWhile isName with
  | _ :: value => (argument.takeWhile isName, some value)
  | [] => (argument, none)

-- An option may be written by any start that no other shares. What follows the short help option is read as
-- by runtimes before 3.11.9, also behind an equals sign or a blank.
def classify (argument : Text) : Except UsageError Item :=
  let (name, value) := splitValue argument
  match Flag.ofText? argument, Flag.ofText? name, argument with
  | some flag, _, _ => .ok (.option flag none)
  | none, some flag, .char '-' :: .char '-' :: _ => .ok (.option flag value)
  | none, some _, _ => .ok (.cluster (value.getD []))
  | none, none, .char '-' :: .char '-' :: _ =>
    match Flag.spellings.filter fun (spelling, _) => name.isPrefixOf (Text.ofString spelling) with
    | [] => .ok (plain argument)
    | [(_, flag)] => .ok (.option flag value)
    | several => .error (.ambiguous argument (several.map (·.1)))
  | none, none, .char '-' :: .char 'h' :: rest => .ok (.cluster rest)
  | none, none, .char '-' :: _ :: _ => .ok (plain argument)
  | none, none, _ => .ok (.word argument)
where
  plain (argument : Text) : Item :=
    if looksNegative argument ∨ .char ' ' ∈ argument then .word argument else .unknown argument

def divider : Text := "--"

def itemsOf : List Text → Except UsageError (List Item)
  | [] => .ok []
  | argument :: rest =>
    if argument = divider then .ok (.divider :: rest.map .word)
    else do return (← classify argument) :: (← itemsOf rest)

structure Options where
  path : Option Text := none
  maximize : Option Bool := none
  min : Bool := false
  -- The pivots allowed, if that is a number at all.
  limit : Option Int := some 50
  verbose : Bool := true
  sensitivity : Bool := false
  graph : Bool := false
  extras : List Text := []

inductive Request where
  | help
  | run (options : Options)

namespace Options

def addExtra (o : Options) (word : Text) : Options := { o with extras := o.extras ++ [word] }

def switch (o : Options) : Flag → Options
  | .min => { o with min := true }
  | .noVerbose => { o with verbose := false }
  | .sensitivity => { o with sensitivity := true }
  | .graph => { o with graph := true }
  | .help | .sense | .maxIter => o

-- An option with its value. The divider as a value is none that could be checked: no direction then, which
-- does not maximize, and no limit.
def assign (o : Options) (flag : Flag) (value : Text) : Except UsageError Options :=
  match flag with
  | .sense =>
    if value = divider then .ok { o with maximize := some false }
    else match (Text.toString? value).bind (List.lookup · directions) with
      | some maximize => .ok { o with maximize := some maximize }
      | none => .error (.unknownChoice flag value)
  | .maxIter =>
    if value = divider then .ok { o with limit := none }
    else match Decimal.readInt? value with
      | some limit => .ok { o with limit := some limit }
      | none => .error (.notWhole flag value)
  | _ => .error (.ignoredValue flag value)

end Options

-- What stands behind the short help option in one argument may repeat its letter; all else would be a value,
-- which it does not take.
def cluster : Text → Except UsageError Request
  | [.char 'h'] => .ok .help
  | .char 'h' :: rest => cluster rest
  | rest => .error (.ignoredValue .help rest)

-- Takes the items in turn. The first word is the path, with a divider on either side of it.
def collect (o : Options) : List Item → Except UsageError Request
  | [] => .ok (.run o)
  | .option .help none :: _ => .ok .help
  | .cluster rest :: _ => cluster rest
  | .option flag (some value) :: rest => do collect (← o.assign flag value) rest
  | .option flag none :: rest =>
    if flag.takesValue then
      match rest with
      | .word value :: rest => do collect (← o.assign flag value) rest
      | _ => .error (.missingValue flag)
    else collect (o.switch flag) rest
  | .unknown text :: rest => collect (o.addExtra text) rest
  | .divider :: rest => match o.path, rest with
    | none, .word path :: rest => collect { o with path := some path } rest
    | _, rest => collect (o.addExtra divider) rest
  | .word text :: rest => match o.path, rest with
    | none, .divider :: rest => collect { o with path := some text } rest
    | none, rest => collect { o with path := some text } rest
    | some _, rest => collect (o.addExtra text) rest

def parse (arguments : List Text) : Except UsageError Request := do
  match ← collect {} (← itemsOf arguments) with
  | .help => return .help
  | .run o =>
    if o.path.isNone then throw .missingPath
    if !o.extras.isEmpty then throw (.unrecognized o.extras)
    if o.limit.any (· < 0) then throw .negativeLimit
    return .run o

inductive PathError where
  -- Surrogates side by side, from the first one that stands for no byte.
  | surrogates (first : Symbol) (start count : Nat)
  | zeroByte

namespace PathError

def message : PathError → String
  | .surrogates first start count =>
    let place :=
      if count = 1 then s!"character '{Text.shown [first]}' in position {start}"
      else s!"characters in position {start}-{start + count - 1}"
    s!"'utf-8' codec can't encode {place}: surrogates not allowed"
  | .zeroByte => "embedded null byte"

def failureKind : PathError → FailureKind
  | .surrogates .. => .unencodable
  | .zeroByte => .badValue

end PathError

def isSurrogate : Symbol → Bool
  | .char _ => false
  | .surrogate _ => true

def hasBytes (s : Symbol) : Bool := !isSurrogate s || 0xdc80 ≤ s.code && s.code ≤ 0xdcff

-- The system takes bytes, none of them zero: characters stand for theirs in UTF-8, and the surrogates from dc80 to dcff for
-- the bytes from 80 to ff.
def pathError? (path : Text) : Option PathError :=
  match path.dropWhile hasBytes with
  | first :: rest =>
    some (.surrogates first (path.takeWhile hasBytes).length ((first :: rest).takeWhile isSurrogate).length)
  | [] => if .char '\x00' ∈ path then some .zeroByte else none

end LinProg.CommandLine
