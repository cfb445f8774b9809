import ShardedWorld.Binary.Decimal
import ShardedWorld.Table
import ShardedWorld.Text.Visible

/-!
Reading the arguments of a program.

A program has options only, each with one value, which follows its option as the next argument or
within the same one. A value that follows as the next argument is checked when the next option
begins or the arguments end; if an argument that belongs to no option comes first, that one is the
error.
-/

set_option autoImplicit false

namespace ShardedWorld.CommandLine

/-- What an option's value has to be: any text, a path, a whole number of up to 32 bits below a
bound, a whole number of 64 bits, or a number in single precision. -/
inductive ValueKind where
  | text
  | path
  | bounded (bound : Nat)
  | count
  | single
  deriving DecidableEq

inductive Value where
  | text (text : String)
  | number (number : Nat)
  | single (number : Single)
  deriving DecidableEq

structure Setting where
  name : String
  letter : Option Char
  kind : ValueKind
  deriving DecidableEq

namespace Setting

def text (s : Setting) : String :=
  let value := s.name.map fun c => if c = '-' then '_' else c.toUpper
  "--" ++ s.name ++ " <" ++ value ++ ">"

end Setting

inductive ValueError where
  | emptyInteger
  | invalidDigit
  | tooLarge
  | tooSmall
  | outOfRange (number : Int) (last : Nat)
  | emptyNumber
  | invalidNumber
  deriving DecidableEq

namespace ValueError

def message : ValueError → String
  | .emptyInteger => "cannot parse integer from empty string"
  | .invalidDigit => "invalid digit found in string"
  | .tooLarge => "number too large to fit in target type"
  | .tooSmall => "number too small to fit in target type"
  | .outOfRange number last => toString number ++ " is not in 0..=" ++ toString last
  | .emptyNumber => "cannot parse float from empty string"
  | .invalidNumber => "invalid float literal"

end ValueError

inductive UsageError where
  | unexpected (argument : String)
  | unwanted (argument value : String)
  | missing (setting : Setting)
  | repeated (setting : Setting)
  | invalid (setting : Setting) (value : String) (cause : ValueError)
  deriving DecidableEq

namespace UsageError

/-- What the user wrote is repeated as far as it is visible. -/
def message : UsageError → String
  | .unexpected argument => "unexpected argument '" ++ Text.visible argument ++ "' found"
  | .unwanted argument value =>
    "unexpected value '" ++ Text.visible value ++ "' for '" ++ argument ++
      "' found; no more were expected"
  | .missing setting => "a value is required for '" ++ setting.text ++ "' but none was supplied"
  | .repeated setting => "the argument '" ++ setting.text ++ "' cannot be used multiple times"
  | .invalid setting value cause =>
    "invalid value '" ++ Text.visible value ++ "' for '" ++ setting.text ++ "': " ++
      cause.message

end UsageError

/-- Appends decimal digits to a number, away from zero on the side of `sign`. The first character
that is no digit or leads out of the range ends it. -/
def appendDigits (low high sign : Int) : Int → List Char → Except ValueError Int
  | number, [] => .ok number
  | number, c :: rest =>
    let next := 10 * number + sign * (c.toNat - '0'.toNat)
    if !c.isDigit then .error .invalidDigit
    else if next < low then .error .tooSmall
    else if high < next then .error .tooLarge
    else appendDigits low high sign next rest

/-- A whole number in decimal with an optional sign, between `low` and `high`; a minus sign counts
as a digit where no number is negative. -/
def readInteger (low high : Int) (text : String) : Except ValueError Int :=
  let (sign, digits) : Int × List Char := match text.toList with
    | '+' :: rest => (1, rest)
    | '-' :: rest => if low < 0 then (-1, rest) else (1, '-' :: rest)
    | rest => (1, rest)
  if text.isEmpty then .error .emptyInteger
  else if digits.isEmpty then .error .invalidDigit
  else appendDigits low high sign 0 digits

/-- Reads the value of an option. A path has at least one character. -/
def Setting.read (setting : Setting) (text : String) : Except UsageError Value :=
  let invalid {α : Type} : Except ValueError α → Except UsageError α :=
    Except.mapError (UsageError.invalid setting text)
  match setting.kind with
  | .text => .ok (.text text)
  | .path => if text.isEmpty then .error (.missing setting) else .ok (.text text)
  | .bounded bound =>
    invalid do
      let number ← readInteger (-9223372036854775808) 9223372036854775807 text
      if number < 0 ∨ (bound : Int) ≤ number then .error (.outOfRange number (bound - 1))
      else .ok (.number number.toNat)
  | .count => invalid ((readInteger 0 18446744073709551615 text).map fun n => .number n.toNat)
  | .single =>
    match (Binary.ofText text : Except NumberError Single) with
    | .ok number => .ok (.single number)
    | .error .empty => .error (.invalid setting text .emptyNumber)
    | .error .invalid => .error (.invalid setting text .invalidNumber)

inductive Reading where
  | values (values : Table String Value)
  | help
  | version

/-- An option whose value was not checked yet; `given` is none while the value is awaited. -/
structure Pending where
  setting : Setting
  given : Option String
  deriving DecidableEq

/-- `ended` tells that two hyphens stood alone, behind which nothing is an option. -/
structure Reader where
  settings : List Setting
  values : Table String Value
  pending : Option Pending
  ended : Bool

namespace Reader

def fresh (settings : List Setting) : Reader := ⟨settings, ∅, none, false⟩

/-- Keeps the value of an option, which may come only once. -/
def keep (r : Reader) (setting : Setting) (text : String) : Except UsageError Reader :=
  if setting.name ∈ r.values then .error (.repeated setting)
  else (setting.read text).map fun value => { r with values := r.values.insert setting.name value }

def resolve (r : Reader) : Except UsageError Reader :=
  match r.pending with
  | none => .ok r
  | some ⟨setting, none⟩ => .error (.missing setting)
  | some ⟨setting, some text⟩ => { r with pending := none }.keep setting text

inductive Step where
  | next (reader : Reader)
  | help
  | version

def begin (r : Reader) (setting : Setting) (attached : Option String) : Except UsageError Step := do
  let r ← r.resolve
  match attached with
  | some text => return .next (← r.keep setting text)
  | none => return .next { r with pending := some ⟨setting, none⟩ }

def tell (r : Reader) (argument : String) (step : Step) (attached : Option String) :
    Except UsageError Step :=
  match attached with
  | some text => .error (.unwanted argument text)
  | none => r.resolve.map fun _ => step

def splitValue (argument : List Char) : String × Option String :=
  match argument.dropWhile (· ≠ '=') with
  | [] => (String.ofList argument, none)
  | _ :: value => (String.ofList (argument.takeWhile (· ≠ '=')), some (String.ofList value))

/-- The argument behind two hyphens names an option in full. -/
def readLong (r : Reader) (argument : List Char) : Except UsageError Step :=
  let (name, attached) := splitValue argument
  match r.settings.find? (·.name = name) with
  | some setting => r.begin setting attached
  | none =>
    if name = "help" then r.tell "--help" .help attached
    else if name = "version" then r.tell "--version" .version attached
    else .error (.unexpected ("--" ++ name))

/-- The argument behind one hyphen begins with the letter of an option; the rest is its value. -/
def readShort (r : Reader) (letter : Char) (rest : List Char) : Except UsageError Step :=
  match r.settings.find? (·.letter = some letter) with
  | some setting =>
    match rest with
    | [] => r.begin setting none
    | '=' :: value => r.begin setting (some (String.ofList value))
    | value => r.begin setting (some (String.ofList value))
  | none =>
    if letter = 'h' then r.tell "-h" .help none
    else if letter = 'V' then r.tell "-V" .version none
    else .error (.unexpected (String.ofList ['-', letter]))

/-- Anything else is the value that is awaited, if one is. -/
def readValue (r : Reader) (argument : String) : Except UsageError Step :=
  match r.pending with
  | some ⟨setting, none⟩ => .ok (.next { r with pending := some ⟨setting, some argument⟩ })
  | _ => .error (.unexpected argument)

def step (r : Reader) (argument : String) : Except UsageError Step :=
  if r.ended then .error (.unexpected argument)
  else
    match argument.toList with
    | ['-', '-'] => .ok (.next { r with ended := true })
    | '-' :: '-' :: name => r.readLong name
    | '-' :: letter :: rest => r.readShort letter rest
    | _ => r.readValue argument

/-- Reads the arguments to the end or to the first that asks about the program itself. -/
def run (r : Reader) : List String → Except UsageError Reading
  | [] => r.resolve.map fun r => .values r.values
  | argument :: rest =>
    match r.step argument with
    | .error e => .error e
    | .ok (.next r) => r.run rest
    | .ok .help => .ok .help
    | .ok .version => .ok .version

end Reader

end ShardedWorld.CommandLine
