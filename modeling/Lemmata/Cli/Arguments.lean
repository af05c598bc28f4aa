/-!
# Arguments

Options start with two dashes. The value of an option follows an equals sign or is the next
argument; such an option waits, and is settled when the next option or value comes or when the
arguments end. So a fault of a waiting option is only seen then, while an option that is not known
is seen at once.
-/

namespace Lemmata.Cli

/-! ## Rules -/

inductive Role where
  /-- It takes no value and is given once at most. -/
  | switch
  | single (accepts : String → Bool)
  | repeated (accepts : String → Bool)
  /-- Asks for the help text in place of the work. -/
  | help
  | version

structure OptionRule where
  name : String
  /-- The letter that stands for it after a single dash. -/
  letter : Option Char := none
  role : Role
  isRequired : Bool := false
  /-- What its value is called in the help. -/
  valueName : String := ""
  about : String
  /-- The value that the help shows as the one without the option. -/
  default : Option String := none

/-- What a command understands. -/
structure Rules where
  options : List OptionRule
  /-- How many plain values it takes. -/
  values : Nat := 0
  commands : List String := []

namespace Rules

def option? (rules : Rules) (name : String) : Option OptionRule :=
  rules.options.find? fun rule => rule.name == name

def letter? (rules : Rules) (letter : Char) : Option OptionRule :=
  rules.options.find? fun rule => rule.letter == some letter

end Rules

/-! ## Why arguments are not accepted -/

inductive Misuse where
  | unknownArgument
  | unknownCommand
  | missingCommand
  | missingArgument
  | missingValue
  | unwantedValue
  | badValue
  /-- An option that may be given once was given again. -/
  | repeatedOption
deriving DecidableEq, Repr

/-- What ends the reading of the arguments early. -/
inductive Stop where
  | help
  | version
  | misuse (misuse : Misuse)
deriving DecidableEq, Repr

def Misuse.kind : Misuse → String
  | unknownArgument => "UnknownArgument"
  | unknownCommand => "InvalidSubcommand"
  | missingCommand => "MissingSubcommand"
  | missingArgument => "MissingRequiredArgument"
  | missingValue => "InvalidValue"
  | unwantedValue => "TooManyValues"
  | badValue => "ValueValidation"
  | repeatedOption => "ArgumentConflict"

def Misuse.message : Misuse → String
  | unknownArgument => "there is no such argument"
  | unknownCommand => "there is no such command"
  | missingCommand => "a command is missing"
  | missingArgument => "a required argument is missing"
  | missingValue => "an option has no value"
  | unwantedValue => "an option takes no value"
  | badValue => "the value of an option does not fit"
  | repeatedOption => "an option was given twice"

/-- The name of its kind. -/
def Stop.kind : Stop → String
  | help => "DisplayHelp"
  | version => "DisplayVersion"
  | misuse m => m.kind

/-! ## What was given -/

/-- The settled options with their values in the order of settling, and the plain values. -/
structure Given where
  options : List (String × String) := []
  values : List String := []
deriving DecidableEq

namespace Given

def has (g : Given) (name : String) : Bool :=
  g.options.any fun entry => entry.1 == name

def value? (g : Given) (name : String) : Option String :=
  g.options.lookup name

def all (g : Given) (name : String) : List String :=
  (g.options.filter fun entry => entry.1 == name).map Prod.snd

def add (g : Given) (name value : String) : Given :=
  { g with options := g.options ++ [(name, value)] }

def require (g : Given) (name : String) : Except Stop String :=
  match g.value? name with
  | some value => .ok value
  | none => .error (.misuse .missingArgument)

def addValue (g : Given) (rule : OptionRule) (accepts : String → Bool) :
    Option String → Except Stop Given
  | none => .error (.misuse .missingValue)
  | some value =>
    if accepts value then .ok (g.add rule.name value) else .error (.misuse .badValue)

/-- Settles an option. A missing value is seen first, then the repetition, then a bad value. -/
def settle (g : Given) (rule : OptionRule) (value : Option String) : Except Stop Given :=
  match rule.role with
  | .help => .error .help
  | .version => .error .version
  | .switch =>
    if g.has rule.name then .error (.misuse .repeatedOption) else .ok (g.add rule.name "")
  | .single accepts =>
    if value.isSome && g.has rule.name then .error (.misuse .repeatedOption)
    else g.addValue rule accepts value
  | .repeated accepts => g.addValue rule accepts value

end Given

/-! ## Reading -/

/-- The shape of an argument. -/
inductive Shape where
  /-- Two dashes alone: all that follows is plain. -/
  | escape
  | option (name : String) (value : Option String)
  | letters (letters : List Char)
  | plain
deriving DecidableEq

namespace Shape

def ofOption (body : List Char) : Shape :=
  let name := String.ofList (body.takeWhile (· != '='))
  match body.dropWhile (· != '=') with
  | _ :: value => .option name (some (String.ofList value))
  | [] => .option name none

def of (argument : String) : Shape :=
  match argument.toList with
  | ['-', '-'] => .escape
  | '-' :: '-' :: body => ofOption body
  | '-' :: letter :: more => .letters (letter :: more)
  | _ => .plain

end Shape

/-- The options so far, and the option that waits, with its value if that has come. -/
structure Scan where
  given : Given := {}
  waiting : Option (OptionRule × Option String) := none

namespace Scan

def needsValue (s : Scan) : Bool :=
  s.waiting.any fun entry => entry.2.isNone

def settle (s : Scan) : Except Stop Given :=
  match s.waiting with
  | none => .ok s.given
  | some (rule, value) => s.given.settle rule value

def settled (given : Given) : Scan where
  given := given

def takeNow (s : Scan) (rule : OptionRule) (value : Option String) : Except Stop Scan := do
  let given ← s.settle
  return settled (← given.settle rule value)

/-- An option whose value is still to come waits; any other is settled now. -/
def takeOption (s : Scan) (rule : OptionRule) (value : Option String) : Except Stop Scan :=
  match rule.role with
  | .single _ | .repeated _ =>
    if value.isSome then s.takeNow rule value
    else do
      let given ← s.settle
      return { given, waiting := some (rule, none) }
  | .switch | .help | .version =>
    if value.isSome then .error (.misuse .unwantedValue) else s.takeNow rule none

def takeLetters (rules : Rules) : List Char → Scan → Except Stop Scan
  | [], s => .ok s
  | letter :: more, s =>
    match rules.letter? letter with
    | none => .error (.misuse .unknownArgument)
    | some rule => do takeLetters rules more (← s.takeOption rule none)

/-- Where commands are expected, a plain value too many is read as one. -/
def strayValue (rules : Rules) : Stop :=
  .misuse (if rules.commands.isEmpty then .unknownArgument else .unknownCommand)

def addPlain (s : Scan) (value : String) (stray : Stop) (room : Nat) : Except Stop Scan :=
  if s.given.values.length < room then do
    let given ← s.settle
    return settled { given with values := given.values ++ [value] }
  else .error stray

def takePlain (rules : Rules) (s : Scan) (value : String) : Except Stop Scan :=
  match s.waiting with
  | some (rule, none) => .ok { s with waiting := some (rule, some value) }
  | _ => s.addPlain value (strayValue rules) rules.values

def takeEscaped (rules : Rules) : List String → Scan → Except Stop Scan
  | [], s => .ok s
  | value :: rest, s => do
    takeEscaped rules rest (← s.addPlain value (strayValue rules) rules.values)

/-- Reads up to the first command, and gives it with the arguments that follow it. -/
def read (rules : Rules) : List String → Scan →
    Except Stop (Scan × Option (String × List String))
  | [], s => .ok (s, none)
  | argument :: rest, s =>
    if !s.needsValue && rules.commands.contains argument then .ok (s, some (argument, rest))
    else
      match Shape.of argument with
      | .escape => (takeEscaped rules rest s).map fun s => (s, none)
      | .option name value =>
        match rules.option? name with
        | none => .error (.misuse .unknownArgument)
        | some rule => do read rules rest (← s.takeOption rule value)
      | .letters letters => do read rules rest (← takeLetters rules letters s)
      | .plain => do read rules rest (← takePlain rules s argument)

end Scan

/-- What a command without commands of its own was given. -/
def Rules.read (rules : Rules) (arguments : List String) : Except Stop Given := do
  let (s, _) ← Scan.read rules arguments {}
  s.settle

end Lemmata.Cli
