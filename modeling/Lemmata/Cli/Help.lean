import Lemmata.Cli.Command

/-!
# Help

The help of a topic is a line about it, its usage, and tables of its commands, values and options.
A table has the names in one column and the texts in another; if a text would not fit beside a
wide column of names, every text of the table gets a line of its own.
-/

namespace Lemmata.Cli

namespace Topic

def about : Topic → String
  | program => "Plan and run Latin, Greek and Sanskrit dictionary lookups"
  | plan => "Print the tool plan for a query without executing it"
  | run => "Plan and execute a query, printing the run summary and claims"
  | trace => "Print a stored claim and the effects it was derived from"
  | prune => "Drop stale plan cache entries"
  | help => "Print this message or the help of the given subcommand(s)"

/-- The plain values that a topic takes, each with a text about it. -/
def values : Topic → List (String × String)
  | trace => [("<CLAIM_ID>", "ID of a stored claim (clm-...)")]
  | help => [("[COMMAND]...", "Print help for the subcommand(s)")]
  | _ => []

end Topic

namespace Help

/-- The columns of a line. -/
def lineWidth : Nat := 100

/-! ## Options -/

def valueSuffix (rule : OptionRule) : String :=
  if rule.valueName.isEmpty then "" else s!" <{rule.valueName}>"

def longForm (rule : OptionRule) : String :=
  s!"--{rule.name}{valueSuffix rule}"

def shortForm (rule : OptionRule) : String :=
  match rule.letter with
  | some letter => s!"-{letter}, "
  | none => "    "

def aboutOption (rule : OptionRule) : String :=
  match rule.default with
  | some value => s!"{rule.about} [default: {value}]"
  | none => rule.about

/-! ## Tables -/

def spaces (count : Nat) : String :=
  String.ofList (List.replicate count ' ')

def widest (names : List String) : Nat :=
  (names.map String.length).foldl max 2

/-- A name in its column and a text in the next one. -/
def alignedLine (width : Nat) (name text : String) : String :=
  s!"  {name}{spaces (width + 2 - name.length)}{text}"

def separateLine (name text : String) : String :=
  s!"  {name}\n{spaces 10}{text}"

/-- Whether the texts stand beside the names: the names are narrow, or each text fits. -/
def isAligned (rules : List OptionRule) : Bool :=
  let taken := widest (rules.map longForm) + 12
  taken * 100 ≤ lineWidth * 40
    || rules.all fun rule => (aboutOption rule).length ≤ lineWidth - taken

def optionLine (aligned : Bool) (width : Nat) (rule : OptionRule) : String :=
  let name := shortForm rule ++ longForm rule
  if aligned then alignedLine (width + 4) name (aboutOption rule)
  else separateLine name (aboutOption rule)

def optionTable (rules : List OptionRule) : List String :=
  rules.map (optionLine (isAligned rules) (widest (rules.map longForm)))

def plainTable (entries : List (String × String)) : List String :=
  entries.map fun (name, text) => alignedLine (widest (entries.map Prod.fst)) name text

/-- A heading and the lines of a table; an empty table is left out. -/
def titled? (heading : String) (lines : List String) : Option String :=
  if lines.isEmpty then none else some ("\n".intercalate (s!"{heading}:" :: lines))

/-! ## The text -/

/-- A topic has options besides those that it requires, unless it has none at all. -/
def usageOptions (topic : Topic) : List String :=
  if topic.options.isEmpty then [] else ["[OPTIONS]"]

def usageValues : Topic → List String
  | .program => ["<COMMAND>"]
  | topic =>
    (topic.options.filter OptionRule.isRequired).map longForm ++ topic.values.map Prod.fst

def usage (topic : Topic) : String :=
  let names := if topic = .program then ["lexis"] else ["lexis", topic.name]
  " ".intercalate ("Usage:" :: names ++ usageOptions topic ++ usageValues topic)

def commandTable (topic : Topic) : List String :=
  if topic = .program then plainTable (Topic.commands.map fun c => (c.name, c.about)) else []

def text (topic : Topic) : String :=
  let tables := [
    titled? "Commands" (commandTable topic), titled? "Arguments" (plainTable topic.values),
    titled? "Options" (optionTable topic.options)]
  "\n\n".intercalate (topic.about :: usage topic :: tables.filterMap id) ++ "\n"

/-- The name of the program and its version. -/
def version : String := "lexis 0.1.0\n"

end Help

end Lemmata.Cli
