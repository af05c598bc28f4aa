import Lemmata.Cli.QueryOptions

/-!
# Commands

What the program can be asked for. The options for the configuration and for a fixture may stand
before the command or among its own; those among its own count first.
-/

namespace Lemmata.Cli

inductive Topic where
  | program
  | plan
  | run
  | trace
  | prune
  | help
deriving DecidableEq, Repr

inductive Command where
  | plan (query : QueryOptions)
  | run (query : QueryOptions) (noCache : Bool)
  | trace (claimId : String)
  | prune (days : Int)
deriving DecidableEq

structure Invocation where
  /-- The path of the configuration. -/
  config : String := "~/.lexis/config.toml"
  /-- The path of a file that answers every fetch. -/
  fixture : Option String := none
  command : Command
deriving DecidableEq

inductive Request where
  | perform (invocation : Invocation)
  | showHelp (topic : Topic)
  | showVersion
deriving DecidableEq

/-! ## Rules -/

def configRule : OptionRule where
  name := "config"
  role := .single QueryOptions.anyText
  valueName := "CONFIG"
  about := "Path to the TOML configuration file"
  default := some "~/.lexis/config.toml"

def fixtureRule : OptionRule where
  name := "fixture"
  role := .single fun path => !path.isEmpty
  valueName := "FIXTURE"
  about := "Answer every fetch with the contents of this file (offline mode)"

def versionRule : OptionRule where
  name := "version"
  letter := some 'V'
  role := .version
  about := "Print version"

def noCacheRule : OptionRule where
  name := "no-cache"
  role := .switch
  about := "Ignore the plan cache for this run"

def days? (text : String) : Option Int :=
  Decimal.integer? text.toList

def daysRule : OptionRule where
  name := "days"
  role := .single fun text => (days? text).isSome
  valueName := "DAYS"
  about := "Remove entries not accessed in this many days"
  default := some "30"

namespace Topic

def name : Topic → String
  | program => "lexis"
  | plan => "plan"
  | run => "run"
  | trace => "trace"
  | prune => "prune"
  | help => "help"

/-- The commands, in the order of the help. -/
def commands : List Topic := [plan, run, trace, prune, help]

def ofName? (name : String) : Option Topic :=
  commands.find? fun topic => topic.name == name

open QueryOptions in
def queryRules : List OptionRule := [
  configRule, languageRule, fixtureRule, headwordRule, candidateRule, encodingRule, typedRule,
  maxCandidatesRule]

/-- The options in the order of the help. -/
def options : Topic → List OptionRule
  | program => [configRule, fixtureRule, QueryOptions.helpRule, versionRule]
  | plan => queryRules ++ [QueryOptions.helpRule]
  | run => queryRules ++ [noCacheRule, QueryOptions.helpRule]
  | trace => [configRule, fixtureRule, QueryOptions.helpRule]
  | prune => [configRule, daysRule, fixtureRule, QueryOptions.helpRule]
  | help => []

def rules (topic : Topic) : Rules where
  options := topic.options
  values := if topic = trace then 1 else 0
  commands := if topic = program then commands.map name else []

end Topic

/-! ## Reading -/

def requireClaim (g : Given) : Except Stop String :=
  match g.values.head? with
  | some claimId => .ok claimId
  | none => .error (.misuse .missingArgument)

/-- The command of a topic; the topics of the program and of its help are none. -/
def Command.ofGiven (g : Given) : Topic → Except Stop Command
  | .plan => do return .plan (← QueryOptions.ofGiven g)
  | .run => do return .run (← QueryOptions.ofGiven g) (g.has "no-cache")
  | .trace => do return .trace (← requireClaim g)
  | .prune => .ok (.prune (((g.value? "days").bind days?).getD 30))
  | .program | .help => .error (.misuse .missingCommand)

/-- The options before the command are `outer`, those after it `inner`. -/
def Invocation.ofGiven (outer inner : Given) (topic : Topic) : Except Stop Invocation := do
  let command ← Command.ofGiven inner topic
  let chosen := fun name => inner.value? name <|> outer.value? name
  return {
    config := (chosen "config").getD "~/.lexis/config.toml"
    fixture := chosen "fixture"
    command }

namespace Request

/-- What the reading of a topic's arguments came to. -/
def ofResult (topic : Topic) : Except Stop Invocation → Except Misuse Request
  | .ok invocation => .ok (.perform invocation)
  | .error .help => .ok (.showHelp topic)
  | .error .version => .ok .showVersion
  | .error (.misuse misuse) => .error misuse

/-- The topic whose help is asked for by name. -/
def ofHelp : List String → Except Misuse Request
  | [] => .ok (.showHelp .program)
  | [name] =>
    match Topic.ofName? name with
    | some topic => .ok (.showHelp topic)
    | none => .error .unknownCommand
  | _ => .error .unknownCommand

/-- A fault before the command counts before any that follows it. -/
def ofCommand (s : Scan) (topic : Topic) (arguments : List String) : Except Misuse Request :=
  match s.settle with
  | .error stop => ofResult .program (.error stop)
  | .ok outer =>
    ofResult topic do
      let inner ← topic.rules.read arguments
      Invocation.ofGiven outer inner topic

def parse (arguments : List String) : Except Misuse Request :=
  match Scan.read Topic.program.rules arguments {} with
  | .error stop => ofResult .program (.error stop)
  | .ok (s, none) =>
    match s.settle with
    | .error stop => ofResult .program (.error stop)
    | .ok _ => .error .missingCommand
  | .ok (s, some (name, rest)) =>
    match Topic.ofName? name with
    | some .help => ofHelp rest
    | some topic => ofCommand s topic rest
    | none => .error .unknownCommand

end Request

end Lemmata.Cli
