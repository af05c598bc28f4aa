import Lemmata.Cli.Arguments
import Lemmata.Decimal.Count
import Lemmata.Query

/-!
# Query options

A query as it is typed: a language, a headword with its spellings, and further candidates.
-/

namespace Lemmata.Cli

structure QueryOptions where
  language : Language
  headword : String
  /-- Further candidates, in the order of preference. -/
  candidates : List String := []
  /-- Spellings of the headword by encoding; of two in one encoding the later counts. -/
  encodings : List (String × String) := []
  /-- What was typed, if it is not the headword. -/
  typed : Option String := none
  maxCandidates : Nat := 1
deriving DecidableEq

namespace QueryOptions

/-! ## Values -/

def language? (text : String) : Option Language :=
  (Language.parse text).toOption

/-- An encoding, an equals sign and the spelling, which may hold more of them. -/
def encoding? (text : String) : Option (String × String) :=
  let cs := text.toList
  let scheme := Blank.trim (String.ofList (cs.takeWhile (· != '=')))
  match cs.dropWhile (· != '=') with
  | _ :: value => if scheme.isEmpty then none else some (scheme, String.ofList value)
  | [] => none

def count? (text : String) : Option Nat :=
  Decimal.count? text.toList

/-! ## Reading -/

def anyText (_ : String) : Bool := true

def languageRule : OptionRule where
  name := "language"
  role := .single fun text => (language? text).isSome
  isRequired := true
  valueName := "LANGUAGE"
  about := "Query language: lat, grc or san"

def headwordRule : OptionRule where
  name := "lemma"
  role := .single anyText
  isRequired := true
  valueName := "LEMMA"
  about := "Canonical lemma to look up"

def candidateRule : OptionRule where
  name := "candidate"
  role := .repeated anyText
  valueName := "CANDIDATES"
  about := "Additional candidate lemmas, in preference order"

def encodingRule : OptionRule where
  name := "encoding"
  role := .repeated fun text => (encoding? text).isSome
  valueName := "ENCODINGS"
  about := "Encoding of the primary lemma, as scheme=value (e.g. betacode=lo/gos)"

def typedRule : OptionRule where
  name := "original"
  role := .single anyText
  valueName := "ORIGINAL"
  about := "The text as the user typed it. Defaults to the lemma"

def maxCandidatesRule : OptionRule where
  name := "max-candidates"
  role := .single fun text => (count? text).isSome
  valueName := "MAX_CANDIDATES"
  about := "How many candidates to plan calls for"
  default := some "1"

def helpRule : OptionRule where
  name := "help"
  letter := some 'h'
  role := .help
  about := "Print help"

/-- The options of a query alone. -/
def rules : Rules where
  options := [
    languageRule, headwordRule, candidateRule, encodingRule, typedRule, maxCandidatesRule,
    helpRule]

/-- A value that the rules have accepted already. -/
def accepted {α : Type} : Option α → Except Stop α
  | some a => .ok a
  | none => .error (.misuse .badValue)

def ofGiven (g : Given) : Except Stop QueryOptions := do
  let language ← g.require "language"
  let headword ← g.require "lemma"
  let maxCandidates := (g.value? "max-candidates").bind count?
  return {
    language := ← accepted (language? language)
    headword
    candidates := g.all "candidate"
    encodings := (g.all "encoding").filterMap encoding?
    typed := g.value? "original"
    maxCandidates := maxCandidates.getD 1 }

/-- Reads arguments that hold a query and nothing else. -/
def parse (arguments : List String) : Except Stop QueryOptions := do
  ofGiven (← rules.read arguments)

/-! ## The query -/

def query (q : QueryOptions) : Query where
  typed := q.typed.getD q.headword
  language := q.language
  candidates :=
    { headword := q.headword, encodings := Dict.ofList q.encodings }
      :: q.candidates.map fun headword => { headword }

end QueryOptions

end Lemmata.Cli
