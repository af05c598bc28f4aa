import Lemmata.Dict
import Lemmata.Failure
import Lemmata.Json.Record
import Lemmata.Text.Blank

/-!
# Queries

What a user looked up, after normalization: the language, and candidate headwords in the
order of preference, each with its spellings in other encodings.
-/

namespace Lemmata

/-! ## Languages -/

inductive Language where
  | latin
  | greek
  | sanskrit
deriving DecidableEq, Repr

namespace Language

def all : List Language := [latin, greek, sanskrit]

def name : Language → String
  | latin => "latin"
  | greek => "greek"
  | sanskrit => "sanskrit"

/-- The short code, which plans and hashes use. -/
def code : Language → String
  | latin => "lat"
  | greek => "grc"
  | sanskrit => "san"

def spellings : Language → List String
  | latin => ["lat", "la", "latin"]
  | greek => ["grc", "grk", "greek"]
  | sanskrit => ["san", "sa", "skt", "sanskrit"]

def ofName? (name : String) : Option Language :=
  all.find? fun language => language.name == name

/-- Reads any spelling, in any case and with blanks around it. -/
def parse (text : String) : Except Failure Language :=
  let spelling := (Blank.trim text).map Char.toLower
  match all.find? fun language => language.spellings.contains spelling with
  | some language => .ok language
  | none => .error (.config s!"Unsupported language: {spelling}")

end Language

/-! ## Candidates -/

structure Candidate where
  headword : String
  /-- Spellings of the headword by encoding, such as `betacode`. -/
  encodings : Dict := .empty
  sources : List String := []
deriving DecidableEq

namespace Candidate

/-- The spelling in an encoding, or the headword itself. -/
def spelling (c : Candidate) (encoding : String) : String :=
  (c.encodings.get? encoding).getD c.headword

end Candidate

/-- One step from the text that was typed to a candidate. -/
structure Normalization where
  operation : String
  input : String
  output : String
  tool : Option String := none
deriving DecidableEq

structure Query where
  /-- The text that was typed. -/
  typed : String
  language : Language
  candidates : List Candidate
  normalizations : List Normalization := []
deriving DecidableEq

namespace Query

/-- The part of a query that a plan's hash covers: not the sources or the normalizations. -/
def identity (q : Query) : Json :=
  .object [
    ("original", .string q.typed),
    ("language", .string q.language.code),
    ("candidates", .array (q.candidates.map fun c =>
      .object [("lemma", .string c.headword), ("encodings", .ofDict c.encodings)]))]

end Query

/-! ## In JSON -/

namespace Json

def decodeLanguage : Decoder Language := decodeName Language.ofName?

def ofLanguage (language : Language) : Json := .string language.name

def decodeCandidate : Decoder Candidate := fun v => do
  let r ← record? ["lemma", "encodings", "sources"] v
  let headword ← r.get "lemma" decodeString
  let encodings ← r.getD "encodings" decodeDict .empty
  let sources ← r.getD "sources" (decodeList decodeString) []
  some { headword, encodings, sources }

def ofCandidate (c : Candidate) : Json :=
  .object [
    ("lemma", .string c.headword), ("encodings", .ofDict c.encodings),
    ("sources", ofStrings c.sources)]

def decodeNormalization : Decoder Normalization := fun v => do
  let r ← record? ["operation", "input", "output", "tool"] v
  let operation ← r.get "operation" decodeString
  let input ← r.get "input" decodeString
  let output ← r.get "output" decodeString
  let tool ← r.getOption "tool" decodeString
  some { operation, input, output, tool }

def ofNormalization (n : Normalization) : Json :=
  .object [
    ("operation", .string n.operation), ("input", .string n.input), ("output", .string n.output),
    ("tool", ofOptionString n.tool)]

def decodeQuery : Decoder Query := fun v => do
  let r ← record? ["original", "language", "candidates", "normalizations"] v
  let typed ← r.get "original" decodeString
  let language ← r.get "language" decodeLanguage
  let candidates ← r.get "candidates" (decodeList decodeCandidate)
  let normalizations ← r.getD "normalizations" (decodeList decodeNormalization) []
  some { typed, language, candidates, normalizations }

def ofQuery (q : Query) : Json :=
  .object [
    ("original", .string q.typed), ("language", ofLanguage q.language),
    ("candidates", .array (q.candidates.map ofCandidate)),
    ("normalizations", .array (q.normalizations.map ofNormalization))]

end Json

end Lemmata
