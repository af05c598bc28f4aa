import Lemmata.Files.Path
import Lemmata.Planner
import Lemmata.Run.Execute
import Lemmata.Toml.Reader

/-!
# Configuration

The settings of the program, which may all be left out, and what follows from them for the plan,
the store and a run.
-/

namespace Lemmata

/-- Where the backends are. A backend that is not set is not planned. -/
structure BackendSettings where
  diogenesUrl : Option String := none
  heritageUrl : Option String := none
  whitakersPath : Option String := none
  /-- The directory that the local program runs in. -/
  whitakersDir : Option String := none
  cdslDir : Option String := none
deriving DecidableEq

structure Config where
  /-- The directory of the store. -/
  dataDir : String := "~/.lexis/data"
  /-- The file of the store, in that directory. -/
  databaseFile : String := "effects.sqlite3"
  logLevel : String := "info"
  allowCache : Bool := true
  maxConcurrency : Nat := 4
  /-- How long a run may start new rounds; 0 is without limit. -/
  planTimeoutSecs : Nat := 0
  httpTimeoutSecs : Nat := 30
  subprocessTimeoutSecs : Nat := 15
  backends : BackendSettings := {}
deriving DecidableEq

namespace Config

/-! ## Reading -/

def readString : Toml → Option String
  | .string s => some s
  | _ => none

def readBool : Toml → Option Bool
  | .boolean b => some b
  | _ => none

def readCount : Toml → Option Nat
  | .integer n => if 0 ≤ n then some n.toNat else none
  | _ => none

/-- A setting that may be left out but has to fit if it is there. -/
def setting {α : Type} (members : List (String × Toml)) (name : String) (read : Toml → Option α)
    (default : α) : Option α :=
  match members.lookup name with
  | none => some default
  | some v => read v

def readSome (v : Toml) : Option (Option String) :=
  (readString v).map some

def readBackendMembers (members : List (String × Toml)) : Option BackendSettings := do
  let diogenesUrl ← setting members "diogenes_url" readSome none
  let heritageUrl ← setting members "heritage_url" readSome none
  let whitakersPath ← setting members "whitakers_path" readSome none
  let whitakersDir ← setting members "whitakers_dir" readSome none
  let cdslDir ← setting members "cdsl_dir" readSome none
  some { diogenesUrl, heritageUrl, whitakersPath, whitakersDir, cdslDir }

/-- The names in the order in which an array gives the settings. -/
def backendNames : List String :=
  ["diogenes_url", "heritage_url", "whitakers_path", "whitakers_dir", "cdsl_dir"]

def readBackends : Toml → Option BackendSettings
  | .table members => readBackendMembers members
  | .array items => readBackendMembers (backendNames.zip items)
  | _ => none

def ofMembers? (members : List (String × Toml)) : Option Config := do
  let base : Config := {}
  let dataDir ← setting members "data_dir" readString base.dataDir
  let databaseFile ← setting members "database_file" readString base.databaseFile
  let logLevel ← setting members "log_level" readString base.logLevel
  let allowCache ← setting members "allow_cache" readBool base.allowCache
  let maxConcurrency ← setting members "max_concurrency" readCount base.maxConcurrency
  let planTimeoutSecs ← setting members "plan_timeout_secs" readCount base.planTimeoutSecs
  let httpTimeoutSecs ← setting members "http_timeout_secs" readCount base.httpTimeoutSecs
  let subprocessTimeoutSecs ←
    setting members "subprocess_timeout_secs" readCount base.subprocessTimeoutSecs
  let backends ← setting members "backends" readBackends {}
  some {
    dataDir, databaseFile, logLevel, allowCache, maxConcurrency, planTimeoutSecs,
    httpTimeoutSecs, subprocessTimeoutSecs, backends }

/-- The configuration in a text; unknown settings do not matter. -/
def parse? (text : String) : Option Config :=
  (Toml.parse? text).bind ofMembers?

/-- The configuration in a file, which has to be valid UTF-8. -/
def ofBytes? (bytes : List UInt8) : Option Config :=
  if Utf8.isValid bytes then parse? (Utf8.decode bytes) else none

/-! ## What follows from it -/

def databasePath (c : Config) (home : String) : String :=
  Path.join (Path.expandTilde home c.dataDir) c.databaseFile

def whitakersDir (c : Config) (home : String) : Option String :=
  c.backends.whitakersDir.map (Path.expandTilde home)

/-- The endpoint that a backend gets when all fetches are answered from one file. -/
def placeholder (backend : Backend) : Option String :=
  some s!"fixture://{backend.name}"

/-- The settings of the planner; with a fixture every backend is planned. -/
def plannerConfig (c : Config) (home : String) (maxCandidates : Nat) (fixture : Bool) :
    PlannerConfig :=
  if fixture then {
    diogenesUrl := placeholder .diogenes
    heritageUrl := placeholder .heritage
    whitakersPath := placeholder .whitakers
    cdslDir := placeholder .cdsl
    maxCandidates }
  else {
    diogenesUrl := c.backends.diogenesUrl
    heritageUrl := c.backends.heritageUrl
    whitakersPath := c.backends.whitakersPath.map (Path.expandTilde home)
    cdslDir := c.backends.cdslDir.map (Path.expandTilde home)
    maxCandidates }

def executionOptions (c : Config) (noCache : Bool) : ExecutionOptions where
  allowCache := c.allowCache && !noCache
  maxConcurrency := max c.maxConcurrency 1
  deadlineMs := if c.planTimeoutSecs = 0 then none else some (c.planTimeoutSecs * 1000)

/-! ## In JSON -/

/-- The settings apart from those of the backends. -/
def members (c : Config) : List (String × Json) := [
  ("data_dir", .string c.dataDir), ("database_file", .string c.databaseFile),
  ("log_level", .string c.logLevel), ("allow_cache", .bool c.allowCache),
  ("max_concurrency", .ofNat c.maxConcurrency), ("plan_timeout_secs", .ofNat c.planTimeoutSecs),
  ("http_timeout_secs", .ofNat c.httpTimeoutSecs),
  ("subprocess_timeout_secs", .ofNat c.subprocessTimeoutSecs)]

end Config

end Lemmata
