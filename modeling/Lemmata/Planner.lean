import Lemmata.Backend
import Lemmata.Plan.Basic

/-!
# Planning a query

Each candidate is looked up in every backend of its language that has an endpoint, and each
fetch is followed by a chain of an extraction, a derivation and a claim.
-/

namespace Lemmata

structure PlannerConfig where
  diogenesUrl : Option String := none
  heritageUrl : Option String := none
  whitakersPath : Option String := none
  cdslDir : Option String := none
  /-- How many candidates get calls; at least one does. -/
  maxCandidates : Nat := 1
deriving DecidableEq

namespace PlannerConfig

def setting (config : PlannerConfig) : Backend → Option String
  | .diogenes => config.diogenesUrl
  | .whitakers => config.whitakersPath
  | .heritage => config.heritageUrl
  | .cdsl => config.cdslDir

/-- The endpoint of a backend; a blank one does not count. -/
def endpoint? (config : PlannerConfig) (backend : Backend) : Option String :=
  (config.setting backend).filter fun endpoint => !Blank.isOnlyBlank endpoint

end PlannerConfig

namespace Planner

/-- What a fetch asks for, how urgent it is, and whether the plan can do without it. -/
def fetchCall (backend : Backend) (endpoint : String) (language : Language) (index : Nat)
    (candidate : Candidate) : Call :=
  let call : Call := {
    tool := backend.tool .fetch
    id := s!"{backend.name}-{index}"
    endpoint
    stage := .fetch
    expects := backend.responseType }
  match backend with
  | .diogenes =>
    let (lang, q) := match language with
      | .greek => ("grk", candidate.spelling "betacode")
      | _ => ("lat", candidate.headword)
    { ((call.withParam "do" "parse").withParam "lang" lang).withParam "q" q with priority := 10 }
  | .whitakers =>
    { call.withParam "arg0" candidate.headword with priority := 5, optional := true }
  | .heritage =>
    let q := candidate.spelling "velthuis"
    { ((call.withParam "q" q).withParam "t" "VH").withParam "lex" "MW" with priority := 10 }
  | .cdsl =>
    let key := candidate.spelling "slp1"
    { (call.withParam "key" key).withParam "file" s!"{key}.xml" with
      priority := 5, optional := true }

/-- The call of a later stage in the chain of a fetch. -/
def chainCall (backend : Backend) (fetch : Call) (headword : String) (stage : Stage)
    (source : String) : Call :=
  let call : Call := {
    tool := backend.tool stage
    id := s!"{fetch.id}/{stage.name}"
    endpoint := s!"lexis://{stage.name}/{backend.tool stage}"
    stage
    priority := fetch.priority
    optional := fetch.optional
    expects := "application/json" }
  (call.withParam "source_call_id" source).withParam "lemma" headword

def chainDependency (source target : Call) : Dependency where
  blocker := source.id
  blocked := target.id
  rationale := some s!"{target.stage.name} consumes the {source.stage.name} effect"

/-- The four calls of a chain and what they wait for. -/
def chain (backend : Backend) (fetch : Call) (headword : String) : List Call × List Dependency :=
  let extract := chainCall backend fetch headword .extract fetch.id
  let derive := chainCall backend fetch headword .derive extract.id
  let claim := chainCall backend fetch headword .claim derive.id
  ([fetch, extract, derive, claim],
    [chainDependency fetch extract, chainDependency extract derive, chainDependency derive claim])

/-- The chains of one candidate, by backend. -/
def candidateChains (config : PlannerConfig) (language : Language) (index : Nat)
    (candidate : Candidate) : List (List Call × List Dependency) :=
  (Backend.forLanguage language).filterMap fun backend =>
    (config.endpoint? backend).map fun endpoint =>
      chain backend (fetchCall backend endpoint language index candidate) candidate.headword

def chains (config : PlannerConfig) (query : Query) : List (List Call × List Dependency) :=
  let candidates := query.candidates.take (max config.maxCandidates 1)
  candidates.zipIdx.flatMap fun (candidate, index) =>
    candidateChains config query.language index candidate

/-- The plan of a query, under the given ID. -/
def build (config : PlannerConfig) (planId : String) (query : Query) : Plan :=
  let all := chains config query
  .freeze planId query (all.flatMap Prod.fst) (all.flatMap Prod.snd)

end Planner

/-! ## In JSON -/

namespace Json

def decodePlannerConfig : Decoder PlannerConfig := fun v => do
  let r ← record?
    ["diogenes_url", "heritage_url", "whitakers_path", "cdsl_dir", "max_candidates"] v
  let diogenesUrl ← r.getOption "diogenes_url" decodeString
  let heritageUrl ← r.getOption "heritage_url" decodeString
  let whitakersPath ← r.getOption "whitakers_path" decodeString
  let cdslDir ← r.getOption "cdsl_dir" decodeString
  let maxCandidates ← r.getD "max_candidates" decodeUInt64 1
  some { diogenesUrl, heritageUrl, whitakersPath, cdslDir, maxCandidates := maxCandidates.toNat }

def ofPlannerConfig (config : PlannerConfig) : Json :=
  .object [
    ("diogenes_url", ofOptionString config.diogenesUrl),
    ("heritage_url", ofOptionString config.heritageUrl),
    ("whitakers_path", ofOptionString config.whitakersPath),
    ("cdsl_dir", ofOptionString config.cdslDir),
    ("max_candidates", ofNat config.maxCandidates)]

end Json

end Lemmata
