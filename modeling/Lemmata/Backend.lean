import Lemmata.Query

/-!
# Dictionary backends
-/

namespace Lemmata

inductive Backend where
  /-- A Perseus page server for Latin and Greek. -/
  | diogenes
  /-- A local program for Latin. -/
  | whitakers
  /-- A search page for Sanskrit. -/
  | heritage
  /-- Sanskrit entries in files on disk. -/
  | cdsl
deriving DecidableEq, Repr

namespace Backend

def all : List Backend := [diogenes, whitakers, heritage, cdsl]

def name : Backend → String
  | diogenes => "diogenes"
  | whitakers => "whitakers"
  | heritage => "heritage"
  | cdsl => "cdsl"

def ofName? (name : String) : Option Backend :=
  all.find? fun backend => backend.name == name

def format : Backend → String
  | diogenes | heritage => "html"
  | whitakers => "text"
  | cdsl => "xml"

def responseType : Backend → String
  | diogenes | heritage => "text/html"
  | whitakers => "text/plain"
  | cdsl => "application/xml"

/-- The tool that a backend's chain uses at a stage. -/
def tool (backend : Backend) : Stage → String
  | .fetch => s!"fetch.{backend.name}"
  | .extract => s!"extract.{backend.name}.{backend.format}"
  | .derive => s!"derive.{backend.name}.lemmas"
  | .claim => s!"claim.{backend.name}.lemmas"

/-- The backends asked for a language, in the order of the plan. -/
def forLanguage : Language → List Backend
  | .latin => [diogenes, whitakers]
  | .greek => [diogenes]
  | .sanskrit => [heritage, cdsl]

end Backend

end Lemmata
