/-!
# Stages

A lookup goes through four stages; each one consumes what the one before it produced.
-/

namespace Lemmata

inductive Stage where
  | fetch
  | extract
  | derive
  | claim
deriving DecidableEq, Repr

namespace Stage

def all : List Stage := [fetch, extract, derive, claim]

def name : Stage → String
  | fetch => "fetch"
  | extract => "extract"
  | derive => "derive"
  | claim => "claim"

def ofName? (name : String) : Option Stage :=
  all.find? fun stage => stage.name == name

/-- The stage whose effect this stage consumes. -/
def previous? : Stage → Option Stage
  | fetch => none
  | extract => some fetch
  | derive => some extract
  | claim => some derive

end Stage

end Lemmata
