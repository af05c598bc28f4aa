import Lemmata.Dict

/-!
# Tables

Rows under a key, each key once. A row that is saved again replaces the one before.
-/

namespace Lemmata

class Keyed (α : Type) where
  key : α → String

structure Table (α : Type) [Keyed α] where
  rows : List α

namespace Table

variable {α : Type} [Keyed α]

def empty : Table α := ⟨[]⟩

def get? (t : Table α) (key : String) : Option α :=
  t.rows.find? fun row => Keyed.key row == key

def erase (t : Table α) (key : String) : Table α :=
  ⟨t.rows.filter fun row => Keyed.key row != key⟩

def put (t : Table α) (row : α) : Table α :=
  ⟨row :: (t.erase (Keyed.key row)).rows⟩

def size (t : Table α) : Nat :=
  t.rows.length

def keyLe (a b : α) : Bool :=
  nameLe (Keyed.key a) (Keyed.key b)

/-- The rows that pass the test, in the order of their keys. -/
def select (t : Table α) (test : α → Bool) : List α :=
  (t.rows.filter test).mergeSort keyLe

end Table

end Lemmata
