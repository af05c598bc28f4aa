/-!
# Counts in decimal digits

Whole numbers as they are typed: digits, with a sign in front at most, within 64 bits.
-/

namespace Lemmata.Decimal

/-- The greatest count. -/
def greatestCount : Nat := 0xffffffffffffffff

def valueOf (digits : List Char) : Nat :=
  digits.foldl (fun n c => n * 10 + (c.toNat - 48)) 0

def natural? (digits : List Char) : Option Nat :=
  if digits.isEmpty || !digits.all Char.isDigit then none else some (valueOf digits)

def dropPlus : List Char → List Char
  | '+' :: rest => rest
  | cs => cs

/-- A count in decimal digits, with a plus sign at most. -/
def count? (cs : List Char) : Option Nat :=
  (natural? (dropPlus cs)).filter fun n => decide (n ≤ greatestCount)

def signed? : List Char → Option Int
  | '-' :: digits => (natural? digits).map fun n => -(n : Int)
  | cs => (natural? (dropPlus cs)).map fun n => (n : Int)

/-- A whole number of 64 bits, with a sign at most. -/
def integer? (cs : List Char) : Option Int :=
  (signed? cs).filter fun n => decide (-0x8000000000000000 ≤ n ∧ n < 0x8000000000000000)

end Lemmata.Decimal
