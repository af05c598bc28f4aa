import Lemmata.Decimal.Binary64

/-!
# The shortest decimal that reads back

Of the decimals that round to a given double, one with the fewest digits, and of those the
nearest to the double.
-/

namespace Lemmata

/-- `digits * 10 ^ exponent`. -/
structure Decimal where
  digits : Nat
  exponent : Int
deriving DecidableEq, Repr

namespace Decimal

def ratio (x : Decimal) : Nat × Nat :=
  if 0 ≤ x.exponent then (x.digits * Nat.pow 10 x.exponent.toNat, 1)
  else (x.digits, Nat.pow 10 (-x.exponent).toNat)

/-- Moves trailing zeros of the digits into the exponent. -/
def stripZeros : Nat → Decimal → Decimal
  | 0, x => x
  | fuel + 1, x =>
    if x.digits % 10 == 0 && x.digits != 0 then stripZeros fuel ⟨x.digits / 10, x.exponent + 1⟩
    else x

def digitCount (n : Nat) : Nat :=
  (Nat.toDigits 10 n).length

/-- The greatest `e` with `10 ^ e ≤ num / den`. -/
def magnitude (num den : Nat) : Int :=
  if den ≤ num then (digitCount (num / den) : Int) - 1
  else
    let d := digitCount (den / num)
    if den ≤ num * Nat.pow 10 (d - 1) then -((d : Int) - 1) else -(d : Int)

/-! ## The interval of a double -/

/-- The reals that round to a double, in quarters of its unit. -/
structure Interval where
  low : Nat
  high : Nat
  closed : Bool
  unit : Int

/-- Half a unit to each side, but a quarter below a power of two, where the doubles get denser.
Ties go to the even significand, so the ends belong to an even one. -/
def intervalOf (x : Binary64) : Interval where
  low := 4 * x.significand -
    (if x.significand == Nat.pow 2 52 && x.exponent != Binary64.leastExponent then 1 else 2)
  high := 4 * x.significand + 2
  closed := x.significand % 2 == 0
  unit := x.exponent - 2

def Interval.contains (i : Interval) (x : Decimal) : Bool :=
  let (num, den) := x.ratio
  let (n, d) := Binary64.inUnits num den i.unit
  if i.closed then i.low * d ≤ n && n ≤ i.high * d else i.low * d < n && n < i.high * d

/-! ## The search -/

/-- The neighbours of `num / den` on the grid of `count` digits, the nearer one first. -/
def neighbours (num den count : Nat) : List Decimal :=
  let grid := magnitude num den - (count : Int) + 1
  let (n, d) :=
    if 0 ≤ grid then (num, den * Nat.pow 10 grid.toNat)
    else (num * Nat.pow 10 (-grid).toNat, den)
  let below := n / d
  let nearest := Binary64.roundDiv n d
  let other := if nearest == below then below + 1 else below
  [⟨nearest, grid⟩, ⟨other, grid⟩]

def search (i : Interval) (num den : Nat) : Nat → Nat → Decimal
  | 0, count => (neighbours num den count).headD ⟨0, 0⟩
  | more + 1, count =>
    match (neighbours num den count).find? i.contains with
    | some x => x
    | none => search i num den more (count + 1)

/-- Seventeen digits always suffice. -/
def shortest (x : Binary64) : Decimal :=
  let (num, den) := x.ratio
  if num == 0 then ⟨0, 0⟩ else stripZeros 17 (search (intervalOf x) num den 16 1)

end Decimal

end Lemmata
