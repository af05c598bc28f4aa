import Lemmata.Decimal.Shortest

/-!
# JSON numbers

An integer literal that fits 64 bits stays an integer; every other number is a double.
-/

namespace Lemmata.Json

inductive Number where
  | integer (value : Int)
  | real (value : Binary64)
deriving DecidableEq, Repr

namespace Number

def leastInteger : Int := -0x8000000000000000

def greatestInteger : Int := 0xffffffffffffffff

/-! ## Text -/

/-- A double is written with a point at magnitudes from 1e-5 to below 1e16. -/
def isPositional (magnitude : Int) : Bool :=
  -5 ≤ magnitude && magnitude ≤ 15

def zeros (n : Int) : List Char :=
  List.replicate n.toNat '0'

/-- Digits with a point after `before` of them; at least one digit stands on each side. -/
def positional (digits : List Char) (before : Int) : List Char :=
  if before ≤ 0 then '0' :: '.' :: zeros (-before) ++ digits
  else
    let whole := digits.take before.toNat ++ zeros (before - digits.length)
    let fraction := digits.drop before.toNat
    whole ++ '.' :: (if fraction.isEmpty then ['0'] else fraction)

/-- One digit before the point, no point after a single digit, and a signed exponent. -/
def scientific (digits : List Char) (magnitude : Int) : List Char :=
  let fraction := digits.drop 1
  let mantissa := digits.take 1 ++ (if fraction.isEmpty then [] else '.' :: fraction)
  mantissa ++ 'e' :: (if 0 ≤ magnitude then '+' else '-') :: Nat.toDigits 10 magnitude.natAbs

def realText (x : Binary64) : List Char :=
  let sign := if x.negative then ['-'] else []
  if x.isZero then sign ++ ['0', '.', '0']
  else
    let decimal := Decimal.shortest x
    let digits := Nat.toDigits 10 decimal.digits
    let magnitude := decimal.exponent + digits.length - 1
    sign ++
      if isPositional magnitude then positional digits (magnitude + 1)
      else scientific digits magnitude

def integerText (n : Int) : List Char :=
  (if n < 0 then ['-'] else []) ++ Nat.toDigits 10 n.natAbs

def text : Number → List Char
  | integer n => integerText n
  | real x => realText x

end Number

end Lemmata.Json
