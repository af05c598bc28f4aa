import Lemmata.Digest.Hex

/-!
# Identifiers

Sixteen bytes in hex digits, with or without dashes between the groups.
-/

namespace Lemmata.Uuid

/-- How many hex digits a group has. -/
def groups : List Nat := [8, 4, 4, 4, 12]

/-- Cuts the digits into groups of these lengths. -/
def cut : List Nat → List Char → List (List Char)
  | [], _ => []
  | n :: more, cs => cs.take n :: cut more (cs.drop n)

def simple (bytes : List UInt8) : String :=
  Hex.encode bytes

def hyphenated (bytes : List UInt8) : String :=
  "-".intercalate ((cut groups (Hex.encode bytes).toList).map String.ofList)

/-- A number as sixteen bytes, the least byte last. -/
def bytesOfNat (n : Nat) : List UInt8 :=
  (List.range 16).reverse.map fun i => UInt8.ofNat (n / Nat.pow 256 i % 256)

/-- Sixteen bytes that sort by the count, which has six of them. The others are random, apart from
the marks of the version, which is 7, and of the variant. -/
def ordered (count : Nat) (random : List UInt8) : List UInt8 :=
  let bytes := (bytesOfNat count).drop 10 ++ random.take 10
  (bytes.modify 6 fun b => 0x70 ||| (b &&& 0x0F)).modify 8 fun b => 0x80 ||| (b &&& 0x3F)

end Lemmata.Uuid
