/-!
# Hexadecimal text of bytes
-/

namespace Lemmata.Hex

def digit (n : Nat) : Char :=
  if n < 10 then Char.ofNat (48 + n) else Char.ofNat (87 + n)

/-- Two lower-case digits per byte. -/
def encode (bytes : List UInt8) : String :=
  String.ofList <| bytes.flatMap fun byte => [digit (byte.toNat / 16), digit (byte.toNat % 16)]

/-- The value of a digit in either case; any other character has none. -/
def valueOf? (c : Char) : Option Nat :=
  if c.isDigit then some (c.toNat - 48)
  else if 'a' ≤ c.toLower ∧ c.toLower ≤ 'f' then some (c.toLower.toNat - 87)
  else none

def decodeChars? : List Char → Option (List UInt8)
  | [] => some []
  | [_] => none
  | a :: b :: rest => do
    let high ← valueOf? a
    let low ← valueOf? b
    let bytes ← decodeChars? rest
    some (UInt8.ofNat (16 * high + low) :: bytes)

/-- The bytes in a text of digit pairs. -/
def decode? (text : String) : Option (List UInt8) :=
  decodeChars? text.toList

end Lemmata.Hex
