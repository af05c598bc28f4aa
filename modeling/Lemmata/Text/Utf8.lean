/-!
# UTF-8 text

Bytes of a text, and the text of any bytes: each maximal ill-formed part reads as one U+FFFD.
-/

namespace Lemmata.Utf8

def encode (text : String) : List UInt8 :=
  text.toList.flatMap String.utf8EncodeChar

/-! ## Reading bytes that may be ill-formed -/

def replacement : Char := '\uFFFD'

/-- The second byte that a lead byte allows: overlong forms, surrogates and code points above
U+10FFFF are cut off here, so the later bytes need no check of their own. -/
def secondAllowed (lead second : UInt8) : Bool :=
  if lead == 0xE0 then 0xA0 ≤ second && second ≤ 0xBF
  else if lead == 0xED then 0x80 ≤ second && second ≤ 0x9F
  else if lead == 0xF0 then 0x90 ≤ second && second ≤ 0xBF
  else if lead == 0xF4 then 0x80 ≤ second && second ≤ 0x8F
  else 0x80 ≤ second && second ≤ 0xBF

def isTail (byte : UInt8) : Bool :=
  0x80 ≤ byte && byte ≤ 0xBF

/-- Appends the six payload bits of a tail byte. -/
def addTail (bits : Nat) (tail : UInt8) : Nat :=
  bits * 64 + (tail.toNat - 0x80)

def two (lead a : UInt8) : Char :=
  Char.ofNat (addTail (lead.toNat - 0xC0) a)

def three (lead a b : UInt8) : Char :=
  Char.ofNat (addTail (addTail (lead.toNat - 0xE0) a) b)

def four (lead a b c : UInt8) : Char :=
  Char.ofNat (addTail (addTail (addTail (lead.toNat - 0xF0) a) b) c)

def decodeOnto (text : String) : List UInt8 → String
  | [] => text
  | lead :: rest =>
    if lead < 0x80 then decodeOnto (text.push (Char.ofNat lead.toNat)) rest
    else if lead < 0xC2 || 0xF4 < lead then decodeOnto (text.push replacement) rest
    else match rest with
      | [] => text.push replacement
      | a :: rest₁ =>
        if !secondAllowed lead a then decodeOnto (text.push replacement) (a :: rest₁)
        else if lead < 0xE0 then decodeOnto (text.push (two lead a)) rest₁
        else match rest₁ with
          | [] => text.push replacement
          | b :: rest₂ =>
            if !isTail b then decodeOnto (text.push replacement) (b :: rest₂)
            else if lead < 0xF0 then decodeOnto (text.push (three lead a b)) rest₂
            else match rest₂ with
              | [] => text.push replacement
              | c :: rest₃ =>
                if !isTail c then decodeOnto (text.push replacement) (c :: rest₃)
                else decodeOnto (text.push (four lead a b c)) rest₃

def decode (bytes : List UInt8) : String :=
  decodeOnto "" bytes

/-- Whether the bytes are the encoding of a text. -/
def isValid (bytes : List UInt8) : Bool :=
  encode (decode bytes) == bytes

end Lemmata.Utf8
