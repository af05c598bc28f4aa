import Lemmata.Json.Basic

/-!
# Reading JSON

A strict reader: no text beyond the value, no raw control characters and no lone surrogates in
strings, and at most 127 arrays and objects inside each other.
-/

namespace Lemmata.Json.Reader

def nestingLimit : Nat := 127

def isBlank (c : Char) : Bool :=
  c == ' ' || c == '\n' || c == '\t' || c == '\r'

def skipBlank (cs : List Char) : List Char :=
  cs.dropWhile isBlank

/-! ## Strings -/

def hexValue? (c : Char) : Option Nat :=
  if '0' ≤ c ∧ c ≤ '9' then some (c.toNat - 48)
  else if 'a' ≤ c ∧ c ≤ 'f' then some (c.toNat - 87)
  else if 'A' ≤ c ∧ c ≤ 'F' then some (c.toNat - 55)
  else none

def unit? (a b c d : Char) : Option Nat := do
  let a ← hexValue? a
  let b ← hexValue? b
  let c ← hexValue? c
  let d ← hexValue? d
  some (((a * 16 + b) * 16 + c) * 16 + d)

def isLeading (unit : Nat) : Bool :=
  0xD800 ≤ unit && unit ≤ 0xDBFF

def isTrailing (unit : Nat) : Bool :=
  0xDC00 ≤ unit && unit ≤ 0xDFFF

def joinSurrogates (leading trailing : Nat) : Char :=
  Char.ofNat (0x10000 + (leading - 0xD800) * 0x400 + (trailing - 0xDC00))

def shortEscape? (c : Char) : Option Char :=
  if c = '"' then some '"'
  else if c = '\\' then some '\\'
  else if c = '/' then some '/'
  else if c = 'b' then some '\x08'
  else if c = 'f' then some '\x0C'
  else if c = 'n' then some '\n'
  else if c = 'r' then some '\r'
  else if c = 't' then some '\t'
  else none

/-- Reads up to the closing quote; `done` holds the characters so far, the last one first. -/
def stringAfter (done : List Char) : List Char → Option (String × List Char)
  | [] => none
  | '"' :: rest => some (String.ofList done.reverse, rest)
  | '\\' :: 'u' :: a :: b :: c :: d :: rest =>
    match unit? a b c d with
    | none => none
    | some unit =>
      if isLeading unit then
        match rest with
        | '\\' :: 'u' :: a' :: b' :: c' :: d' :: rest' =>
          match unit? a' b' c' d' with
          | none => none
          | some second =>
            if isTrailing second then stringAfter (joinSurrogates unit second :: done) rest' else none
        | _ => none
      else if isTrailing unit then none
      else stringAfter (Char.ofNat unit :: done) rest
  | '\\' :: c :: rest =>
    match shortEscape? c with
    | none => none
    | some e => stringAfter (e :: done) rest
  | c :: rest => if c.toNat < 0x20 || c = '\\' then none else stringAfter (c :: done) rest

/-! ## Numbers

A number that is not an integer of 64 bits is its leading digits, as many as fit 64 bits, times
or divided by a power of ten, each step rounded. -/

def isDigit (c : Char) : Bool :=
  '0' ≤ c && c ≤ '9'

def digitValue (c : Char) : Nat :=
  c.toNat - 48

def greatestSignificand : Nat := 0xffffffffffffffff

/-- Appends digits while the result fits; the digits that no longer fit are left. -/
def appendDigits (significand : Nat) : List Char → Nat × List Char
  | [] => (significand, [])
  | c :: rest =>
    let next := significand * 10 + digitValue c
    if greatestSignificand < next then (significand, c :: rest) else appendDigits next rest

/-- Divides by `10 ^ 308` until the power of ten left is in range. -/
def scaleDown : Nat → Binary64 → Int → Option Binary64
  | 0, x, _ => some x
  | fuel + 1, x, exponent =>
    if x.isZero then some x
    else if exponent < -308 then do
      let power ← Binary64.powerOfTen? 308
      scaleDown fuel (← x.div? power) (exponent + 308)
    else do
      let power ← Binary64.powerOfTen? exponent.natAbs
      x.div? power

def realOfParts (negative : Bool) (significand : Nat) (exponent : Int) : Option Number := do
  let x ← Binary64.ofNat? significand
  let scaled ←
    if exponent < 0 then scaleDown 4 x exponent
    else if exponent ≤ 308 then do
      let power ← Binary64.powerOfTen? exponent.natAbs
      x.mul? power
    else if x.isZero then some x
    else none
  some (.real (if negative then scaled.neg else scaled))

/-- The sign and the digits of an exponent, after the letter. -/
def exponentOf? (cs : List Char) : Option (Int × List Char) :=
  let (negative, cs) := match cs with
    | '+' :: rest => (false, rest)
    | '-' :: rest => (true, rest)
    | _ => (false, cs)
  let digits := cs.takeWhile isDigit
  if digits.isEmpty then none
  else
    let value : Nat := digits.foldl (fun n c => n * 10 + digitValue c) 0
    some (if negative then -(value : Int) else value, cs.dropWhile isDigit)

def withExponent (negative : Bool) (significand : Nat) (exponent : Int) (cs : List Char) :
    Option (Number × List Char) :=
  match cs with
  | 'e' :: rest | 'E' :: rest => do
    let (further, rest) ← exponentOf? rest
    let number ← realOfParts negative significand (exponent + further)
    some (number, rest)
  | _ => do
    let number ← realOfParts negative significand exponent
    some (number, cs)

/-- The digits after the point. -/
def withFraction (negative : Bool) (significand : Nat) (exponent : Int) (cs : List Char) :
    Option (Number × List Char) :=
  let digits := cs.takeWhile isDigit
  let (significand, left) := appendDigits significand digits
  if digits.isEmpty then none
  else
    withExponent negative significand (exponent - (digits.length - left.length : Nat))
      (cs.dropWhile isDigit)

def integerNumber (negative : Bool) (n : Nat) : Option Number :=
  if !negative then some (.integer n)
  else if n == 0 || 0x8000000000000000 < n then realOfParts true n 0
  else some (.integer (-(n : Int)))

def unsigned (negative : Bool) (cs : List Char) : Option (Number × List Char) :=
  let digits := cs.takeWhile isDigit
  let rest := cs.dropWhile isDigit
  if digits.isEmpty || (digits.head? == some '0' && 1 < digits.length) then none
  else
    let (significand, left) := appendDigits 0 digits
    match rest with
    | '.' :: fraction => withFraction negative significand left.length fraction
    | 'e' :: _ | 'E' :: _ => withExponent negative significand left.length rest
    | _ =>
      if left.isEmpty then do
        let number ← integerNumber negative significand
        some (number, rest)
      else do
        let number ← realOfParts negative significand left.length
        some (number, rest)

def numberAt (cs : List Char) : Option (Number × List Char) :=
  match cs with
  | '-' :: rest => unsigned true rest
  | _ => unsigned false cs

/-! ## Values -/

mutual
/-- A value at the front, with at most `room` arrays and objects inside each other. -/
def value : (fuel room : Nat) → List Char → Option (Json × List Char)
  | 0, _, _ => none
  | fuel + 1, room, cs =>
    match skipBlank cs with
    | 'n' :: 'u' :: 'l' :: 'l' :: rest => some (.null, rest)
    | 't' :: 'r' :: 'u' :: 'e' :: rest => some (.bool true, rest)
    | 'f' :: 'a' :: 'l' :: 's' :: 'e' :: rest => some (.bool false, rest)
    | '"' :: rest => (stringAfter [] rest).map fun (s, rest) => (.string s, rest)
    | '[' :: rest =>
      match room with
      | 0 => none
      | room + 1 =>
        match skipBlank rest with
        | ']' :: rest => some (.array [], rest)
        | rest => items fuel room [] rest
    | '\x7b' :: rest =>
      match room with
      | 0 => none
      | room + 1 =>
        match skipBlank rest with
        | '\x7d' :: rest => some (.object [], rest)
        | rest => members fuel room [] rest
    | rest => (numberAt rest).map fun (n, rest) => (.number n, rest)

/-- The items of an array; `done` holds those before, the last one first. -/
def items : (fuel room : Nat) → List Json → List Char → Option (Json × List Char)
  | 0, _, _, _ => none
  | fuel + 1, room, done, cs =>
    match value fuel room cs with
    | none => none
    | some (v, rest) =>
      match skipBlank rest with
      | ',' :: rest => items fuel room (v :: done) rest
      | ']' :: rest => some (.array (v :: done).reverse, rest)
      | _ => none

/-- The members of an object; `done` holds those before, sorted by key. -/
def members : (fuel room : Nat) → List (String × Json) → List Char → Option (Json × List Char)
  | 0, _, _, _ => none
  | fuel + 1, room, done, cs =>
    match skipBlank cs with
    | '"' :: rest =>
      match stringAfter [] rest with
      | none => none
      | some (key, rest) =>
        match skipBlank rest with
        | ':' :: rest =>
          match value fuel room rest with
          | none => none
          | some (v, rest) =>
            match skipBlank rest with
            | ',' :: rest => members fuel room (insertMember key v done) rest
            | '\x7d' :: rest => some (.object (insertMember key v done), rest)
            | _ => none
        | _ => none
    | _ => none
end

/-- Each call of `value`, `items` and `members` but the last takes a character. -/
def enoughFuel (cs : List Char) : Nat :=
  2 * cs.length + 2

def parseChars? (cs : List Char) : Option Json :=
  match value (enoughFuel cs) nestingLimit cs with
  | some (v, rest) => if (skipBlank rest).isEmpty then some v else none
  | none => none

end Lemmata.Json.Reader

namespace Lemmata.Json

/-- The value of a whole text. -/
def parse? (text : String) : Option Json :=
  Reader.parseChars? text.toList

end Lemmata.Json
