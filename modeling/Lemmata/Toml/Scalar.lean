/-!
# TOML values, and how numbers, dates and strings are read

Each reader takes what it reads off the front of the text and gives the rest.
-/

namespace Lemmata

/-- The members of a table are in the order of the text, each key once. -/
inductive Toml where
  | string (value : String)
  | integer (value : Int)
  /-- The number as it is written; no setting is one. -/
  | float (text : String)
  | boolean (value : Bool)
  /-- A date, a time or both, as it is written; no setting is one. -/
  | moment (text : String)
  | array (items : List Toml)
  | table (members : List (String × Toml))

namespace Toml

def isSpace (c : Char) : Bool :=
  c == ' ' || c == '\t'

def skipSpaces (cs : List Char) : List Char :=
  cs.dropWhile isSpace

/-- The rest after a line end. -/
def afterLineEnd? : List Char → Option (List Char)
  | '\n' :: rest => some rest
  | '\r' :: '\n' :: rest => some rest
  | _ => none

/-- What may stand in a comment. -/
def isCommentChar (c : Char) : Bool :=
  c == '\t' || (' ' ≤ c)

/-- What may stand in a string on one line. -/
def isStringChar (c : Char) : Bool :=
  c == '\t' || (' ' ≤ c && c != '\x7f')

/-! ## Numbers -/

/-- Digits, with single underscores between them. -/
def isDigitRun (isDigit : Char → Bool) : List Char → Bool
  | [] => false
  | [c] => isDigit c
  | c :: '_' :: rest => isDigit c && isDigitRun isDigit rest
  | c :: rest => isDigit c && isDigitRun isDigit rest

def isHexDigit (c : Char) : Bool :=
  c.isDigit || ('a' ≤ c && c ≤ 'f') || ('A' ≤ c && c ≤ 'F')

def isOctalDigit (c : Char) : Bool :=
  '0' ≤ c && c ≤ '7'

def isBinaryDigit (c : Char) : Bool :=
  c == '0' || c == '1'

def digitValue (c : Char) : Nat :=
  if c.isDigit then c.toNat - 48 else c.toLower.toNat - 87

def numberOf (base : Nat) (cs : List Char) : Nat :=
  (cs.filter (· != '_')).foldl (fun n c => n * base + digitValue c) 0

/-- Integers have 64 bits. -/
def integer? (n : Int) : Option Toml :=
  if -0x8000000000000000 ≤ n ∧ n < 0x8000000000000000 then some (.integer n) else none

def basedInteger? (base : Nat) (isDigit : Char → Bool) (cs : List Char) : Option Toml :=
  if isDigitRun isDigit cs then integer? (numberOf base cs) else none

/-- A decimal number without sign has no leading zero. -/
def isDecimal (cs : List Char) : Bool :=
  isDigitRun Char.isDigit cs && (cs.head? != some '0' || cs == ['0'])

def splitSign : List Char → Bool × List Char
  | '-' :: rest => (true, rest)
  | '+' :: rest => (false, rest)
  | cs => (false, cs)

def isExponent (cs : List Char) : Bool :=
  isDigitRun Char.isDigit (splitSign cs).2

/-- What follows the first of these marks, and what stands before it. -/
def splitAtMark (isMark : Char → Bool) (cs : List Char) : List Char × Option (List Char) :=
  match cs.dropWhile (!isMark ·) with
  | [] => (cs, none)
  | _ :: rest => (cs.takeWhile (!isMark ·), some rest)

def isExponentMark (c : Char) : Bool :=
  c == 'e' || c == 'E'

/-- Whether the number, whose digits are these, is too large for a float: as large as `2 ^ 1024`
less half of the last step below it. -/
def isTooLarge (whole fraction exponent : List Char) : Bool :=
  let (negative, digits) := splitSign exponent
  let shift : Int := (if negative then -1 else 1) * numberOf 10 digits
  let mantissa := numberOf 10 (whole ++ fraction)
  let places : Int := (fraction.filter (· != '_')).length
  let scale := shift - places
  let length : Int := (Nat.toDigits 10 mantissa).length
  if mantissa == 0 || length + scale < 309 then false
  else if 309 < length + scale then true
  else if 0 ≤ scale then Nat.pow 2 1024 - Nat.pow 2 970 ≤ mantissa * Nat.pow 10 scale.toNat
  else (Nat.pow 2 1024 - Nat.pow 2 970) * Nat.pow 10 (-scale).toNat ≤ mantissa

/-- A float has a fraction, an exponent or both. A positive one that is too large is none. -/
def isFloat (negative : Bool) (cs : List Char) : Bool :=
  if cs == "inf".toList || cs == "nan".toList then true
  else
    let (number, exponent) := splitAtMark isExponentMark cs
    let (whole, fraction) := splitAtMark (· == '.') number
    (exponent.isSome || fraction.isSome) && isDecimal whole
      && fraction.all (isDigitRun Char.isDigit) && exponent.all isExponent
      && (negative || !isTooLarge whole (fraction.getD []) (exponent.getD []))

def number? (cs : List Char) : Option Toml :=
  match cs with
  | '0' :: 'x' :: digits => basedInteger? 16 isHexDigit digits
  | '0' :: 'o' :: digits => basedInteger? 8 isOctalDigit digits
  | '0' :: 'b' :: digits => basedInteger? 2 isBinaryDigit digits
  | _ =>
    let (negative, digits) := splitSign cs
    if isDecimal digits then
      integer? (if negative then -(numberOf 10 digits : Int) else numberOf 10 digits)
    else if isFloat negative digits then some (.float (String.ofList cs))
    else none

/-! ## Dates and times -/

/-- A number of that many digits, and the rest. -/
def fixedDigits? (count : Nat) (cs : List Char) : Option (Nat × List Char) :=
  let digits := cs.take count
  if digits.length == count && digits.all Char.isDigit then some (numberOf 10 digits, cs.drop count)
  else none

def isLeapYear (year : Nat) : Bool :=
  year % 4 == 0 && (year % 100 != 0 || year % 400 == 0)

def daysInMonth (year month : Nat) : Nat :=
  if month == 2 then if isLeapYear year then 29 else 28
  else if [4, 6, 9, 11].contains month then 30 else 31

def afterChar? (c : Char) : List Char → Option (List Char)
  | [] => none
  | d :: rest => if c == d then some rest else none

def afterDate? (cs : List Char) : Option (List Char) := do
  let (year, cs) ← fixedDigits? 4 cs
  let (month, cs) ← fixedDigits? 2 (← afterChar? '-' cs)
  let (day, cs) ← fixedDigits? 2 (← afterChar? '-' cs)
  if 1 ≤ month ∧ month ≤ 12 ∧ 1 ≤ day ∧ day ≤ daysInMonth year month then some cs else none

def afterFraction : List Char → List Char
  | '.' :: c :: rest => if c.isDigit then rest.dropWhile Char.isDigit else '.' :: c :: rest
  | cs => cs

def afterTime? (cs : List Char) : Option (List Char) := do
  let (hour, cs) ← fixedDigits? 2 cs
  let (minute, cs) ← fixedDigits? 2 (← afterChar? ':' cs)
  let (second, cs) ← fixedDigits? 2 (← afterChar? ':' cs)
  if hour ≤ 23 ∧ minute ≤ 59 ∧ second ≤ 60 then some (afterFraction cs) else none

def afterOffset? (cs : List Char) : Option (List Char) :=
  match cs with
  | 'Z' :: rest | 'z' :: rest => some rest
  | '+' :: rest | '-' :: rest => do
    let (hour, cs) ← fixedDigits? 2 rest
    let (minute, cs) ← fixedDigits? 2 (← afterChar? ':' cs)
    if hour ≤ 23 ∧ minute ≤ 59 then some cs else none
  | _ => none

def afterTimeOfDate? (cs : List Char) : Option (List Char) :=
  match cs with
  | c :: rest =>
    if c == 'T' || c == 't' || c == ' ' then
      (afterTime? rest).map fun cs => (afterOffset? cs).getD cs
    else none
  | [] => none

def afterMoment? (cs : List Char) : Option (List Char) :=
  match afterDate? cs with
  | some rest => some ((afterTimeOfDate? rest).getD rest)
  | none => afterTime? cs

/-! ## Strings -/

def simpleEscape? : Char → Option Char
  | 'b' => some '\x08'
  | 't' => some '\t'
  | 'n' => some '\n'
  | 'f' => some '\x0c'
  | 'r' => some '\r'
  | '"' => some '"'
  | '\\' => some '\\'
  | _ => none

def isScalarValue (n : Nat) : Bool :=
  n < 0xD800 || (0xDFFF < n && n ≤ 0x10FFFF)

/-- A character written as hexadecimal digits. -/
def codePoint? (digits : List Char) : Option Char :=
  let n := numberOf 16 digits
  if digits.all isHexDigit && isScalarValue n then some (Char.ofNat n) else none

/-- What stands after a backslash: the character, and how many characters it takes. -/
def escape? : List Char → Option (Char × Nat)
  | 'u' :: a :: b :: c :: d :: _ => (codePoint? [a, b, c, d]).map fun x => (x, 5)
  | 'U' :: a :: b :: c :: d :: e :: f :: g :: h :: _ =>
    (codePoint? [a, b, c, d, e, f, g, h]).map fun x => (x, 9)
  | c :: _ => (simpleEscape? c).map fun x => (x, 1)
  | [] => none

/-- The rest of a string after the opening quote; `fuel` bounds the characters. -/
def basicAfter : (fuel : Nat) → (text : String) → List Char → Option (String × List Char)
  | 0, _, _ => none
  | _ + 1, _, [] => none
  | fuel + 1, text, c :: rest =>
    if c == '"' then some (text, rest)
    else if c == '\\' then
      match escape? rest with
      | some (x, taken) => basicAfter fuel (text.push x) (rest.drop taken)
      | none => none
    else if isStringChar c then basicAfter fuel (text.push c) rest
    else none

def literalAfter (text : String) : List Char → Option (String × List Char)
  | [] => none
  | c :: rest =>
    if c == '\'' then some (text, rest)
    else if isStringChar c then literalAfter (text.push c) rest
    else none

def pushAll (text : String) (count : Nat) (c : Char) : String :=
  (List.replicate count c).foldl String.push text

/-- A run of quotes in a string over several lines: three close it, two more belong to it. -/
def closingQuotes (run : Nat) : Option Nat :=
  if 3 ≤ run ∧ run ≤ 5 then some (run - 3) else none

def skipBlankLines : List Char → List Char
  | [] => []
  | '\r' :: '\n' :: rest => skipBlankLines rest
  | c :: rest => if isSpace c || c == '\n' then skipBlankLines rest else c :: rest

/-- The rest after a line end and all blanks, if there is nothing else on the line. -/
def afterLineJoin? (cs : List Char) : Option (List Char) :=
  (afterLineEnd? (skipSpaces cs)).map skipBlankLines

/-- The rest of a string over several lines, with or without escapes in it. -/
def linesAfter (quote : Char) (escapes : Bool) :
    (fuel : Nat) → (text : String) → List Char → Option (String × List Char)
  | 0, _, _ => none
  | _ + 1, _, [] => none
  | fuel + 1, text, c :: rest =>
    if c == quote then
      let run := (rest.takeWhile (· == quote)).length + 1
      let after := rest.drop (run - 1)
      if run < 3 then linesAfter quote escapes fuel (pushAll text run quote) after
      else (closingQuotes run).map fun kept => (pushAll text kept quote, after)
    else if escapes && c == '\\' then
      match afterLineJoin? rest with
      | some after => linesAfter quote escapes fuel text after
      | none =>
        match escape? rest with
        | some (x, taken) => linesAfter quote escapes fuel (text.push x) (rest.drop taken)
        | none => none
    else match afterLineEnd? (c :: rest) with
      | some after => linesAfter quote escapes fuel (text.push '\n') after
      | none =>
        if isStringChar c then linesAfter quote escapes fuel (text.push c) rest else none

/-- A line end right after the opening quotes does not count. -/
def dropFirstLineEnd (cs : List Char) : List Char :=
  (afterLineEnd? cs).getD cs

def string? (fuel : Nat) : List Char → Option (String × List Char)
  | '"' :: '"' :: '"' :: rest => linesAfter '"' true fuel "" (dropFirstLineEnd rest)
  | '\'' :: '\'' :: '\'' :: rest => linesAfter '\'' false fuel "" (dropFirstLineEnd rest)
  | '"' :: rest => basicAfter fuel "" rest
  | '\'' :: rest => literalAfter "" rest
  | _ => none

end Toml

end Lemmata
