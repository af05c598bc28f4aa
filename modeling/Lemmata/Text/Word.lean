import Lemmata.Text.Letter

/-!
# Words of a text

A word is a run of letters and marks, in which an apostrophe or hyphen may stand between two of
them.
-/

namespace Lemmata.Word

def isWordChar (c : Char) : Bool :=
  isLetter c || isMark c

def isJoiner (c : Char) : Bool :=
  c == '\'' || c == '’' || c == '-'

def startsWord : List Char → Bool
  | [] => false
  | c :: _ => isWordChar c

/-- The word collected so far, the last character first, if there is one. -/
def finish (current : List Char) : List String :=
  if current.isEmpty then [] else [String.ofList current.reverse]

/-- A joiner belongs to a word when the word goes on right after it. -/
def continues (current : List Char) (c : Char) (rest : List Char) : Bool :=
  isWordChar c || (isJoiner c && !current.isEmpty && startsWord rest)

def scan (current : List Char) : List Char → List String
  | [] => finish current
  | c :: rest =>
    if continues current c rest then scan (c :: current) rest
    else finish current ++ scan [] rest

/-- All words, in order. -/
def all (text : String) : List String :=
  scan [] text.toList

end Lemmata.Word

namespace Lemmata

/-- The different words of more than one character, in the order of their first occurrence. -/
def tokens (text : String) : List String :=
  ((Word.all text).filter fun w => 1 < w.length).eraseDups

end Lemmata
