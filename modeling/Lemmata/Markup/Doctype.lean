/-!
# Document type declarations

A declaration decides one thing: whether the document is read in the old way, in which a table may
stand inside a paragraph.
-/

namespace Lemmata.Markup

/-- Separates the words inside a tag or a declaration. -/
def isGap (c : Char) : Bool :=
  c == ' ' || c == '\t' || c == '\n' || c == '\x0c'

def skipGaps (cs : List Char) : List Char :=
  cs.dropWhile isGap

def lowerChars (cs : List Char) : List Char :=
  cs.map Char.toLower

/-- What follows the word, if the characters start with it in any case. -/
def afterWord? : (word cs : List Char) → Option (List Char)
  | [], cs => some cs
  | _ :: _, [] => none
  | w :: word, c :: cs => if w == c.toLower then afterWord? word cs else none

namespace Doctype

/-- The versions of HTML whose declarations belong to the old way. -/
def oldVersions : List String := [
  "2.0 level 1", "2.0 level 2", "2.0 strict level 1", "2.0 strict level 2", "2.0 strict", "2.0",
  "2.1e", "3.0", "3.2 final", "3.2", "3", "level 0", "level 1", "level 2", "level 3",
  "strict level 0", "strict level 1", "strict level 2", "strict level 3", "strict"]

def oldDrafts : List String := [
  "html 3 1995-03-24", "html 3.2 draft", "html 3.2 final", "html 3.2", "html 3.2s draft",
  "html 4.0 frameset", "html 4.0 transitional", "html experimental 19960712",
  "html experimental 970421", "w3 html"]

/-- Public identifiers with these beginnings belong to the old way. -/
def oldBeginnings : List String :=
  oldVersions.map (fun version => s!"-//ietf//dtd html {version}//")
    ++ oldDrafts.map (fun draft => s!"-//w3c//dtd {draft}//")
    ++ ["-//ietf//dtd html//", "-//w3o//dtd w3 html 3.0//"]

/-- These belong to the old way only without a system identifier. -/
def mixedBeginnings : List String := [
  "-//w3c//dtd html 4.01 frameset//", "-//w3c//dtd html 4.01 transitional//"]

/-- These belong to the old way as a whole. -/
def oldNames : List String :=
  ["html", "-/w3c/dtd html 4.0 transitional/en", "-//w3o//dtd w3 html strict 3.0//en//"]

def startsWithOne (beginnings : List String) (cs : List Char) : Bool :=
  beginnings.any fun b => b.toList.isPrefixOf cs

def isOldPublic (identifier : List Char) (hasSystem : Bool) : Bool :=
  let id := lowerChars identifier
  oldNames.contains (String.ofList id) || startsWithOne oldBeginnings id
    || (startsWithOne mixedBeginnings id && !hasSystem)

/-- The characters between quotes and what follows, if the quote is closed. -/
def quoted? : List Char → Option (List Char × List Char)
  | [] => none
  | quote :: rest =>
    if quote == '"' || quote == '\'' then
      match rest.dropWhile (· != quote) with
      | [] => none
      | _ :: after => some (rest.takeWhile (· != quote), after)
    else none

/-- A system identifier may be left out; what stands in its place has to be one. -/
def isOldAfterPublic (identifier cs : List Char) : Bool :=
  match skipGaps cs with
  | [] => isOldPublic identifier false
  | rest => (quoted? rest).isNone || isOldPublic identifier true

def isOldAfterName (cs : List Char) : Bool :=
  match skipGaps cs with
  | [] => false
  | rest =>
    match afterWord? "public".toList rest with
    | some after =>
      match quoted? (skipGaps after) with
      | some (identifier, after) => isOldAfterPublic identifier after
      | none => true
    | none =>
      match afterWord? "system".toList rest with
      | some after => (quoted? (skipGaps after)).isNone
      | none => true

/-- What stands between the keyword and the closing bracket. -/
def isOld (cs : List Char) : Bool :=
  let cs := skipGaps cs
  let name := lowerChars (cs.takeWhile (!isGap ·))
  name != "html".toList || isOldAfterName (cs.dropWhile (!isGap ·))

end Doctype

end Lemmata.Markup
