import Lemmata.Markup.CharRef
import Lemmata.Markup.Doctype

/-!
# Tokens of a marked-up text

A text is cut into tags, comments, declarations and the text between them. What a character means
depends on the element around it: some elements hold text alone, up to their own end tag.

The functions take a `fuel`, which bounds the characters left to read.
-/

namespace Lemmata.Markup

structure Attribute where
  name : String
  value : String
deriving DecidableEq, Repr

structure Tag where
  name : String
  /-- Each name once. -/
  attributes : List Attribute
  selfClosing : Bool
deriving DecidableEq, Repr

inductive Token where
  /-- A NUL stands here as it was written. -/
  | text (chars : List Char)
  | startTag (tag : Tag)
  | endTag (name : String)
  /-- A comment is never visible, so its text is not kept. -/
  | comment
  /-- Whether the document is read in the old way. -/
  | doctype (old : Bool)
  /-- Malformed markup that stands for nothing. -/
  | flaw
deriving DecidableEq, Repr

/-- What the characters at hand are. -/
inductive Content where
  | markup
  /-- Text up to the end tag of the element, with or without character references in it. -/
  | element (name : String) (references : Bool)
  | script
  /-- Text to the end of the document. -/
  | plain
deriving DecidableEq, Repr

namespace Token

/-- Every line end becomes one line feed. -/
def normalize : List Char → List Char
  | [] => []
  | '\r' :: '\n' :: rest => '\n' :: normalize rest
  | '\r' :: rest => '\n' :: normalize rest
  | c :: rest => c :: normalize rest

def replaceNul (c : Char) : Char :=
  if c == '\x00' then '\uFFFD' else c

def nameOf (cs : List Char) : String :=
  String.ofList (cs.map fun c => (replaceNul c).toLower)

/-! ## Tags -/

/-- A value up to a character that ends it, the last character first. -/
def valueOnto (ends : Char → Bool) : (fuel : Nat) → (value cs : List Char) → List Char × List Char
  | 0, value, cs => (value, cs)
  | _ + 1, value, [] => (value, [])
  | fuel + 1, value, c :: rest =>
    if ends c then (value, c :: rest)
    else if c == '&' then
      let (chars, rest) := CharRef.read true rest
      valueOnto ends fuel (chars.reverse ++ value) rest
    else valueOnto ends fuel (replaceNul c :: value) rest

def value (ends : Char → Bool) (fuel : Nat) (cs : List Char) : String × List Char :=
  let (value, rest) := valueOnto ends fuel [] cs
  (String.ofList value.reverse, rest)

/-- What stands after the equals sign of an attribute. A value whose quote stays open takes all
the rest. -/
def attributeValue (fuel : Nat) (cs : List Char) : String × List Char :=
  match skipGaps cs with
  | '"' :: rest => let (v, rest) := value (· == '"') fuel rest; (v, rest.drop 1)
  | '\'' :: rest => let (v, rest) := value (· == '\'') fuel rest; (v, rest.drop 1)
  | rest => value (fun c => isGap c || c == '>') fuel rest

def addAttribute (attributes : List Attribute) (added : Attribute) : List Attribute :=
  if attributes.any fun a => a.name == added.name then attributes else attributes ++ [added]

def endsAttributeName (c : Char) : Bool :=
  isGap c || c == '/' || c == '>' || c == '='

/-- The attributes up to the closing bracket, and whether a slash stands before it; nothing if
the text ends before. An equals sign where a name has to start is part of the name. -/
def attributes? : (fuel : Nat) → List Attribute → (cs : List Char) →
    Option (List Attribute × Bool × List Char)
  | 0, _, _ => none
  | fuel + 1, found, cs =>
    match skipGaps cs with
    | [] => none
    | '>' :: rest => some (found, false, rest)
    | '/' :: '>' :: rest => some (found, true, rest)
    | '/' :: rest => attributes? fuel found rest
    | c :: rest =>
      let name := nameOf (c :: rest.takeWhile (!endsAttributeName ·))
      let rest := rest.dropWhile (!endsAttributeName ·)
      match skipGaps rest with
      | '=' :: rest =>
        let (value, rest) := attributeValue fuel rest
        attributes? fuel (addAttribute found ⟨name, value⟩) rest
      | _ => attributes? fuel (addAttribute found ⟨name, ""⟩) rest

def endsTagName (c : Char) : Bool :=
  isGap c || c == '/' || c == '>'

/-- A tag from its name on. -/
def tag? (fuel : Nat) (cs : List Char) : Option (Tag × List Char) :=
  match attributes? fuel [] (cs.dropWhile (!endsTagName ·)) with
  | none => none
  | some (attributes, selfClosing, rest) =>
    some (⟨nameOf (cs.takeWhile (!endsTagName ·)), attributes, selfClosing⟩, rest)

def startTagFrom (fuel : Nat) (cs : List Char) : Token × List Char :=
  match tag? fuel cs with
  | some (tag, rest) => (.startTag tag, rest)
  | none => (.flaw, [])

def endTagFrom (fuel : Nat) (cs : List Char) : Token × List Char :=
  match tag? fuel cs with
  | some (tag, rest) => (.endTag tag.name, rest)
  | none => (.flaw, [])

/-! ## Comments and declarations -/

def afterBracket (cs : List Char) : List Char :=
  (cs.dropWhile (· != '>')).drop 1

def commentEnd : List Char → List Char
  | [] => []
  | '-' :: '-' :: '>' :: rest => rest
  | '-' :: '-' :: '!' :: '>' :: rest => rest
  | _ :: rest => commentEnd rest

/-- What follows a comment, from right after the opening dashes. -/
def afterComment : List Char → List Char
  | '>' :: rest => rest
  | '-' :: '>' :: rest => rest
  | cs => commentEnd cs

def doctypeFrom (cs : List Char) : Token × List Char :=
  match cs.dropWhile (· != '>') with
  | [] => (.doctype true, [])
  | _ :: rest => (.doctype (Doctype.isOld (cs.takeWhile (· != '>'))), rest)

/-- The text of a section that holds no markup, the last character first. -/
def sectionOnto (chars : List Char) : List Char → List Char × List Char
  | [] => (chars, [])
  | ']' :: ']' :: '>' :: rest => (chars, rest)
  | c :: rest => sectionOnto (c :: chars) rest

/-- What stands after an exclamation mark. A section counts only inside foreign elements. -/
def declaration (inForeign : Bool) (cs : List Char) : Token × List Char :=
  match cs with
  | '-' :: '-' :: rest => (.comment, afterComment rest)
  | _ =>
    match afterWord? "doctype".toList cs with
    | some rest => doctypeFrom rest
    | none =>
      let opening := "[CDATA[".toList
      if inForeign && opening.isPrefixOf cs then
        let (chars, rest) := sectionOnto [] (cs.drop opening.length)
        (.text chars.reverse, rest)
      else (.comment, afterBracket cs)

/-! ## Text -/

/-- Whether an angle bracket before these characters opens markup. -/
def opensMarkup : List Char → Bool
  | [] => false
  | c :: rest => c.isAlpha || c == '!' || c == '?' || (c == '/' && !rest.isEmpty)

/-- Text up to the next markup, the last character first. -/
def textOnto : (fuel : Nat) → (chars cs : List Char) → List Char × List Char
  | 0, chars, cs => (chars, cs)
  | _ + 1, chars, [] => (chars, [])
  | fuel + 1, chars, c :: rest =>
    if c == '<' && opensMarkup rest then (chars, c :: rest)
    else if c == '&' then
      let (found, rest) := CharRef.read false rest
      textOnto fuel (found.reverse ++ chars) rest
    else textOnto fuel (c :: chars) rest

def markup (fuel : Nat) (inForeign : Bool) (cs : List Char) : Token × List Char :=
  match cs with
  | '<' :: '!' :: rest => declaration inForeign rest
  | '<' :: '?' :: rest => (.comment, afterBracket rest)
  | '<' :: '/' :: '>' :: rest => (.flaw, rest)
  | '<' :: '/' :: c :: rest =>
    if c.isAlpha then endTagFrom fuel (c :: rest) else (.comment, afterBracket (c :: rest))
  | '<' :: c :: rest =>
    if c.isAlpha then startTagFrom fuel (c :: rest)
    else let (chars, rest) := textOnto fuel ['<'] (c :: rest); (.text chars.reverse, rest)
  | _ => let (chars, rest) := textOnto fuel [] cs; (.text chars.reverse, rest)

/-! ## Elements that hold text alone -/

/-- What follows the slash and the name, if the characters start an end tag of that name. -/
def atEndTag (name : String) : List Char → Bool
  | '<' :: '/' :: rest =>
    match afterWord? name.toList rest with
    | some (c :: _) => endsTagName c
    | _ => false
  | _ => false

def elementTextOnto (name : String) (references : Bool) :
    (fuel : Nat) → (chars cs : List Char) → List Char × List Char
  | 0, chars, cs => (chars, cs)
  | _ + 1, chars, [] => (chars, [])
  | fuel + 1, chars, c :: rest =>
    if atEndTag name (c :: rest) then (chars, c :: rest)
    else if references && c == '&' then
      let (found, rest) := CharRef.read false rest
      elementTextOnto name references fuel (found.reverse ++ chars) rest
    else elementTextOnto name references fuel (replaceNul c :: chars) rest

/-- A script may hold a comment, and a comment in it a script, whose end tag does not count. -/
inductive ScriptDepth where
  | outside
  | inComment
  | inCommentedScript
deriving DecidableEq

/-- Whether the letters at the front are the word script and a name ends there. -/
def namesScript (cs : List Char) : Option Bool :=
  match cs.dropWhile Char.isAlpha with
  | c :: _ =>
    if endsTagName c then some (nameOf (cs.takeWhile Char.isAlpha) == "script") else none
  | [] => none

def scriptDashes (dashes : Nat) (c : Char) : Nat :=
  if c == '-' then dashes + 1 else 0

/-- The state after one character, which is followed by `rest`. -/
def scriptStep (depth : ScriptDepth) (dashes : Nat) (c : Char) (rest : List Char) : ScriptDepth :=
  match depth, c with
  | .outside, _ => .outside
  | _, '>' => if 2 ≤ dashes then .outside else depth
  | .inComment, '<' =>
    if (rest.head?.map Char.isAlpha).getD false && namesScript rest == some true then
      .inCommentedScript
    else .inComment
  | .inCommentedScript, '<' =>
    match rest with
    | '/' :: name => if namesScript name == some true then .inComment else .inCommentedScript
    | _ => .inCommentedScript
  | _, _ => depth

def scriptOnto : (fuel : Nat) → ScriptDepth → (dashes : Nat) → (chars cs : List Char) →
    List Char × List Char
  | 0, _, _, chars, cs => (chars, cs)
  | _ + 1, _, _, chars, [] => (chars, [])
  | fuel + 1, depth, dashes, chars, c :: rest =>
    if depth != .inCommentedScript && atEndTag "script" (c :: rest) then (chars, c :: rest)
    else if depth == .outside && "<!--".toList.isPrefixOf (c :: rest) then
      scriptOnto fuel .inComment 2 ("--!<".toList ++ chars) (rest.drop 3)
    else
      scriptOnto fuel (scriptStep depth dashes c rest) (scriptDashes dashes c)
        (replaceNul c :: chars) rest

/-- The text, or the end tag when there is none before it. -/
def textOrEnd (fuel : Nat) (found : List Char × List Char) : Token × List Char :=
  match found with
  | ([], '<' :: '/' :: rest) => endTagFrom fuel rest
  | (chars, rest) => (.text chars.reverse, rest)

/-- The first token and what follows it. -/
def read (fuel : Nat) (content : Content) (inForeign : Bool) (cs : List Char) :
    Token × List Char :=
  match content with
  | .markup => markup fuel inForeign cs
  | .element name references => textOrEnd fuel (elementTextOnto name references fuel [] cs)
  | .script => textOrEnd fuel (scriptOnto fuel .outside 0 [] cs)
  | .plain => (.text (cs.map replaceNul), [])

end Token

end Lemmata.Markup
