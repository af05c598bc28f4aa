import Lemmata.Markup.Tree

/-!
# A document while it is read

The tree so far, the elements that are still open, and the formatting elements that are opened
again when text follows after they were cut off.
-/

namespace Lemmata.Markup

/-- The part of the document that is being read. -/
inductive Mode where
  | initial
  | beforeHtml
  | beforeHead
  | inHead
  | afterHead
  | inBody
  | inElementText
  | inTable
  | inTableText
  | inCaption
  | inColumnGroup
  | inTableBody
  | inRow
  | inCell
  | inSelect
  | inSelectInTable
  | inTemplate
  | afterBody
  | inFrameset
  | afterFrameset
  | afterAfterBody
  | afterAfterFrameset
deriving DecidableEq, Repr

/-- A formatting element with its tag, or the border of an element that formatting stays in. -/
inductive Formatting where
  | border
  | element (opened : Element) (tag : Tag)
deriving DecidableEq

/-- Text comes in runs of one kind. -/
inductive Run where
  | blank (chars : List Char)
  | solid (chars : List Char)
  | nul
deriving DecidableEq

namespace Run

def chars : Run → List Char
  | blank chars => chars
  | solid chars => chars
  | nul => []

def isSolid : Run → Bool
  | solid _ => true
  | _ => false

def isSpace (c : Char) : Bool :=
  isGap c || c == '\r'

/-- The kind of run that a character belongs to. -/
def kindOf (c : Char) : Nat :=
  if isSpace c then 0 else if c == '\x00' then 1 else 2

def ofChars : List Char → Run
  | [] => nul
  | c :: rest =>
    if isSpace c then blank (c :: rest) else if c == '\x00' then nul else solid (c :: rest)

/-- Whether the second character belongs to the run of the first; each NUL is a run. -/
def continues (a b : Char) : Bool :=
  kindOf a == kindOf b && a != '\x00'

/-- The text in runs, each as long as it can be. -/
def split (chars : List Char) : List Run :=
  (chars.splitBy continues).map ofChars

end Run

structure Draft where
  tree : Tree
  mode : Mode
  /-- The mode to go back to after the text of an element or of a table. -/
  backMode : Mode
  /-- Innermost first. -/
  templateModes : List Mode
  /-- Innermost first. -/
  opened : List Element
  /-- Newest first. -/
  formatting : List Formatting
  head : Option Element
  form : Option Element
  framesetAllowed : Bool
  skipsLineFeed : Bool
  /-- Whether what does not belong into a table goes in front of it. -/
  fostering : Bool
  /-- Newest first. -/
  tableText : List Run
  /-- Whether a table may stand inside a paragraph. -/
  old : Bool

namespace Draft

def empty : Draft where
  tree := .empty
  mode := .initial
  backMode := .initial
  templateModes := []
  opened := []
  formatting := []
  head := none
  form := none
  framesetAllowed := true
  skipsLineFeed := false
  fostering := false
  tableText := []
  old := false

def document : Nat := 0

/-! ## Open elements -/

def current? (d : Draft) : Option Element :=
  d.opened.head?

def currentIs (d : Draft) (test : Element → Bool) : Bool :=
  (d.current?.map test).getD false

def currentIsNamed (d : Draft) (name : String) : Bool :=
  d.currentIs (·.isNamed name)

def root? (d : Draft) : Option Element :=
  d.opened.getLast?

def hasOpen (d : Draft) (name : String) : Bool :=
  d.opened.any (·.isNamed name)

def inScope (d : Draft) (name : String) : Bool :=
  Element.inScope Element.endsScope (·.isNamed name) d.opened

def inButtonScope (d : Draft) (name : String) : Bool :=
  Element.inScope Element.endsButtonScope (·.isNamed name) d.opened

def inListScope (d : Draft) (name : String) : Bool :=
  Element.inScope Element.endsListScope (·.isNamed name) d.opened

def inTableScope (d : Draft) (name : String) : Bool :=
  Element.inScope Element.endsTableScope (·.isNamed name) d.opened

def inSelectScope (d : Draft) (name : String) : Bool :=
  Element.inScope Element.endsSelectScope (·.isNamed name) d.opened

def setMode (d : Draft) (mode : Mode) : Draft :=
  { d with mode }

def forbidFrameset (d : Draft) : Draft :=
  { d with framesetAllowed := false }

def pop (d : Draft) : Draft :=
  { d with opened := d.opened.drop 1 }

/-- Closes elements up to the first one like that, which is closed too. -/
def popThrough (d : Draft) (test : Element → Bool) : Draft :=
  { d with opened := (d.opened.dropWhile (!test ·)).drop 1 }

def popThroughNamed (d : Draft) (name : String) : Draft :=
  d.popThrough (·.isNamed name)

/-- Closes elements up to the first one like that, which stays open. -/
def popTo (d : Draft) (test : Element → Bool) : Draft :=
  { d with opened := d.opened.dropWhile (!test ·) }

def removeOpen (d : Draft) (e : Element) : Draft :=
  { d with opened := d.opened.filter (·.node != e.node) }

/-- Closes the elements whose end tag is left out here. -/
def popImplied (d : Draft) (names : List String) : Draft :=
  d.popTo fun e => !e.isOneOf names

def popImpliedExcept (d : Draft) (name : String) : Draft :=
  d.popImplied (Element.implied.filter (· != name))

def closeParagraph (d : Draft) : Draft :=
  (d.popImpliedExcept "p").popThroughNamed "p"

def closeParagraphInScope (d : Draft) : Draft :=
  if d.inButtonScope "p" then d.closeParagraph else d

/-! ## Where things go -/

inductive Place where
  | lastIn (node : Nat)
  | before (parent sibling : Nat)

/-- In front of the innermost table, if that is in the tree, else into what is around it. -/
def fosterPlace (d : Draft) : List Element → Place
  | [] => .lastIn ((d.root?.map Element.node).getD document)
  | e :: outer =>
    if e.isNamed "template" then .lastIn e.node
    else if e.isNamed "table" then
      match d.tree.parent? e.node with
      | some parent => .before parent e.node
      | none => .lastIn ((outer.head?.map Element.node).getD document)
    else d.fosterPlace outer

def placeIn (d : Draft) (target : Element) : Place :=
  if d.fostering && target.isOneOf Element.tableParts then d.fosterPlace d.opened
  else .lastIn target.node

def place (d : Draft) : Place :=
  match d.current? with
  | some e => d.placeIn e
  | none => .lastIn document

def putNode (d : Draft) (place : Place) (node : Nat) : Draft :=
  match place with
  | .lastIn parent => { d with tree := d.tree.append parent node }
  | .before parent sibling => { d with tree := d.tree.insertBefore parent sibling node }

def addText (d : Draft) (chars : List Char) : Draft :=
  let content := String.ofList chars
  match d.place with
  | .lastIn parent => { d with tree := d.tree.appendText parent content }
  | .before parent sibling => { d with tree := d.tree.insertTextBefore parent sibling content }

def addCommentAt (d : Draft) (place : Place) : Draft :=
  let (tree, node) := d.tree.create .comment
  { d with tree }.putNode place node

def addComment (d : Draft) : Draft :=
  d.addCommentAt d.place

/-! ## New elements -/

def createElement (d : Draft) (vocabulary : Vocabulary) (name : String) : Draft × Element :=
  let (tree, node) := d.tree.create (.element vocabulary name)
  ({ d with tree }, ⟨node, vocabulary, name⟩)

/-- Adds an element that is closed at once. -/
def addIn (d : Draft) (vocabulary : Vocabulary) (name : String) : Draft × Element :=
  let (d, e) := d.createElement vocabulary name
  (d.putNode d.place e.node, e)

def openIn (d : Draft) (vocabulary : Vocabulary) (name : String) : Draft × Element :=
  let (d, e) := d.addIn vocabulary name
  ({ d with opened := e :: d.opened }, e)

def add (d : Draft) (name : String) : Draft :=
  (d.addIn .html name).1

def openNew (d : Draft) (name : String) : Draft :=
  (d.openIn .html name).1

/-- The outermost element of the document. -/
def openRoot (d : Draft) : Draft :=
  let (d, e) := d.createElement .html "html"
  { d with tree := d.tree.append document e.node, opened := e :: d.opened }

def addBorder (d : Draft) : Draft :=
  { d with formatting := .border :: d.formatting }

/-- Forgets the formatting elements up to the newest border. -/
def clearToBorder (d : Draft) : Draft :=
  { d with formatting := (d.formatting.dropWhile (· != .border)).drop 1 }

end Draft

end Lemmata.Markup
