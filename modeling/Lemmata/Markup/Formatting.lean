import Lemmata.Markup.Draft

/-!
# Formatting elements

Tags for bold, links and the like may overlap other elements. An element that was closed from
outside is opened again before the next text, and an end tag that crosses a block splits the
formatting element in two.
-/

namespace Lemmata.Markup

namespace Formatting

def isNode (node : Nat) : Formatting → Bool
  | border => false
  | element opened _ => opened.node == node

/-- The entries after the newest border. -/
def recent (entries : List Formatting) : List Formatting :=
  entries.takeWhile (· != .border)

def sameTag (a b : Tag) : Bool :=
  a.name == b.name && a.attributes.length == b.attributes.length
    && a.attributes.all fun x => b.attributes.contains x

def hasTag (tag : Tag) : Formatting → Bool
  | border => false
  | element _ t => sameTag t tag

/-- Removes the oldest recent entry with the tag. -/
def dropOldest (tag : Tag) (entries : List Formatting) : List Formatting :=
  let kept := recent entries
  match kept.reverse.findIdx? (hasTag tag) with
  | none => entries
  | some index => (kept.reverse.eraseIdx index).reverse ++ entries.drop kept.length

/-- At most three entries have the same tag. -/
def makeRoom (tag : Tag) (entries : List Formatting) : List Formatting :=
  if 3 ≤ (recent entries).countP (hasTag tag) then dropOldest tag entries else entries

end Formatting

namespace Draft

def isOpen (d : Draft) (node : Nat) : Bool :=
  d.opened.any (·.node == node)

def forgetFormatting (d : Draft) (node : Nat) : Draft :=
  { d with formatting := d.formatting.eraseP (·.isNode node) }

def inFormatting (d : Draft) (node : Nat) : Bool :=
  d.formatting.any (·.isNode node)

/-- Opens these entries again, oldest first, in front of the others. -/
def reopen (d : Draft) : (closed : List Formatting) → Draft
  | [] => d
  | .border :: rest => { d with formatting := .border :: d.formatting }.reopen rest
  | .element _ tag :: rest =>
    let (d, e) := d.openIn .html tag.name
    { d with formatting := .element e tag :: d.formatting }.reopen rest

def isClosedEntry (d : Draft) : Formatting → Bool
  | .border => false
  | .element e _ => !d.isOpen e.node

/-- Opens the newest formatting elements that were closed from outside. -/
def restoreFormatting (d : Draft) : Draft :=
  let closed := d.formatting.takeWhile d.isClosedEntry
  { d with formatting := d.formatting.drop closed.length }.reopen closed.reverse

def openFormatting (d : Draft) (tag : Tag) : Draft :=
  let formatting := Formatting.makeRoom tag d.formatting
  let (d, e) := d.openIn .html tag.name
  { d with formatting := .element e tag :: formatting }

/-! ## End tags -/

/-- Closes the innermost element of that name and all inside it, unless a special element is in
between. -/
def closeNamed (d : Draft) (name : String) : Draft :=
  match d.opened.find? fun e => e.isNamed name || e.isSpecial with
  | none => d
  | some e =>
    if !e.isNamed name then d
    else { d with opened := (d.opened.dropWhile (·.node != e.node)).drop 1 }

def findRecent? (d : Draft) (name : String) : Option (Element × Tag) :=
  (Formatting.recent d.formatting).findSome? fun
    | .border => none
    | .element e tag => if tag.name == name then some (e, tag) else none

/-- Puts the entry after the one of that node, that is, makes it the next newer one. -/
def insertNewer (entries : List Formatting) (node : Nat) (entry : Formatting) : List Formatting :=
  match entries.findIdx? (·.isNode node) with
  | none => entries
  | some index => entries.take index ++ entry :: entries.drop index

def replaceEntry (entries : List Formatting) (node : Nat) (entry : Formatting) :
    List Formatting :=
  entries.map fun e => if e.isNode node then entry else e

/-- What was moved so far while a formatting element is split: the top node of the part that
moves, and the entry after which the new element is listed, if it is not the split one. -/
structure Moved where
  top : Nat
  after : Option Nat

/-- Copies one formatting element between the split one and the block, and moves what was moved
so far into the copy. -/
def copyBetween (d : Draft) (e : Element) (tag : Tag) (block : Nat) (moved : Moved) :
    Draft × Moved :=
  let (d, copy) := d.createElement .html tag.name
  let opened := d.opened.map fun x => if x.node == e.node then copy else x
  let formatting := replaceEntry d.formatting e.node (.element copy tag)
  let after := if moved.top == block then some copy.node else moved.after
  ({ d with opened, formatting, tree := d.tree.append copy.node moved.top },
    ⟨copy.node, after⟩)

def tagOf? (d : Draft) (node : Nat) : Option Tag :=
  d.formatting.findSome? fun
    | .border => none
    | .element e tag => if e.node == node then some tag else none

/-- Goes through the elements between the block and the split element, from the block outwards:
the three next to the block are copied if they are formatting elements, all others are closed. -/
def liftBlock (d : Draft) (block : Nat) (moved : Moved) (count : Nat) :
    (between : List Element) → Draft × Moved
  | [] => (d, moved)
  | e :: outer =>
    match (if 3 < count then none else d.tagOf? e.node) with
    | none => ((d.forgetFormatting e.node).removeOpen e).liftBlock block moved (count + 1) outer
    | some tag =>
      let (d, moved) := d.copyBetween e tag block moved
      d.liftBlock block moved (count + 1) outer

/-- Puts the element right inside the block in the list of open ones. -/
def openInside (opened : List Element) (block : Nat) (e : Element) : List Element :=
  opened.takeWhile (·.node != block) ++ e :: opened.dropWhile (·.node != block)

/-- Splits a formatting element that a block inside it sticks out of. -/
def splitAround (d : Draft) (split : Element) (tag : Tag) (block ancestor : Element) : Draft :=
  let inside := d.opened.dropWhile (·.node != block.node)
  let between := (inside.drop 1).takeWhile (·.node != split.node)
  let (d, moved) := d.liftBlock block.node ⟨block.node, none⟩ 1 between
  let d := { d with tree := d.tree.detach moved.top }
  let d := d.putNode (d.placeIn ancestor) moved.top
  let (d, fresh) := d.createElement .html tag.name
  let tree := (d.tree.moveChildren block.node fresh.node).append block.node fresh.node
  let entry := Formatting.element fresh tag
  let formatting := match moved.after with
    | none => replaceEntry d.formatting split.node entry
    | some node =>
      (insertNewer d.formatting node entry).eraseP (·.isNode split.node)
  let opened := d.opened.filter (·.node != split.node)
  { d with tree, formatting, opened := openInside opened block.node fresh }

/-- The outermost special element inside the element, which is searched from inside outwards. -/
def outermostSpecial? (e : Element) (opened : List Element) : Option Element :=
  (opened.takeWhile (·.node != e.node)).reverse.find? Element.isSpecial

/-- One round for an end tag of a formatting element; the flag says whether rounds go on. -/
def closeFormattingOnce (d : Draft) (name : String) : Draft × Bool :=
  match d.findRecent? name with
  | none => (d.closeNamed name, false)
  | some (e, tag) =>
    if !d.isOpen e.node then (d.forgetFormatting e.node, false)
    else if !Element.inScope Element.endsScope (·.node == e.node) d.opened then (d, false)
    else
      let outer := (d.opened.dropWhile (·.node != e.node)).drop 1
      match outermostSpecial? e d.opened, outer.head? with
      | some block, some ancestor => (d.splitAround e tag block ancestor, true)
      | _, _ => ({ d with opened := outer }.forgetFormatting e.node, false)

def closeFormattingRounds (d : Draft) (name : String) : (rounds : Nat) → Draft
  | 0 => d
  | rounds + 1 =>
    match d.closeFormattingOnce name with
    | (d, true) => d.closeFormattingRounds name rounds
    | (d, false) => d

def closeFormatting (d : Draft) (name : String) : Draft :=
  let plainlyOpen := d.currentIs fun e => e.isNamed name && !d.inFormatting e.node
  if plainlyOpen then d.pop else d.closeFormattingRounds name 8

/-- A link ends where the next one starts. -/
def closeOpenLink (d : Draft) : Draft :=
  let link := (Formatting.recent d.formatting).findSome? fun
    | .border => none
    | .element e _ => if e.isNamed "a" then some e else none
  match link with
  | none => d
  | some e => ((d.closeFormatting "a").forgetFormatting e.node).removeOpen e

end Draft

end Lemmata.Markup
