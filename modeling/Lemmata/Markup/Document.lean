import Lemmata.Markup.Table

/-!
# Reading a document

What each mode makes of a tag, a comment or a run of text, and the loop over the tokens. Every
text is a document: what is missing is added, and what does not fit is dropped or moved.
-/

namespace Lemmata.Markup

namespace Draft

/-! ## Before the body -/

/-- End tags that stand for an empty part of the document before them. -/
def completingTags : List String := ["head", "body", "html", "br"]

def inInitial (d : Draft) : Item → Step
  | .run (.blank _) => d.done
  | .comment => (d.addCommentAt (.lastIn document)).done
  | _ => { d with old := true }.again .beforeHtml

def inBeforeHtml (d : Draft) : Item → Step
  | .run (.blank _) => d.done
  | .comment => (d.addCommentAt (.lastIn document)).done
  | .startTag tag =>
    if tag.name == "html" then (d.openRoot.setMode .beforeHead).done
    else d.openRoot.again .beforeHead
  | .endTag name =>
    if completingTags.contains name then d.openRoot.again .beforeHead else d.done
  | .run _ => d.openRoot.again .beforeHead

def openHead (d : Draft) : Draft :=
  let (d, e) := d.openIn .html "head"
  { d with head := some e }

def inBeforeHead (d : Draft) : Item → Step
  | .run (.blank _) => d.done
  | .comment => d.addComment.done
  | .startTag tag =>
    match tag.name with
    | "html" => d.done
    | "head" => (d.openHead.setMode .inHead).done
    | _ => d.openHead.again .inHead
  | .endTag name =>
    if completingTags.contains name then d.openHead.again .inHead else d.done
  | .run _ => d.openHead.again .inHead

def inHead (d : Draft) : Item → Step
  | .run (.blank chars) => (d.addText chars).done
  | .comment => d.addComment.done
  | .startTag tag =>
    if headTags.contains tag.name then d.headStart tag
    else match tag.name with
      | "html" | "head" => d.done
      | "noscript" => d.openRawText "noscript"
      | _ => d.pop.again .afterHead
  | .endTag name =>
    match name with
    | "head" => (d.pop.setMode .afterHead).done
    | "template" => d.closeTemplate.done
    | "body" | "html" | "br" => d.pop.again .afterHead
    | _ => d.done
  | .run _ => d.pop.again .afterHead

/-- A tag of the head that comes too late still goes into the head. -/
def lateHeadStart (d : Draft) (tag : Tag) : Step :=
  match d.head with
  | none => d.done
  | some head =>
    let (d, next) := { d with opened := head :: d.opened }.headStart tag
    (d.removeOpen head, next)

def inAfterHead (d : Draft) : Item → Step
  | .run (.blank chars) => (d.addText chars).done
  | .comment => d.addComment.done
  | .startTag tag =>
    if headTags.contains tag.name then d.lateHeadStart tag
    else match tag.name with
      | "html" | "head" => d.done
      | "body" => ((d.openNew "body").forbidFrameset.setMode .inBody).done
      | "frameset" => ((d.openNew "frameset").setMode .inFrameset).done
      | _ => (d.openNew "body").again .inBody
  | .endTag name =>
    match name with
    | "template" => d.closeTemplate.done
    | "body" | "html" | "br" => (d.openNew "body").again .inBody
    | _ => d.done
  | .run _ => (d.openNew "body").again .inBody

/-! ## Text of an element, templates -/

def inElementText (d : Draft) : Item → Step
  | .run run => (d.addText run.chars).done
  | .endTag _ => (d.pop.setMode d.backMode).done
  | _ => d.done

def inTemplate (d : Draft) (item : Item) : Step :=
  let become (mode : Mode) : Step :=
    { d with templateModes := mode :: d.templateModes.drop 1 }.again mode
  match item with
  | .run .nul => d.done
  | .run _ | .comment => d.inBody item
  | .startTag tag =>
    if headTags.contains tag.name then d.headStart tag
    else match tag.name with
      | "caption" | "colgroup" | "tbody" | "tfoot" | "thead" => become .inTable
      | "col" => become .inColumnGroup
      | "tr" => become .inTableBody
      | "td" | "th" => become .inRow
      | _ => become .inBody
  | .endTag name => if name == "template" then d.closeTemplate.done else d.done

/-! ## After the body, and framesets -/

def inAfterBody (d : Draft) (item : Item) : Step :=
  match item with
  | .run (.blank _) => d.inBody item
  | .comment =>
    (d.addCommentAt (.lastIn ((d.root?.map Element.node).getD document))).done
  | .startTag tag => if tag.name == "html" then d.done else d.again .inBody
  | .endTag name => if name == "html" then (d.setMode .afterAfterBody).done else d.again .inBody
  | .run _ => d.again .inBody

def inAfterAfterBody (d : Draft) (item : Item) : Step :=
  match item with
  | .run (.blank _) => d.inBody item
  | .comment => (d.addCommentAt (.lastIn document)).done
  | .startTag tag => if tag.name == "html" then d.done else d.again .inBody
  | _ => d.again .inBody

def closeFrameset (d : Draft) : Draft :=
  if d.opened.length ≤ 1 then d
  else
    let d := d.pop
    if d.currentIsNamed "frameset" then d else d.setMode .afterFrameset

def inFrameset (d : Draft) : Item → Step
  | .run (.blank chars) => (d.addText chars).done
  | .run _ => d.done
  | .comment => d.addComment.done
  | .startTag tag =>
    match tag.name with
    | "frameset" => (d.openNew "frameset").done
    | "frame" => (d.add "frame").done
    | "noframes" => d.headStart tag
    | _ => d.done
  | .endTag name => if name == "frameset" then d.closeFrameset.done else d.done

def inAfterFrameset (d : Draft) : Item → Step
  | .run (.blank chars) => (d.addText chars).done
  | .run _ => d.done
  | .comment => d.addComment.done
  | .startTag tag => if tag.name == "noframes" then d.headStart tag else d.done
  | .endTag name => if name == "html" then (d.setMode .afterAfterFrameset).done else d.done

def inAfterAfterFrameset (d : Draft) (item : Item) : Step :=
  match item with
  | .run (.blank _) => d.inBody item
  | .comment => (d.addCommentAt (.lastIn document)).done
  | .startTag tag => if tag.name == "noframes" then d.headStart tag else d.done
  | _ => d.done

/-! ## All modes -/

def inMode (d : Draft) (item : Item) : Step :=
  match d.mode with
  | .initial => d.inInitial item
  | .beforeHtml => d.inBeforeHtml item
  | .beforeHead => d.inBeforeHead item
  | .inHead => d.inHead item
  | .afterHead => d.inAfterHead item
  | .inBody => d.inBody item
  | .inElementText => d.inElementText item
  | .inTable => d.inTable item
  | .inTableText => d.inTableText item
  | .inCaption => d.inCaption item
  | .inColumnGroup => d.inColumnGroup item
  | .inTableBody => d.inTableBody item
  | .inRow => d.inRow item
  | .inCell => d.inCell item
  | .inSelect => d.inSelect item
  | .inSelectInTable => d.inSelectInTable item
  | .inTemplate => d.inTemplate item
  | .afterBody => d.inAfterBody item
  | .inFrameset => d.inFrameset item
  | .afterFrameset => d.inAfterFrameset item
  | .afterAfterBody => d.inAfterAfterBody item
  | .afterAfterFrameset => d.inAfterAfterFrameset item

/-! ## Foreign elements -/

/-- Tags that end foreign content. -/
def breakingTags : List String := [
  "b", "big", "blockquote", "body", "br", "center", "code", "dd", "div", "dl", "dt", "em",
  "embed", "h1", "h2", "h3", "h4", "h5", "h6", "head", "hr", "i", "img", "li", "listing", "menu",
  "meta", "nobr", "ol", "p", "pre", "ruby", "s", "small", "span", "strong", "strike", "sub",
  "sup", "table", "tt", "u", "ul", "var"]

def isBreaking (tag : Tag) : Bool :=
  breakingTags.contains tag.name
    || (tag.name == "font"
      && tag.attributes.any fun a => ["color", "face", "size"].contains a.name)

def leaveForeign (d : Draft) (item : Item) : Step :=
  (d.popTo fun e => !e.isForeign || e.holdsText || e.holdsMarkup).inMode item

def foreignStart (d : Draft) (tag : Tag) : Draft :=
  match d.current? with
  | none => d
  | some e =>
    let isHolder := e.vocabulary == .svg && tag.name == "foreignobject"
    d.openForeign e.vocabulary (if isHolder then "foreignObject" else tag.name) tag.selfClosing

/-- The foreign element of that name, in any case, is closed; an element of the document's own
vocabulary around the foreign ones decides otherwise. -/
def foreignEnd (d : Draft) (name : String) : (isInnermost : Bool) → List Element → Step
  | _, [] => d.done
  | _, [_] => d.done
  | isInnermost, e :: outer =>
    if !isInnermost && !e.isForeign then d.inMode (.endTag name)
    else if lowerChars e.name.toList == name.toList then { d with opened := outer }.done
    else d.foreignEnd name false outer

def inForeign (d : Draft) (item : Item) : Step :=
  match item with
  | .run .nul => (d.addText ['\uFFFD']).done
  | .run (.blank chars) => (d.addText chars).done
  | .run (.solid chars) => (d.addText chars).forbidFrameset.done
  | .comment => d.addComment.done
  | .startTag tag =>
    if isBreaking tag then d.leaveForeign item else (d.foreignStart tag).done
  | .endTag name =>
    if name == "br" || name == "p" then d.leaveForeign item else d.foreignEnd name true d.opened

def isInForeign (d : Draft) : Bool :=
  d.currentIs Element.isForeign

/-- Whether the rules of foreign elements apply to the item. -/
def readsAsForeign (d : Draft) (item : Item) : Bool :=
  match d.current?, item with
  | none, _ => false
  | some e, .run _ => e.isForeign && !e.holdsText && !e.holdsMarkup
  | some e, .startTag tag =>
    let isGlyph := tag.name == "mglyph" || tag.name == "malignmark"
    let isNested := e.vocabulary == .math && e.name == "annotation-xml" && tag.name == "svg"
    e.isForeign && !e.holdsMarkup && !(e.holdsText && !isGlyph) && !isNested
  | some e, _ => e.isForeign

/-! ## Items and tokens -/

def step (d : Draft) (item : Item) : Step :=
  if d.readsAsForeign item then d.inForeign item else d.inMode item

/-- Each time an item is looked at again, the mode gets closer to it or an element was closed. -/
def takeWithin (d : Draft) (item : Item) : (steps : Nat) → Draft × Content
  | 0 => (d, .markup)
  | steps + 1 =>
    match d.step item with
    | (d, .nextItem) => (d, .markup)
    | (d, .content content) => (d, content)
    | (d, .sameItem) => d.takeWithin item steps

def take (d : Draft) (item : Item) : Draft × Content :=
  d.takeWithin item (2 * d.opened.length + 32)

def takeRuns (d : Draft) (runs : List Run) : Draft :=
  runs.foldl (fun d run => (d.take (.run run)).1) d

def dropLineFeed (skips : Bool) : List Char → List Char
  | [] => []
  | c :: rest => if skips && c == '\n' then rest else c :: rest

def takeDoctype (d : Draft) (old : Bool) : Draft :=
  if d.mode == .initial then { d with old, mode := .beforeHtml } else d

/-- The document after a token, and what the characters after it are, if that changes. -/
def takeToken (d : Draft) (token : Token) : Draft × Option Content :=
  let skips := d.skipsLineFeed
  let d := { d with skipsLineFeed := false }
  match token with
  | .text chars => (d.takeRuns (Run.split (dropLineFeed skips chars)), none)
  | .startTag tag => let (d, content) := d.take (.startTag tag); (d, some content)
  | .endTag name => let (d, content) := d.take (.endTag name); (d, some content)
  | .comment => ((d.take .comment).1, none)
  | .doctype old => (d.takeDoctype old, none)
  | .flaw => (d, none)

/-- Each token takes a character at least, so as many tokens as characters suffice. -/
def readOnto (d : Draft) (content : Content) : (fuel : Nat) → (cs : List Char) → Draft
  | 0, _ => d
  | _ + 1, [] => d
  | fuel + 1, c :: cs =>
    let (token, rest) := Token.read (fuel + 1) content d.isInForeign (c :: cs)
    let (d, next) := d.takeToken token
    d.readOnto (next.getD content) fuel rest

/-- Text of a table that the end of the document leaves is placed as well. -/
def finish (d : Draft) : Draft :=
  if d.mode == .inTableText then d.placeTableText else d

end Draft

namespace Document

/-- Drops a byte order mark in front. -/
def dropMark : List Char → List Char
  | [] => []
  | c :: rest => if c == '\uFEFF' then rest else c :: rest

/-- The tree of a document. -/
def read (text : String) : Tree :=
  let cs := Token.normalize (dropMark text.toList)
  (Draft.empty.readOnto .markup (cs.length + 1) cs).finish.tree

end Document

end Lemmata.Markup
