import Lemmata.Markup.Formatting

/-!
# The head and the body of a document

What a tag, a comment or a run of text does there. Tables, selections and foreign elements use
these rules for what they have no rule of their own for.
-/

namespace Lemmata.Markup

inductive Item where
  | run (run : Run)
  | startTag (tag : Tag)
  | endTag (name : String)
  | comment
deriving DecidableEq

/-- What comes after an item has been looked at. -/
inductive Next where
  | nextItem
  /-- The same item once more, in the mode that is set now. -/
  | sameItem
  /-- What follows is the text of an element. -/
  | content (content : Content)
deriving DecidableEq

abbrev Step := Draft × Next

namespace Draft

def done (d : Draft) : Step := (d, .nextItem)

def again (d : Draft) (mode : Mode) : Step := (d.setMode mode, .sameItem)

/-! ## The mode that the open elements ask for -/

def selectMode : (outer : List Element) → Mode
  | [] => .inSelect
  | e :: outer =>
    if e.isNamed "template" then .inSelect
    else if e.isNamed "table" then .inSelectInTable
    else selectMode outer

/-- The mode of an element, if it decides; the outermost one is no cell and no head. -/
def modeOf? (d : Draft) (e : Element) (outer : List Element) : Option Mode :=
  if e.isForeign then none
  else match e.name with
    | "select" => some (selectMode outer)
    | "td" | "th" => if outer.isEmpty then none else some .inCell
    | "tr" => some .inRow
    | "tbody" | "thead" | "tfoot" => some .inTableBody
    | "caption" => some .inCaption
    | "colgroup" => some .inColumnGroup
    | "table" => some .inTable
    | "template" => some (d.templateModes.head?.getD .inBody)
    | "head" => if outer.isEmpty then none else some .inHead
    | "body" => some .inBody
    | "frameset" => some .inFrameset
    | "html" => some (if d.head.isNone then .beforeHead else .afterHead)
    | _ => none

def modeFrom (d : Draft) : List Element → Mode
  | [] => .inBody
  | e :: outer =>
    match d.modeOf? e outer with
    | some mode => mode
    | none => d.modeFrom outer

def fittingMode (d : Draft) : Mode :=
  d.modeFrom d.opened

/-! ## Elements with text alone, and templates -/

/-- Opens an element whose content is text up to its end tag. -/
def openText (d : Draft) (name : String) (content : Content) : Step :=
  ({ d.openNew name with mode := .inElementText, backMode := d.mode }, .content content)

def openRawText (d : Draft) (name : String) : Step :=
  d.openText name (.element name false)

def openReferencedText (d : Draft) (name : String) : Step :=
  d.openText name (.element name true)

def openTemplate (d : Draft) : Draft :=
  let d := (d.openNew "template").addBorder.forbidFrameset
  { d with mode := .inTemplate, templateModes := .inTemplate :: d.templateModes }

def closeTemplate (d : Draft) : Draft :=
  if d.hasOpen "template" then
    let d := (d.popImplied Element.impliedInTemplate).popThroughNamed "template"
    let d := { d.clearToBorder with templateModes := d.templateModes.drop 1 }
    d.setMode d.fittingMode
  else d

/-! ## Tags of the head -/

def emptyHeadTags : List String := ["base", "basefont", "bgsound", "link", "meta"]

def headTags : List String :=
  emptyHeadTags ++ ["noframes", "script", "style", "template", "title"]

def headStart (d : Draft) (tag : Tag) : Step :=
  match tag.name with
  | "title" => d.openReferencedText "title"
  | "noframes" => d.openRawText "noframes"
  | "style" => d.openRawText "style"
  | "script" => d.openText "script" .script
  | "template" => d.openTemplate.done
  | name => (d.add name).done

/-! ## Tags of the body -/

def blocks : List String := [
  "address", "article", "aside", "blockquote", "center", "details", "dialog", "dir", "div", "dl",
  "fieldset", "figcaption", "figure", "footer", "header", "hgroup", "main", "menu", "nav", "ol",
  "p", "search", "section", "summary", "ul"]

/-- Elements that their own end tag closes, with all that is open inside. -/
def closedBlocks : List String :=
  (blocks.filter (· != "p")) ++ ["button", "listing", "pre"]

def formattingTags : List String :=
  ["b", "big", "code", "em", "font", "i", "s", "small", "strike", "strong", "tt", "u"]

def objectTags : List String := ["applet", "marquee", "object"]

def tableOnlyTags : List String :=
  ["caption", "col", "colgroup", "frame", "head", "tbody", "td", "tfoot", "th", "thead", "tr"]

def isHiddenInput (tag : Tag) : Bool :=
  (tag.attributes.find? (·.name == "type")).any fun a =>
    lowerChars a.value.toList == "hidden".toList

def body? (d : Draft) : Option Element :=
  match d.opened.reverse with
  | _ :: e :: _ => if e.isNamed "body" then some e else none
  | _ => none

def openFrameset (d : Draft) : Draft :=
  match d.framesetAllowed, d.body?, d.root? with
  | true, some body, some root =>
    let d := { d with tree := d.tree.detach body.node, opened := [root] }
    (d.openNew "frameset").setMode .inFrameset
  | _, _, _ => d

/-- A list item ends the one before it, unless a block is open inside that one. -/
def closeListItem (d : Draft) (names : List String) : Draft :=
  let stops (e : Element) := e.isSpecial && !e.isOneOf ["address", "div", "p"]
  match d.opened.find? fun e => e.isOneOf names || stops e with
  | some e =>
    if e.isOneOf names then (d.popImpliedExcept e.name).popThroughNamed e.name else d
  | none => d

def openListItem (d : Draft) (name : String) : Draft :=
  let names := if name == "li" then ["li"] else ["dd", "dt"]
  ((d.forbidFrameset.closeListItem names).closeParagraphInScope).openNew name

def openForm (d : Draft) : Draft :=
  if d.form.isSome && !d.hasOpen "template" then d
  else
    let (d, e) := d.closeParagraphInScope.openIn .html "form"
    if d.hasOpen "template" then d else { d with form := some e }

def openHeading (d : Draft) (name : String) : Draft :=
  let d := d.closeParagraphInScope
  (if d.currentIs Element.isHeading then d.pop else d).openNew name

def openButton (d : Draft) : Draft :=
  let d :=
    if d.inScope "button" then (d.popImplied Element.implied).popThroughNamed "button" else d
  (d.restoreFormatting.openNew "button").forbidFrameset

def openUnbreakable (d : Draft) (tag : Tag) : Draft :=
  let d := d.restoreFormatting
  let d := if d.inScope "nobr" then (d.closeFormatting "nobr").restoreFormatting else d
  d.openFormatting tag

def openSelect (d : Draft) : Draft :=
  let d := (d.restoreFormatting.openNew "select").forbidFrameset
  d.setMode <|
    if [.inTable, .inCaption, .inTableBody, .inRow, .inCell].contains d.mode then .inSelectInTable
    else .inSelect

def openOption (d : Draft) (name : String) : Draft :=
  let d := if d.currentIsNamed "option" then d.pop else d
  d.restoreFormatting.openNew name

def openForeign (d : Draft) (vocabulary : Vocabulary) (name : String) (selfClosing : Bool) :
    Draft :=
  if selfClosing then (d.addIn vocabulary name).1 else (d.openIn vocabulary name).1

/-- An element without content, in the text. -/
def addInText (d : Draft) (name : String) : Draft :=
  d.restoreFormatting.add name

def bodyStart (d : Draft) (tag : Tag) : Step :=
  let name := tag.name
  if headTags.contains name then d.headStart tag
  else if blocks.contains name then (d.closeParagraphInScope.openNew name).done
  else if Element.headings.contains name then (d.openHeading name).done
  else if formattingTags.contains name then (d.restoreFormatting.openFormatting tag).done
  else if objectTags.contains name then
    ((d.restoreFormatting.openNew name).addBorder.forbidFrameset).done
  else if tableOnlyTags.contains name then d.done
  else match name with
    | "html" => d.done
    | "body" =>
      if d.body?.isSome && !d.hasOpen "template" then d.forbidFrameset.done else d.done
    | "frameset" => d.openFrameset.done
    | "pre" | "listing" =>
      let d := (d.closeParagraphInScope.openNew name).forbidFrameset
      { d with skipsLineFeed := true }.done
    | "form" => d.openForm.done
    | "li" | "dd" | "dt" => (d.openListItem name).done
    | "plaintext" => (d.closeParagraphInScope.openNew name, .content .plain)
    | "button" => d.openButton.done
    | "a" => (d.closeOpenLink.restoreFormatting.openFormatting tag).done
    | "nobr" => (d.openUnbreakable tag).done
    | "table" =>
      let d := if d.old then d else d.closeParagraphInScope
      ((d.openNew name).forbidFrameset.setMode .inTable).done
    | "area" | "br" | "embed" | "img" | "keygen" | "wbr" => ((d.addInText name).forbidFrameset).done
    | "image" => ((d.addInText "img").forbidFrameset).done
    | "input" =>
      let d := d.addInText name
      (if isHiddenInput tag then d else d.forbidFrameset).done
    | "param" | "source" | "track" => (d.add name).done
    | "hr" => ((d.closeParagraphInScope.add name).forbidFrameset).done
    | "textarea" => { d.forbidFrameset with skipsLineFeed := true }.openReferencedText name
    | "xmp" => d.closeParagraphInScope.restoreFormatting.forbidFrameset.openRawText name
    | "iframe" => d.forbidFrameset.openRawText name
    | "noembed" | "noscript" => d.openRawText name
    | "select" => d.openSelect.done
    | "optgroup" | "option" => (d.openOption name).done
    | "rb" | "rtc" =>
      ((if d.inScope "ruby" then d.popImplied Element.implied else d).openNew name).done
    | "rp" | "rt" =>
      ((if d.inScope "ruby" then d.popImpliedExcept "rtc" else d).openNew name).done
    | "math" => (d.openForeign .math name tag.selfClosing).done
    | "svg" => (d.openForeign .svg name tag.selfClosing).done
    | _ => (d.restoreFormatting.openNew name).done

def closeForm (d : Draft) : Draft :=
  if d.hasOpen "template" then
    if d.inScope "form" then (d.popImplied Element.implied).popThroughNamed "form" else d
  else match d.form with
    | none => d
    | some e =>
      let d := { d with form := none }
      if Element.inScope Element.endsScope (·.node == e.node) d.opened then
        (d.popImplied Element.implied).removeOpen e
      else d

def closeBlock (d : Draft) (name : String) : Draft :=
  if d.inScope name then (d.popImplied Element.implied).popThroughNamed name else d

def closeListItemTag (d : Draft) (name : String) : Draft :=
  if (if name == "li" then d.inListScope name else d.inScope name) then
    (d.popImpliedExcept name).popThroughNamed name
  else d

def closeHeading (d : Draft) : Draft :=
  if Element.inScope Element.endsScope Element.isHeading d.opened then
    (d.popImplied Element.implied).popThrough Element.isHeading
  else d

def bodyEnd (d : Draft) (name : String) : Step :=
  if closedBlocks.contains name then (d.closeBlock name).done
  else if Element.headings.contains name then d.closeHeading.done
  else if formattingTags.contains name then (d.closeFormatting name).done
  else if objectTags.contains name then
    if d.inScope name then (d.closeBlock name).clearToBorder.done else d.done
  else match name with
    | "template" => d.closeTemplate.done
    | "body" => if d.inScope "body" then (d.setMode .afterBody).done else d.done
    | "html" => if d.inScope "body" then d.again .afterBody else d.done
    | "form" => d.closeForm.done
    | "p" =>
      ((if d.inButtonScope "p" then d else d.openNew "p").closeParagraph).done
    | "li" | "dd" | "dt" => (d.closeListItemTag name).done
    | "a" | "nobr" => (d.closeFormatting name).done
    | "br" => ((d.addInText "br").forbidFrameset).done
    | _ => (d.closeNamed name).done

def bodyText (d : Draft) (chars : List Char) : Draft :=
  d.restoreFormatting.addText chars

def inBody (d : Draft) : Item → Step
  | .run .nul => d.done
  | .run (.blank chars) => (d.bodyText chars).done
  | .run (.solid chars) => (d.bodyText chars).forbidFrameset.done
  | .comment => d.addComment.done
  | .startTag tag => d.bodyStart tag
  | .endTag name => d.bodyEnd name

end Draft

end Lemmata.Markup
