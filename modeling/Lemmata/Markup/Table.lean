import Lemmata.Markup.Body

/-!
# Tables and selections

What does not belong into a table goes in front of it.
-/

namespace Lemmata.Markup.Draft

/-- The rules of the body, with what is added going in front of the table. -/
def inFrontOfTable (d : Draft) (item : Item) : Step :=
  let (d, next) := { d with fostering := true }.inBody item
  ({ d with fostering := false }, next)

def popToTable (d : Draft) : Draft :=
  d.popTo Element.endsTableScope

def popToTableBody (d : Draft) : Draft :=
  d.popTo fun e => e.isOneOf ["tbody", "tfoot", "thead", "template", "html"]

def popToRow (d : Draft) : Draft :=
  d.popTo fun e => e.isOneOf ["tr", "template", "html"]

def tableContentTags : List String :=
  ["caption", "col", "colgroup", "tbody", "td", "tfoot", "th", "thead", "tr"]

/-! ## Text -/

def tableRun (d : Draft) (run : Run) : Step :=
  if d.currentIs (·.isOneOf Element.tableParts) then
    { d with backMode := d.mode }.again .inTableText
  else d.inFrontOfTable (.run run)

/-- Blank text stays in the table; if anything else stands with it, all goes in front. -/
def placeTableText (d : Draft) : Draft :=
  let runs := d.tableText.reverse
  let d := { d with tableText := [] }
  if runs.any Run.isSolid then runs.foldl (fun d run => (d.inFrontOfTable (.run run)).1) d
  else runs.foldl (fun d run => d.addText run.chars) d

def inTableText (d : Draft) : Item → Step
  | .run .nul => d.done
  | .run run => { d with tableText := run :: d.tableText }.done
  | _ => let d := d.placeTableText; d.again d.backMode

/-! ## The table -/

def tableStart (d : Draft) (tag : Tag) : Step :=
  match tag.name with
  | "caption" => ((d.popToTable.addBorder.openNew "caption").setMode .inCaption).done
  | "colgroup" => ((d.popToTable.openNew "colgroup").setMode .inColumnGroup).done
  | "col" => (d.popToTable.openNew "colgroup").again .inColumnGroup
  | "tbody" | "tfoot" | "thead" => ((d.popToTable.openNew tag.name).setMode .inTableBody).done
  | "td" | "th" | "tr" => (d.popToTable.openNew "tbody").again .inTableBody
  | "table" =>
    if d.inTableScope "table" then
      let d := d.popThroughNamed "table"
      d.again d.fittingMode
    else d.done
  | "style" | "script" | "template" => d.headStart tag
  | "input" =>
    if isHiddenInput tag then (d.add "input").done else d.inFrontOfTable (.startTag tag)
  | "form" =>
    if d.hasOpen "template" || d.form.isSome then d.done
    else let (d, e) := d.addIn .html "form"; { d with form := some e }.done
  | _ => d.inFrontOfTable (.startTag tag)

def tableEnd (d : Draft) (name : String) : Step :=
  if name == "table" then
    if d.inTableScope "table" then
      let d := d.popThroughNamed "table"
      (d.setMode d.fittingMode).done
    else d.done
  else if tableContentTags.contains name || name == "body" || name == "html" then d.done
  else if name == "template" then d.closeTemplate.done
  else d.inFrontOfTable (.endTag name)

def inTable (d : Draft) : Item → Step
  | .run run => d.tableRun run
  | .comment => d.addComment.done
  | .startTag tag => d.tableStart tag
  | .endTag name => d.tableEnd name

def closeCaption (d : Draft) : Draft :=
  ((d.popImplied Element.implied).popThroughNamed "caption").clearToBorder

def inCaption (d : Draft) (item : Item) : Step :=
  let leave (stays : Bool) : Step :=
    if !d.inTableScope "caption" then d.done
    else if stays then (d.closeCaption.setMode .inTable).done
    else d.closeCaption.again .inTable
  match item with
  | .startTag tag => if tableContentTags.contains tag.name then leave false else d.inBody item
  | .endTag name =>
    if name == "caption" then leave true
    else if name == "table" then leave false
    else if tableContentTags.contains name || name == "body" || name == "html" then d.done
    else d.inBody item
  | _ => d.inBody item

def leaveColumnGroup (d : Draft) : Step :=
  if d.currentIsNamed "colgroup" then d.pop.again .inTable else d.done

def inColumnGroup (d : Draft) (item : Item) : Step :=
  match item with
  | .run (.blank chars) => (d.addText chars).done
  | .run _ => d.leaveColumnGroup
  | .comment => d.addComment.done
  | .startTag tag =>
    match tag.name with
    | "html" => d.done
    | "col" => (d.add "col").done
    | "template" => d.headStart tag
    | _ => d.leaveColumnGroup
  | .endTag name =>
    match name with
    | "colgroup" =>
      if d.currentIsNamed "colgroup" then (d.pop.setMode .inTable).done else d.done
    | "col" => d.done
    | "template" => d.closeTemplate.done
    | _ => d.leaveColumnGroup

def leaveTableBody (d : Draft) : Step :=
  let isOuter (e : Element) := e.isOneOf ["table", "tbody", "tfoot"]
  if Element.inScope Element.endsTableScope isOuter d.opened then
    d.popToTableBody.pop.again .inTable
  else d.done

def inTableBody (d : Draft) (item : Item) : Step :=
  match item with
  | .startTag tag =>
    match tag.name with
    | "tr" => ((d.popToTableBody.openNew "tr").setMode .inRow).done
    | "th" | "td" => (d.popToTableBody.openNew "tr").again .inRow
    | "caption" | "col" | "colgroup" | "tbody" | "tfoot" | "thead" => d.leaveTableBody
    | _ => d.inTable item
  | .endTag name =>
    match name with
    | "tbody" | "tfoot" | "thead" =>
      if d.inTableScope name then (d.popToTableBody.pop.setMode .inTable).done else d.done
    | "table" => d.leaveTableBody
    | "body" | "caption" | "col" | "colgroup" | "html" | "td" | "th" | "tr" => d.done
    | _ => d.inTable item
  | _ => d.inTable item

def leaveRow (d : Draft) : Step :=
  if d.inTableScope "tr" then d.popToRow.pop.again .inTableBody else d.done

def inRow (d : Draft) (item : Item) : Step :=
  match item with
  | .startTag tag =>
    match tag.name with
    | "th" | "td" => ((d.popToRow.openNew tag.name).addBorder.setMode .inCell).done
    | "caption" | "col" | "colgroup" | "tbody" | "tfoot" | "thead" | "tr" => d.leaveRow
    | _ => d.inTable item
  | .endTag name =>
    match name with
    | "tr" =>
      if d.inTableScope "tr" then (d.popToRow.pop.setMode .inTableBody).done else d.done
    | "table" => d.leaveRow
    | "tbody" | "tfoot" | "thead" => if d.inTableScope name then d.leaveRow else d.done
    | "body" | "caption" | "col" | "colgroup" | "html" | "td" | "th" => d.done
    | _ => d.inTable item
  | _ => d.inTable item

def closeCell (d : Draft) : Draft :=
  ((d.popImplied Element.implied).popThrough Element.isCell).clearToBorder

def inCell (d : Draft) (item : Item) : Step :=
  match item with
  | .startTag tag =>
    if tableContentTags.contains tag.name then
      if Element.inScope Element.endsTableScope Element.isCell d.opened then
        d.closeCell.again .inRow
      else d.done
    else d.inBody item
  | .endTag name =>
    match name with
    | "td" | "th" =>
      if d.inTableScope name then
        (((d.popImplied Element.implied).popThroughNamed name).clearToBorder.setMode .inRow).done
      else d.done
    | "body" | "caption" | "col" | "colgroup" | "html" => d.done
    | "table" | "tbody" | "tfoot" | "thead" | "tr" =>
      if d.inTableScope name then d.closeCell.again .inRow else d.done
    | _ => d.inBody item
  | _ => d.inBody item

/-! ## Selections -/

def popIfNamed (d : Draft) (name : String) : Draft :=
  if d.currentIsNamed name then d.pop else d

def closeOptionGroup (d : Draft) : Draft :=
  let isOption := d.currentIsNamed "option"
  let d := if isOption && d.pop.currentIsNamed "optgroup" then d.pop else d
  d.popIfNamed "optgroup"

def closeSelect (d : Draft) : Draft :=
  if d.inSelectScope "select" then
    let d := d.popThroughNamed "select"
    d.setMode d.fittingMode
  else d

def inSelect (d : Draft) (item : Item) : Step :=
  match item with
  | .run .nul => d.done
  | .run (.blank chars) => (d.addText chars).done
  | .run (.solid chars) => (d.addText chars).done
  | .comment => d.addComment.done
  | .startTag tag =>
    match tag.name with
    | "option" => ((d.popIfNamed "option").openNew "option").done
    | "optgroup" => (((d.popIfNamed "option").popIfNamed "optgroup").openNew "optgroup").done
    | "hr" => (((d.popIfNamed "option").popIfNamed "optgroup").add "hr").done
    | "select" => d.closeSelect.done
    | "input" | "keygen" | "textarea" =>
      if d.inSelectScope "select" then
        let d := d.closeSelect
        d.again d.mode
      else d.done
    | "script" | "template" => d.headStart tag
    | _ => d.done
  | .endTag name =>
    match name with
    | "optgroup" => d.closeOptionGroup.done
    | "option" => (d.popIfNamed "option").done
    | "select" => d.closeSelect.done
    | "template" => d.closeTemplate.done
    | _ => d.done

def selectEndingTags : List String :=
  ["caption", "table", "tbody", "tfoot", "thead", "tr", "td", "th"]

def leaveSelect (d : Draft) : Step :=
  let d := d.popThroughNamed "select"
  d.again d.fittingMode

def inSelectInTable (d : Draft) (item : Item) : Step :=
  match item with
  | .startTag tag =>
    if selectEndingTags.contains tag.name then d.leaveSelect else d.inSelect item
  | .endTag name =>
    if selectEndingTags.contains name then
      if d.inTableScope name then d.leaveSelect else d.done
    else d.inSelect item
  | _ => d.inSelect item

end Lemmata.Markup.Draft
