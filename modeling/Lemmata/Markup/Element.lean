import Lemmata.Markup.Token

/-!
# Elements and their kinds

An element that is still open, and the sets of names that the rules of nesting speak of.
-/

namespace Lemmata.Markup

inductive Vocabulary where
  | html
  | svg
  | math
deriving DecidableEq, Repr

structure Element where
  /-- Its node in the tree. -/
  node : Nat
  vocabulary : Vocabulary
  name : String
deriving DecidableEq, Repr

namespace Element

def isNamed (e : Element) (name : String) : Bool :=
  e.vocabulary == .html && e.name == name

def isOneOf (e : Element) (names : List String) : Bool :=
  e.vocabulary == .html && names.contains e.name

def isForeign (e : Element) : Bool :=
  e.vocabulary != .html

/-! ## Sets of names -/

def headings : List String := ["h1", "h2", "h3", "h4", "h5", "h6"]

def cells : List String := ["td", "th"]

/-- Text directly in these elements belongs before the table. -/
def tableParts : List String := ["table", "tbody", "tfoot", "thead", "tr"]

/-- Elements whose end tag may be left out. -/
def implied : List String :=
  ["dd", "dt", "li", "option", "optgroup", "p", "rb", "rp", "rt", "rtc"]

def impliedInTemplate : List String :=
  implied ++ ["caption", "colgroup", "tbody", "td", "tfoot", "th", "thead", "tr"]

/-- Elements that a misplaced end tag does not reach across. -/
def special : List String := [
  "address", "applet", "area", "article", "aside", "base", "basefont", "bgsound", "blockquote",
  "body", "br", "button", "caption", "center", "col", "colgroup", "dd", "details", "dir", "div",
  "dl", "dt", "embed", "fieldset", "figcaption", "figure", "footer", "form", "frame", "frameset",
  "h1", "h2", "h3", "h4", "h5", "h6", "head", "header", "hgroup", "hr", "html", "iframe", "img",
  "input", "isindex", "li", "link", "listing", "main", "marquee", "menu", "meta", "nav",
  "noembed", "noframes", "noscript", "object", "ol", "p", "param", "plaintext", "pre", "script",
  "section", "select", "source", "style", "summary", "table", "tbody", "td", "template",
  "textarea", "tfoot", "th", "thead", "title", "tr", "track", "ul", "wbr", "xmp"]

def isSpecial (e : Element) : Bool :=
  e.isOneOf special

def isHeading (e : Element) : Bool :=
  e.isOneOf headings

def isCell (e : Element) : Bool :=
  e.isOneOf cells

/-! ## Foreign elements with text or markup of the document's own vocabulary -/

def holdsText (e : Element) : Bool :=
  e.vocabulary == .math && ["mi", "mo", "mn", "ms", "mtext"].contains e.name

def holdsMarkup (e : Element) : Bool :=
  e.vocabulary == .svg && ["foreignObject", "desc", "title"].contains e.name

/-! ## Scopes: how far out an open element is looked for -/

def endsScope (e : Element) : Bool :=
  e.isOneOf ["applet", "caption", "html", "table", "td", "th", "marquee", "object", "template"]
    || e.holdsText || e.holdsMarkup

def endsButtonScope (e : Element) : Bool :=
  e.endsScope || e.isNamed "button"

def endsListScope (e : Element) : Bool :=
  e.endsScope || e.isOneOf ["ol", "ul"]

def endsTableScope (e : Element) : Bool :=
  e.isOneOf ["html", "table", "template"]

def endsSelectScope (e : Element) : Bool :=
  !e.isOneOf ["optgroup", "option"]

/-- Whether an element like that is open, looked for from the innermost one to one that ends the
scope. -/
def inScope (ends wanted : Element → Bool) : List Element → Bool
  | [] => false
  | e :: outer => wanted e || (!ends e && inScope ends wanted outer)

end Element

end Lemmata.Markup
