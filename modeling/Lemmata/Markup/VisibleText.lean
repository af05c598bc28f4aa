import Lemmata.Text.Blank
import Lemmata.Markup.Document

/-!
# Visible text

The text of a document without its markup, scripts and styles. Each piece of text that is not
blank is followed by a space, so words of different elements stay apart.
-/

namespace Lemmata.Markup

/-- Whether the text occurs in the other one. -/
def occursIn (part : List Char) : List Char → Bool
  | [] => part.isEmpty
  | c :: rest => part.isPrefixOf (c :: rest) || occursIn part rest

/-- A text is marked up if its type says so or its first character that is not blank opens a
tag. -/
def isMarkup (contentType text : String) : Bool :=
  let type := lowerChars contentType.toList
  occursIn "html".toList type || occursIn "xml".toList type
    || (Blank.trimStartChars text.toList).head? == some '<'

def visiblePieces (tree : Tree) : List String :=
  tree.texts.filter (!Blank.isOnlyBlank ·)

/-- A text that is not marked up is visible as it is. -/
def visibleText (contentType text : String) : String :=
  if isMarkup contentType text then
    String.join ((visiblePieces (Document.read text)).map fun piece => piece ++ " ")
  else text

end Lemmata.Markup
