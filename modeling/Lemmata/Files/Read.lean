/-!
# Reading files

What comes of reading a file, whatever holds the files.
-/

namespace Lemmata

inductive FileRead where
  | content (bytes : List UInt8)
  | missing (text : String)
  | forbidden (text : String)
  /-- It is there but is no readable file, or its name is none. -/
  | unreadable (text : String)
deriving DecidableEq

namespace FileRead

/-- The same fault under another text. -/
def worded (text : String) : FileRead → FileRead
  | content bytes => content bytes
  | missing _ => missing text
  | forbidden _ => forbidden text
  | unreadable _ => unreadable text

def content? : FileRead → Option (List UInt8)
  | content bytes => some bytes
  | _ => none

end FileRead

end Lemmata
