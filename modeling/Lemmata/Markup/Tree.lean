import Lemmata.Markup.Element

/-!
# The tree of a document

Nodes have numbers; node 0 is the document. Nodes can be moved while the text is still being read,
so each one knows its parent and its children. Text next to text is one node when it is added,
but not when nodes are moved together.
-/

namespace Lemmata.Markup

inductive NodeKind where
  | document
  | text (content : String)
  | comment
  | element (vocabulary : Vocabulary) (name : String)
deriving DecidableEq, Repr

structure Node where
  kind : NodeKind
  parent : Option Nat
  children : Array Nat

structure Tree where
  nodes : Array Node

namespace Tree

def empty : Tree := ⟨#[⟨.document, none, #[]⟩]⟩

def create (t : Tree) (kind : NodeKind) : Tree × Nat :=
  (⟨t.nodes.push ⟨kind, none, #[]⟩⟩, t.nodes.size)

def parent? (t : Tree) (node : Nat) : Option Nat :=
  (t.nodes[node]?).bind Node.parent

def children (t : Tree) (node : Nat) : Array Nat :=
  ((t.nodes[node]?).map Node.children).getD #[]

def setParent (t : Tree) (node : Nat) (parent : Option Nat) : Tree :=
  ⟨t.nodes.modify node fun n => { n with parent }⟩

def changeChildren (t : Tree) (node : Nat) (change : Array Nat → Array Nat) : Tree :=
  ⟨t.nodes.modify node fun n => { n with children := change n.children }⟩

def detach (t : Tree) (node : Nat) : Tree :=
  match t.parent? node with
  | none => t
  | some parent => (t.changeChildren parent (·.erase node)).setParent node none

def append (t : Tree) (parent node : Nat) : Tree :=
  ((t.detach node).changeChildren parent (·.push node)).setParent node (some parent)

def indexOf (children : Array Nat) (node : Nat) : Nat :=
  (children.idxOf? node).getD children.size

def insertAt (children : Array Nat) (index node : Nat) : Array Nat :=
  children.extract 0 index ++ #[node] ++ children.extract index children.size

/-- Puts a node in front of another one that has a parent. -/
def insertBefore (t : Tree) (parent sibling node : Nat) : Tree :=
  let t := t.detach node
  (t.changeChildren parent fun c => insertAt c (indexOf c sibling) node).setParent node
    (some parent)

def moveChildren (t : Tree) (source target : Nat) : Tree :=
  (t.children source).foldl (fun t child => t.append target child) t

/-! ## Text -/

/-- The tree with the text added to this node, if the node is text. -/
def extendText? (t : Tree) (node : Option Nat) (content : String) : Option Tree :=
  match node with
  | none => none
  | some node =>
    match (t.nodes[node]?).map Node.kind with
    | some (.text before) =>
      some ⟨t.nodes.modify node fun n => { n with kind := .text (before ++ content) }⟩
    | _ => none

def appendText (t : Tree) (parent : Nat) (content : String) : Tree :=
  match t.extendText? (t.children parent).back? content with
  | some t => t
  | none =>
    let (t, node) := t.create (.text content)
    t.append parent node

def insertTextBefore (t : Tree) (parent sibling : Nat) (content : String) : Tree :=
  let children := t.children parent
  let index := indexOf children sibling
  match t.extendText? (if index = 0 then none else children[index - 1]?) content with
  | some t => t
  | none =>
    let (t, node) := t.create (.text content)
    t.insertBefore parent sibling node

/-! ## Reading it in document order -/

def hidesText : NodeKind → Bool
  | .element _ name => name == "script" || name == "style"
  | _ => false

/-- The text nodes, in the order of the document, outside scripts and styles. Each node is a step,
so as many steps as there are nodes suffice. -/
def textsFrom (t : Tree) : (steps : Nat) → (todo : List Nat) → List String
  | 0, _ => []
  | _ + 1, [] => []
  | steps + 1, node :: todo =>
    match t.nodes[node]? with
    | none => textsFrom t steps todo
    | some ⟨.text content, _, _⟩ => content :: textsFrom t steps todo
    | some ⟨kind, _, children⟩ =>
      if hidesText kind then textsFrom t steps todo
      else textsFrom t steps (children.toList ++ todo)

def texts (t : Tree) : List String :=
  t.textsFrom (t.nodes.size + 1) [0]

end Tree

end Lemmata.Markup
