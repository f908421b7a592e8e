import HtmlMarkdown.Node.LevelOrder

/-!
# Removing blank nodes

Comments go, and so does text of white space only, unless it keeps two pieces of a line apart. Other
text loses the white space at its ends that carries a line break. Nothing inside preformatted text
is touched. All strings are marked before the first of them goes.

* `Fate`, `Place.fate`: what becomes of a string, judged in the tree as it was;
* `Marks`, `Place.markBlank`: the strings that go and those that change, found with a stack;
* `Held`, `Held.extract`, `Held.replace`: a tree that is changed string by string;
* `Marks.apply`: the tree after all marks are carried out;
* `Place.removeBlank`, `Place.countBlank`: what is left below a place, and how much is not.
-/

namespace HtmlMarkdown

/-! ## Breaks at the ends of a text -/

/-- The tags whose text is kept as it is. -/
def isPreformattedTag (tag : String) : Bool := tag == "pre" || tag == "code"

/-- A character that makes the white space at the head of a text a break. -/
def isHeadBreak (c : Char) : Bool :=
  c == '\n' || c == '\r' || c == '\t' || c == Char.ofNat 0x0C

/-- A line break. -/
def isLineBreak (c : Char) : Bool := c == '\n' || c == '\r'

/-- A text without its leading white space, if this begins with a break. -/
def dropHeadBreak (s : Text) : Text :=
  match s with
  | [] => []
  | c :: _ => if isHeadBreak c then Text.trimStart isBlank s else s

/-- A text without its trailing white space, if a line break is in it. -/
def dropTailBreak (s : Text) : Text :=
  if (s.reverse.takeWhile isBlank).any isLineBreak then Text.trimEnd isBlank s else s

/-- A text without the breaks at its ends. -/
def dropBreaks (s : Text) : Text := dropTailBreak (dropHeadBreak s)

/-! ## Fates -/

/-- What becomes of a node. -/
inductive Fate
  | keep
  | drop
  | become (text : Text)

/-- The nearest of some nodes that is no comment is text or an element within a line. -/
def meetsInline (nodes : List Node) : Bool :=
  ((nodes.dropWhile Node.isComment).head?.map Node.isInline).getD false

namespace Place

/-- What becomes of a node, judged by its siblings and the elements that it lies in. -/
def fate : Place → Fate
  | node (.string kind value) before after outside =>
    if !kind.isText then .drop
    else if outside.anyTag isPreformattedTag then .keep
    else if value.isBlank then
      if meetsInline before && meetsInline after then .keep else .drop
    else
      let text := dropBreaks value
      if text = value then .keep else .become text
  | _ => .keep

end Place

/-! ## Marking -/

/-- The strings marked so far, each by its path: those that go, and those that get a new value. -/
structure Marks where
  doomed : Array (List Nat) := #[]
  values : Array (List Nat × Text) := #[]

/-- The marks after one more child is met. -/
def Marks.meet (m : Marks) (child : Place) : Marks :=
  match child.fate with
  | .keep => m
  | .drop => { m with doomed := m.doomed.push child.path }
  | .become text => { m with values := m.values.push (child.path, text) }

namespace Place

/-- The marks after the children of all places on a stack, whose top comes first, and of the elements
below these. The element children of a place go on top of the stack, the last of them uppermost. -/
def markFrom : (stack : List Place) → Marks → Marks
  | [], m => m
  | p :: stack, m => markFrom (p.elementChildren.reverse ++ stack) (p.children.foldl Marks.meet m)
termination_by stack => totalSize stack
decreasing_by
  rw [totalSize_append, totalSize_reverse, totalSize]
  exact Nat.add_lt_add_right (totalSize_elementChildren_lt p) _

/-- The marks of all strings below a place. -/
def markBlank (p : Place) : Marks := markFrom [p] {}

end Place

/-! ## A tree that is changed -/

/-- A node of a tree that is changed. It goes by the position that it had among its siblings at
first, whatever has gone from beside it since. -/
inductive Held
  | element (index : Nat) (name : String) (attributes : Attributes) (children : List Held)
  | string (index : Nat) (kind : StringKind) (value : Text)

namespace Held

/-- The position that a node had at first. -/
def index : Held → Nat
  | element index .. => index
  | string index .. => index

mutual

/-- A node at a position, before any change. -/
def ofNode (index : Nat) : Node → Held
  | .element name attributes children => element index name attributes (ofNodes 0 children)
  | .string kind value => string index kind value

/-- Nodes from a position on, before any change. -/
def ofNodes (index : Nat) : List Node → List Held
  | [] => []
  | n :: rest => ofNode index n :: ofNodes (index + 1) rest

end

mutual

/-- A node as it is now. -/
def toNode : Held → Node
  | element _ name attributes children => .element name attributes (toNodes children)
  | string _ kind value => .string kind value

/-- Nodes as they are now. -/
def toNodes : List Held → List Node
  | [] => []
  | h :: rest => toNode h :: toNodes rest

end

/-- A node after a change to its children. -/
def onChildren (change : List Held → List Held) : Held → Held
  | element index name attributes children => element index name attributes (change children)
  | string index kind value => string index kind value

/-- Nodes after the one that a path of first positions leads to has given way to others. -/
def alter (change : Held → List Held) : (path : List Nat) → List Held → List Held
  | [] => id
  | [i] => List.flatMap fun h => if h.index = i then change h else [h]
  | i :: path => List.map fun h => if h.index = i then h.onChildren (alter change path) else h

/-- Nodes without the one that a path leads to. -/
def extract (path : List Nat) : List Held → List Held := alter (fun _ => []) path

/-- A string with another value. -/
def withValue (text : Text) : Held → Held
  | string index kind _ => string index kind text
  | h => h

/-- Nodes with another value for the string that a path leads to. -/
def replace (path : List Nat) (text : Text) : List Held → List Held :=
  alter (fun h => [h.withValue text]) path

end Held

/-! ## Carrying out the marks -/

namespace Marks

/-- Give a string its new value; without a value it goes. The nodes lie at a depth in the document,
and the path comes from there. -/
def settle (depth : Nat) (hs : List Held) : List Nat × Text → List Held
  | (path, text) =>
    if text.isEmpty then Held.extract (path.drop depth) hs
    else Held.replace (path.drop depth) text hs

/-- Nodes at a depth in the document after all marks are carried out, the doomed strings first. -/
def apply (m : Marks) (depth : Nat) (hs : List Held) : List Held :=
  m.values.foldl (settle depth)
    (m.doomed.foldl (fun hs path => Held.extract (path.drop depth) hs) hs)

end Marks

namespace Place

/-- The nodes below a place without comments and blank text. -/
def removeBlank (p : Place) : List Node :=
  Held.toNodes (p.markBlank.apply p.path.length (Held.ofNodes 0 p.nodes))

/-- The number of nodes below a place that `removeBlank` takes out. -/
def countBlank (p : Place) : Nat := p.markBlank.doomed.size

end Place

end HtmlMarkdown
