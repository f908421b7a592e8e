import HtmlMarkdown.Node.Basic

/-!
# Places in a document

A place is a node together with everything around it, so that its siblings, its parent and its
ancestors can be asked for. The document itself is a place too.

* `Surroundings`, `Place`: a node with its siblings, and the elements that it lies in;
* `Place.children`, `Place.descendants`, `Place.parent?`, `Place.at?`: from a place to others;
* `Place.childIndex`, `Place.path`, `Place.address`: where a place is;
* `Place.root`: the place that a conversion starts from; `Place.wholeDocument`: all around a place.
-/

namespace HtmlMarkdown

/-! ## A node and what it lies in -/

/-- What a list of siblings lies in: the document, or an element with its own siblings, those before
it nearest first, and its own surroundings. -/
inductive Surroundings
  | document
  | element (name : String) (attributes : Attributes) (before after : List Node)
      (outside : Surroundings)

/-- The document, or a node with its siblings, those before it nearest first, and what they lie in.
-/
inductive Place
  | document (nodes : List Node)
  | node (here : Node) (before after : List Node) (outside : Surroundings)

/-- The number of elements among nodes. -/
def elementCount (nodes : List Node) : Nat := nodes.countP Node.isElement

/-! ## The elements around -/

namespace Surroundings

/-- The lower-case name of the element around; the document has the empty one. -/
def tagName : Surroundings → String
  | document => ""
  | element name .. => lowerName name

/-- One of the elements around has a tag in `p`. -/
def anyTag (p : String → Bool) : Surroundings → Bool
  | document => false
  | element name _ _ _ outside => p (lowerName name) || anyTag p outside

/-- The place whose children are `nodes`. -/
def holding (nodes : List Node) : Surroundings → Place
  | document => .document nodes
  | element name attributes before after outside =>
    .node (.element name attributes nodes) before after outside

/-- The whole document, if the innermost list of nodes is `nodes`. -/
def wholeDocument (nodes : List Node) : Surroundings → List Node
  | document => nodes
  | element name attributes before after outside =>
    wholeDocument (before.reverse ++ .element name attributes nodes :: after) outside

/-- The positions of the elements around among the elements beside them, innermost first. -/
def address : Surroundings → List Nat
  | document => []
  | element _ _ before _ outside => elementCount before :: outside.address

/-- The positions of the elements around among their siblings, outermost first, before `inner`. -/
def path (inner : List Nat) : Surroundings → List Nat
  | document => inner
  | element _ _ before _ outside => path (before.length :: inner) outside

end Surroundings

/-! ## From a place to the places below -/

namespace Place

/-- The nodes of `nodes` as places, after the siblings `before`. -/
def spread (outside : Surroundings) (before : List Node) : List Node → List Place
  | [] => []
  | n :: rest => .node n before rest outside :: spread outside (n :: before) rest

mutual

/-- A node and all nodes below it in document order, then `tail`. -/
def withDescendants (outside : Surroundings) (before after : List Node) :
    Node → List Place → List Place
  | .element name attributes children, tail =>
    .node (.element name attributes children) before after outside ::
      allDescendants (.element name attributes before after outside) [] children tail
  | .string kind value, tail => .node (.string kind value) before after outside :: tail

/-- Nodes and all nodes below them in document order, then `tail`. -/
def allDescendants (outside : Surroundings) (before : List Node) :
    List Node → List Place → List Place
  | [], tail => tail
  | n :: rest, tail =>
    withDescendants outside before rest n (allDescendants outside (n :: before) rest tail)

end

variable (p : Place)

/-- The nodes right below a place. -/
def nodes : Place → List Node
  | document nodes => nodes
  | node here .. => here.children

/-- What the nodes right below a place lie in. -/
def inside : Place → Surroundings
  | document _ => .document
  | node (.element name attributes _) before after outside =>
    .element name attributes before after outside
  | node (.string ..) _ _ outside => outside

/-- The places right below. -/
def children : List Place := spread p.inside [] p.nodes

/-- All places below, in document order. -/
def descendants : List Place := allDescendants p.inside [] p.nodes []

/-- The place with other nodes right below it. -/
def withNodes (nodes : List Node) : Place := p.inside.holding nodes

/-! ## What a place says -/

/-- The place is an element. -/
def isElement : Place → Bool
  | document _ => false
  | node here .. => here.isElement

/-- The place is a string that is text. -/
def isText : Place → Bool
  | document _ => false
  | node here .. => here.isText

/-- The place is a string that is no text. -/
def isComment : Place → Bool
  | document _ => false
  | node here .. => here.isComment

/-- The places right below that are elements. -/
def elementChildren : List Place := p.children.filter isElement

/-- The lower-case name of an element; any other place has the empty one. -/
def tagName : Place → String
  | document _ => ""
  | node here .. => here.tagName

/-- An element that starts a new line. -/
def isBlock : Bool := isBlockTag p.tagName

/-- An element that cannot hold content. -/
def isVoid : Bool := isVoidTag p.tagName

/-- The value of an attribute. -/
def attribute? (key : String) : Option AttributeValue :=
  match p with
  | document _ => none
  | node here .. => here.attribute? key

/-- The value of an attribute that is there and not empty. -/
def filledAttribute? (key : String) : Option AttributeValue :=
  match p with
  | document _ => none
  | node here .. => here.filledAttribute? key

/-- The class attribute as one text. -/
def classString : Place → Text
  | document _ => []
  | node here .. => here.classString

/-- The text that a place holds; none for the document. -/
def textContent : Place → Text
  | document _ => []
  | node here .. => here.textContent

/-! ## Siblings, parents, positions -/

/-- The sibling just before. -/
def previous? : Place → Option Node
  | document _ => none
  | node _ before .. => before.head?

/-- The sibling just after. -/
def next? : Place → Option Node
  | document _ => none
  | node _ _ after _ => after.head?

/-- The place that this one lies in. -/
def parent? : Place → Option Place
  | document _ => none
  | node here before after outside => some (outside.holding (before.reverse ++ here :: after))

/-- The lower-case name of the element that this place lies in. -/
def parentName : Place → String
  | document _ => ""
  | node _ _ _ outside => outside.tagName

/-- The number of siblings before. -/
def childIndex : Place → Nat
  | document _ => 0
  | node _ before .. => before.length

/-- The positions among siblings that lead from the document to a place. -/
def path : Place → List Nat
  | document _ => []
  | node _ before _ outside => outside.path [before.length]

/-- What names an element for good: its position among the elements beside it and those of the
elements around, innermost first. No string takes part in it. -/
def address : Place → List Nat
  | document _ => []
  | node _ before _ outside => elementCount before :: outside.address

/-- The place that a path of positions leads to. -/
def at? (p : Place) : List Nat → Option Place
  | [] => some p
  | i :: path => (p.children[i]?).bind fun child => child.at? path

/-- All nodes of the document around a place. -/
def wholeDocument : Place → List Node
  | document nodes => nodes
  | node here before after outside => outside.wholeDocument (before.reverse ++ here :: after)

/-! ## The root of a conversion -/

/-- An element with exactly this name. -/
def isNamed (name : String) : Place → Bool
  | node (.element own ..) .. => own == name
  | _ => false

/-- Where the conversion of a document starts: its first `body`, or the document itself. -/
def root (document : List Node) : Place :=
  let whole := Place.document document
  (whole.descendants.find? (isNamed "body")).getD whole

end Place

end HtmlMarkdown
