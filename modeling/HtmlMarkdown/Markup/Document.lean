import HtmlMarkdown.Markup.Encoding
import HtmlMarkdown.Markup.Token

/-!
# Documents from markup

Tokens are put into a tree with no regard to which element may hold which: a start tag opens an
element in the innermost open one, an end tag closes the innermost open element of its name and all
inside it.

* `OpenElement`, `Builder`: the elements that are open, with what they hold so far;
* `Builder.meet`: one token; `Builder.finish`: the document at the end;
* `parseDocument`: the document of a text of markup.
-/

namespace HtmlMarkdown

/-! ## What the tree knows about names -/

/-- The names of elements that hold nothing and are closed at once. -/
def emptyElements : List String := [
  "area", "base", "br", "col", "embed", "hr", "img", "input", "keygen", "link", "menuitem", "meta",
  "param", "source", "track", "wbr", "basefont", "bgsound", "command", "frame", "image", "isindex",
  "nextid", "spacer"]

/-- The attribute `key` of the element holds a list of words. -/
def holdsWords (element key : String) : Bool :=
  ["class", "accesskey", "dropzone"].contains key ||
    [("a", "rel"), ("a", "rev"), ("link", "rel"), ("link", "rev"), ("area", "rel"),
      ("td", "headers"), ("th", "headers"), ("form", "accept-charset"), ("object", "archive"),
      ("icon", "sizes"), ("iframe", "sandbox"), ("output", "for")].contains (element, key)

/-- The attributes of an element: of several with one name the last counts, in the place of the
first. -/
def keptAttributes (element : String) (attributes : List RawAttribute) : Attributes :=
  markEncoding element (attributes.foldl (fun kept (key, value) =>
    kept.set key
      (if holdsWords element key then .words (Text.blankWords value) else .text value)) [])

/-- The kind of text inside an element of this name that lies in text of the kind `outside`. -/
def kindInside (name : String) (outside : StringKind) : StringKind :=
  if name = "script" then .script
  else if name = "style" then .stylesheet
  else if name = "template" then .template
  else if name = "rt" then .rubyText
  else if name = "rp" then .rubyParenthesis
  else outside

/-- Text in an element of this name keeps its white space. -/
def keepsSpace (name : String) : Bool := name == "pre" || name == "textarea"

/-! ## Building the tree -/

/-- An element whose end has not come, with its children so far, the latest first. -/
structure OpenElement where
  name : String
  attributes : Attributes
  children : List Node
  /-- The kind of text right inside. -/
  textKind : StringKind
  /-- White space inside is kept. -/
  isKeeping : Bool

/-- A document that is being built. -/
structure Builder where
  /-- The nodes of the document itself, the latest first. -/
  nodes : List Node := []
  /-- The open elements, the innermost first. -/
  stack : List OpenElement := []
  /-- The pieces of text since the last tag, the latest first. -/
  pieces : List Text := []
  /-- The names of elements that were closed at once though their tags did not say so, and may have
  an end tag to come. -/
  closed : List String := []

/-- White space that markup collapses in text without anything else. -/
def isMarkupSpace (c : Char) : Bool := isSpacing c || c == Char.ofNat 0x0C

namespace Builder

variable (b : Builder)

/-- A node is added to the innermost open element. -/
def add (n : Node) : Builder :=
  match b.stack with
  | [] => { b with nodes := n :: b.nodes }
  | e :: stack => { b with stack := { e with children := n :: e.children } :: stack }

/-- The kind of text right inside the innermost open element. -/
def textKind : StringKind := (b.stack.head?.map (·.textKind)).getD .plain

/-- White space inside the innermost open element is kept. -/
def isKeeping : Bool := (b.stack.head?.map (·.isKeeping)).getD false

/-- A string as it is kept: mere white space becomes one line feed or one space. -/
def keptString (s : Text) : Text :=
  if !b.isKeeping && s.all isMarkupSpace then if s.elem '\n' then ['\n'] else [' '] else s

/-- The pieces of text so far become one string. -/
def flush : Builder :=
  match b.pieces with
  | [] => b
  | pieces => { b.add (.string b.textKind (b.keptString pieces.reverse.flatten)) with pieces := [] }

/-- The innermost open element is closed. -/
def closeInnermost : Builder :=
  match b.stack with
  | [] => b
  | e :: stack => ({ b with stack }).add (.element e.name e.attributes e.children.reverse)

/-- The innermost open element of a name is closed with all inside it, the number of open elements
being `count` at most. -/
def closeThrough (name : String) : (count : Nat) → Builder → Builder
  | 0, b => b
  | count + 1, b =>
    if (b.stack.head?.map (·.name)) == some name then b.closeInnermost
    else closeThrough name count b.closeInnermost

/-- The innermost open element of a name, if there is one, is closed with all inside it. -/
def close (name : String) : Builder :=
  let b := b.flush
  if b.stack.any (·.name == name) then closeThrough name b.stack.length b else b

/-- An element is opened. -/
def «open» (name : String) (attributes : List RawAttribute) : Builder :=
  let b := b.flush
  { b with
    stack := {
      name
      attributes := keptAttributes name attributes
      children := []
      textKind := kindInside name b.textKind
      isKeeping := keepsSpace name || b.isKeeping } :: b.stack }

/-- An end tag is met. It closes an element, unless one of its name was closed at once and has
waited for it: then nothing happens, and text goes on as if there were no tag. -/
def meetEnd (name : String) : Builder :=
  if b.closed.contains name then { b with closed := b.closed.erase name } else b.close name

/-- A token is met. -/
def meet (b : Builder) : Token → Builder
  | .text s => { b with pieces := s :: b.pieces }
  | .startTag name attributes isClosed =>
    let b := b.open name attributes
    if isClosed then b.close name
    else if emptyElements.contains name then
      let b := b.close name
      { b with closed := name :: b.closed }
    else b
  | .endTag name => b.meetEnd name
  | .string kind value =>
    let b := b.flush
    b.add (.string kind (b.keptString value))

/-- All open elements are closed, `count` of them at most. -/
def closeAll : (count : Nat) → Builder → Builder
  | 0, b => b
  | count + 1, b => closeAll count b.closeInnermost

/-- The document at the end of the markup. -/
def finish : List Node :=
  let b := b.flush
  (closeAll b.stack.length b).nodes.reverse

end Builder

/-! ## Documents -/

/-- The document that tokens make. -/
def documentOfTokens (tokens : List Token) : List Node :=
  (tokens.foldl Builder.meet {}).finish

/-- The document of a text of markup. -/
def parseDocument (s : Text) : Except Error (List Node) :=
  (Token.ofText s).map documentOfTokens

end HtmlMarkdown
