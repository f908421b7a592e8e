import HtmlMarkdown.Text.Case

/-!
# Documents as trees

A document is a list of nodes; a node is an element with its attributes and children, or a string.

* `StringKind`, `AttributeValue`, `Node`;
* `Node.tagName`, `Node.attribute?`, `Node.classString`, `Node.textContent`: what a node says;
* `isBlockTag`, `isVoidTag`: the two tables of tag names.
-/

namespace HtmlMarkdown

/-! ## Strings, attributes, nodes -/

/-- What a string of a document is: text of one of six kinds, or markup that is no text. -/
inductive StringKind
  | plain
  | script
  | stylesheet
  | template
  | rubyText
  | rubyParenthesis
  | comment
  | cdata
  | doctype
  | declaration
  | instruction
  deriving DecidableEq

/-- The kinds that are text; the others are comments as far as a conversion is concerned. -/
def StringKind.isText : StringKind → Bool
  | plain | script | stylesheet | template | rubyText | rubyParenthesis => true
  | comment | cdata | doctype | declaration | instruction => false

/-- The value of an attribute: one text, the words of an attribute that holds several, or a text that
names the encoding of the document, with the text that is written for it. -/
inductive AttributeValue
  | text (s : Text)
  | words (ws : List Text)
  | encoding (s written : Text)
  deriving DecidableEq

/-- The attributes of an element by name, in their order. -/
abbrev Attributes := List (String × AttributeValue)

/-- A node of a document. -/
inductive Node
  | element (name : String) (attributes : Attributes) (children : List Node)
  | string (kind : StringKind) (value : Text)

/-- Attributes with `key` set to `value`: in its place if it is there, else at the end. -/
def Attributes.set (key : String) (value : AttributeValue) : Attributes → Attributes
  | [] => [(key, value)]
  | (k, v) :: rest =>
    if k = key then (k, value) :: rest else (k, v) :: Attributes.set key value rest

namespace AttributeValue

/-- The value as one text, words separated by a space. -/
def joined : AttributeValue → Text
  | text s | encoding s _ => s
  | words ws => Text.join [' '] ws

/-- The value as it is written in a tag. -/
def written : AttributeValue → Text
  | encoding _ s => s
  | v => v.joined

/-- The value, if it is one text. -/
def text? : AttributeValue → Option Text
  | text s | encoding s _ => some s
  | words _ => none

/-- Nothing is in the value. -/
def isEmpty : AttributeValue → Bool
  | text s | encoding s _ => s.isEmpty
  | words ws => ws.isEmpty

end AttributeValue

/-! ## Tables of tag names -/

/-- The tags of elements that start a new line. -/
def blockTags : List String := [
  "address", "article", "aside", "audio", "blockquote", "body", "canvas", "center", "dd", "dir",
  "div", "dl", "dt", "fieldset", "figcaption", "figure", "footer", "form", "frameset", "h1", "h2",
  "h3", "h4", "h5", "h6", "header", "hgroup", "hr", "html", "isindex", "li", "main", "menu", "nav",
  "noframes", "noscript", "ol", "output", "p", "pre", "section", "table", "tbody", "td", "tfoot",
  "th", "thead", "tr", "ul"]

/-- The tags of elements that cannot hold content. -/
def voidTags : List String := [
  "area", "base", "br", "col", "command", "embed", "hr", "img", "input", "keygen", "link", "meta",
  "param", "source", "track", "wbr"]

/-- The tag of an element that starts a new line. -/
def isBlockTag (tag : String) : Bool := blockTags.contains tag

/-- The tag of an element that cannot hold content. -/
def isVoidTag (tag : String) : Bool := voidTags.contains tag

/-- The tag of preformatted text. -/
def isPreTag (tag : String) : Bool := tag == "pre"

/-- The kinds of string that the text of an element with this name consists of. -/
def isHeldBy (name : String) (kind : StringKind) : Bool :=
  if name = "script" then kind = .script
  else if name = "style" then kind = .stylesheet
  else if name = "template" then kind = .template
  else if name = "rt" then kind = .rubyText
  else if name = "rp" then kind = .rubyParenthesis
  else kind = .plain || kind = .cdata

/-! ## What a node says -/

namespace Node

mutual

/-- The number of nodes of a tree. -/
def size : Node → Nat
  | element _ _ children => sizeList children + 1
  | string .. => 1

/-- The number of nodes of a list of trees. -/
def sizeList : List Node → Nat
  | [] => 0
  | n :: ns => n.size + sizeList ns

end

/-- The children of an element; a string has none. -/
def children : Node → List Node
  | element _ _ children => children
  | string .. => []

/-- The attributes of an element; a string has none. -/
def attributes : Node → Attributes
  | element _ attributes _ => attributes
  | string .. => []

/-- The node is an element. -/
def isElement : Node → Bool
  | element .. => true
  | string .. => false

/-- The node is a string that is text. -/
def isText : Node → Bool
  | element .. => false
  | string kind _ => kind.isText

/-- The node is a string that is no text. -/
def isComment : Node → Bool
  | element .. => false
  | string kind _ => !kind.isText

/-- The lower-case name of an element; a string has the empty one. -/
def tagName : Node → String
  | element name .. => lowerName name
  | string .. => ""

/-- An element that starts a new line. -/
def isBlock (n : Node) : Bool := isBlockTag n.tagName

/-- An element that cannot hold content. -/
def isVoid (n : Node) : Bool := isVoidTag n.tagName

/-- Text, or an element within a line. -/
def isInline (n : Node) : Bool := n.isText || (n.isElement && !n.isBlock)

/-- Text of white space only. -/
def isBlankText : Node → Bool
  | element .. => false
  | string kind value => kind.isText && value.isBlank

/-- The value of an attribute. -/
def attribute? (n : Node) (key : String) : Option AttributeValue := n.attributes.lookup key

/-- The value of an attribute that is there and not empty. -/
def filledAttribute? (n : Node) (key : String) : Option AttributeValue :=
  (n.attribute? key).filter fun v => !v.isEmpty

/-- The class attribute as one text. -/
def classString (n : Node) : Text :=
  match n.attribute? "class" with
  | some v => v.joined
  | none => []

mutual

/-- The strings of the given kinds in a tree, one after another. -/
def strings (holds : StringKind → Bool) : Node → Text
  | element _ _ children => stringsList holds children
  | string kind value => if holds kind then value else []

/-- The strings of the given kinds in a list of trees, one after another. -/
def stringsList (holds : StringKind → Bool) : List Node → Text
  | [] => []
  | n :: ns => n.strings holds ++ stringsList holds ns

end

/-- The text that a node holds. -/
def textContent : Node → Text
  | element name _ children => stringsList (isHeldBy name) children
  | string kind value => if kind.isText then value else []

end Node

end HtmlMarkdown
