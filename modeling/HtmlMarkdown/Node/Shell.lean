import HtmlMarkdown.Node.Place

/-!
# An element's own tags

* `escapeMarkup`, `quoteAttribute`: an attribute's value inside a tag;
* `startTag`, `shell`: the tags of an element without content;
* `Place.outer`: the tags of an element around a given content.
-/

namespace HtmlMarkdown

/-- A character of an attribute's value. -/
def escapedChar (c : Char) : Text :=
  if c = '&' then "&amp;".toList
  else if c = '<' then "&lt;".toList
  else if c = '>' then "&gt;".toList
  else [c]

/-- A text without the characters that markup reserves. -/
def escapeMarkup (s : Text) : Text := s.flatMap escapedChar

/-- A text between double quotes, or between single ones if it has double ones only. -/
def quoteAttribute (s : Text) : Text :=
  if s.elem '"' then
    if s.elem '\'' then '"' :: Text.replaceChar '"' "&quot;".toList s ++ ['"']
    else '\'' :: s ++ ['\'']
  else '"' :: s ++ ['"']

/-- An attribute after the name of its element. -/
def writeAttribute (a : String × AttributeValue) : Text :=
  ' ' :: a.1.toList ++ '=' :: quoteAttribute (escapeMarkup a.2.written)

/-- Attributes in the order of their names. -/
def sortAttributes (attributes : Attributes) : Attributes :=
  attributes.mergeSort fun a b => a.1 ≤ b.1

/-- A start tag up to its end. -/
def startTag (name : String) (attributes : Attributes) : Text :=
  '<' :: name.toList ++ (sortAttributes attributes).flatMap writeAttribute

/-- The tags of an element without content; an element that cannot hold any has one tag only. -/
def shell (isVoid : Bool) (name : String) (attributes : Attributes) : Text :=
  if isVoid then startTag name attributes ++ ['/', '>']
  else startTag name attributes ++ '>' :: '<' :: '/' :: name.toList ++ ['>']

/-- The tags of an element with this name around `content`. An element that cannot hold content has
one tag, and `content` is left out. -/
def outerTags (name : String) (attributes : Attributes) (content : Text) : Text :=
  let isVoid := isVoidTag (lowerName name)
  let markup := shell isVoid name attributes
  if isVoid then markup
  else Text.replaceFirst ['>', '<'] ('>' :: content ++ ['<']) markup

/-- The name that stands for the document in tags. -/
def documentName : String := "[document]"

/-- The element's own tags around `content`. -/
def Place.outer (content : Text) : Place → Text
  | .node (.element name attributes _) .. => outerTags name attributes content
  | .node (.string ..) .. => []
  | .document _ => outerTags documentName [] content

end HtmlMarkdown
