import HtmlMarkdown.Error
import HtmlMarkdown.Node.Place

/-!
# Questions that not every place can answer

* `NodeKind`, `Place.kind`: the kinds that a conversion tells apart; `kindOfValue`;
* `Place.requirePart`: a part that every place has but a string;
* `Place.indexAmongNodes`, `Place.indexAmongElements`: the position among the siblings.
-/

namespace HtmlMarkdown

/-- The kinds of node that a conversion tells apart. -/
inductive NodeKind
  | element
  | text
  | comment
  | document
  deriving DecidableEq

/-- The word for a kind. -/
def NodeKind.word : NodeKind → String
  | element => "element"
  | text => "text"
  | comment => "comment"
  | document => "document"

/-- The kind of a place. -/
def Place.kind : Place → NodeKind
  | .document _ => .document
  | .node (.element ..) .. => .element
  | .node (.string kind _) .. => if kind.isText then .text else .comment

/-- A value that is no node has no kind. -/
def kindOfValue (v : Value) : Except Error NodeKind := .error (.notNode v)

/-- The word for what a string is. -/
def StringKind.word : StringKind → String
  | plain => "NavigableString"
  | script => "Script"
  | stylesheet => "Stylesheet"
  | template => "TemplateString"
  | rubyText => "RubyTextString"
  | rubyParenthesis => "RubyParenthesisString"
  | comment => "Comment"
  | cdata => "CData"
  | doctype => "Doctype"
  | declaration => "Declaration"
  | instruction => "ProcessingInstruction"

namespace Place

/-- Nothing can be asked of a string that only elements and documents have. -/
def requirePart (part : String) : Place → Except Error Unit
  | .node (.string kind _) .. => .error (.noPart kind.word part)
  | _ => .ok ()

/-- The number of siblings before a place; the document has none to be counted among. -/
def indexAmongNodes : Place → Except Error Nat
  | .document _ => .error (.noPart "NoneType" "contents")
  | .node _ before .. => .ok before.length

/-- The number of elements among the siblings before an element; a string is not among them. -/
def indexAmongElements : Place → Except Error Nat
  | .document _ => .error (.noPart "NoneType" "contents")
  | .node (.string _ value) .. => .error (.notAmongElements value)
  | .node (.element ..) before .. => .ok (elementCount before)

end Place

end HtmlMarkdown
