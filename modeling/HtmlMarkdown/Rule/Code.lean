import HtmlMarkdown.Node.Place

/-!
# Code in documents

A `code` that opens a `pre` makes it a code block; any other `code` is code within a line.

* `Place.openingCode?`: the `code` that opens a place;
* `Place.isCodeBlock`, `Place.isCodeBlockBody`, `Place.isInlineCode`: the three kinds of code;
* `Place.codeText`: the text of the `code` that opens a place.
-/

namespace HtmlMarkdown.Place

/-- The first of some places that is no blank text, if it is a `code`. -/
def firstCode? : List Place → Option Place
  | [] => none
  | p :: rest =>
    if p.isText && p.textContent.isBlank then firstCode? rest
    else if p.tagName == "code" then some p
    else none

variable (p : Place)

/-- The `code` that opens a place: only blank text comes before it. -/
def openingCode? : Option Place := firstCode? p.children

/-- A place opens the place that it lies in: it is its opening `code`. -/
def isOpeningCode : Bool :=
  match p.parent? with
  | some parent => (parent.openingCode?.map childIndex) == some p.childIndex
  | none => false

/-- A `code` that does not open a `pre`. -/
def isInlineCode : Bool := p.tagName == "code" && (p.parentName != "pre" || !p.isOpeningCode)

/-- A `pre` that a `code` opens. -/
def isCodeBlock : Bool := p.tagName == "pre" && p.openingCode?.isSome

/-- A `code` that opens a `pre`. -/
def isCodeBlockBody : Bool := p.tagName == "code" && !p.isInlineCode

/-- The text of the `code` that opens a place. -/
def codeText : Text :=
  match p.openingCode? with
  | some code => code.textContent
  | none => []

end HtmlMarkdown.Place
