import HtmlMarkdown.Node.Kind
import HtmlMarkdown.Node.Shell
import HtmlMarkdown.Rule.Basic
import HtmlMarkdown.Rule.Code
import HtmlMarkdown.Text.Tidy

/-!
# Markdown rules

Rules for every block element and the common elements within a line. A block that no other rule is
for is kept as markup.

* `Markdown.paragraph` to `Markdown.block`: what each rule makes of content and place;
* `markdownRules`: the rules in order.
-/

namespace HtmlMarkdown

/-! ## Lines and blocks -/

/-- A text with `start` before each of its lines. -/
def prefixLines (start s : Text) : Text := start ++ Text.replaceChar '\n' ('\n' :: start) s

/-- A text with the lines after the first indented by four spaces. -/
def indentRest (s : Text) : Text := Text.replaceChar '\n' "\n    ".toList s

/-- A text with blank lines around it. -/
def asBlock (s : Text) : Text := '\n' :: '\n' :: s ++ ['\n', '\n']

/-- A value inside running text. -/
def AttributeValue.display : AttributeValue → Text
  | text s | encoding s _ => s
  | words ws => (Value.list (ws.map .text)).literal

/-- An attribute that is there and not empty, as running text, or nothing. -/
def Place.attributeText (key : String) (p : Place) : Text :=
  ((p.filledAttribute? key).map AttributeValue.display).getD []

/-- A link: an `a` with a target. -/
def Place.isLink (p : Place) : Bool := p.tagName == "a" && (p.filledAttribute? "href").isSome

/-! ## What each rule makes -/

namespace Markdown

/-- The tags of headings. -/
def headingTags : List String := ["h1", "h2", "h3", "h4", "h5", "h6"]

/-- The level in the tag of a heading: the digit after its first character. -/
def headingLevel (tag : String) : Except Error Nat :=
  match tag.toList with
  | _ :: c :: _ =>
    match Decimal.digitValue? c with
    | some level => .ok level
    | none => .error (.notWholeNumber [c])
  | _ => .error .noLevel

/-- The title of a link or image after its target. -/
def titlePart (p : Place) : Text :=
  match p.filledAttribute? "title" with
  | some title => ' ' :: '"' :: title.display ++ ['"']
  | none => []

/-- The target of a link; none at all is written as such. -/
def linkTarget (p : Place) : Text :=
  match p.attribute? "href" with
  | some target => target.display
  | none => Value.null.literal

/-- The marker of a list item: its number in an `ol`, else a star. -/
def itemMarker (p : Place) : Except Error Text :=
  if p.parentName = "ol" then
    p.indexAmongElements.map fun index => Text.ofNat (index + 1) ++ ".  ".toList
  else .ok "*   ".toList

/-- A paragraph stands alone. -/
def paragraph (content : Text) (_ : Place) : Text := asBlock content

/-- Two spaces break a line. -/
def lineBreak (_ : Text) (_ : Place) : Text := "  \n".toList

/-- A heading has as many number signs as its level. -/
def heading (content : Text) (p : Place) : Except Error Text :=
  (headingLevel p.tagName).map fun level => asBlock (List.replicate level '#' ++ ' ' :: content)

/-- Three stars are a rule. -/
def horizontalRule (_ : Text) (_ : Place) : Text := asBlock "* * *".toList

/-- Emphasis stands between underscores. -/
def emphasis (content : Text) (_ : Place) : Text := '_' :: content ++ ['_']

/-- Strong emphasis stands between pairs of stars. -/
def strong (content : Text) (_ : Place) : Text := '*' :: '*' :: content ++ ['*', '*']

/-- Code within a line stands between backticks. -/
def inlineCode (content : Text) (_ : Place) : Text :=
  Char.ofNat 0x60 :: content ++ [Char.ofNat 0x60]

/-- A link is its content with its target behind. -/
def link (content : Text) (p : Place) : Text :=
  '[' :: content ++ ']' :: '(' :: linkTarget p ++ titlePart p ++ [')']

/-- An image is its description with its source behind; without source there is nothing. -/
def image (_ : Text) (p : Place) : Text :=
  let source := p.attributeText "src"
  if source.isEmpty then []
  else '!' :: '[' :: p.attributeText "alt" ++ ']' :: '(' :: source ++ titlePart p ++ [')']

/-- The code that opens a block is left to the block. -/
def codeBlockBody (content : Text) (_ : Place) : Text := content

/-- A code block is indented by four spaces. -/
def codeBlock (_ : Text) (p : Place) : Text := asBlock ("    ".toList ++ indentRest p.codeText)

/-- Every line of a quotation has a mark. -/
def blockquote (content : Text) (_ : Place) : Text :=
  asBlock (prefixLines ['>', ' '] (limitBreaks (Text.trim isBlank content)))

/-- A list item starts a line of its own, and its other lines are indented. -/
def listItem (content : Text) (p : Place) : Except Error Text :=
  (itemMarker p).map fun marker => '\n' :: marker ++ indentRest (Text.trimStart isBlank content)

/-- A list stands alone, unless it is inside an item. -/
def list (content : Text) (p : Place) : Text :=
  if p.parentName = "li" then content else asBlock (Text.trimStart (· == '\n') content)

/-- Any other block is kept as markup. -/
def block (content : Text) (p : Place) : Text := asBlock (p.outer content)

/-- A rule of this library. -/
def rule (name : String) (filter : Filter) (run : Text → Place → Text) : Rule :=
  { filter, replacement := .ofText run, name := .text name.toList }

/-- What is made of a place that has `part`; a string has it not. -/
def asking (part : String) (run : Text → Place → Text) (content : Text) (p : Place) :
    Except Error Text :=
  (p.requirePart part).map fun _ => run content p

/-- A rule of this library that only some places suit. -/
def partialRule (name : String) (filter : Filter) (run : Text → Place → Except Error Text) : Rule :=
  { filter, replacement := .ofResult run, name := .text name.toList }

end Markdown

/-! ## The rules -/

open Markdown in
/-- The rules of plain Markdown. -/
def markdownRules : List Rule := [
  rule "paragraph" (.ofTag "p") paragraph,
  rule "line break" (.ofTag "br") lineBreak,
  partialRule "heading" (.ofTags headingTags) heading,
  rule "horizontal rule" (.ofTag "hr") horizontalRule,
  rule "emphasis" (.ofTags ["em", "i"]) emphasis,
  rule "strong" (.ofTags ["strong", "b"]) strong,
  rule "inline code" (.ofTest "is_inline_code" Place.isInlineCode) inlineCode,
  partialRule "link" (.ofTest "is_link" Place.isLink) (asking "get" link),
  partialRule "image" (.ofTag "img") (asking "get" image),
  rule "code block body" (.ofTest "is_code_block_body" Place.isCodeBlockBody) codeBlockBody,
  partialRule "code block" (.ofTest "is_code_block" Place.isCodeBlock)
    (asking "children" codeBlock),
  rule "blockquote" (.ofTag "blockquote") blockquote,
  partialRule "list item" (.ofTag "li") listItem,
  rule "list" (.ofTags ["ul", "ol"]) list,
  partialRule "block" (.ofTest "is_block" Place.isBlock) (asking "attrs" block)]

end HtmlMarkdown
