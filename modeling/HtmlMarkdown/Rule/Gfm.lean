import HtmlMarkdown.Rule.Markdown

/-!
# GitHub-flavoured rules

Tables, strikethrough, task lists and fenced code. They come before the rules of plain Markdown.

* `Gfm.lineBreak` to `Gfm.highlightWrapper`: what each rule makes of content and place;
* `gfmRules`: the rules in order.
-/

namespace HtmlMarkdown

/-! ## Languages, tasks, highlighted code -/

/-- The language that a text of classes names after `highlight highlight-`. -/
def languageIn : Text → Text
  | [] => []
  | c :: s =>
    match Text.dropStart? "highlight highlight-".toList (c :: s) with
    | some rest =>
      let language := rest.takeWhile fun d => !isBlank d
      if language.isEmpty then languageIn s else language
    | none => languageIn s

namespace Place

variable (p : Place)

/-- The language that the classes of a place name. -/
def highlightLanguage : Text := languageIn p.classString

/-- The language that the classes of the element around a place name. -/
def parentLanguage : Text :=
  match p.parent? with
  | some parent => parent.highlightLanguage
  | none => []

/-- An attribute in lower case, or nothing; several words have no lower case. -/
def lowerAttribute (key : String) : Except Error Text :=
  match p.filledAttribute? key with
  | some (.text s) | some (.encoding s _) => .ok (Text.lower s)
  | some (.words _) => .error (.noPart "list" "lower")
  | none => .ok []

/-- The box of a task: a checkbox right in a list item. -/
def isTaskCheckbox : Except Error Bool :=
  if p.tagName = "input" then
    (p.lowerAttribute "type").map fun type => type == "checkbox".toList && p.parentName == "li"
  else .ok false

/-- A `pre` right in a `div` that names a language. -/
def isHighlightedPre : Bool :=
  p.tagName == "pre" && p.parentName == "div" && !p.parentLanguage.isEmpty

/-- A `div` that names a language. -/
def isHighlightWrapper : Bool := p.tagName == "div" && !p.highlightLanguage.isEmpty

end Place

/-! ## What each rule makes -/

namespace Gfm

/-- Three backticks. -/
def fence : Text := List.replicate 3 (Char.ofNat 0x60)

/-- A line break is a line feed. -/
def lineBreak (_ : Text) (_ : Place) : Text := ['\n']

/-- What is struck out stands between pairs of tildes. -/
def strikethrough (content : Text) (_ : Place) : Text := '~' :: '~' :: content ++ ['~', '~']

/-- The box of a task shows whether it is done. -/
def checkbox (_ : Text) (p : Place) : Text :=
  if (p.attribute? "checked").isSome then "[x] ".toList else "[ ] ".toList

/-- A cell ends with a bar; the first of a row begins with one too. -/
def cell (content : Text) (p : Place) : Except Error Text :=
  p.indexAmongNodes.map fun index =>
    (if index = 0 then ['|', ' '] else [' ']) ++ content ++ [' ', '|']

/-- The border for an alignment. -/
def alignBorder (align : Text) : Text :=
  if align = "left".toList then ":--".toList
  else if align = "right".toList then "--:".toList
  else if align = "center".toList then ":-:".toList
  else "---".toList

/-- The border under a cell of the head of a table, by its alignment. -/
def border (p : Place) : Except Error Text := do
  let align ← p.lowerAttribute "align"
  cell (alignBorder align) p

/-- The borders under a row of the head of a table; no other row has any. -/
def borders (p : Place) : Except Error Text :=
  if p.parentName = "thead" then do
    p.requirePart "children"
    return (← p.elementChildren.mapM border).flatten
  else .ok []

/-- A row of a table is a line, and borders follow in the head. -/
def tableRow (content : Text) (p : Place) : Except Error Text :=
  (borders p).map fun below =>
    if below.isEmpty then '\n' :: content else '\n' :: content ++ '\n' :: below

/-- A table stands alone. -/
def table (content : Text) (_ : Place) : Text := asBlock content

/-- A section of a table is its rows. -/
def tableSection (content : Text) (_ : Place) : Text := content

/-- Code between fences. -/
def fenced (language code : Text) : Text :=
  asBlock (fence ++ language ++ '\n' :: code ++ '\n' :: fence)

/-- A code block stands between fences. -/
def fencedCodeBlock (_ : Text) (p : Place) : Text := fenced [] p.codeText

/-- A highlighted `pre` stands between fences with its language. -/
def highlightedCodeBlock (_ : Text) (p : Place) : Text := fenced p.parentLanguage p.textContent

/-- The element around highlighted code stands alone. -/
def highlightWrapper (content : Text) (_ : Place) : Text := asBlock content

end Gfm

/-! ## The rules -/

open Gfm in
open Markdown (rule partialRule asking) in
/-- The rules of GitHub-flavoured Markdown beyond the plain ones. -/
def gfmRules : List Rule := [
  rule "line break" (.ofTag "br") Gfm.lineBreak,
  rule "strikethrough" (.ofTags ["del", "s", "strike"]) strikethrough,
  partialRule "task checkbox" (.test (some "is_task_checkbox".toList) Place.isTaskCheckbox)
    (asking "has_attr" checkbox),
  partialRule "table cell" (.ofTags ["th", "td"]) cell,
  partialRule "table row" (.ofTag "tr") tableRow,
  rule "table" (.ofTag "table") table,
  rule "table section" (.ofTags ["thead", "tbody", "tfoot"]) tableSection,
  partialRule "fenced code block" (.ofTest "is_code_block" Place.isCodeBlock)
    (asking "children" fencedCodeBlock),
  rule "highlighted code block" (.ofTest "is_highlighted_pre" Place.isHighlightedPre)
    highlightedCodeBlock,
  rule "highlight wrapper" (.ofTest "is_highlight_wrapper" Place.isHighlightWrapper)
    highlightWrapper]

end HtmlMarkdown
