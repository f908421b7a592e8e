import HtmlMarkdown.Node.Place
import HtmlMarkdown.Whitespace.Walk

/-!
# Collapsing white space

Runs of spaces, tabs and line breaks become one space, and the spaces that only pad the boundaries
of blocks go, as a browser shows a page.

* `squeeze`: a text with one space for every run of spacing;
* `Scan`, `Scan.step`, `settledTexts`: one pass over the walk that settles the texts it meets;
* `resettle`: the nodes with the settled texts in place;
* `collapseNodes`, `Place.collapse`: the whole pass.
-/

namespace HtmlMarkdown

/-! ## Single texts -/

/-- A text with one space for every run of spacing; `isInRun` says that the run has its space. -/
def squeezeAfter : (isInRun : Bool) → Text → Text
  | _, [] => []
  | isInRun, c :: s =>
    if isSpacing c then
      if isInRun then squeezeAfter true s else ' ' :: squeezeAfter true s
    else c :: squeezeAfter false s

/-- A text with one space for every run of spacing. -/
def squeeze (s : Text) : Text := squeezeAfter false s

/-- A text without its trailing spaces. -/
def dropTrailingSpaces (s : Text) : Text := Text.trimEnd (· == ' ') s

/-! ## The pass over the walk -/

/-- What the pass knows after a part of the walk. -/
structure Scan where
  /-- The texts met so far, the latest first. -/
  texts : List Text := []
  /-- The latest text that is not empty comes before the next text in the same line. -/
  isOpen : Bool := false
  /-- The next text follows something that is no text, and keeps its leading space. -/
  keepsLeading : Bool := false

namespace Scan

/-- The latest text that is not empty. -/
def latest : List Text → Text
  | [] => []
  | t :: ts => if t.isEmpty then latest ts else t

/-- The texts with `change` made to the latest one that is not empty. -/
def changeLatest (change : Text → Text) : List Text → List Text
  | [] => []
  | t :: ts => if t.isEmpty then t :: changeLatest change ts else change t :: ts

variable (s : Scan)

/-- A space at the start of the next text adds nothing to what is there. -/
def dropsLeading : Bool :=
  (!s.isOpen || Text.endsWith ' ' (latest s.texts)) && !s.keepsLeading

/-- A text is met. -/
def meetText (value : Text) : Scan :=
  let squeezed := squeeze value
  let text := if s.dropsLeading && Text.startsWith ' ' squeezed then squeezed.drop 1 else squeezed
  { s with texts := text :: s.texts, isOpen := s.isOpen || !text.isEmpty }

/-- A line ends: the text before it loses its trailing spaces. -/
def endLine : Scan :=
  { texts := if s.isOpen then changeLatest dropTrailingSpaces s.texts else s.texts
    isOpen := false
    keepsLeading := false }

/-- An element is met, on the way in or on the way out. -/
def meetElement (block pre : String → Bool) (tag : String) : Scan :=
  if block tag || tag == "br" then s.endLine
  else if isVoidTag tag || pre tag then { s with isOpen := false, keepsLeading := true }
  else if s.isOpen then { s with keepsLeading := false }
  else s

/-- A place of the walk is met. -/
def step (block pre : String → Bool) (s : Scan) : Place → Scan
  | .node (.element name ..) .. => s.meetElement block pre (lowerName name)
  | .node (.string kind value) .. => if kind.isText then s.meetText value else s
  | .document _ => s

/-- The texts met, in their order, after the end of the walk. -/
def settled : List Text :=
  (if s.isOpen then changeLatest dropTrailingSpaces s.texts else s.texts).reverse

end Scan

/-- The element is preformatted. -/
def isSkipped (pre : String → Bool) (p : Place) : Bool := pre p.tagName

/-- What becomes of the texts that the walk through some nodes meets, in their order. Tags decide
about everything, so it makes no difference what the nodes lie in. -/
def settledTexts (block pre : String → Bool) (nodes : List Node) : List Text :=
  (((Place.document nodes).walk (isSkipped pre)).foldl (Scan.step block pre) {}).settled

/-! ## The tree with its texts replaced -/

mutual

/-- The nodes that stand for one node when its texts are replaced by the first of `texts`, an empty
one leaving nothing, and the texts that are left. -/
def resettleNode (pre : String → Bool) : Node → (texts : List Text) → List Node × List Text
  | .element name attributes children, texts =>
    if pre (lowerName name) then ([.element name attributes children], texts)
    else
      let (children, texts) := resettle pre children texts
      ([.element name attributes children], texts)
  | .string kind value, texts =>
    if kind.isText then
      match texts with
      | [] => ([.string kind value], [])
      | text :: texts => (if text.isEmpty then [] else [.string kind text], texts)
    else ([.string kind value], texts)

/-- Nodes with their texts replaced by the first of `texts`, and the texts that are left. -/
def resettle (pre : String → Bool) : List Node → (texts : List Text) → List Node × List Text
  | [], texts => ([], texts)
  | n :: rest, texts =>
    let (here, texts) := resettleNode pre n texts
    let (others, texts) := resettle pre rest texts
    (here ++ others, texts)

end

/-- Nodes with the white space collapsed that lies outside elements with a tag in `pre`; lines end
at elements with a tag in `block`. -/
def collapseNodes (block pre : String → Bool) (nodes : List Node) : List Node :=
  (resettle pre nodes (settledTexts block pre nodes)).1

/-- The nodes below a place with their white space collapsed. -/
def Place.collapse (block pre : String → Bool) (p : Place) : List Node :=
  if pre p.tagName then p.nodes else collapseNodes block pre p.nodes

end HtmlMarkdown
