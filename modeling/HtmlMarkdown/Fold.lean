import HtmlMarkdown.Node.LevelOrder
import HtmlMarkdown.Rule.Basic

/-!
# Folding a tree into Markdown

Elements are converted from the last one in level order to the first, so that the children of an
element are converted before the element itself.

* `Place.flank`: the spaces that an element within a line leaves to its surroundings;
* `Context`: rules and policy of one conversion; `Context.process`: one element;
* `outputOf`, `contentOf`: what has been converted; `Context.fold`: all elements below a place.
-/

namespace HtmlMarkdown

/-! ## Rules and policy -/

/-- What to do with an element that no rule selects: keep its content, or fail. -/
inductive Policy
  | passthrough
  | error
  deriving DecidableEq

/-- The rules and the policy of one conversion. -/
structure Context where
  rules : List Rule
  policy : Policy := .passthrough

/-- The tags of elements that are rendered even when nothing is in them. -/
def isAlwaysRendered (tag : String) : Bool := tag == "a" || tag == "th" || tag == "td"

/-! ## Spaces around an element within a line -/

/-- The text of a sibling within the line: none at the edge or beside a block. -/
def inlineText (sibling : Option Node) : Text :=
  match sibling with
  | some n => if n.isInline then n.textContent else []
  | none => []

/-- A side of a place. -/
inductive Side
  | left
  | right
  deriving DecidableEq

/-- The content of an element within a line, and the spaces around it. -/
structure Flanked where
  leading : Text := []
  trailing : Text := []
  content : Text

namespace Place

/-- The sibling on a side already ends in a space towards the place. -/
def isFlankedBySpace (p : Place) : Side → Bool
  | .left => Text.endsWith ' ' (inlineText p.previous?)
  | .right => Text.startsWith ' ' (inlineText p.next?)

/-- The content of a place with its spacing at the left moved outside as one space, unless the
sibling has one already. -/
def flankLeft (p : Place) (content : Text) : Flanked :=
  if (content.head?.map isSpacing).getD false && !p.isFlankedBySpace .left then
    { leading := [' '], content := Text.trimStart isSpacing content }
  else { content }

/-- The same at the right. -/
def flankRight (p : Place) (f : Flanked) : Flanked :=
  if (f.content.getLast?.map isSpacing).getD false && !p.isFlankedBySpace .right then
    { f with trailing := [' '], content := Text.trimEnd isSpacing f.content }
  else f

/-- The content of an element within a line without the spacing at its ends, and the spaces that
stand for it outside. Where a sibling has a space already the spacing stays; so does all of a
block's. -/
def flank (p : Place) (content : Text) : Flanked :=
  if p.isBlock then { content } else p.flankRight (p.flankLeft content)

/-- The place can have Markdown of its own: only strings cannot. -/
def hasOutput : Place → Bool
  | node (.string ..) .. => false
  | _ => true

end Place

/-! ## Outputs and contents -/

/-- The Markdown of a place that has been converted. -/
def outputOf (p : Place) : Run Text := do
  match (← get).outputs.get? p.address with
  | some text => if p.hasOutput then pure text else throw .outputMissing
  | none => throw .outputMissing

/-- Set the Markdown of a place. -/
def setOutput (p : Place) (text : Text) : Run Unit :=
  modify fun s => { s with outputs := s.outputs.insert p.address text }

/-- What a child adds to the content of its parent: its Markdown, its text, or nothing. -/
def pieceOf (child : Place) : Run Text :=
  if child.isElement then outputOf child
  else if child.isText then pure child.textContent
  else pure []

/-- The converted children of a place, one after another. -/
def contentOf (p : Place) : Run Text := do
  return (← p.children.mapM pieceOf).flatten

/-! ## The fold -/

namespace Context

variable (c : Context)

/-- Convert one place whose children have been converted. -/
def process (p : Place) : Run Unit := do
  let content ← contentOf p
  let tag := p.tagName
  if !isVoidTag tag && !isAlwaysRendered tag && content.isBlank then setOutput p []
  else
    match ← Run.ofExcept (findRule p c.rules) with
    | some rule =>
      let f := p.flank content
      let text ← rule.apply f.content p
      setOutput p (f.leading ++ text ++ f.trailing)
    | none =>
      match c.policy with
      | .error => throw (.unmatchedElement tag)
      | .passthrough =>
        Run.note (.keptContent tag)
        setOutput p content

/-- Convert all elements below a place; the content of the place is the result. -/
def fold (p : Place) : Run Text := do
  let elements := p.levelOrder
  Run.note (.converting elements.length c.rules.length)
  elements.reverse.forM c.process
  contentOf p

end Context

end HtmlMarkdown
