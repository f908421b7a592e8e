import HtmlMarkdown.Fold
import HtmlMarkdown.Markup.Document
import HtmlMarkdown.Rule.Gfm
import HtmlMarkdown.Text.ListMarker
import HtmlMarkdown.Whitespace.Blank
import HtmlMarkdown.Whitespace.Collapse

/-!
# Converting markup

* `Options`: the rules and the policy that a caller asks for; `Options.change`;
* `Options.allRules`: all rules in their order, a caller's before the built-in ones;
* `documentOfMarkup`: the tree of a text, its white space collapsed;
* `Place.convert`: a parsed tree to Markdown; `Options.convert`: a text to Markdown.
-/

namespace HtmlMarkdown

/-- The policy that a value names. -/
def Policy.ofValue (v : Value) : Except Error Policy :=
  match v with
  | .text s =>
    if s = "passthrough".toList then .ok .passthrough
    else if s = "error".toList then .ok .error
    else .error (.unknownPolicy v)
  | _ => .error (.unknownPolicy v)

/-- What a caller asks of a conversion. -/
structure Options where
  /-- The GitHub-flavoured rules are used too. -/
  gfm : Bool := false
  /-- The caller's own rules. -/
  rules : List RuleSource := []
  /-- What to do with elements that no rule selects. -/
  unmatched : Policy := .passthrough

namespace Options

variable (o : Options)

/-- Options with those fields changed that are given; a given policy has to be a known one. -/
def change (gfm : Option Bool) (rules : Option (List RuleSource)) (unmatched : Option Value) :
    Except Error Options := do
  let unmatched ← match unmatched with
    | some v => Policy.ofValue v
    | none => .ok o.unmatched
  return { gfm := gfm.getD o.gfm, rules := rules.getD o.rules, unmatched }

/-- All rules: the caller's, the GitHub-flavoured ones if they are asked for, the plain ones. -/
def allRules : List RuleSource :=
  o.rules ++ (if o.gfm then gfmRules.map .ready else []) ++ markdownRules.map .ready

/-- The rules and the policy of one conversion. -/
def context : Except Error Context := do
  let rules ← composeRules o.allRules
  return { rules, policy := o.unmatched }

end Options

/-- The place below which a document is converted, with its white space collapsed. -/
def collapsedRoot (document : List Node) : Place :=
  let root := Place.root document
  root.withNodes (root.collapse isBlockTag isPreTag)

/-- The tree of a text of markup, the white space around its blocks collapsed. -/
def documentOfMarkup (markup : Text) : Except Error (List Node) :=
  (parseDocument markup).map fun document => (collapsedRoot document).wholeDocument

/-- The Markdown below a place whose white space has been collapsed. -/
def Context.render (c : Context) (root : Place) : Run Text := do
  Run.note (.removedBlank root.countBlank)
  return normalize (← c.fold (root.withNodes root.removeBlank))

/-- The Markdown of a document. -/
def Context.convert (c : Context) (document : List Node) : Run Text :=
  c.render (collapsedRoot document)

/-- The Markdown of a text of markup; nothing for nothing, and anything but a text is refused. -/
def Options.convert (o : Options) (input : Value) : Run Text :=
  match input with
  | .text [] => pure []
  | .text markup => do
    let context ← Run.ofExcept o.context
    let document ← Run.ofExcept (parseDocument (escapeListMarkers markup))
    context.convert document
  | v => throw (.inputNotText v)

end HtmlMarkdown
