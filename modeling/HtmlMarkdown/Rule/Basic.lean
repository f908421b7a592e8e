import HtmlMarkdown.Progress

/-!
# Rules

A rule turns the elements that its filter selects into Markdown.

* `Filter`: elements by tag, by several tags, or by a test; `Filter.holds`;
* `FilterSource`: what a caller may give for a filter; `FilterSource.toFilter`;
* `Replacement`, `Rule`, `Rule.label`, `Rule.apply`;
* `RuleSource`: what a caller may give for a rule; `RuleSource.toRule`, `composeRules`;
* `rulesLiteral`: rules as a message shows them;
* `findRule`: the first rule that selects an element.
-/

namespace HtmlMarkdown

/-! ## Filters -/

/-- A choice of elements: those with one tag, with one of several tags, or that pass a test. A test
may have a label, and may fail. -/
inductive Filter
  | tag (name : String)
  | tags (names : List String)
  | test (label : Option Text) (holds : Place → Except Error Bool)

namespace Filter

/-- The elements with this tag, in upper or lower case. -/
def ofTag (name : String) : Filter := .tag (lowerName name)

/-- The elements with one of these tags, in upper or lower case. -/
def ofTags (names : List String) : Filter :=
  .tags ((names.map lowerName).mergeSort fun a b => a ≤ b).eraseDups

/-- The places that pass a test that never fails. -/
def ofTest (label : String) (holds : Place → Bool) : Filter :=
  .test (some label.toList) fun p => .ok (holds p)

/-- The filter selects a place. -/
def holds (p : Place) : Filter → Except Error Bool
  | .tag name => .ok (p.tagName == name)
  | .tags names => .ok (names.contains p.tagName)
  | .test _ holds => holds p

/-- What a rule without a name is called by its filter. -/
def label : Filter → Text
  | .tag name => name.toList
  | .tags names => Text.join ['|'] (names.map Text.ofString)
  | .test label _ => label.getD "predicate".toList

end Filter

/-- What a caller gives for a filter: one that is ready, or a value that may stand for one. -/
inductive FilterSource
  | ready (filter : Filter)
  | value (v : Value)

/-- The texts of a list, if only texts are in it. -/
def textsOf? : List Value → Option (List Text)
  | [] => some []
  | .text s :: vs => (textsOf? vs).map (s :: ·)
  | _ => none

namespace FilterSource

/-- The filter that is meant: a text means a tag, a list of texts means several. -/
def toFilter : FilterSource → Except Error Filter
  | ready filter => .ok filter
  | value (.text s) => .ok (.ofTag (String.ofList s))
  | value (.list vs) =>
    match textsOf? vs with
    | some names => .ok (.ofTags (names.map Text.toString))
    | none => .error (.unsupportedFilter (.list vs))
  | value v => .error (.unsupportedFilter v)

/-- A filter that is ready selects a place; a value that was never made a filter is refused. -/
def holds (p : Place) : FilterSource → Except Error Bool
  | ready filter => filter.holds p
  | value v => .error (.notFilter v)

end FilterSource

/-! ## Rules -/

/-- What a rule makes of an element with its converted content: a function, whose calls are noted if
it is watched, or a value that is none. -/
inductive Replacement
  | function (isWatched : Bool) (run : Text → Place → Except Error Value)
  | value (v : Value)

/-- A replacement that always makes text of an element. -/
def Replacement.ofText (run : Text → Place → Text) : Replacement :=
  .function false fun content p => .ok (.text (run content p))

/-- A replacement that makes text of an element or fails. -/
def Replacement.ofResult (run : Text → Place → Except Error Text) : Replacement :=
  .function false fun content p => (run content p).map .text

/-- A rule: which elements it is for, what it makes of them, and a name. -/
structure Rule where
  filter : Filter
  replacement : Replacement
  name : Value := .text []

namespace Rule

variable (r : Rule)

/-- What messages call the rule: its name, or what its filter selects. -/
def label : Value := if r.name.isTrue then r.name else .text r.filter.label

/-- The replacement of the rule is a function. -/
def checkReplacement : Except Error Unit :=
  match r.replacement with
  | .function .. => .ok ()
  | .value _ => .error (.replacementNotFunction r.label.display)

/-- What the rule makes of an element with its content; only text will do. -/
def apply (content : Text) (p : Place) : Run Text :=
  match r.replacement with
  | .value _ => throw (.replacementNotFunction r.label.display)
  | .function isWatched run => do
    if isWatched then Run.note (.called p.tagName content)
    match ← Run.ofExcept (run content p) with
    | .text s => pure s
    | v => throw (.replacementNotText r.label.display v.typeName)

end Rule

/-! ## Composing rules -/

/-- What a caller gives for a rule: one that is ready, the parts of one, or a value that is none. -/
inductive RuleSource
  | ready (rule : Rule)
  | parts (filter : FilterSource) (replacement : Replacement) (name : Value)
  | value (v : Value)

/-- The rule that is meant. -/
def RuleSource.toRule : RuleSource → Except Error Rule
  | ready rule => .ok rule
  | parts filter replacement name => do
    let filter ← filter.toFilter
    return { filter, replacement, name }
  | value v => .error (.notRule v)

/-- Rules from what a caller gives, in order; the first that is none fails. -/
def composeRules (sources : List RuleSource) : Except Error (List Rule) :=
  sources.mapM RuleSource.toRule

/-- Rules as a message shows them: by their labels. -/
def rulesLiteral (rules : List Rule) : Text :=
  "Registry(".toList ++ (Value.list (rules.map Rule.label)).literal ++ [')']

/-- The first rule whose filter selects a place, if its replacement is a function. -/
def findRule (p : Place) : List Rule → Except Error (Option Rule)
  | [] => .ok none
  | r :: rules => do
    if ← r.filter.holds p then
      r.checkReplacement
      return some r
    else findRule p rules

end HtmlMarkdown
