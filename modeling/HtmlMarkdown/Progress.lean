import Std.Data.HashMap
import HtmlMarkdown.Error
import HtmlMarkdown.Node.Place

/-!
# What a conversion has done so far

* `Outputs`: the Markdown of each element converted so far, by its address;
* `Event`: what a conversion notes on its way; `Progress`: both together;
* `Run`: a computation that makes progress and may fail; what it did before it fails stays done.
-/

namespace HtmlMarkdown

/-- The Markdown of elements, by address. -/
structure Outputs where
  table : Std.HashMap (List Nat) Text := {}

namespace Outputs

/-- The Markdown stored under an address. -/
def get? (outputs : Outputs) (address : List Nat) : Option Text := outputs.table[address]?

/-- The outputs with the Markdown of an address set. -/
def insert (outputs : Outputs) (address : List Nat) (text : Text) : Outputs :=
  ⟨outputs.table.insert address text⟩

@[simp] theorem get?_empty (a : List Nat) : ({} : Outputs).get? a = none := by
  simp [get?]

theorem get?_insert (outputs : Outputs) (a b : List Nat) (text : Text) :
    (outputs.insert a text).get? b = if a = b then some text else outputs.get? b := by
  simp [get?, insert, Std.HashMap.getElem?_insert]

end Outputs

/-- What a conversion notes on its way. -/
inductive Event
  /-- A caller's replacement is called for an element with this tag and content. -/
  | called (tag : String) (content : Text)
  /-- No rule matches an element with this tag; its content is kept. -/
  | keptContent (tag : String)
  /-- So many comments and blank texts are left out. -/
  | removedBlank (count : Nat)
  /-- So many elements are about to be converted by so many rules. -/
  | converting (elements rules : Nat)
  deriving DecidableEq

/-- What a conversion has done so far. -/
structure Progress where
  outputs : Outputs := {}
  events : Array Event := #[]

/-- A computation that makes progress and may fail. -/
abbrev Run := EStateM Error Progress

namespace Run

/-- Note an event. -/
def note (event : Event) : Run Unit := modify fun s => { s with events := s.events.push event }

/-- The value of a computation without progress. -/
def ofExcept {α : Type} : Except Error α → Run α
  | .ok a => pure a
  | .error e => throw e

end Run

/-- The calls of callers' replacements among events, in order. -/
def Progress.calls (s : Progress) : List (String × Text) :=
  s.events.toList.filterMap fun
    | .called tag content => some (tag, content)
    | _ => none

end HtmlMarkdown
