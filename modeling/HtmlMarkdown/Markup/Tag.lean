import HtmlMarkdown.Markup.Reference
import HtmlMarkdown.Text.Case

/-!
# Reading tags

* `spanTagName`, `keptName`: names of elements;
* `RawAttribute`, `readAttributes`: the attributes of a start tag, however badly written, as they are
  written; `unescapeAttributes`: their references replaced;
* `StartTag`, `readStartTag`: a start tag; `readEndTagName?`: the name of a well-formed end tag.
-/

namespace HtmlMarkdown

/-! ## Names -/

/-- A letter that a name may begin with. -/
def isLetter (c : Char) : Bool := c.isAlpha

/-- A character that ends the name of a start tag. -/
def endsTagName (c : Char) : Bool :=
  c == '\t' || c == '\n' || c == '\r' || c == Char.ofNat 0x0C || c == ' ' || c == '/' || c == '>' ||
    c == Char.ofNat 0

/-- The name at the head of a text and what follows it. -/
def spanTagName (s : Text) : Text × Text := s.span fun c => !endsTagName c

/-- The name of an element as it is kept. -/
def keptName (name : Text) : String := String.ofList (Text.lower name)

/-- An attribute of a start tag: its name and its value. -/
abbrev RawAttribute := String × Text

/-- Attributes with the references in their values replaced. -/
def unescapeAttributes (attributes : List RawAttribute) : Except Error (List RawAttribute) :=
  attributes.mapM fun (name, value) => (unescape value).map (name, ·)

/-! ## Attributes -/

/-- A position in a text: the character before it, and what follows. -/
structure Cursor where
  before : Char
  rest : Text

namespace Cursor

/-- The position after the characters in `p`. -/
def skip (p : Char → Bool) (c : Cursor) : Cursor :=
  match c.rest.span p with
  | (skipped, rest) => ⟨skipped.getLast?.getD c.before, rest⟩

/-- The position after white space and slashes, but for a slash that ends a tag. -/
def skipGap (c : Cursor) : Cursor :=
  go c.before c.rest
where
  /-- The position after a gap that begins between `before` and `s`. -/
  go (before : Char) : Text → Cursor
    | [] => ⟨before, []⟩
    | d :: s =>
      if isBlank d then go d s
      else if d == '/' && s.head? != some '>' then go d s
      else ⟨before, d :: s⟩

/-- An attribute may begin here: a quote, white space or a slash comes before. -/
def mayBegin (c : Cursor) : Bool :=
  c.before == '\'' || c.before == '"' || isBlank c.before || c.before == '/'

end Cursor

/-- A character of the name of an attribute after its first one. -/
def isNameChar (c : Char) : Bool := !(isBlank c || c == '/' || c == '=' || c == '>')

/-- A character of a value without quotes. -/
def isBareChar (c : Char) : Bool := !(isBlank c || c == '>')

/-- A value without quotes, and the position after it. -/
def readBare (c : Cursor) : Text × Cursor :=
  let (value, rest) := c.rest.span isBareChar
  (value, ⟨value.getLast?.getD c.before, rest⟩)

/-- A value after the sign `=`, and the position after it; `equals` signs and the text `blanks` lie
between the name and `c`. A quote without its partner gives back what lies before it: the last white
space, so that the value is empty, or else the last of several signs, which then begins the value.
-/
def readValue? (equals : Nat) (blanks : Text) (c : Cursor) : Option (Text × Cursor) :=
  match c.rest with
  | [] => some ([], c)
  | q :: s =>
    if q == '\'' || q == '"' then
      match Text.splitAt? q s with
      | some (value, rest) => some (value, ⟨q, rest⟩)
      | none =>
        match blanks.getLast? with
        | some b => some ([], ⟨(blanks.dropLast).getLast?.getD '=', b :: c.rest⟩)
        | none => if 2 ≤ equals then some (readBare ⟨'=', '=' :: c.rest⟩) else none
    else some (readBare c)

/-- What follows the name of an attribute: its value, and the position after it. -/
def readAssignment? (c : Cursor) : Option (Text × Cursor) :=
  let (signs, rest) := (c.skip isBlank).rest.span (· == '=')
  if signs.isEmpty then none
  else
    let (blanks, rest) := rest.span isBlank
    readValue? signs.length blanks ⟨blanks.getLast?.getD '=', rest⟩

/-- One attribute at a position, and the position of the next. -/
def readAttribute? (c : Cursor) : Option (RawAttribute × Cursor) :=
  match c.rest with
  | [] => none
  | d :: s =>
    if c.mayBegin && !(isBlank d || d == '/' || d == '>') then
      let (more, rest) := s.span isNameChar
      let afterName : Cursor := ⟨more.getLast?.getD d, rest⟩
      let (value, afterValue) := (readAssignment? afterName).getD ([], afterName)
      some ((keptName (d :: more), value), afterValue.skipGap)
    else none

/-- The attributes from a position on, and the position after them; `fuel` of them at most. -/
def readAttributes : (fuel : Nat) → Cursor → List RawAttribute × Cursor
  | 0, c => ([], c)
  | fuel + 1, c =>
    match readAttribute? c with
    | some (a, next) =>
      let (others, last) := readAttributes fuel next
      (a :: others, last)
    | none => ([], c)

/-! ## Whole tags -/

/-- What a text that begins like a start tag is. -/
inductive StartTag
  /-- A start tag, whether it closes its element at once, and what follows. -/
  | complete (name : String) (attributes : List RawAttribute) (isClosed : Bool) (rest : Text)
  /-- No tag; the attributes in the part that was read for one, and what follows it. -/
  | spoilt (attributes : List RawAttribute) (rest : Text)
  /-- A tag without an end. -/
  | incomplete

/-- The start tag after a `<` that a letter follows, with `fuel` attributes at most. -/
def readStartTag (fuel : Nat) (s : Text) : StartTag :=
  let (name, rest) := spanTagName s
  let start : Cursor := ⟨name.getLast?.getD '<', rest⟩
  let (attributes, last) := readAttributes fuel start.skipGap
  match last.rest with
  | [] => .incomplete
  | '>' :: rest => .complete (keptName name) attributes false rest
  | '/' :: '>' :: rest => .complete (keptName name) attributes true rest
  | c :: rest => if isLetter c || c == '=' || c == '/' then .incomplete else .spoilt attributes (c :: rest)

/-- A character of the name in a well-formed end tag. -/
def isEndNameChar (c : Char) : Bool :=
  c.isAlphanum || c == '-' || c == '.' || c == ':' || c == '_'

/-- The name in a well-formed end tag after its `</`, and what follows the tag. -/
def readEndTagName? (s : Text) : Option (String × Text) :=
  match s.dropWhile isBlank with
  | [] => none
  | c :: s =>
    if isLetter c then
      match (s.dropWhile isEndNameChar).dropWhile isBlank with
      | '>' :: rest => some (keptName (c :: s.takeWhile isEndNameChar), rest)
      | _ => none
    else none

end HtmlMarkdown
