import HtmlMarkdown.Error
import HtmlMarkdown.Markup.Tag
import HtmlMarkdown.Node.Basic

/-!
# Markup as tokens

A text of markup is read in two rounds. The first stops at what is not complete yet; the second
takes the rest as the end of the text.

* `Token`: a piece of text, a tag, or a string that is no text;
* `readMarkup`, `readReference`: what begins with `<` and with `&`;
* `readRound`: one round; `Token.ofText`: all tokens of a text.
-/

namespace HtmlMarkdown

/-! ## Tokens -/

/-- A piece of markup. -/
inductive Token
  | text (s : Text)
  | startTag (name : String) (attributes : List RawAttribute) (isClosed : Bool)
  | endTag (name : String)
  | string (kind : StringKind) (value : Text)

/-- Tokens that have been read, the element whose end alone is looked for, if any, and the rest. -/
structure Reading where
  tokens : List Token
  raw : Option String
  rest : Text

/-- The elements whose content is not read as markup. -/
def isRawTag (name : String) : Bool := name == "script" || name == "style"

/-! ## Comments, sections and declarations -/

/-- The start of a marked section that ends like any other. -/
def sectionNames : List String := ["temp", "cdata", "ignore", "include", "rcdata"]

/-- The start of a conditional section. -/
def conditionNames : List String := ["if", "else", "endif"]

/-- What follows two hyphens, white space and the end of a comment. -/
def afterCommentEnd? : Text → Option Text
  | '-' :: '-' :: s =>
    match s.dropWhile isBlank with
    | '>' :: rest => some rest
    | _ => none
  | _ => none

/-- What follows a bracket, white space and the end of a section. -/
def afterConditionEnd? : Text → Option Text
  | ']' :: s =>
    match s.dropWhile isBlank with
    | '>' :: rest => some rest
    | _ => none
  | _ => none

/-- What follows two brackets and the end of a section, white space between them. -/
def afterSectionEnd? : Text → Option Text
  | ']' :: s => afterConditionEnd? (s.dropWhile isBlank)
  | _ => none

/-- A marked section: character data, or a declaration. -/
def sectionToken (content : Text) : Token :=
  if (content.take 6).map Char.toUpper = "CDATA[".toList then .string .cdata (content.drop 6)
  else .string .declaration content

/-- A character of the name of a section after its first one. -/
def isSectionChar (c : Char) : Bool := c.isAlphanum || c == '-' || c == '_' || c == '.'

/-- A marked section after its `<![`; nothing if it is not complete. -/
def readSection (s : Text) : Except Error (Option (Token × Text)) :=
  match s with
  | [] => .ok none
  | c :: rest =>
    if !isLetter c then .error .markupRejected
    else if ((rest.dropWhile isSectionChar).dropWhile isBlank).isEmpty then .ok none
    else
      let name := keptName (c :: rest.takeWhile isSectionChar)
      let finish (after? : Text → Option Text) : Option (Token × Text) :=
        (Text.splitBy? after? s).map fun (content, rest) => (sectionToken content, rest)
      if sectionNames.contains name then .ok (finish afterSectionEnd?)
      else if conditionNames.contains name then .ok (finish afterConditionEnd?)
      else .error .markupRejected

/-- A string of markup up to the next `>`. -/
def readUpToEnd (make : Text → Token) (s : Text) : Option (Token × Text) :=
  (Text.splitAt? '>' s).map fun (content, rest) => (make content, rest)

/-- The word that declares the type of a document, in lower case. -/
def doctypeWord : Text := "doctype".toList

/-- What follows `<!`; nothing if it is not complete. -/
def readDeclaration (s : Text) : Except Error (Option (Token × Text)) :=
  match s with
  | '-' :: '-' :: s =>
    .ok ((Text.splitBy? afterCommentEnd? s).map fun (content, rest) =>
      (.string .comment content, rest))
  | '[' :: s => readSection s
  | s =>
    if (s.take 7).map Char.toLower = doctypeWord then
      .ok ((Text.splitAt? '>' (s.drop 7)).map fun (content, rest) =>
        (.string .doctype (content.drop 1), rest))
    else .ok (readUpToEnd (.string .comment) s)

/-! ## Tags and what looks like them -/

/-- What follows `</`, outside and inside a raw element; nothing if it is not complete. -/
def readEndTag (raw : Option String) (s : Text) : Option Reading :=
  match Text.splitAt? '>' s with
  | none => none
  | some (content, rest) =>
    match readEndTagName? s, raw with
    | some (name, after), none => some ⟨[.endTag name], none, after⟩
    | some (name, after), some element =>
      if name = element then some ⟨[.endTag name], none, after⟩
      else some ⟨[.text ('<' :: '/' :: content ++ ['>'])], raw, rest⟩
    | none, some _ => some ⟨[.text ('<' :: '/' :: content ++ ['>'])], raw, rest⟩
    | none, none =>
      match s with
      | c :: _ =>
        if isLetter c then
          let (name, afterName) := spanTagName s
          (Text.splitAt? '>' afterName).map fun (_, rest) =>
            ⟨[.endTag (keptName name)], none, rest⟩
        else if c = '>' then some ⟨[], none, rest⟩
        else some ⟨[.string .comment content], none, rest⟩
      | [] => none

/-- What begins with a `<` before `s`, with `fuel` attributes at most; nothing if it is not
complete. -/
def readMarkup (fuel : Nat) (raw : Option String) (s : Text) : Except Error (Option Reading) :=
  let plain (r : Option (Token × Text)) : Option Reading :=
    r.map fun (token, rest) => ⟨[token], raw, rest⟩
  match s with
  | [] => .ok none
  | '/' :: s => .ok (readEndTag raw s)
  | '?' :: s => .ok (plain (readUpToEnd (.string .instruction) s))
  | '!' :: s => (readDeclaration s).map plain
  | c :: rest =>
    if isLetter c then
      match readStartTag fuel s with
      | .complete name attributes isClosed rest =>
        let raw := if isRawTag name && !isClosed then some name else raw
        (unescapeAttributes attributes).map fun attributes =>
          some ⟨[.startTag name attributes isClosed], raw, rest⟩
      | .spoilt attributes after =>
        -- the values are read, though the tag turns out to be none
        (unescapeAttributes attributes).map fun _ =>
          some ⟨[.text ('<' :: s.take (s.length - after.length))], raw, after⟩
      | .incomplete => .ok none
    else .ok (some ⟨[.text ['<']], raw, c :: rest⟩)

/-- What is read for something incomplete at the end of the text: up to the next `>`, else up to the
next `<`, else the character alone. -/
def readIncomplete (s : Text) : Text × Text :=
  match Text.splitAt? '>' s with
  | some (content, rest) => ('<' :: content ++ ['>'], rest)
  | none =>
    match s.span fun c => c != '<' with
    | (_, []) => (['<'], s)
    | (content, rest) => ('<' :: content, rest)

/-! ## References -/

/-- What is made of an ampersand: it is read, or the round stops. -/
inductive ReferenceReading
  | read (text rest : Text)
  | stop (text rest : Text)

/-- A character of a name after an ampersand. -/
def isReferenceChar (c : Char) : Bool := c.isAlphanum || c == '-' || c == '.'

/-- The name at the head of a text, which begins with a letter, if a character ends it, and the rest
from this character on; at the end of the text the last hyphen or period ends the name. -/
def readReferenceName? (s : Text) : Option (Text × Text) :=
  match s.span isReferenceChar with
  | (name, c :: rest) => some (name, c :: rest)
  | (name, []) =>
    let ending := (name.reverse.takeWhile Char.isAlphanum).reverse
    match name.reverse.dropWhile Char.isAlphanum with
    | mark :: before => some (before.reverse, mark :: ending)
    | [] => none

/-- The number of some digits, if a character that is no hexadecimal digit ends them, and the rest
from this character on. -/
def endedNumber? (read : Text → Except Error Nat) : Text × Text → Except Error (Option (Nat × Text))
  | (d :: digits, c :: rest) =>
    if (hexValue? c).isSome then .ok none
    else (read (d :: digits)).map fun n => some (n, c :: rest)
  | _ => .ok none

/-- The number at the head of a text, in decimal or after an `x` in hexadecimal, if it has an end, and
the rest from there on. -/
def readReferenceNumber? (s : Text) : Except Error (Option (Nat × Text)) :=
  let hex (s : Text) := endedNumber? Reference.readHex (s.span fun c => (hexValue? c).isSome)
  match s with
  | 'x' :: s => hex s
  | 'X' :: s => hex s
  | s => endedNumber? Reference.readDecimal (s.span Char.isDigit)

/-- What is made of an ampersand before `s`. -/
def readReference (isLast : Bool) (s : Text) : Except Error ReferenceReading :=
  match s with
  | [] => .ok (.stop [] ['&'])
  | '#' :: digits =>
    (readReferenceNumber? digits).map fun
      | some (n, rest) => .read [Reference.ofNumber n] (Reference.dropEnd rest).2
      | none => if digits.elem ';' then .stop ['&', '#'] digits else .stop [] ('&' :: s)
  | c :: rest =>
    if isLetter c then
      match readReferenceName? s with
      | some (name, rest) => .ok (.read (Reference.ofName name) (Reference.dropEnd rest).2)
      | none => .ok (if isLast && rest.isEmpty then .stop [] s else .stop [] ('&' :: s))
    else .ok (.read ['&'] s)

/-! ## Text up to the next token -/

/-- A letter of a raw element's name, in any writing that counts as the same. -/
def isSameLetter (letter c : Char) : Bool :=
  c.toLower == letter || (letter == 's' && c.toNat == 0x17F) ||
    (letter == 'i' && (c.toNat == 0x130 || c.toNat == 0x131))

/-- What follows a name at the head of a text, in upper or lower case. -/
def afterName? : (name s : Text) → Option Text
  | [], s => some s
  | letter :: name, c :: s => if isSameLetter letter c then afterName? name s else none
  | _ :: _, [] => none

/-- The text begins with the end tag of a raw element. -/
def isRawEnd (name : Text) (s : Text) : Bool :=
  match s with
  | '<' :: '/' :: s =>
    match afterName? name (s.dropWhile isBlank) with
    | some s => (s.dropWhile isBlank).head? == some '>'
    | none => false
  | _ => false

/-- The text before the end tag of a raw element, and the text from it on. -/
def splitRaw? (name : Text) (s : Text) : Option (Text × Text) :=
  Text.splitBy? (fun s => if isRawEnd name s then some s else none) s

/-- The text up to what has to be read next, and the rest from it on; in a raw element without an
end nothing is read. -/
def readText (raw : Option String) (s : Text) : Option (Text × Text) :=
  match raw with
  | none => some (s.span fun c => c != '<' && c != '&')
  | some name => splitRaw? name.toList s

/-- The tokens of a text that is data; an empty one has none. -/
def textTokens (s : Text) : List Token := if s.isEmpty then [] else [.text s]

/-! ## Rounds -/

/-- One round over a text, in as many steps as `fuel` allows: the tokens read so far, the latest
first, and what follows them. -/
def readRound (isLast : Bool) : (fuel : Nat) → Reading → Except Error Reading
  | 0, r => .ok r
  | fuel + 1, r =>
    match readText r.raw r.rest with
    | none => .ok r
    | some (text, rest) =>
      let tokens := textTokens text ++ r.tokens
      match rest with
      | [] => .ok { r with tokens, rest := [] }
      | '<' :: s => do
        match ← readMarkup fuel r.raw s with
        | some next =>
          readRound isLast fuel { next with tokens := next.tokens.reverse ++ tokens }
        | none =>
          if isLast then
            let (text, rest) := readIncomplete s
            readRound isLast fuel { r with tokens := .text text :: tokens, rest }
          else .ok { r with tokens, rest }
      | _ :: s => do
        match ← readReference isLast s with
        | .read text rest =>
          readRound isLast fuel { r with tokens := textTokens text ++ tokens, rest }
        | .stop text rest => .ok { r with tokens := textTokens text ++ tokens, rest }

/-- The tokens of a text of markup. -/
def Token.ofText (s : Text) : Except Error (List Token) := do
  let first ← readRound false (s.length + 1) ⟨[], none, s⟩
  let last ← readRound true (first.rest.length + 1) first
  let remainder := if last.raw.isNone then textTokens last.rest else []
  return (remainder ++ last.tokens).reverse

end HtmlMarkdown
