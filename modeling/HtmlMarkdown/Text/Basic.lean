/-!
# Texts

A text is a list of characters: what a document says, what an attribute holds, what a conversion
returns.

* `isBlank`: white space of every script; `isSpacing`: the four characters that markup collapses.
* `Text.trim`, `Text.trimStart`, `Text.trimEnd`: a text without the characters of a class at its
  ends.
* `Text.startsWith`, `Text.endsWith`, `Text.contains`, `Text.replaceFirst`, `Text.replaceChar`,
  `Text.split`, `Text.splitBy?`, `Text.splitAt?`: reading and changing texts.
* `ofCode`: the character of a code, where there is one.
-/

namespace HtmlMarkdown

/-- A text, character by character. -/
abbrev Text := List Char

/-- White space, in every script. -/
def isBlank (c : Char) : Bool :=
  let n := c.toNat
  (9 ≤ n && n ≤ 13) || (28 ≤ n && n ≤ 32) || n == 0x85 || n == 0xA0 || n == 0x1680 ||
    (0x2000 ≤ n && n ≤ 0x200A) || n == 0x2028 || n == 0x2029 || n == 0x202F || n == 0x205F ||
    n == 0x3000

/-- The spacing that markup collapses: space, tab, carriage return and line feed. -/
def isSpacing (c : Char) : Bool := c == ' ' || c == '\t' || c == '\r' || c == '\n'

/-- The character with code `n`, if `n` is the code of one. -/
def ofCode (n : Nat) : Option Char := if n.isValidChar then some (Char.ofNat n) else none

/-- What stands for a character that cannot be read. -/
def replacementChar : Char := Char.ofNat 0xFFFD

namespace Text

/-- The text of a string. -/
abbrev ofString (s : String) : Text := s.toList

/-- The decimal digits of `n`. -/
def ofNat (n : Nat) : Text := Nat.toDigits 10 n

/-- A text without its leading characters in `p`. -/
def trimStart (p : Char → Bool) (s : Text) : Text := s.dropWhile p

/-- A text without its trailing characters in `p`. -/
def trimEnd (p : Char → Bool) (s : Text) : Text := (s.reverse.dropWhile p).reverse

/-- A text without its leading and trailing characters in `p`. -/
def trim (p : Char → Bool) (s : Text) : Text := trimEnd p (trimStart p s)

/-- No character but white space. -/
def isBlank (s : Text) : Bool := s.all HtmlMarkdown.isBlank

/-- The text begins with `c`. -/
def startsWith (c : Char) (s : Text) : Bool := s.head? == some c

/-- The text ends with `c`. -/
def endsWith (c : Char) (s : Text) : Bool := s.getLast? == some c

/-- What follows `start`, if the text begins with it. -/
def dropStart? : (start s : Text) → Option Text
  | [], s => some s
  | c :: start, d :: s => if c = d then dropStart? start s else none
  | _ :: _, [] => none

/-- The text `part` occurs in `s`. -/
def contains (part : Text) : (s : Text) → Bool
  | [] => part.isEmpty
  | c :: s => (dropStart? part (c :: s)).isSome || contains part s

/-- The text with the first occurrence of `old` replaced by `new`. -/
def replaceFirst (old new : Text) : (s : Text) → Text
  | [] => if old.isEmpty then new else []
  | c :: s =>
    match dropStart? old (c :: s) with
    | some rest => new ++ rest
    | none => c :: replaceFirst old new s

/-- The text with every `c` replaced by `new`. -/
def replaceChar (c : Char) (new : Text) (s : Text) : Text :=
  s.flatMap fun d => if d = c then new else [d]

/-- The parts of a text between the characters in `p`. -/
def split (p : Char → Bool) : (s : Text) → List Text
  | [] => [[]]
  | c :: s =>
    if p c then [] :: split p s
    else match split p s with
      | [] => [[c]]
      | part :: parts => (c :: part) :: parts

/-- The parts of a text between white space, without empty ones. -/
def blankWords (s : Text) : List Text :=
  (split HtmlMarkdown.isBlank s).filter fun w => !w.isEmpty

/-- The first place from which `rest?` reads something: the text before it, and what `rest?` leaves.
-/
def splitBy? (rest? : Text → Option Text) : (s : Text) → Option (Text × Text)
  | [] => none
  | c :: s =>
    match rest? (c :: s) with
    | some rest => some ([], rest)
    | none => (splitBy? rest? s).map fun (before, rest) => (c :: before, rest)

/-- The text before the first `c`, and the text after it. -/
def splitAt? (c : Char) (s : Text) : Option (Text × Text) :=
  match s.span fun d => d != c with
  | (before, _ :: rest) => some (before, rest)
  | (_, []) => none

/-- Texts one after another with `sep` between them. -/
def join (sep : Text) (parts : List Text) : Text := sep.intercalate parts

/-- The string of a text. -/
def toString (s : Text) : String := String.ofList s

end Text

end HtmlMarkdown
