import Std.Data.HashMap
import HtmlMarkdown.Markup.EntityTable
import HtmlMarkdown.Text.Digit

/-!
# Looking up the names of characters

* `Entity`: what a name stands for, and whether it may lack its semicolon;
* `Entity.find?`: by name; `windowsChar`: the characters that a code page puts at 80 to 9F.
-/

namespace HtmlMarkdown

/-- What a name stands for, and whether its semicolon may be missing. -/
structure Entity where
  text : Text
  isLegacy : Bool

namespace Entity

/-- The character that marks a name which may lack its semicolon. -/
def isMark (c : Char) : Bool := c == '=' || c == '!'

/-- One word of the table. -/
def ofWord (word : Text) : String × Entity :=
  let codes := (word.dropWhile fun c => !isMark c).drop 1
  (String.ofList (word.takeWhile fun c => !isMark c),
    { text := (Text.split (· == ',') codes).map fun code => Char.ofNat (hexNumber code)
      isLegacy := word.elem '!' })

/-- All names. -/
def table : Std.HashMap String Entity :=
  .ofList (entityLines.flatMap fun line => (Text.blankWords line.toList).map ofWord)

/-- What a name stands for, written without semicolon. -/
def find? (name : Text) : Option Entity := table[String.ofList name]?

end Entity

/-- The codes of the characters that the code page 1252 puts at 80 to 9F; zero where it has none. -/
def windowsCodes : List Nat := [
  0x20AC, 0, 0x201A, 0x192, 0x201E, 0x2026, 0x2020, 0x2021, 0x2C6, 0x2030, 0x160, 0x2039, 0x152, 0,
  0x17D, 0, 0, 0x2018, 0x2019, 0x201C, 0x201D, 0x2022, 0x2013, 0x2014, 0x2DC, 0x2122, 0x161, 0x203A,
  0x153, 0, 0x17E, 0x178]

/-- The character meant by a number from 80 to 9F: the one of the code page 1252, or the one with
this code. -/
def windowsChar (n : Nat) : Char :=
  match windowsCodes[n - 0x80]? with
  | some code => if code = 0 then Char.ofNat n else Char.ofNat code
  | none => Char.ofNat n

end HtmlMarkdown
