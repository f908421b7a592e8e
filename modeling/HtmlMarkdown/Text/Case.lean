import HtmlMarkdown.Text.Basic
import HtmlMarkdown.Text.Range
import HtmlMarkdown.Text.CaseTable

/-!
# Upper and lower case

Case mappings of whole texts: a character may take several in the other case, and a capital sigma
has a form of its own at the end of a word.

* `Text.lower`, `Text.upper`; `lowerName` for names of elements and attributes.
-/

namespace HtmlMarkdown

namespace CaseTable

/-- The code that the first run with `n` in it maps `n` to. -/
def mapped : List (Nat × Nat × Nat × Nat) → Nat → Nat
  | [], n => n
  | (first, last, step, image) :: rest, n =>
    if first ≤ n && n ≤ last && (n - first) % step == 0 then image + (n - first) else mapped rest n

end CaseTable

/-- The lower-case form of one character, its neighbours apart. -/
def lowerChar (c : Char) : Text :=
  if c.toNat < 0x80 then [c.toLower]
  else if c.toNat = 0x130 then ['i', Char.ofNat 0x307]
  else [Char.ofNat (CaseTable.mapped CaseTable.lowerRuns c.toNat)]

/-- The upper-case form of one character. -/
def upperChar (c : Char) : Text :=
  if c.toNat < 0x80 then [c.toUpper]
  else match CaseTable.upperExpansions.lookup c.toNat with
    | some codes => codes.map Char.ofNat
    | none => [Char.ofNat (CaseTable.mapped CaseTable.upperRuns c.toNat)]

/-- A letter with case. -/
def isCased (c : Char) : Bool := Codes.within CaseTable.casedRanges c.toNat

/-- A mark that may stand inside a word. -/
def isWordMark (c : Char) : Bool := Codes.within CaseTable.ignorableRanges c.toNat

/-- The first character that is no word mark is a letter with case. -/
def meetsCased (s : Text) : Bool := ((s.dropWhile isWordMark).head?.map isCased).getD false

/-- The capital sigma. -/
def capitalSigma : Char := Char.ofNat 0x3A3

namespace Text

/-- The lower-case form of a text that comes after `before`, nearest character first. -/
def lowerAfter (before : Text) : (s : Text) → Text
  | [] => []
  | c :: s =>
    (if c = capitalSigma then
      [Char.ofNat (if meetsCased before && !meetsCased s then 0x3C2 else 0x3C3)]
    else lowerChar c) ++ lowerAfter (c :: before) s

/-- The lower-case form of a text. -/
def lower (s : Text) : Text := lowerAfter [] s

/-- The upper-case form of a text. -/
def upper (s : Text) : Text := s.flatMap upperChar

end Text

/-- The lower-case form of a name. -/
def lowerName (name : String) : String := String.ofList (Text.lower name.toList)

end HtmlMarkdown
