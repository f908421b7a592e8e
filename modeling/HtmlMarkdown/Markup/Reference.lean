import HtmlMarkdown.Error
import HtmlMarkdown.Markup.Entity

/-!
# Character references

A character may be written by its number or by a name. Text and attribute values read references by
different rules: in text every name needs an end, and an unknown one loses its semicolon; in a value
old names are found even at the head of a longer word. A number that no character has, such as half of
a surrogate pair, stands for the replacement character; one with too many decimal digits is an error.

* `Reference.readDecimal`: the number that decimal digits write;
* `Reference.ofNumber`, `Reference.ofName`: what a reference in text stands for;
* `unescape`: a value with its references replaced.
-/

namespace HtmlMarkdown

namespace Reference

/-- The number that decimal digits write, if they are not too many; leading zeros count as well. -/
def readDecimal (digits : Text) : Except Error Nat :=
  if Error.maxDigits < digits.length then .error (.tooManyDigits digits.length)
  else .ok (decimalNumber digits)

/-- The number that hexadecimal digits write, as many as they are. -/
def readHex (digits : Text) : Except Error Nat := .ok (hexNumber digits)

/-- The character that a number in text stands for. -/
def ofNumber (n : Nat) : Char :=
  if n = 0 then replacementChar
  else if 0x80 ≤ n && n ≤ 0x9F then windowsChar n
  else (ofCode n).getD replacementChar

/-- The text that a name in text stands for; an unknown one stands for itself. -/
def ofName (name : Text) : Text :=
  match Entity.find? name with
  | some entity => entity.text
  | none => '&' :: name

/-- The number of a character that values leave out. -/
def isLeftOut (n : Nat) : Bool :=
  (1 ≤ n && n ≤ 8) || n == 0xB || (0xE ≤ n && n ≤ 0x1F) || n == 0x7F ||
    (0xFDD0 ≤ n && n ≤ 0xFDEF) || n % 0x10000 == 0xFFFE || n % 0x10000 == 0xFFFF

/-- The text that a number in a value stands for. -/
def ofNumberInValue (n : Nat) : Text :=
  if n = 0 then [replacementChar]
  else if 0x80 ≤ n && n ≤ 0x9F then [windowsChar n]
  else match ofCode n with
    | some c => if isLeftOut n then [] else [c]
    | none => [replacementChar]

/-- An old name at the head of a word, the longest of at most `count` and at least two characters,
with the rest of the word behind it. -/
def ofOldName? (word : Text) : (count : Nat) → Option Text
  | 0 | 1 => none
  | count + 2 =>
    match Entity.find? (word.take (count + 2)) with
    | some entity =>
      if entity.isLegacy then some (entity.text ++ word.drop (count + 2))
      else ofOldName? word (count + 1)
    | none => ofOldName? word (count + 1)

/-- The text that a word in a value stands for, with a semicolon behind it or not. -/
def ofWord (word : Text) (hasEnd : Bool) : Text :=
  let ending := if hasEnd then [';'] else []
  let whole := match Entity.find? word with
    | some entity => if hasEnd || entity.isLegacy then some entity.text else none
    | none => none
  match whole with
  | some text => text
  | none =>
    match ofOldName? word (if hasEnd then word.length else word.length - 1) with
    | some text => text ++ ending
    | none => '&' :: word ++ ending

/-- A character of a word after an ampersand. -/
def isWordChar (c : Char) : Bool :=
  !(c == '\t' || c == '\n' || c == Char.ofNat 0x0C || c == ' ' || c == '<' || c == '&' ||
    c == '#' || c == ';')

/-- A text without a semicolon at its head, and whether there was one. -/
def dropEnd : Text → Bool × Text
  | ';' :: s => (true, s)
  | s => (false, s)

/-- What a number in a value stands for, and the text behind it; nothing without digits. -/
def numberInValue? (digits rest : Text) (read : Text → Except Error Nat) :
    Except Error (Option (Text × Text)) :=
  if digits.isEmpty then .ok none
  else (read digits).map fun n => some (ofNumberInValue n, (dropEnd rest).2)

/-- What a reference after an ampersand in a value stands for, and the text behind it. -/
def inValue? (s : Text) : Except Error (Option (Text × Text)) :=
  let hex (s : Text) :=
    numberInValue? (s.takeWhile fun c => (hexValue? c).isSome)
      (s.dropWhile fun c => (hexValue? c).isSome) readHex
  match s with
  | '#' :: 'x' :: s => hex s
  | '#' :: 'X' :: s => hex s
  | '#' :: s => numberInValue? (s.takeWhile Char.isDigit) (s.dropWhile Char.isDigit) readDecimal
  | s =>
    let word := (s.take 32).takeWhile isWordChar
    if word.isEmpty then .ok none
    else
      let (hasEnd, rest) := dropEnd (s.drop word.length)
      .ok (some (ofWord word hasEnd, rest))

/-- A value with its references replaced, as far as `fuel` reaches. -/
def unescapeWith : (fuel : Nat) → Text → Except Error Text
  | 0, s => .ok s
  | _ + 1, [] => .ok []
  | fuel + 1, c :: s =>
    if c = '&' then do
      match ← inValue? s with
      | some (text, rest) => return text ++ (← unescapeWith fuel rest)
      | none => return c :: (← unescapeWith fuel s)
    else (unescapeWith fuel s).map (c :: ·)

end Reference

/-- An attribute's value with its references replaced. -/
def unescape (s : Text) : Except Error Text :=
  if s.elem '&' then Reference.unescapeWith s.length s else .ok s

end HtmlMarkdown
