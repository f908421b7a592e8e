import HtmlMarkdown.Text.Basic
import HtmlMarkdown.Text.Printable

/-!
# Quoted literals

* `Text.quoted`: a text between quotes, with every character that cannot be shown written as an
  escape.
-/

namespace HtmlMarkdown

/-- The `width` last hexadecimal digits of `n`. -/
def hexDigits (width n : Nat) : Text :=
  let digits := Nat.toDigits 16 n
  List.replicate (width - digits.length) '0' ++ digits

/-- One character of a literal between two `quote` characters. -/
def quotedChar (quote c : Char) : Text :=
  if c = quote || c = '\\' then ['\\', c]
  else if c = '\n' then ['\\', 'n']
  else if c = '\r' then ['\\', 'r']
  else if c = '\t' then ['\\', 't']
  else if isPrintable c then [c]
  else if c.toNat < 0x100 then '\\' :: 'x' :: hexDigits 2 c.toNat
  else if c.toNat < 0x10000 then '\\' :: 'u' :: hexDigits 4 c.toNat
  else '\\' :: 'U' :: hexDigits 8 c.toNat

/-- A text between single quotes, or between double quotes if only single ones occur in it. -/
def Text.quoted (s : Text) : Text :=
  let quote := if s.elem '\'' && !s.elem '"' then '"' else '\''
  quote :: s.flatMap (quotedChar quote) ++ [quote]

end HtmlMarkdown
