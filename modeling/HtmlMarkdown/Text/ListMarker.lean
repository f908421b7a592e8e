import HtmlMarkdown.Text.Basic
import HtmlMarkdown.Text.Digit

/-!
# Literal list markers

Digits, a period and a space at the head of a line would be read back as an ordered list item.

* `escapeListMarkers`: such a period gets a backslash.
-/

namespace HtmlMarkdown

/-- A text with a backslash before the period of every run of digits that a period and a space
follow. -/
def escapeListMarkers : Text → Text
  | [] => []
  | c :: s =>
    if isDecimalDigit c then
      let digits := c :: s.takeWhile isDecimalDigit
      match _ : s.dropWhile isDecimalDigit with
      | '.' :: ' ' :: rest => digits ++ '\\' :: '.' :: ' ' :: escapeListMarkers rest
      | rest => digits ++ escapeListMarkers rest
    else c :: escapeListMarkers s
termination_by s => s.length
decreasing_by
  · have h := (List.dropWhile_suffix isDecimalDigit (l := s)).length_le
    simp_all only [List.length_cons]
    omega
  · have h := (List.dropWhile_suffix isDecimalDigit (l := s)).length_le
    simp_all only [List.length_cons]
    omega
  · simp

end HtmlMarkdown
