/-!
# Classes of characters given by tables of codes

* `Codes.within`: membership in ascending closed ranges.
* `Codes.inRow`: membership in rows of one length, given by their first codes.
-/

namespace HtmlMarkdown.Codes

/-- Membership of a code in ascending closed ranges. -/
def within : List (Nat × Nat) → Nat → Bool
  | [], _ => false
  | (lo, hi) :: rest, n => if n < lo then false else n ≤ hi || within rest n

/-- Membership of a code in one of the rows of `size` codes that begin at ascending places. -/
def inRow (size : Nat) : List Nat → Nat → Bool
  | [], _ => false
  | start :: rest, n => if n < start then false else n < start + size || inRow size rest n

end HtmlMarkdown.Codes
