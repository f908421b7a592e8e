import Mathlib
import HtmlMarkdown.Proofs.Kept
import HtmlMarkdown.Proofs.Line
import HtmlMarkdown.Proofs.Tidy

/-!
# The shape of a conversion

Every conversion ends with ink and has no two blank lines side by side after its first line. Its
first line may be blank: a break at the start of a document leaves two spaces there, and of these
only the line feed after them would be taken away.

* `contentBelow_leadingBreak`: a break before text;
* **`isShaped_convert_iff`**: when the Markdown of a document begins with ink in its first line.
-/

namespace HtmlMarkdown

/-- **The shape of every conversion.** The Markdown of a document is empty, or it ends with ink and
no two blank lines stand side by side after its first line. Its first line has ink too unless the
content of the root begins, after its leading tabs and line breaks, with white space in which there
is a line feed. If the rules can read the attributes that they ask for, there is such Markdown. -/
theorem isShaped_convert_iff (gfm : Bool) (document : List Node) (s : Progress) :
    (∀ text s', ((Context.builtIn gfm .passthrough).convert document).run s = .ok text s' →
      (text = [] ∨ text.IsTidy) ∧
      ∃ content, (Context.builtIn gfm .passthrough).contentBelow (foldedRoot document) =
          .ok content ∧
        ((text = [] ∨ text.IsShaped) ↔ '\n' ∉ content.tidyEnds.takeWhile isBlank)) ∧
    (Everywhere Node.IsConvertible (Place.root document).nodes →
      ∃ text s', ((Context.builtIn gfm .passthrough).convert document).run s = .ok text s') := by
  refine ⟨fun text s' hrun => ?_, fun hconv => exists_run_convert gfm hconv s⟩
  obtain ⟨content, hcontent, rfl⟩ := Context.exists_run_convert_iff.mp ⟨s', hrun⟩
  exact ⟨isTidy_normalize content, content, hcontent, isShaped_normalize_iff content⟩

/-- A break before text. -/
def leadingBreak : List Node := [.element "br" [] [], .string .plain ['x']]

theorem nodes_foldedRoot_leadingBreak : (foldedRoot leadingBreak).nodes = leadingBreak := by
  have hvoid : Everywhere Scan.VoidEndsLine (Place.root leadingBreak).nodes := by decide
  rw [nodes_foldedRoot, collapseNodes_eq hvoid]
  rfl

theorem contentBelow_leadingBreak (gfm : Bool) :
    (Context.builtIn gfm .passthrough).contentBelow (foldedRoot leadingBreak) =
      .ok (if gfm then ['\n', 'x'] else [' ', ' ', '\n', 'x']) := by
  rw [Context.contentBelow, nodes_foldedRoot_leadingBreak, inside_foldedRoot]
  cases gfm <;> rfl

/-- **Two spaces and a line feed are left at the start**: the first line of the Markdown is blank. -/
theorem not_isShaped_convert_leadingBreak : ∃ text s',
    ((Context.builtIn false .passthrough).convert leadingBreak).run {} = .ok text s' ∧
    text = [' ', ' ', '\n', 'x'] ∧ ¬ (text = [] ∨ text.IsShaped) := by
  obtain ⟨s', hrun⟩ := Context.exists_run_convert_iff (s := {}).mpr
    ⟨_, contentBelow_leadingBreak false, rfl⟩
  have hblank : Text.isBlank [' ', ' ', '\n'] = true := by decide
  have htext : normalize [' ', ' ', '\n', 'x'] = [' ', ' ', '\n', 'x'] := by
    have hclose := closeBlankLines_append_cons (c := 'x') hblank (by decide) []
    rw [closeBlankLines] at hclose
    rw [normalize_eq_closeBlankLines]
    exact hclose
  exact ⟨_, s', hrun, htext, mt (isShaped_normalize_iff _).mp (by decide)⟩

theorem isShaped_convert_iff_leadingBreak :
    Everywhere Node.IsConvertible (Place.root leadingBreak).nodes ∧
    ∃ text s', ((Context.builtIn true .passthrough).convert leadingBreak).run {} = .ok text s' ∧
      (text = [] ∨ text.IsShaped) := by
  have hconv : Everywhere Node.IsConvertible (Place.root leadingBreak).nodes := by decide
  obtain ⟨hshape, hok⟩ := isShaped_convert_iff true leadingBreak {}
  obtain ⟨text, s', hrun⟩ := hok hconv
  obtain ⟨_, content, hcontent, hiff⟩ := hshape text s' hrun
  rw [contentBelow_leadingBreak, Except.ok.injEq] at hcontent
  subst hcontent
  exact ⟨hconv, text, s', hrun, hiff.mpr (by decide)⟩

end HtmlMarkdown
