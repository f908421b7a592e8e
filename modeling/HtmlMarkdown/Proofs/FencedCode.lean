import Mathlib
import HtmlMarkdown.Proofs.CodeBlock

/-!
# Fenced code

With the GitHub-flavoured rules a code block stands between fences. Its lines with ink are kept as
they are; Markdown is made tidy afterwards, and one empty line is left of each group of blank lines.

* `closeGroups`: lines with one empty line for each group of blank ones;
* `closeBlankLines_gap`, **`closeBlankLines_stacked_concat`**: blank lines that are closed, by line;
* `CodeBlock.fencedLines`, `normalize_fenced`: fenced code made tidy;
* **`CodeBlock.convert_fenced`**: the lines that a code block is converted to;
* `CodeBlock.not_verbatim_twoEmptyLines`: two empty lines are not kept.
-/

namespace HtmlMarkdown

/-! ## Groups of blank lines -/

/-- Lines with one empty line for each group of blank ones; `isInGroup` says that the group has its
line. -/
def closeGroups : (isInGroup : Bool) → List Text → List Text
  | _, [] => []
  | isInGroup, line :: rest =>
    if line.isBlank then
      if isInGroup then closeGroups true rest else [] :: closeGroups true rest
    else line :: closeGroups false rest

theorem exists_ink_split {line : Text} (h : line.isBlank = false) :
    ∃ run c rest, line = run ++ c :: rest ∧ Text.isBlank run = true ∧ isBlank c = false := by
  induction line using inductionOnRuns with
  | blank run hrun =>
    rw [hrun] at h
    cases h
  | ink run c rest hrun hc => exact ⟨run, c, rest, rfl, hrun, hc⟩

/-- One empty line is left of white space that ends in a line with ink. -/
theorem closeBlankLines_gap {m line : Text} (hm : m.isBlank = true) (hline : '\n' ∉ line)
    (hink : line.isBlank = false) (rest : Text) :
    closeBlankLines ('\n' :: (m ++ '\n' :: (line ++ rest))) =
      '\n' :: '\n' :: closeBlankLines (line ++ rest) := by
  obtain ⟨run, c, after, rfl, hrun, hc⟩ := exists_ink_split hink
  have hbreak : '\n' ∉ run := fun hmem => hline (List.mem_append_left _ hmem)
  have hhead : ∀ d ∈ (c :: after ++ rest).head?, isBlank d = false := by
    rintro d ⟨⟩
    exact hc
  have hstretch := closeBlankLines_stretch hm hrun hbreak hhead
  rw [List.append_assoc, List.cons_append] at hstretch
  rw [List.append_assoc, closeBlankLines_append_of_not_mem hbreak, hstretch]

section Groups

variable {last : Text} (hlast : '\n' ∉ last) (hink : last.isBlank = false) {lines : List Text}
  (hlines : ∀ line ∈ lines, '\n' ∉ line)

include hlast hink hlines

/-- **Blank lines are closed group by group**, where a line with ink comes last: after an unbroken
text, and after a group that has begun. -/
theorem closeBlankLines_stacked_concat :
    (∀ t : Text, '\n' ∉ t → closeBlankLines (t ++ stacked (lines ++ [last])) =
      t ++ stacked (closeGroups false lines ++ [last])) ∧
    (∀ m : Text, m.isBlank = true → closeBlankLines ('\n' :: (m ++ stacked (lines ++ [last]))) =
      '\n' :: stacked (closeGroups true lines ++ [last])) := by
  induction lines with
  | nil =>
    have hone : closeBlankLines (last ++ []) = last ++ [] := by
      rw [List.append_nil, closeBlankLines_of_not_mem hlast]
    refine ⟨fun t ht => ?_, fun m hm => ?_⟩
    · rw [List.nil_append, stacked_cons, stacked_nil, closeBlankLines_append_line ht hlast hink, hone]
      rfl
    · rw [List.nil_append, stacked_cons, stacked_nil, closeBlankLines_gap hm hlast hink, hone]
      rfl
  | cons line lines ih =>
    rw [List.forall_mem_cons] at hlines
    obtain ⟨hunbroken, hrest⟩ := hlines
    obtain ⟨ihline, ihgroup⟩ := ih hrest
    rcases hblank : line.isBlank with _ | _
    · refine ⟨fun t ht => ?_, fun m hm => ?_⟩
      · rw [List.cons_append, stacked_cons, closeBlankLines_append_line ht hunbroken hblank,
          ihline line hunbroken, closeGroups, hblank, if_neg Bool.false_ne_true, List.cons_append,
          stacked_cons]
      · rw [List.cons_append, stacked_cons, closeBlankLines_gap hm hunbroken hblank,
          ihline line hunbroken, closeGroups, hblank, if_neg Bool.false_ne_true, List.cons_append,
          stacked_cons]
    · refine ⟨fun t ht => ?_, fun m hm => ?_⟩
      · rw [List.cons_append, stacked_cons, closeBlankLines_append_of_not_mem ht,
          ihgroup line hblank, closeGroups, if_pos hblank, if_neg Bool.false_ne_true,
          List.cons_append, stacked_cons, List.nil_append]
      · -- the group goes on: the line joins the white space before it
        have hmore : Text.isBlank (m ++ '\n' :: line) = true := by
          rw [isBlank_append, hm, isBlank_cons_of_isBlank (by decide), hblank]
          rfl
        have hgroup := ihgroup _ hmore
        rw [List.append_assoc, List.cons_append] at hgroup
        rw [List.cons_append, stacked_cons, hgroup, closeGroups, if_pos hblank, if_pos rfl]

end Groups

/-! ## Fences -/

theorem stacked_lines (t : Text) : stacked t.lines = '\n' :: t := by
  obtain ⟨first, rest, hlines⟩ := Text.exists_lines_eq t
  have hjoin := Text.join_lines t
  rw [hlines, join_cons] at hjoin
  rw [hlines, stacked_cons, hjoin]

/-- **Fenced code made tidy** has the lines of the code between two fences, with one empty line for
each group of blank ones. -/
theorem normalize_fenced (code : Text) : normalize (Gfm.fenced [] code) =
    Text.join ['\n'] (Gfm.fence :: (closeGroups false code.lines ++ [Gfm.fence])) := by
  have hbreak : '\n' ∉ Gfm.fence := by decide
  have hfenced : Gfm.fenced [] code = asBlock (Gfm.fence ++ stacked (code.lines ++ [Gfm.fence])) := by
    rw [Gfm.fenced, stacked_append, stacked_lines]
    simp
  have hink : ∀ side : Side, side.InkText (Gfm.fence ++ stacked (code.lines ++ [Gfm.fence])) := by
    have hfence : ∀ side : Side, side.InkText Gfm.fence := by
      intro side
      cases side <;> (rintro c ⟨⟩; decide)
    intro side
    cases side with
    | left => exact Side.inkText_left_append (hfence .left) (by decide) _
    | right =>
      have hend := Side.inkText_right_append (hfence .right) (by decide)
        (Gfm.fence ++ (stacked code.lines ++ ['\n']))
      rw [stacked_append, stacked_cons, stacked_nil, List.append_nil]
      simpa using hend
  rw [hfenced, normalize_eq_closeBlankLines, tidyEnds_asBlock hink, join_cons]
  exact (closeBlankLines_stacked_concat hbreak (by decide)
    fun line hline => Text.not_mem_of_mem_lines hline).1 Gfm.fence hbreak

/-! ## Conversions -/

namespace CodeBlock

/-- The lines of fenced code: those of the code between two fences, with one empty line for each
group of blank ones. -/
def fencedLines (b : CodeBlock) : List Text :=
  Gfm.fence :: (closeGroups false b.code.lines ++ [Gfm.fence])

theorem exists_run_convert_gfm_iff {policy : Policy} {b : CodeBlock} {s : Progress} {text : Text} :
    (∃ s', ((Context.builtIn true policy).convert [b.node]).run s = .ok text s') ↔
      text = if b.code.isBlank then [] else Text.join ['\n'] b.fencedLines := by
  have hcontent : (Context.builtIn true policy).contentBelow (foldedRoot [b.node]) =
      .ok (if b.code.isBlank then [] else Gfm.fenced [] b.code) := by
    rw [foldedRoot_of_isSettled b.isSettled_node, Context.contentBelow_of_nodes_eq rfl]
    exact b.markdownOfNode_gfm .document [] [] policy
  rw [Context.exists_run_convert_iff, hcontent]
  simp only [Except.ok.injEq, exists_eq_left']
  split
  · rw [normalize_eq_nil_iff.mpr (by rfl : Text.tidyEnds [] = [])]
  · rw [normalize_fenced, fencedLines]

/-- **A code block is converted to its lines between fences.** No line with ink is changed; one empty
line is left of each group of blank ones. A block of blank code is left out. -/
theorem convert_fenced (policy : Policy) (b : CodeBlock) (s : Progress) :
    ∃ s', ((Context.builtIn true policy).convert [b.node]).run s =
      .ok (if b.code.isBlank then [] else Text.join ['\n'] b.fencedLines) s' :=
  exists_run_convert_gfm_iff.mpr rfl

/-- Two empty lines between two lines with ink. -/
def twoEmptyLines : CodeBlock where
  attributes := []
  codeAttributes := []
  code := "a\n\n\nb".toList

/-- Two empty lines of code are not kept. -/
theorem not_verbatim_twoEmptyLines : twoEmptyLines.code.isBlank = false ∧
    ¬ ∃ s', ((Context.builtIn true .passthrough).convert [twoEmptyLines.node]).run {} =
      .ok (Gfm.fence ++ '\n' :: twoEmptyLines.code ++ '\n' :: Gfm.fence) s' := by
  refine ⟨by decide, fun h => ?_⟩
  have heq := exists_run_convert_gfm_iff.mp h
  exact absurd heq (by decide)

end CodeBlock

end HtmlMarkdown
