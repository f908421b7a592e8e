import Mathlib
import HtmlMarkdown.Proofs.Runs
import HtmlMarkdown.Proofs.Stacked

/-!
# Blocks that keep their indentation

A block may begin with spaces, as indented code does. When blocks follow one another, the line feeds
between two of them run into the spaces at the start of the second one; the line feeds are closed,
and the spaces stay.

* `Text.OpensInked`, `opensInked_iff`: the first line of a text has ink;
* `closeRun_append`, `closeBlankLines_append_of_opensInked`: the run of white space at a seam;
* `Text.IsTidied`, `isTidied_iff`: tidy texts whose first line has ink;
* `closeBlankLines_join_of_isTidied`, `normalize_flatMap_asBlock_of_isTidied`: all seams between some
  of them;
* **`normalize_flatMap_asBlock_of_normalized`**: blocks that are tidy by themselves are tidy together.
-/

namespace HtmlMarkdown

/-! ## The first line -/

/-- The first line of a text has ink. -/
def Text.OpensInked (t : Text) : Prop := ∀ line ∈ t.lines.head?, line.isBlank = false

instance (t : Text) : Decidable t.OpensInked :=
  inferInstanceAs (Decidable (∀ line ∈ t.lines.head?, line.isBlank = false))

/-- The first line of a text has ink if no line feed comes before the first ink of the text. -/
theorem opensInked_iff {t : Text} : t.OpensInked ↔ ∃ (lead : Text) (c : Char) (rest : Text),
    t = lead ++ c :: rest ∧ lead.isBlank = true ∧ isBlank c = false ∧ '\n' ∉ lead := by
  constructor
  · intro h
    induction t using inductionOnRuns with
    | blank run hrun =>
      have hline : Text.isBlank (run.takeWhile (· != '\n')) = false := h _ (Text.head?_lines run)
      rw [Text.isBlank, List.all_eq_true] at hrun
      obtain ⟨c, hc, hink⟩ := List.all_eq_false.mp hline
      exact absurd (hrun c ((List.takeWhile_prefix _).subset hc)) hink
    | ink run c rest hrun hc => exact ⟨run, c, rest, rfl, hrun, hc, (isBlank_head?_lines hrun hc).mp h⟩
  · rintro ⟨lead, c, rest, rfl, hlead, hc, hbreak⟩
    exact (isBlank_head?_lines hlead hc).mpr hbreak

theorem Text.OpensInked.append {t : Text} (h : t.OpensInked) (s : Text) :
    Text.OpensInked (t ++ s) := by
  obtain ⟨lead, c, rest, rfl, hlead, hc, hbreak⟩ := opensInked_iff.mp h
  exact opensInked_iff.mpr ⟨lead, c, rest ++ s, by simp, hlead, hc, hbreak⟩

/-! ## A seam -/

/-- White space without line feeds stays behind the line feeds of a run. -/
theorem closeRun_append {lead : Text} (h : '\n' ∉ lead) (run : Text) :
    closeRun (run ++ lead) = closeRun run ++ lead := by
  have hlast {b : Text} (hb : '\n' ∉ b) : '\n' ∉ b ++ lead := by simp [hb, h]
  rcases break_cases run with hrun | ⟨a, b, rfl, ha, hb⟩ | ⟨a, m, b, rfl, ha, hb⟩
  · rw [closeRun_of_not_mem hrun, closeRun_of_not_mem (hlast hrun)]
  · rw [closeRun_of_one ha hb, List.append_assoc, List.cons_append, closeRun_of_one ha (hlast hb)]
  · have hsplit : a ++ '\n' :: (m ++ '\n' :: b) ++ lead = a ++ '\n' :: (m ++ '\n' :: (b ++ lead)) := by
      simp
    rw [hsplit, closeRun_of_two ha hb, closeRun_of_two ha (hlast hb)]
    simp

/-- Before a text whose first line has ink, blank lines are closed in white space by itself. -/
theorem closeBlankLines_append_of_opensInked {run t : Text} (hrun : run.isBlank = true)
    (h : t.OpensInked) : closeBlankLines (run ++ t) = closeRun run ++ closeBlankLines t := by
  obtain ⟨lead, c, rest, rfl, hlead, hc, hbreak⟩ := opensInked_iff.mp h
  have hboth : Text.isBlank (run ++ lead) = true := by rw [isBlank_append, hrun, hlead]; rfl
  rw [← List.append_assoc, closeBlankLines_append_cons hboth hc, closeRun_append hbreak,
    closeBlankLines_append_cons hlead hc, closeRun_of_not_mem hbreak, List.append_assoc]

/-! ## All seams -/

/-- A text that ends with ink has its blank lines closed by itself. -/
theorem closeBlankLines_append_of_inkText {t : Text} (h : Side.right.InkText t) (s : Text) :
    closeBlankLines (t ++ s) = closeBlankLines t ++ closeBlankLines s := by
  induction t using inductionOnRuns with
  | blank run hrun =>
    rw [h.eq_nil_of_isBlank hrun, List.nil_append, closeBlankLines, List.nil_append]
  | ink run c rest hrun hc ih =>
    have hsuffix : rest <:+ run ++ c :: rest := ⟨run ++ [c], by simp⟩
    have hrest : Side.right.InkText rest := Place.inkText_right_of_suffix hsuffix h
    rw [List.append_assoc, List.cons_append, closeBlankLines_append_cons hrun hc,
      closeBlankLines_append_cons hrun hc, ih hrest, List.append_assoc, List.cons_append]

/-- A text is tidy, and its first line has ink. -/
structure Text.IsTidied (t : Text) : Prop where
  opens : t.OpensInked
  start : ∀ c ∈ t.head?, isLeadingBreak c = false
  trailing : Side.right.InkText t
  closed : closeBlankLines t = t

theorem Text.OpensInked.ne_nil {t : Text} (h : t.OpensInked) : t ≠ [] := by
  rintro rfl
  exact absurd h (by decide)

/-- A text is tidy if making it tidy leaves it as it is. -/
theorem isTidied_iff {t : Text} : t.IsTidied ↔ normalize t = t ∧ t.OpensInked := by
  constructor
  · intro h
    refine ⟨?_, h.opens⟩
    have hends : t.tidyEnds = t := by
      rw [Text.tidyEnds, Text.trimStart_eq_self h.start, Text.trimEnd_eq_self h.trailing]
    rw [normalize_eq_closeBlankLines, hends, h.closed]
  · rintro ⟨hfixed, hopens⟩
    have hends := tidyEnds_normalize t
    rw [hfixed] at hends
    have hclosed := normalize_eq_closeBlankLines t
    rw [hfixed, hends] at hclosed
    refine ⟨hopens, ?_, ?_, hclosed.symm⟩
    · rw [← hends]
      exact head?_tidyEnds
    · rw [← hends]
      exact getLast?_trimEnd

section Join

variable {xs : List Text}

/-- Blocks one after another are one block, with four line feeds between their texts. -/
theorem flatMap_asBlock (hne : xs ≠ []) :
    xs.flatMap asBlock = asBlock (Text.join ['\n', '\n', '\n', '\n'] xs) := by
  induction xs with
  | nil => exact absurd rfl hne
  | cons x xs ih =>
    rcases xs with _ | ⟨y, ys⟩
    · rw [List.flatMap_singleton, join_singleton]
    · rw [List.flatMap_cons, ih (List.cons_ne_nil y ys), join_cons_cons]
      simp [asBlock]

/-- The first line of the first text is the first line of all. -/
theorem opensInked_join (h : ∀ x ∈ xs, x.OpensInked) (hne : xs ≠ []) (sep : Text) :
    (Text.join sep xs).OpensInked := by
  rcases xs with _ | ⟨x, _ | ⟨y, ys⟩⟩
  · exact absurd rfl hne
  · rw [join_singleton]
    exact h x List.mem_cons_self
  · rw [join_cons_cons]
    exact (h x List.mem_cons_self).append _

/-- The first character of the first text is the first of all. -/
theorem head?_join (h : ∀ x ∈ xs, x ≠ []) (sep : Text) :
    (Text.join sep xs).head? = xs.head?.bind List.head? := by
  rcases xs with _ | ⟨x, _ | ⟨y, ys⟩⟩
  · rfl
  · rw [join_singleton]
    rfl
  · obtain ⟨c, rest, hx⟩ := List.exists_cons_of_ne_nil (h x List.mem_cons_self)
    rw [join_cons_cons, hx]
    rfl

theorem inkText_right_join (h : ∀ x ∈ xs, x.OpensInked ∧ Side.right.InkText x) (sep : Text) :
    Side.right.InkText (Text.join sep xs) := by
  induction xs with
  | nil => exact Side.inkText_nil _
  | cons x xs ih =>
    rw [List.forall_mem_cons] at h
    rcases xs with _ | ⟨y, ys⟩
    · rw [join_singleton]
      exact h.1.2
    · have hopens := opensInked_join (fun z hz => (h.2 z hz).1) (List.cons_ne_nil y ys) sep
      rw [join_cons_cons, ← List.append_assoc]
      exact Side.inkText_right_append (ih h.2) hopens.ne_nil _

/-- **Between tidy texts blank lines are closed in each stretch of white space by itself.** -/
theorem closeBlankLines_join_of_isTidied (h : ∀ x ∈ xs, x.IsTidied) {run : Text} (hrun : run.isBlank = true) :
    closeBlankLines (Text.join run xs) = Text.join (closeRun run) xs := by
  induction xs with
  | nil => rw [Text.join, List.intercalate_nil, closeBlankLines, Text.join, List.intercalate_nil]
  | cons x xs ih =>
    rw [List.forall_mem_cons] at h
    rcases xs with _ | ⟨y, ys⟩
    · rw [join_singleton, join_singleton, h.1.closed]
    · have hopens := opensInked_join (fun z hz => (h.2 z hz).opens) (List.cons_ne_nil y ys) run
      rw [join_cons_cons, join_cons_cons, closeBlankLines_append_of_inkText h.1.trailing,
        closeBlankLines_append_of_opensInked hrun hopens, h.1.closed, ih h.2]

/-- One blank line is left between tidy blocks when Markdown is made tidy. -/
theorem normalize_flatMap_asBlock_of_isTidied (h : ∀ x ∈ xs, x.IsTidied) (hne : xs ≠ []) :
    normalize (xs.flatMap asBlock) = Text.join ['\n', '\n'] xs := by
  have hrun : closeRun ['\n', '\n', '\n', '\n'] = ['\n', '\n'] := by decide
  have hstart : ∀ c ∈ (Text.join ['\n', '\n', '\n', '\n'] xs).head?, isLeadingBreak c = false := by
    rw [head?_join fun x hx => (h x hx).opens.ne_nil]
    intro c hc
    obtain ⟨x, hx, hcx⟩ := Option.bind_eq_some_iff.mp hc
    exact (h x (List.mem_of_mem_head? hx)).start c hcx
  have hend := inkText_right_join (fun x hx => ⟨(h x hx).opens, (h x hx).trailing⟩)
    ['\n', '\n', '\n', '\n']
  rw [flatMap_asBlock hne, normalize_eq_closeBlankLines, tidyEnds_asBlock_of_head? hstart hend,
    closeBlankLines_join_of_isTidied h (by decide), hrun]

/-- **Blocks that are tidy by themselves are tidy together**: texts that stay as they are when they are
made tidy, each with ink in its first line, have one blank line between them when they follow one
another as blocks. Nothing else of them changes, so each keeps the spaces that it begins with. -/
theorem normalize_flatMap_asBlock_of_normalized (hne : xs ≠ [])
    (hfixed : ∀ x ∈ xs, normalize x = x) (hopens : ∀ x ∈ xs, x.OpensInked) :
    normalize (xs.flatMap asBlock) = Text.join ['\n', '\n'] xs :=
  normalize_flatMap_asBlock_of_isTidied (fun x hx => isTidied_iff.mpr ⟨hfixed x hx, hopens x hx⟩) hne

end Join

/-- Two blocks of indented code with a paragraph between them. -/
def indentedBlocks : List Text :=
  ["    a\n\n      b".toList, "c\nd".toList, "    e".toList]

theorem normalize_flatMap_asBlock_of_normalized_indentedBlocks :
    indentedBlocks ≠ [] ∧ (∀ x ∈ indentedBlocks, normalize x = x) ∧
    (∀ x ∈ indentedBlocks, x.OpensInked) ∧
    normalize (indentedBlocks.flatMap asBlock) = "    a\n\n      b\n\nc\nd\n\n    e".toList := by
  have hne : indentedBlocks ≠ [] := by decide
  have hfixed : ∀ x ∈ indentedBlocks, normalize x = x := by
    simp only [indentedBlocks, List.forall_mem_cons]
    refine ⟨by cbv, by cbv, by cbv, fun x hx => absurd hx List.not_mem_nil⟩
  have hopens : ∀ x ∈ indentedBlocks, x.OpensInked := by decide
  exact ⟨hne, hfixed, hopens, normalize_flatMap_asBlock_of_normalized hne hfixed hopens⟩

end HtmlMarkdown
