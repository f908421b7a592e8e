import Mathlib
import HtmlMarkdown.Proofs.Tight
import HtmlMarkdown.Proofs.Woven

/-!
# Runs of a text

A text is cut into its longest runs of white space and of ink. To make it tidy is to trim its ends
and to close the blank lines of each run by itself.

* `Text.blankRuns`: the runs; `flatten_blankRuns`, `isBlank_or_ink_of_mem_blankRuns`,
  `isChain_blankRuns`: they make up the text, each is of one kind, and neighbours are not of the same
  kind;
* **`closeBlankLines_eq_flatMap`**: what closing blank lines does to each run;
* `closeBlankLines_closeBlankLines`, `tidyEnds_normalize`: there is nothing left to do;
* **`normalize_eq_flatMap_closeRun`**: the meaning of tidy Markdown.
-/

namespace HtmlMarkdown

namespace Text

/-- The longest runs of characters that are all white space or all ink. -/
def blankRuns (t : Text) : List Text :=
  t.splitBy fun c d => HtmlMarkdown.isBlank c == HtmlMarkdown.isBlank d

example : blankRuns ['a', ' ', '\n', 'b'] = [['a'], [' ', '\n'], ['b']] := by decide

theorem flatten_blankRuns (t : Text) : t.blankRuns.flatten = t := List.flatten_splitBy _ t

/-- A run is white space, or nothing in it is. -/
theorem isBlank_or_ink_of_mem_blankRuns {t run : Text} (h : run ∈ t.blankRuns) :
    run.isBlank = true ∨ ∀ c ∈ run, HtmlMarkdown.isBlank c = false := by
  have hchain : run.IsChain fun c d => HtmlMarkdown.isBlank c = HtmlMarkdown.isBlank d :=
    (List.isChain_of_mem_splitBy h).imp fun c d hcd => by simpa using hcd
  rcases run with _ | ⟨c, run⟩
  · exact Or.inl rfl
  · have htrans : IsTrans Char fun c d => HtmlMarkdown.isBlank c = HtmlMarkdown.isBlank d :=
      ⟨fun _ _ _ => Eq.trans⟩
    have hsame := (List.pairwise_cons.mp (List.isChain_iff_pairwise.mp hchain)).1
    rcases hc : HtmlMarkdown.isBlank c with _ | _
    · right
      rintro d (_ | ⟨_, hd⟩)
      · exact hc
      · rw [← hsame d hd, hc]
    · left
      rw [Text.isBlank, List.all_cons, hc, Bool.true_and, List.all_eq_true]
      intro d hd
      rw [← hsame d hd, hc]

/-- A run of white space has ink after it, and ink has white space after it. -/
theorem isChain_blankRuns (t : Text) : t.blankRuns.IsChain fun left right =>
    ∃ c ∈ left.getLast?, ∃ d ∈ right.head?, HtmlMarkdown.isBlank d = !HtmlMarkdown.isBlank c := by
  refine (List.isChain_getLast_head_splitBy _ t).imp ?_
  rintro left right ⟨hleft, hright, hne⟩
  refine ⟨_, List.getLast?_eq_some_getLast hleft, _, List.head?_eq_some_head hright, ?_⟩
  revert hne
  cases HtmlMarkdown.isBlank (left.getLast hleft) <;>
    cases HtmlMarkdown.isBlank (right.head hright) <;> simp

end Text

/-! ## Blank lines closed in each run -/

/-- Blank lines are closed in each of some runs that follow one another. -/
theorem closeBlankLines_flatten {runs : List Text}
    (hkind : ∀ run ∈ runs, run.isBlank = true ∨ ∀ c ∈ run, isBlank c = false)
    (hchain : runs.IsChain fun left right =>
      ∃ c ∈ left.getLast?, ∃ d ∈ right.head?, isBlank d = !isBlank c) :
    closeBlankLines runs.flatten = runs.flatMap closeRun := by
  induction runs with
  | nil => rw [List.flatten_nil, closeBlankLines, List.flatMap_nil]
  | cons run runs ih =>
    rw [List.forall_mem_cons] at hkind
    rw [List.flatten_cons, List.flatMap_cons, ← ih hkind.2 hchain.tail]
    rcases hkind.1 with hrun | hink
    · refine closeBlankLines_append hrun fun d hd => ?_
      rcases runs with _ | ⟨next, runs⟩
      · cases hd
      · obtain ⟨c, hc, d', hd', hne⟩ := (List.isChain_cons_cons.mp hchain).1
        rw [Text.isBlank, List.all_eq_true] at hrun
        rw [List.flatten_cons, List.head?_append, Option.mem_def.mp hd', Option.some_or] at hd
        rw [← Option.some.inj hd, hne, hrun c (List.mem_of_getLast? hc), Bool.not_true]
    · have hbreak : '\n' ∉ run := fun hmem => absurd (hink _ hmem) (by decide)
      rw [closeBlankLines_append_of_not_mem hbreak, closeRun_of_not_mem hbreak]

/-- **Blank lines are closed in each run by itself.** -/
theorem closeBlankLines_eq_flatMap (t : Text) : closeBlankLines t = t.blankRuns.flatMap closeRun := by
  have hflatten := closeBlankLines_flatten (fun _ => Text.isBlank_or_ink_of_mem_blankRuns)
    t.isChain_blankRuns
  rwa [t.flatten_blankRuns] at hflatten

/-! ## Nothing left to do -/

theorem closeRun_closeRun (run : Text) : closeRun (closeRun run) = closeRun run := by
  by_cases htwo : 2 ≤ run.count '\n'
  · have hfirst : '\n' ∉ run.takeWhile (· != '\n') := fun h => by
      simpa using List.mem_takeWhile_imp h
    have hlast : '\n' ∉ run.rtakeWhile (· != '\n') := fun h => by
      simpa using List.mem_rtakeWhile_imp h
    have hclosed : closeRun run =
        run.takeWhile (· != '\n') ++ '\n' :: ([] ++ '\n' :: run.rtakeWhile (· != '\n')) := by
      rw [closeRun, if_pos htwo, List.nil_append]
    rw [hclosed, closeRun_of_two hfirst hlast, List.nil_append]
  · have hself : closeRun run = run := by rw [closeRun, if_neg htwo]
    rw [hself, hself]

theorem closeBlankLines_closeBlankLines (t : Text) :
    closeBlankLines (closeBlankLines t) = closeBlankLines t := by
  induction t using inductionOnRuns with
  | blank run hrun =>
    rw [closeBlankLines_of_isBlank hrun, closeBlankLines_of_isBlank (isBlank_closeRun hrun),
      closeRun_closeRun]
  | ink run c rest hrun hc ih =>
    rw [closeBlankLines_append_cons hrun hc,
      closeBlankLines_append_cons (isBlank_closeRun hrun) hc, closeRun_closeRun, ih]

theorem head?_closeBlankLines (t : Text) : (closeBlankLines t).head? = t.head? := by
  rcases t with _ | ⟨c, t⟩
  · rw [closeBlankLines]
  · rw [closeBlankLines]
    split
    · next hc =>
      rw [hc]
      split <;> rfl
    · rfl

theorem head?_tidyEnds {t : Text} : ∀ c ∈ t.tidyEnds.head?, isLeadingBreak c = false := by
  intro c hc
  obtain ⟨rest, hrest⟩ := Place.trimEnd_prefix isBlank (Text.trimStart isLeadingBreak t)
  refine head?_trimStart (t := t) c ?_
  rw [← hrest, List.head?_append, show (Text.trimEnd isBlank _).head? = some c from hc]
  rfl

/-- The ends of tidy Markdown have nothing to trim. -/
theorem tidyEnds_normalize (t : Text) : (normalize t).tidyEnds = normalize t := by
  by_cases hnil : t.tidyEnds = []
  · rw [normalize_eq_nil_iff.mpr hnil]
    rfl
  · obtain ⟨c, hlast, hc⟩ := Text.exists_getLast?_tidyEnds hnil
    have hkept := getLast?_closeBlankLines hlast hc
    rw [normalize_eq_closeBlankLines, Text.tidyEnds, Text.trimStart_eq_self]
    · refine Text.trimEnd_eq_self fun d hd => ?_
      rw [← Option.some.inj (hkept.symm.trans hd), hc]
    · rw [head?_closeBlankLines]
      exact head?_tidyEnds

/-! ## No more than one blank line -/

theorem exists_hasFewBreaks_of_append {n : ℕ} {s t : Text} (h : HasFewBreaks n (s ++ t)) :
    ∃ m, HasFewBreaks m t := by
  induction s generalizing n with
  | nil => exact ⟨n, h⟩
  | cons c s ih =>
    rw [List.cons_append, HasFewBreaks] at h
    split at h
    · exact ih h
    · split at h
      · exact ih h
      · exact ih h.2

/-- Three line feeds in a row are never left once blank lines are closed. -/
theorem not_infix_closeBlankLines (t : Text) : ¬ ['\n', '\n', '\n'] <:+: closeBlankLines t := by
  rintro ⟨before, after, hsplit⟩
  have hfew := hasFewBreaks_closeBlankLines t
  rw [← hsplit, List.append_assoc] at hfew
  obtain ⟨n, hn⟩ := exists_hasFewBreaks_of_append hfew
  rw [hasFewBreaks_append (by decide)] at hn
  have hle := hn.le_two
  have hcount : ['\n', '\n', '\n'].count '\n' = 3 := by decide
  omega

/-! ## The meaning of tidy Markdown -/

/-- **The meaning of tidy Markdown.** A text loses the tabs and line breaks at its start and the white
space at its end, and in each run of white space with at least two line feeds the stretch from the
first line feed to the last one gives way to two; everything else stays. So to make it tidy once more
changes nothing, all ink is kept in its order, a line feed stands between two neighbours in the ink
just where one stood before, and once blank lines are closed no three line feeds are left to be
limited. -/
theorem normalize_eq_flatMap_closeRun (t : Text) :
    normalize t = t.tidyEnds.blankRuns.flatMap closeRun ∧
    normalize (normalize t) = normalize t ∧
    (normalize t).ink = t.ink ∧
    (∀ s u : Text, s ≠ [] → u ≠ [] →
      ((normalize t).HasBreakBetween s u ↔ t.HasBreakBetween s u)) ∧
    ¬ ['\n', '\n', '\n'] <:+: closeBlankLines t.tidyEnds ∧
    limitBreaks (closeBlankLines t.tidyEnds) = closeBlankLines t.tidyEnds := by
  have hruns : normalize t = t.tidyEnds.blankRuns.flatMap closeRun := by
    rw [normalize_eq_closeBlankLines, closeBlankLines_eq_flatMap]
  have hagain : normalize (normalize t) = normalize t := by
    rw [normalize_eq_closeBlankLines (normalize t), tidyEnds_normalize, normalize_eq_closeBlankLines,
      closeBlankLines_closeBlankLines]
  exact ⟨hruns, hagain, ink_normalize t, fun _ _ => hasBreakBetween_normalize,
    not_infix_closeBlankLines _, limitBreaks_closeBlankLines _⟩

end HtmlMarkdown
