import Mathlib
import HtmlMarkdown.Proofs.Reading
import HtmlMarkdown.Proofs.Sides

/-!
# Tidy Markdown

What it means for a text to be made tidy, one run of white space after another.

* `inductionOnRuns`: a text is white space, or white space before ink and a text that is left;
* `closeRun`, **`closeBlankLines_append`**: blank lines are closed in each run by itself;
* `HasFewBreaks`, **`limitBreaks_closeBlankLines`**: after that there are no more than two line feeds
  in a run;
* `Text.lines`, `Text.IsTidy`: lines, and how they may follow one another;
* **`isTidy_normalize`**, **`isShaped_normalize_iff`**: the lines of tidy Markdown.
-/

namespace HtmlMarkdown

/-! ## Runs of white space -/

/-- **Induction on runs**: white space alone, and white space before ink and a text that is left. -/
theorem inductionOnRuns {motive : Text → Prop}
    (blank : ∀ run : Text, run.isBlank = true → motive run)
    (ink : ∀ (run : Text) (c : Char) (rest : Text), run.isBlank = true → isBlank c = false →
      motive rest → motive (run ++ c :: rest))
    (t : Text) : motive t := by
  induction hn : t.length using Nat.strong_induction_on generalizing t with
  | _ n ih =>
    subst hn
    have hrun : Text.isBlank (t.takeWhile isBlank) = true :=
      List.all_eq_true.mpr fun c hc => List.mem_takeWhile_imp (p := isBlank) hc
    have hsplit := List.takeWhile_append_dropWhile (p := isBlank) (l := t)
    rcases hrest : t.dropWhile isBlank with _ | ⟨c, rest⟩
    · rw [hrest, List.append_nil] at hsplit
      exact hsplit ▸ blank _ hrun
    · have hc : isBlank c = false := by
        have hnot := List.head?_dropWhile_not isBlank t
        rwa [hrest] at hnot
      rw [hrest] at hsplit
      have hlength := congrArg List.length hsplit
      rw [List.length_append, List.length_cons] at hlength
      rw [← hsplit]
      exact ink _ c rest hrun hc (ih rest.length (by omega) rest rfl)

theorem ne_break_of_not_isBlank {c : Char} (h : isBlank c = false) : c ≠ '\n' := by
  rintro rfl
  exact absurd h (by decide)

theorem takeWhile_append_cons_of_isBlank {run rest : Text} {c : Char} (hrun : run.isBlank = true)
    (hc : isBlank c = false) : (run ++ c :: rest).takeWhile isBlank = run :=
  (Text.takeWhile_append_of_head? (List.all_eq_true.mp hrun) (by simpa using hc)).1

/-! ## Blank lines closed -/

/-- A run of white space in which two line feeds stand for the stretch from its first line feed to
its last, if it has at least two. -/
def closeRun (run : Text) : Text :=
  if 2 ≤ run.count '\n' then
    run.takeWhile (· != '\n') ++ '\n' :: '\n' :: run.rtakeWhile (· != '\n')
  else run

theorem count_closeRun_le (run : Text) : (closeRun run).count '\n' ≤ 2 := by
  have hfirst : '\n' ∉ run.takeWhile (· != '\n') := fun h => by
    simpa using List.mem_takeWhile_imp h
  have hlast : '\n' ∉ run.rtakeWhile (· != '\n') := fun h => by
    simpa using List.mem_rtakeWhile_imp h
  rw [closeRun]
  split
  · rw [List.count_append, List.count_cons_self, List.count_cons_self,
      List.count_eq_zero_of_not_mem hfirst, List.count_eq_zero_of_not_mem hlast]
  · omega

theorem isBlank_closeRun {run : Text} (h : run.isBlank = true) : (closeRun run).isBlank = true := by
  rw [Text.isBlank, List.all_eq_true] at h ⊢
  intro c hc
  rw [closeRun] at hc
  split at hc
  · simp only [List.mem_append, List.mem_cons] at hc
    rcases hc with hc | rfl | rfl | hc
    · exact h c ((List.takeWhile_prefix _).subset hc)
    · decide
    · decide
    · exact h c ((List.rtakeWhile_suffix _ _).subset hc)
  · exact h c hc

theorem closeRun_of_not_mem {run : Text} (h : '\n' ∉ run) : closeRun run = run := by
  rw [closeRun, List.count_eq_zero_of_not_mem h, if_neg (by decide)]

theorem takeWhile_append_break {a : Text} (h : '\n' ∉ a) (s : Text) :
    (a ++ '\n' :: s).takeWhile (· != '\n') = a :=
  (Text.takeWhile_append_of_head? (fun c hc => by simpa using ne_of_mem_of_not_mem hc h) (by simp)).1

theorem rtakeWhile_append_break {b : Text} (h : '\n' ∉ b) (s : Text) :
    (s ++ '\n' :: b).rtakeWhile (· != '\n') = b := by
  have hreverse := takeWhile_append_break (a := b.reverse) (by simpa using h) s.reverse
  rw [List.rtakeWhile, List.reverse_append, List.reverse_cons, List.append_assoc,
    List.singleton_append, hreverse, List.reverse_reverse]

/-- A text has no line feed, or one, or a first one and a last one. -/
theorem break_cases (t : Text) : '\n' ∉ t ∨
    (∃ a b, t = a ++ '\n' :: b ∧ '\n' ∉ a ∧ '\n' ∉ b) ∨
    ∃ a m b, t = a ++ '\n' :: (m ++ '\n' :: b) ∧ '\n' ∉ a ∧ '\n' ∉ b := by
  by_cases hbreak : '\n' ∈ t
  · right
    obtain ⟨a, w, rfl, ha⟩ := List.eq_append_cons_of_mem hbreak
    by_cases hmore : '\n' ∈ w
    · obtain ⟨b, m, hreverse, hb⟩ := List.eq_append_cons_of_mem (List.mem_reverse.mpr hmore)
      refine Or.inr ⟨a, m.reverse, b.reverse, ?_, ha, by simpa using hb⟩
      rw [← List.reverse_reverse w, hreverse]
      simp
    · exact Or.inl ⟨a, w, rfl, ha, hmore⟩
  · exact Or.inl hbreak

/-- The stretch between two line feeds goes. -/
theorem closeRun_of_two {a b : Text} (ha : '\n' ∉ a) (hb : '\n' ∉ b) (m : Text) :
    closeRun (a ++ '\n' :: (m ++ '\n' :: b)) = a ++ '\n' :: '\n' :: b := by
  have hcount : 2 ≤ (a ++ '\n' :: (m ++ '\n' :: b)).count '\n' := by
    rw [List.count_append, List.count_cons_self, List.count_append, List.count_cons_self]
    omega
  have hlast := rtakeWhile_append_break hb (a ++ '\n' :: m)
  rw [List.append_assoc, List.cons_append] at hlast
  rw [closeRun, if_pos hcount, takeWhile_append_break ha, hlast]

/-- One line feed stays. -/
theorem closeRun_of_one {a b : Text} (ha : '\n' ∉ a) (hb : '\n' ∉ b) :
    closeRun (a ++ '\n' :: b) = a ++ '\n' :: b := by
  rw [closeRun, List.count_append, List.count_cons_self, List.count_eq_zero_of_not_mem ha,
    List.count_eq_zero_of_not_mem hb, if_neg (by decide)]

theorem afterLastBreak?_of_not_mem {s : Text} (h : '\n' ∉ s) : afterLastBreak? s = none := by
  induction s with
  | nil => rfl
  | cons c s ih =>
    rw [List.mem_cons, not_or] at h
    simp only [afterLastBreak?, ih h.2]
    rw [if_neg (Ne.symm h.1)]

theorem afterLastBreak?_append {b : Text} (h : '\n' ∉ b) (a : Text) :
    afterLastBreak? (a ++ '\n' :: b) = some b := by
  induction a with
  | nil =>
    simp only [List.nil_append, afterLastBreak?, afterLastBreak?_of_not_mem h, if_true]
  | cons c a ih => simp only [List.cons_append, afterLastBreak?, ih]

/-- A text without line feeds stays before others. -/
theorem closeBlankLines_append_of_not_mem {a : Text} (h : '\n' ∉ a) (s : Text) :
    closeBlankLines (a ++ s) = a ++ closeBlankLines s := by
  induction a with
  | nil => rfl
  | cons c a ih =>
    rw [List.mem_cons, not_or] at h
    rw [List.cons_append, closeBlankLines, if_neg (Ne.symm h.1), ih h.2, List.cons_append]

theorem closeBlankLines_break_of_none {s : Text} (h : afterBlankLines? s = none) :
    closeBlankLines ('\n' :: s) = '\n' :: closeBlankLines s := by
  rw [closeBlankLines, if_pos rfl]
  split
  · next rest hrest =>
    rw [h] at hrest
    cases hrest
  · rfl

theorem closeBlankLines_break_of_some {s rest : Text} (h : afterBlankLines? s = some rest) :
    closeBlankLines ('\n' :: s) = '\n' :: '\n' :: closeBlankLines rest := by
  rw [closeBlankLines, if_pos rfl]
  split
  · next rest' hrest =>
    rw [h] at hrest
    cases hrest
    rfl
  · next hnone =>
    rw [h] at hnone
    cases hnone

/-- A line feed stays if no other follows in its run of white space. -/
theorem closeBlankLines_break {s : Text} (h : '\n' ∉ s.takeWhile isBlank) :
    closeBlankLines ('\n' :: s) = '\n' :: closeBlankLines s := by
  refine closeBlankLines_break_of_none ?_
  rw [afterBlankLines?]
  split
  · rfl
  · next c run hrun =>
    rw [hrun, List.mem_cons, not_or] at h
    rw [afterLastBreak?_of_not_mem h.2]
    rfl

/-- Two line feeds are left of a run of white space that begins with one and has another. -/
theorem closeBlankLines_stretch {m b rest : Text} (hm : m.isBlank = true) (hb : b.isBlank = true)
    (hbreak : '\n' ∉ b) (hrest : ∀ c ∈ rest.head?, isBlank c = false) :
    closeBlankLines ('\n' :: (m ++ '\n' :: b ++ rest)) = '\n' :: '\n' :: (b ++ closeBlankLines rest) := by
  have hall : ∀ c ∈ m ++ '\n' :: b, isBlank c = true := by
    rw [Text.isBlank, List.all_eq_true] at hm hb
    intro c hc
    rcases List.mem_append.mp hc with hc | hc
    · exact hm c hc
    · rcases List.mem_cons.mp hc with rfl | hc
      · decide
      · exact hb c hc
  obtain ⟨hrun, hleft⟩ := Text.takeWhile_append_of_head? hall hrest
  rcases m with _ | ⟨d, m⟩
  · -- two line feeds side by side are no stretch, and both stay
    have hone : '\n' ∉ (b ++ rest).takeWhile isBlank := by
      rwa [(Text.takeWhile_append_of_head? (List.all_eq_true.mp hb) hrest).1]
    rw [List.nil_append, List.cons_append, closeBlankLines_break_of_none, closeBlankLines_break hone,
      closeBlankLines_append_of_not_mem hbreak]
    rw [afterBlankLines?]
    rw [List.nil_append, List.cons_append] at hrun
    simp only [hrun, afterLastBreak?_of_not_mem hbreak]
    rfl
  · have hafter : afterBlankLines? (d :: m ++ '\n' :: b ++ rest) = some (b ++ rest) := by
      rw [afterBlankLines?, hleft, hrun]
      simp only [List.cons_append, afterLastBreak?_append hbreak]
      rfl
    rw [closeBlankLines_break_of_some hafter, closeBlankLines_append_of_not_mem hbreak]

/-- **Blank lines are closed in each run of white space by itself.** -/
theorem closeBlankLines_append {run rest : Text} (hrun : run.isBlank = true)
    (hrest : ∀ c ∈ rest.head?, isBlank c = false) :
    closeBlankLines (run ++ rest) = closeRun run ++ closeBlankLines rest := by
  rcases break_cases run with hbreak | ⟨a, w, rfl, ha, hw⟩ | ⟨a, m, b, rfl, ha, hb⟩
  · rw [closeBlankLines_append_of_not_mem hbreak, closeRun_of_not_mem hbreak]
  · rw [Text.isBlank, List.all_append, List.all_cons, Bool.and_eq_true, Bool.and_eq_true,
      List.all_eq_true, List.all_eq_true] at hrun
    have hone : '\n' ∉ (w ++ rest).takeWhile isBlank := by
      rwa [(Text.takeWhile_append_of_head? hrun.2.2 hrest).1]
    rw [List.append_assoc, closeBlankLines_append_of_not_mem ha, List.cons_append,
      closeBlankLines_break hone, closeBlankLines_append_of_not_mem hw, closeRun_of_one ha hw]
    simp
  · rw [Text.isBlank, List.all_append, List.all_cons, List.all_append, List.all_cons,
      Bool.and_eq_true, Bool.and_eq_true, Bool.and_eq_true, Bool.and_eq_true] at hrun
    rw [List.append_assoc, closeBlankLines_append_of_not_mem ha, List.cons_append,
      closeBlankLines_stretch hrun.2.2.1 hrun.2.2.2.2 hb hrest, closeRun_of_two ha hb]
    simp

/-- Ink stays, and what follows it is closed by itself. -/
theorem closeBlankLines_append_cons {run : Text} {c : Char} (hrun : run.isBlank = true)
    (hc : isBlank c = false) (rest : Text) :
    closeBlankLines (run ++ c :: rest) = closeRun run ++ c :: closeBlankLines rest := by
  rw [closeBlankLines_append hrun fun d hd => ?_, closeBlankLines,
    if_neg (ne_break_of_not_isBlank hc)]
  cases hd
  exact hc

theorem closeBlankLines_of_isBlank {run : Text} (h : run.isBlank = true) :
    closeBlankLines run = closeRun run := by
  have happend : closeBlankLines (run ++ []) = closeRun run ++ closeBlankLines [] :=
    closeBlankLines_append h (by simp)
  rwa [closeBlankLines, List.append_nil, List.append_nil] at happend

/-! ## Few line feeds in a run -/

/-- No run of white space has more than two line feeds; `breaks` are in the run before the text. -/
def HasFewBreaks : (breaks : ℕ) → Text → Prop
  | breaks, [] => breaks ≤ 2
  | breaks, c :: t =>
    if c = '\n' then HasFewBreaks (breaks + 1) t
    else if isBlank c then HasFewBreaks breaks t
    else breaks ≤ 2 ∧ HasFewBreaks 0 t

theorem HasFewBreaks.le_two {n : ℕ} {t : Text} (h : HasFewBreaks n t) : n ≤ 2 := by
  induction t generalizing n with
  | nil => exact h
  | cons c t ih =>
    rw [HasFewBreaks] at h
    split at h
    · exact Nat.le_of_succ_le (ih h)
    · split at h
      · exact ih h
      · exact h.1

theorem hasFewBreaks_append {run : Text} (hrun : run.isBlank = true) (n : ℕ) (t : Text) :
    HasFewBreaks n (run ++ t) ↔ HasFewBreaks (n + run.count '\n') t := by
  induction run generalizing n with
  | nil => rfl
  | cons c run ih =>
    rw [Text.isBlank, List.all_cons, Bool.and_eq_true] at hrun
    rw [List.cons_append, HasFewBreaks]
    by_cases hc : c = '\n'
    · rw [if_pos hc, hc, ih hrun.2, List.count_cons_self]
      ring_nf
    · rw [if_neg hc, if_pos hrun.1, ih hrun.2, List.count_cons_of_ne hc]

/-- **No run of white space has more than two line feeds once blank lines are closed.** -/
theorem hasFewBreaks_closeBlankLines (t : Text) : HasFewBreaks 0 (closeBlankLines t) := by
  induction t using inductionOnRuns with
  | blank run hrun =>
    rw [closeBlankLines_of_isBlank hrun, ← List.append_nil (closeRun run),
      hasFewBreaks_append (isBlank_closeRun hrun), Nat.zero_add]
    exact count_closeRun_le run
  | ink run c rest hrun hc ih =>
    rw [closeBlankLines_append_cons hrun hc, hasFewBreaks_append (isBlank_closeRun hrun),
      Nat.zero_add, HasFewBreaks, if_neg (ne_break_of_not_isBlank hc), if_neg (by simp [hc])]
    exact ⟨count_closeRun_le run, ih⟩

theorem limitBreaksAfter_of_hasFewBreaks {m n : ℕ} {t : Text} (h : HasFewBreaks n t) (hm : m ≤ n) :
    limitBreaksAfter m t = t := by
  induction t generalizing m n with
  | nil => rfl
  | cons c t ih =>
    rw [HasFewBreaks] at h
    rw [limitBreaksAfter]
    split at h
    · next hc =>
      have hle := h.le_two
      rw [if_pos hc, if_pos (by omega), ih h (by omega), hc]
    · next hc =>
      rw [if_neg hc]
      split at h
      · rw [ih h (Nat.zero_le n)]
      · rw [ih h.2 (Nat.le_refl 0)]

/-- **No more line feeds are left to be taken away** once blank lines are closed. -/
theorem limitBreaks_closeBlankLines (t : Text) :
    limitBreaks (closeBlankLines t) = closeBlankLines t :=
  limitBreaksAfter_of_hasFewBreaks (hasFewBreaks_closeBlankLines t) (Nat.le_refl 0)

/-! ## Lines -/

namespace Text

/-- The lines of a text. -/
def lines (t : Text) : List Text := t.splitOn '\n'

theorem lines_nil : lines [] = [[]] := rfl

theorem lines_cons_break (t : Text) : lines ('\n' :: t) = [] :: t.lines := by
  rw [lines, List.splitOn, List.splitOnP_cons_eq_if_modifyHead]
  rfl

theorem lines_cons_of_ne {c : Char} (h : c ≠ '\n') (t : Text) :
    lines (c :: t) = t.lines.modifyHead (c :: ·) := by
  have hc : ¬ (c == '\n') = true := by simpa using h
  rw [lines, List.splitOn, List.splitOnP_cons_eq_if_modifyHead, if_neg hc]
  rfl

theorem exists_lines_eq (t : Text) : ∃ line rest, t.lines = line :: rest :=
  List.exists_cons_of_ne_nil (List.splitOn_ne_nil '\n' t)

/-- The first line goes up to the first line feed. -/
theorem head?_lines (t : Text) : t.lines.head? = some (t.takeWhile (· != '\n')) := by
  induction t with
  | nil => rfl
  | cons c t ih =>
    by_cases hc : c = '\n'
    · subst hc
      rw [lines_cons_break]
      rfl
    · have htake : (c :: t).takeWhile (· != '\n') = c :: t.takeWhile (· != '\n') :=
        List.takeWhile_cons_of_pos (by simpa using hc)
      obtain ⟨line, rest, hlines⟩ := exists_lines_eq t
      rw [hlines, List.head?_cons, Option.some.injEq] at ih
      rw [lines_cons_of_ne hc, hlines, htake, ih]
      rfl

/-- The last character of a text is in its last line, if it is no line feed. -/
theorem mem_getLast?_lines {t : Text} {c : Char} (h : t.getLast? = some c) (hc : c ≠ '\n') :
    ∃ line, t.lines.getLast? = some line ∧ c ∈ line := by
  induction t with
  | nil => cases h
  | cons d t ih =>
    rcases t with _ | ⟨e, t⟩
    · obtain rfl : d = c := Option.some.inj h
      exact ⟨[d], by rw [lines_cons_of_ne hc]; rfl, List.mem_singleton_self d⟩
    · rw [List.getLast?_cons_cons] at h
      obtain ⟨line, hline, hmem⟩ := ih h
      obtain ⟨first, rest, hlines⟩ := exists_lines_eq (e :: t)
      rw [hlines] at hline
      by_cases hd : d = '\n'
      · rw [hd, lines_cons_break, hlines, List.getLast?_cons_cons]
        exact ⟨line, hline, hmem⟩
      · rw [lines_cons_of_ne hd, hlines, List.modifyHead_cons]
        rcases rest with _ | ⟨second, rest⟩
        · cases hline
          exact ⟨d :: first, rfl, List.mem_cons_of_mem d hmem⟩
        · exact ⟨line, hline, hmem⟩

/-- A text without tabs and line breaks at its start and without white space at its end. -/
def tidyEnds (t : Text) : Text := trimEnd HtmlMarkdown.isBlank (trimStart isLeadingBreak t)

theorem exists_getLast?_tidyEnds {t : Text} (h : t.tidyEnds ≠ []) :
    ∃ c, t.tidyEnds.getLast? = some c ∧ HtmlMarkdown.isBlank c = false := by
  obtain ⟨c, hlast⟩ := Option.ne_none_iff_exists'.mp (mt List.getLast?_eq_none_iff.mp h)
  exact ⟨c, hlast, getLast?_trimEnd c hlast⟩

/-- Of two lines one has ink. -/
def OneHasInk (a b : Text) : Prop := a.isBlank = false ∨ b.isBlank = false

/-- The text ends with ink, and after its first line no two blank lines stand side by side. -/
structure IsTidy (t : Text) : Prop where
  trailing : ∀ c ∈ t.getLast?, HtmlMarkdown.isBlank c = false
  last : ∀ line ∈ t.lines.getLast?, line.isBlank = false
  apart : t.lines.tail.IsChain OneHasInk

/-- The text begins and ends with a line that has ink, it ends with ink, and no two blank lines
stand side by side. -/
structure IsShaped (t : Text) : Prop where
  first : ∀ line ∈ t.lines.head?, line.isBlank = false
  trailing : ∀ c ∈ t.getLast?, HtmlMarkdown.isBlank c = false
  last : ∀ line ∈ t.lines.getLast?, line.isBlank = false
  apart : t.lines.IsChain OneHasInk

end Text

open Text

theorem isBlank_append (s t : Text) : Text.isBlank (s ++ t) = (s.isBlank && t.isBlank) :=
  List.all_append

theorem isBlank_cons_of_not_isBlank {c : Char} (h : isBlank c = false) (t : Text) :
    Text.isBlank (c :: t) = false := by
  rw [Text.isBlank, List.all_cons, h, Bool.false_and]

theorem isBlank_cons_of_isBlank {c : Char} (h : isBlank c = true) (t : Text) :
    Text.isBlank (c :: t) = t.isBlank := by
  rw [Text.isBlank, List.all_cons, h, Bool.true_and, Text.isBlank]

/-- The lines of a text with few line feeds in a run that ends with ink: with one line feed before
it in its run, also its first line counts, and with two its first line has ink. -/
theorem isChain_lines {n : ℕ} {t : Text} (h : HasFewBreaks n t)
    (hend : ∀ c ∈ t.getLast?, isBlank c = false) (hsome : n = 0 ∨ t ≠ []) :
    ∃ line rest, t.lines = line :: rest ∧ rest.IsChain OneHasInk ∧
      (1 ≤ n → (line :: rest).IsChain OneHasInk) ∧ (2 ≤ n → line.isBlank = false) := by
  induction t generalizing n with
  | nil =>
    rcases hsome with rfl | hsome
    · exact ⟨[], [], lines_nil, .nil, by simp, by simp⟩
    · exact absurd rfl hsome
  | cons c t ih =>
    have hend' : ∀ d ∈ t.getLast?, isBlank d = false := by
      rcases t with _ | ⟨d, t⟩
      · simp
      · rwa [List.getLast?_cons_cons] at hend
    -- white space is not the last character
    have hmore : isBlank c = true → t ≠ [] := by
      rintro hblank rfl
      rw [hend c rfl] at hblank
      cases hblank
    rw [HasFewBreaks] at h
    by_cases hbreak : c = '\n'
    · subst hbreak
      rw [if_pos rfl] at h
      obtain ⟨line, rest, hlines, _, hone, htwo⟩ := ih h hend' (Or.inr (hmore (by decide)))
      have hchain := hone (by omega)
      refine ⟨[], line :: rest, by rw [lines_cons_break, hlines], hchain, fun hn => ?_, fun hn => ?_⟩
      · exact hchain.cons_cons (Or.inr (htwo (by omega)))
      · have hle := h.le_two
        omega
    · rw [if_neg hbreak] at h
      rw [lines_cons_of_ne hbreak]
      rcases hblank : isBlank c with _ | _
      · rw [hblank, if_neg Bool.false_ne_true] at h
        obtain ⟨line, rest, hlines, hrest, _, _⟩ := ih h.2 hend' (Or.inl rfl)
        have hink := isBlank_cons_of_not_isBlank hblank line
        refine ⟨c :: line, rest, by rw [hlines]; rfl, hrest, fun _ => ?_, fun _ => hink⟩
        exact List.IsChain.cons hrest fun next _ => Or.inl hink
      · rw [hblank, if_pos rfl] at h
        obtain ⟨line, rest, hlines, hrest, hone, htwo⟩ := ih h hend' (Or.inr (hmore hblank))
        have hsame := isBlank_cons_of_isBlank hblank line
        refine ⟨c :: line, rest, by rw [hlines]; rfl, hrest, fun hn => ?_, fun hn => hsame.trans (htwo hn)⟩
        refine List.IsChain.cons hrest fun next hnext => ?_
        rw [OneHasInk, hsame]
        obtain ⟨others, rfl⟩ := List.head?_eq_some_iff.mp hnext
        exact (List.isChain_cons_cons.mp (hone hn)).1

/-! ## Tidy Markdown -/

/-- Ink at the end stays there. -/
theorem getLast?_closeBlankLines {t : Text} {c : Char} (h : t.getLast? = some c)
    (hc : isBlank c = false) : (closeBlankLines t).getLast? = some c := by
  induction t using inductionOnRuns with
  | blank run hrun =>
    rw [Text.isBlank, List.all_eq_true] at hrun
    rw [hrun c (List.mem_of_getLast? h)] at hc
    cases hc
  | ink run d rest hrun hd ih =>
    rw [closeBlankLines_append_cons hrun hd, List.getLast?_append, List.getLast?_cons]
    rw [List.getLast?_append, List.getLast?_cons] at h
    rcases hrest : rest.getLast? with _ | e
    · rw [List.getLast?_eq_none_iff.mp hrest] at h ⊢
      rw [closeBlankLines]
      exact h
    · rw [hrest] at h
      rw [ih (hrest.trans h)]
      rfl

theorem normalize_eq_closeBlankLines (t : Text) : normalize t = closeBlankLines t.tidyEnds := by
  rw [normalize, limitBreaks_closeBlankLines, tidyEnds]

theorem normalize_eq_nil_iff {t : Text} : normalize t = [] ↔ t.tidyEnds = [] := by
  rw [normalize_eq_closeBlankLines]
  refine ⟨fun hnil => ?_, fun hnil => by rw [hnil, closeBlankLines]⟩
  by_contra hsome
  obtain ⟨c, hlast, hc⟩ := exists_getLast?_tidyEnds hsome
  have hkept := getLast?_closeBlankLines hlast hc
  rw [hnil] at hkept
  cases hkept

/-- **Tidy Markdown ends with ink, and after its first line no two blank lines stand side by
side.** -/
theorem isTidy_normalize (t : Text) : normalize t = [] ∨ (normalize t).IsTidy := by
  by_cases hsome : t.tidyEnds = []
  · exact Or.inl (normalize_eq_nil_iff.mpr hsome)
  · right
    obtain ⟨c, hlast, hc⟩ := exists_getLast?_tidyEnds hsome
    have hkept := getLast?_closeBlankLines hlast hc
    rw [normalize_eq_closeBlankLines]
    have htrailing : ∀ d ∈ (closeBlankLines t.tidyEnds).getLast?, isBlank d = false := by
      intro d hd
      rw [hkept] at hd
      cases hd
      exact hc
    obtain ⟨line, rest, hlines, hapart, _, _⟩ :=
      isChain_lines (hasFewBreaks_closeBlankLines t.tidyEnds) htrailing (Or.inl rfl)
    refine ⟨htrailing, fun last hlast' => ?_, by rw [hlines]; exact hapart⟩
    obtain ⟨last', hlast'', hmem⟩ := mem_getLast?_lines hkept (ne_break_of_not_isBlank hc)
    rw [hlast''] at hlast'
    cases hlast'
    exact List.all_eq_false.mpr ⟨c, hmem, by simp [hc]⟩

/-- The first line of a text has ink if no line feed comes before its ink. -/
theorem isBlank_head?_lines {run rest : Text} {c : Char} (hrun : run.isBlank = true)
    (hc : isBlank c = false) :
    (∀ line ∈ (run ++ c :: rest).lines.head?, line.isBlank = false) ↔ '\n' ∉ run := by
  rw [head?_lines]
  simp only [Option.mem_some_iff, forall_eq']
  by_cases hbreak : '\n' ∈ run
  · obtain ⟨a, w, rfl, ha⟩ := List.eq_append_cons_of_mem hbreak
    rw [Text.isBlank, List.all_append, Bool.and_eq_true] at hrun
    rw [List.append_assoc, List.cons_append, takeWhile_append_break ha, Text.isBlank, hrun.1]
    simp
  · rw [List.takeWhile_append_of_pos fun d hd => by simpa using ne_of_mem_of_not_mem hd hbreak,
      List.takeWhile_cons_of_pos (by simpa using ne_break_of_not_isBlank hc)]
    simp only [hbreak, not_false_eq_true, iff_true]
    exact List.all_eq_false.mpr ⟨c, by simp, by simp [hc]⟩

theorem mem_closeRun_iff {run : Text} : '\n' ∈ closeRun run ↔ '\n' ∈ run := by
  rw [closeRun]
  split
  · next htwo =>
    have hmem : '\n' ∈ run := List.count_pos_iff.mp (by omega)
    simp [hmem]
  · rfl

/-- A text that ends with ink has a first character with ink. -/
theorem exists_run_of_getLast? {t : Text} {c : Char} (h : t.getLast? = some c)
    (hc : isBlank c = false) :
    ∃ run d rest, t = run ++ d :: rest ∧ Text.isBlank run = true ∧ isBlank d = false := by
  induction t using inductionOnRuns with
  | blank run hrun =>
    rw [Text.isBlank, List.all_eq_true] at hrun
    rw [hrun c (List.mem_of_getLast? h)] at hc
    cases hc
  | ink run d rest hrun hd => exact ⟨run, d, rest, rfl, hrun, hd⟩

/-- **When tidy Markdown has its shape**: unless its first line is white space, and that comes from a
line feed in the white space before the ink that is left when tabs and line breaks are taken away
from the start. -/
theorem isShaped_normalize_iff (t : Text) : normalize t = [] ∨ (normalize t).IsShaped ↔
    '\n' ∉ t.tidyEnds.takeWhile isBlank := by
  by_cases hsome : t.tidyEnds = []
  · rw [normalize_eq_nil_iff, hsome]
    simp
  · obtain ⟨c, hlast, hc⟩ := exists_getLast?_tidyEnds hsome
    obtain ⟨run, d, rest, hsplit, hrun, hd⟩ := exists_run_of_getLast? hlast hc
    have hfirst : (∀ line ∈ (normalize t).lines.head?, line.isBlank = false) ↔ '\n' ∉ run := by
      rw [normalize_eq_closeBlankLines, hsplit, closeBlankLines_append_cons hrun hd,
        isBlank_head?_lines (isBlank_closeRun hrun) hd, mem_closeRun_iff]
    have hne := mt normalize_eq_nil_iff.mp hsome
    rw [or_iff_right hne, hsplit, takeWhile_append_cons_of_isBlank hrun hd, ← hfirst]
    refine ⟨fun h => h.first, fun hink => ?_⟩
    obtain ⟨htrailing, hend, hapart⟩ := (isTidy_normalize t).resolve_left hne
    obtain ⟨line, others, hlines⟩ := exists_lines_eq (normalize t)
    refine ⟨hink, htrailing, hend, ?_⟩
    rw [hlines] at hink hapart ⊢
    exact List.IsChain.cons hapart fun next _ => Or.inl (hink line rfl)

end HtmlMarkdown
