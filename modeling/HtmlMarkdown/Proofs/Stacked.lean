import Mathlib
import HtmlMarkdown.Proofs.Tight

/-!
# Lines on top of each other

* `Text.IsInkLine`: a line that has ink and ends with it;
* `stacked`: lines, each with a line feed before it; `join_cons`;
* `indentRest_append_stacked`: the lines below a line are indented;
* `closeBlankLines_append_stacked`: there are no blank lines in them to close;
* **`normalize_asBlock_join`**: lines stay as they are when Markdown is made tidy.
-/

namespace HtmlMarkdown

/-! ## Lines with ink -/

/-- A text is a single line that has ink and ends with it. -/
structure Text.IsInkLine (t : Text) : Prop where
  unbroken : '\n' ∉ t
  trailing : Side.right.InkText t
  inked : t.isBlank = false

theorem Text.IsInkLine.ne_nil {t : Text} (h : t.IsInkLine) : t ≠ [] := by
  rintro rfl
  cases h.inked

/-- A line with ink stays one with anything unbroken before it. -/
theorem Text.IsInkLine.append_left {t : Text} (h : t.IsInkLine) {start : Text}
    (hstart : '\n' ∉ start) : Text.IsInkLine (start ++ t) := by
  refine ⟨fun hbreak => ?_, Side.inkText_right_append h.trailing h.ne_nil start, ?_⟩
  · exact (List.mem_append.mp hbreak).elim hstart h.unbroken
  · rw [isBlank_append, h.inked, Bool.and_false]

/-! ## Lines below a line -/

/-- Lines one after another, each with a line feed before it. -/
def stacked (lines : List Text) : Text := lines.flatMap ('\n' :: ·)

@[simp] theorem stacked_nil : stacked [] = [] := rfl

@[simp] theorem stacked_cons (line : Text) (lines : List Text) :
    stacked (line :: lines) = '\n' :: (line ++ stacked lines) := rfl

@[simp] theorem stacked_append (lines lines' : List Text) :
    stacked (lines ++ lines') = stacked lines ++ stacked lines' := List.flatMap_append

theorem join_singleton (sep x : Text) : Text.join sep [x] = x := List.intercalate_singleton

theorem join_cons_cons (sep x y : Text) (ys : List Text) :
    Text.join sep (x :: y :: ys) = x ++ (sep ++ Text.join sep (y :: ys)) := by
  rw [Text.join, Text.join, List.intercalate_cons_cons, List.append_assoc]

theorem join_cons (line : Text) (lines : List Text) :
    Text.join ['\n'] (line :: lines) = line ++ stacked lines := by
  induction lines generalizing line with
  | nil => rw [join_singleton, stacked_nil, List.append_nil]
  | cons next lines ih => rw [join_cons_cons, ih, stacked_cons, List.singleton_append]

/-- The line feed before the first line is taken away. -/
theorem trimStart_stacked {line : Text} (hink : Side.left.InkText line) (hne : line ≠ [])
    (lines : List Text) : Text.trimStart (· == '\n') (stacked (line :: lines)) =
      Text.join ['\n'] (line :: lines) := by
  obtain ⟨c, rest, rfl⟩ := List.exists_cons_of_ne_nil hne
  have hc : ¬ (c == '\n') = true := by
    rw [beq_iff_eq]
    exact ne_break_of_not_isBlank (hink c rfl)
  rw [join_cons, stacked_cons, Text.trimStart, List.dropWhile_cons_of_pos (by decide)]
  exact List.dropWhile_cons_of_neg (p := (· == '\n')) hc

theorem isBlank_stacked {lines : List Text} (h : ∀ line ∈ lines, line.IsInkLine) :
    (stacked lines).isBlank = lines.isEmpty := by
  rcases lines with _ | ⟨line, lines⟩
  · rfl
  · have hbreak : isBlank '\n' = true := by decide
    rw [stacked_cons, isBlank_cons_of_isBlank hbreak, isBlank_append,
      (h line List.mem_cons_self).inked, Bool.false_and]
    rfl

/-! ## Indented lines -/

theorem indentRest_append (s t : Text) : indentRest (s ++ t) = indentRest s ++ indentRest t :=
  List.flatMap_append

theorem indentRest_of_not_mem {t : Text} (h : '\n' ∉ t) : indentRest t = t := by
  rw [indentRest, Text.replaceChar, List.flatMap_congr (g := fun c => [c])]
  · exact List.flatMap_singleton' t
  · exact fun c hc => if_neg (ne_of_mem_of_not_mem hc h)

/-- **The lines below a line are indented** by four spaces. -/
theorem indentRest_append_stacked {t : Text} {lines : List Text} (ht : '\n' ∉ t)
    (hlines : ∀ line ∈ lines, '\n' ∉ line) :
    indentRest (t ++ stacked lines) = t ++ stacked (lines.map ("    ".toList ++ ·)) := by
  induction lines generalizing t with
  | nil => rw [stacked_nil, List.append_nil, indentRest_of_not_mem ht, List.map_nil, stacked_nil,
      List.append_nil]
  | cons line lines ih =>
    rw [List.forall_mem_cons] at hlines
    have hbreak : indentRest ['\n'] = "\n    ".toList := by decide
    rw [stacked_cons, ← List.singleton_append, indentRest_append, indentRest_append,
      indentRest_of_not_mem ht, ih hlines.1 hlines.2, hbreak, List.map_cons, stacked_cons]
    rfl

/-! ## Lines made tidy -/

/-- A line feed stays before a line that has ink. -/
theorem closeBlankLines_append_line {t line : Text} (ht : '\n' ∉ t) (hline : '\n' ∉ line)
    (hink : line.isBlank = false) (rest : Text) :
    closeBlankLines (t ++ '\n' :: (line ++ rest)) = t ++ '\n' :: closeBlankLines (line ++ rest) := by
  obtain ⟨c, hc, hcink⟩ := List.all_eq_false.mp hink
  -- the white space at the start of the line ends in it
  have hrun : '\n' ∉ (line ++ rest).takeWhile isBlank := fun hmem => by
    rw [List.takeWhile_append, if_neg] at hmem
    · exact hline ((List.takeWhile_sublist _).subset hmem)
    · intro hlength
      have hall := List.takeWhile_eq_self_iff.mp
        ((List.takeWhile_sublist isBlank).eq_of_length hlength)
      exact hcink (hall c hc)
  rw [closeBlankLines_append_of_not_mem ht, closeBlankLines_break hrun]

/-- **There are no blank lines to close** below a line, if all lines there have ink. -/
theorem closeBlankLines_append_stacked {t : Text} {lines : List Text} (ht : '\n' ∉ t)
    (hlines : ∀ line ∈ lines, '\n' ∉ line ∧ line.isBlank = false) :
    closeBlankLines (t ++ stacked lines) = t ++ stacked lines := by
  induction lines generalizing t with
  | nil => rw [stacked_nil, List.append_nil, closeBlankLines_of_not_mem ht]
  | cons line lines ih =>
    rw [List.forall_mem_cons] at hlines
    obtain ⟨⟨hunbroken, hinked⟩, hrest⟩ := hlines
    rw [stacked_cons, closeBlankLines_append_line ht hunbroken hinked, ih hunbroken hrest]

theorem inkText_right_append_stacked {t : Text} {lines : List Text} (ht : Side.right.InkText t)
    (hlines : ∀ line ∈ lines, line.IsInkLine) : Side.right.InkText (t ++ stacked lines) := by
  induction lines generalizing t with
  | nil => rwa [stacked_nil, List.append_nil]
  | cons line lines ih =>
    rw [List.forall_mem_cons] at hlines
    have hrest : Side.right.InkText (line ++ stacked lines) := ih hlines.1.trailing hlines.2
    have hne : line ++ stacked lines ≠ [] := List.append_ne_nil_of_left_ne_nil hlines.1.ne_nil _
    rw [stacked_cons, List.append_cons]
    exact Side.inkText_right_append hrest hne _

/-- **Lines stay as they are when Markdown is made tidy**, also with blank lines around them, if the
first one begins with ink. -/
theorem normalize_asBlock_join {line : Text} {lines : List Text}
    (hfirst : Side.left.InkText line) (hlines : ∀ l ∈ line :: lines, l.IsInkLine) :
    normalize (asBlock (Text.join ['\n'] (line :: lines))) = Text.join ['\n'] (line :: lines) := by
  rw [List.forall_mem_cons] at hlines
  rw [join_cons]
  refine normalize_asBlock_of_closed
    (closeBlankLines_append_stacked hlines.1.unbroken fun l hl =>
      ⟨(hlines.2 l hl).unbroken, (hlines.2 l hl).inked⟩) fun side => ?_
  cases side with
  | left => exact Side.inkText_left_append hfirst hlines.1.ne_nil _
  | right => exact inkText_right_append_stacked hlines.1.trailing hlines.2

theorem normalize_cons_break (t : Text) : normalize ('\n' :: t) = normalize t := by
  rw [normalize, normalize, Text.trimStart, List.dropWhile_cons_of_pos (by decide)]
  rfl

/-- The line feed before the first line goes as well. -/
theorem normalize_asBlock_stacked {line : Text} {lines : List Text}
    (hfirst : Side.left.InkText line) (hlines : ∀ l ∈ line :: lines, l.IsInkLine) :
    normalize (asBlock (stacked (line :: lines))) = Text.join ['\n'] (line :: lines) := by
  have hbreak : asBlock (stacked (line :: lines)) =
      '\n' :: asBlock (Text.join ['\n'] (line :: lines)) := by
    rw [stacked_cons, join_cons]
    rfl
  rw [hbreak, normalize_cons_break, normalize_asBlock_join hfirst hlines]

end HtmlMarkdown
