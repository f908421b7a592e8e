import Mathlib
import HtmlMarkdown.Proofs.Kept
import HtmlMarkdown.Proofs.Tidy

/-!
# Line feeds between ink

The conversion adds marks to the ink of a document and moves its white space about. A line feed with
ink on both sides stays where it is, whichever white space goes.

* `Woven`: a text with other characters added to it;
* `Text.HasBreakBetween`: a line feed with certain ink before it and certain ink after it;
* `HasBreakBetween.flank`: it stays when spacing is moved outside;
* `hasBreakBetween_closeBlankLines`, **`hasBreakBetween_normalize`**: it stays in tidy Markdown, and
  none comes.
-/

namespace HtmlMarkdown

/-! ## Characters added -/

/-- The second text is the first one with characters added that `extra` allows. -/
inductive Woven (extra : Char → Prop) : Text → Text → Prop
  | nil : Woven extra [] []
  | keep (c : Char) {s t : Text} : Woven extra s t → Woven extra (c :: s) (c :: t)
  | add {c : Char} {s t : Text} : extra c → Woven extra s t → Woven extra s (c :: t)

namespace Woven

variable {extra : Char → Prop} {s t s' t' : Text}

theorem refl (s : Text) : Woven extra s s := by
  induction s with
  | nil => exact .nil
  | cons c s ih => exact .keep c ih

theorem append (h : Woven extra s t) (h' : Woven extra s' t') :
    Woven extra (s ++ s') (t ++ t') := by
  induction h with
  | nil => exact h'
  | keep c _ ih => exact .keep c ih
  | add hc _ ih => exact .add hc ih

theorem of_extra {added : Text} (h : ∀ c ∈ added, extra c) : Woven extra [] added := by
  induction added with
  | nil => exact .nil
  | cons c added ih =>
    rw [List.forall_mem_cons] at h
    exact .add h.1 (ih h.2)

/-- Nothing is lost and nothing moved. -/
theorem sublist (h : Woven extra s t) : s.Sublist t := by
  induction h with
  | nil => exact List.Sublist.refl _
  | keep c _ ih => exact ih.cons_cons c
  | @add c _ _ _ _ ih => exact ih.cons c

theorem ne_nil (h : Woven extra s t) (hs : s ≠ []) : t ≠ [] := by
  rintro rfl
  exact hs (List.sublist_nil.mp h.sublist)

end Woven

/-! ## A line feed between ink -/

/-- A line feed stands in a text, with the ink `s` before it and the ink `t` after it. -/
def Text.HasBreakBetween (w s t : Text) : Prop :=
  ∃ before after : Text, w = before ++ '\n' :: after ∧ before.ink = s ∧ after.ink = t

namespace Text.HasBreakBetween

variable {w s t : Text} (h : w.HasBreakBetween s t)

include h

theorem ink_eq : w.ink = s ++ t := by
  obtain ⟨before, after, rfl, rfl, rfl⟩ := h
  rw [ink_append, ink_cons_of_isBlank (by decide)]

theorem append_left (left : Text) : (left ++ w).HasBreakBetween (left.ink ++ s) t := by
  obtain ⟨before, after, rfl, rfl, rfl⟩ := h
  exact ⟨left ++ before, after, by rw [List.append_assoc], ink_append _ _, rfl⟩

theorem append_right (right : Text) : (w ++ right).HasBreakBetween s (t ++ right.ink) := by
  obtain ⟨before, after, rfl, rfl, rfl⟩ := h
  exact ⟨before, after ++ right, by rw [List.append_assoc, List.cons_append], rfl, ink_append _ _⟩

theorem trimStart {q : Char → Bool} (hq : ∀ c, q c = true → HtmlMarkdown.isBlank c = true)
    (hs : s ≠ []) : (trimStart q w).HasBreakBetween s t := by
  obtain ⟨before, after, rfl, rfl, rfl⟩ := h
  exact ⟨_, after, trimStart_append_of_ink hq hs _, ink_trimStart hq before, rfl⟩

theorem trimEnd {q : Char → Bool} (hq : ∀ c, q c = true → HtmlMarkdown.isBlank c = true)
    (ht : t ≠ []) : (trimEnd q w).HasBreakBetween s t := by
  obtain ⟨before, after, rfl, rfl, rfl⟩ := h
  refine ⟨before, _, ?_, rfl, ink_trimEnd hq after⟩
  have happend := trimEnd_append_of_ink hq ht (before ++ ['\n'])
  simpa using happend

/-- A line feed with ink on both sides stays when spacing is moved outside an element. -/
theorem flank (p : Place) (hs : s ≠ []) (ht : t ≠ []) :
    (p.flank w).content.HasBreakBetween s t := by
  have hleft : (p.flankLeft w).content.HasBreakBetween s t := by
    rcases p.flankLeft_eq w with heq | heq <;> rw [heq]
    · exact h
    · exact h.trimStart isBlank_of_isSpacing hs
  rw [Place.flank]
  split
  · exact h
  · rcases p.flankRight_eq (p.flankLeft w) with heq | heq <;> rw [heq]
    · exact hleft
    · exact hleft.trimEnd isBlank_of_isSpacing ht

end Text.HasBreakBetween

/-! ## Tidy Markdown -/

open Text

/-- In white space a line feed stands between no ink. -/
theorem hasBreakBetween_of_isBlank {run s t : Text} (hrun : run.isBlank = true) :
    run.HasBreakBetween s t ↔ '\n' ∈ run ∧ s = [] ∧ t = [] := by
  refine ⟨fun h => ?_, ?_⟩
  · have hnil : s ++ t = [] := h.ink_eq.symm.trans (ink_eq_nil_iff.mpr hrun)
    obtain ⟨before, after, rfl, -, -⟩ := h
    exact ⟨by simp, List.append_eq_nil_iff.mp hnil⟩
  · rintro ⟨hmem, rfl, rfl⟩
    obtain ⟨a, b, rfl⟩ := List.append_of_mem hmem
    rw [Text.isBlank, List.all_append, List.all_cons, Bool.and_eq_true, Bool.and_eq_true] at hrun
    exact ⟨a, b, rfl, ink_eq_nil_iff.mpr hrun.1, ink_eq_nil_iff.mpr hrun.2.2⟩

/-- A line feed stands in the white space before the first ink or after it. -/
theorem hasBreakBetween_append_cons {run rest s t : Text} {c : Char} (hrun : run.isBlank = true)
    (hc : isBlank c = false) : (run ++ c :: rest).HasBreakBetween s t ↔
      ('\n' ∈ run ∧ s = [] ∧ t = c :: rest.ink) ∨ ∃ s', s = c :: s' ∧ rest.HasBreakBetween s' t := by
  have hink : Text.ink (c :: rest) = c :: rest.ink := List.filter_cons_of_pos (by simp [hc])
  refine ⟨?_, ?_⟩
  · rintro ⟨before, after, hsplit, rfl, rfl⟩
    obtain ⟨tail, rfl, htail⟩ | ⟨tail, rfl, htail⟩ := List.append_eq_append_iff.mp hsplit
    · -- the line feed comes after the white space
      rcases tail with _ | ⟨d, tail⟩
      · exact absurd (List.cons.inj htail).1 (ne_break_of_not_isBlank hc)
      · obtain ⟨rfl, rfl⟩ := List.cons.inj htail
        refine Or.inr ⟨ink tail, ?_, tail, after, rfl, rfl, rfl⟩
        rw [ink_append, ink_eq_nil_iff.mpr hrun, List.nil_append]
        exact List.filter_cons_of_pos (by simp [hc])
    · -- the line feed is in the white space
      rcases tail with _ | ⟨d, tail⟩
      · exact absurd (List.cons.inj htail).1.symm (ne_break_of_not_isBlank hc)
      · obtain ⟨rfl, rfl⟩ := List.cons.inj htail
        rw [isBlank_append, isBlank_cons_of_isBlank (by decide), Bool.and_eq_true] at hrun
        have hafter : ink (tail ++ c :: rest) = c :: rest.ink := by
          rw [ink_append, ink_eq_nil_iff.mpr hrun.2, List.nil_append, hink]
        exact Or.inl ⟨by simp, ink_eq_nil_iff.mpr hrun.1, hafter⟩
  · rintro (⟨hmem, rfl, rfl⟩ | ⟨s', rfl, h⟩)
    · have hhere := ((hasBreakBetween_of_isBlank hrun).mpr ⟨hmem, rfl, rfl⟩).append_right (c :: rest)
      rwa [hink, List.nil_append] at hhere
    · have hthere := h.append_left (run ++ [c])
      rw [ink_append, ink_eq_nil_iff.mpr hrun, List.nil_append] at hthere
      rw [List.append_cons]
      simpa [ink, hc] using hthere

/-- **A line feed stands between certain ink after blank lines are closed just when one did before**,
if only as one of the two that are left of its run. -/
theorem hasBreakBetween_closeBlankLines {w s t : Text} :
    (closeBlankLines w).HasBreakBetween s t ↔ w.HasBreakBetween s t := by
  induction w using inductionOnRuns generalizing s with
  | blank run hrun =>
    rw [closeBlankLines_of_isBlank hrun, hasBreakBetween_of_isBlank (isBlank_closeRun hrun),
      hasBreakBetween_of_isBlank hrun, mem_closeRun_iff]
  | ink run c rest hrun hc ih =>
    rw [closeBlankLines_append_cons hrun hc, hasBreakBetween_append_cons (isBlank_closeRun hrun) hc,
      hasBreakBetween_append_cons hrun hc, mem_closeRun_iff, ink_closeBlankLines]
    simp only [ih]

theorem hasBreakBetween_trimStart {q : Char → Bool} (hq : ∀ c, q c = true → isBlank c = true)
    {w s t : Text} (hs : s ≠ []) : (trimStart q w).HasBreakBetween s t ↔ w.HasBreakBetween s t := by
  refine ⟨fun h => ?_, fun h => h.trimStart hq hs⟩
  have hwhole := h.append_left (w.takeWhile q)
  rwa [ink_takeWhile hq, List.nil_append, trimStart, List.takeWhile_append_dropWhile] at hwhole

theorem hasBreakBetween_trimEnd {q : Char → Bool} (hq : ∀ c, q c = true → isBlank c = true)
    {w s t : Text} (ht : t ≠ []) : (trimEnd q w).HasBreakBetween s t ↔ w.HasBreakBetween s t := by
  refine ⟨fun h => ?_, fun h => h.trimEnd hq ht⟩
  have hwhole := h.append_right (w.rtakeWhile q)
  have hnil : ink (w.rtakeWhile q) = [] :=
    ink_eq_nil_of_all hq fun _ hc => List.mem_rtakeWhile_imp hc
  have hsplit : trimEnd q w ++ w.rtakeWhile q = w := List.rdropWhile_append_rtakeWhile
  rwa [hnil, List.append_nil, hsplit] at hwhole

/-- **Tidy Markdown has a line feed between ink just where the assembled Markdown has one.** -/
theorem hasBreakBetween_normalize {w s t : Text} (hs : s ≠ []) (ht : t ≠ []) :
    (normalize w).HasBreakBetween s t ↔ w.HasBreakBetween s t := by
  rw [normalize_eq_closeBlankLines, hasBreakBetween_closeBlankLines, tidyEnds,
    hasBreakBetween_trimEnd (fun _ hc => hc) ht,
    hasBreakBetween_trimStart isBlank_of_isLeadingBreak hs]

end HtmlMarkdown
