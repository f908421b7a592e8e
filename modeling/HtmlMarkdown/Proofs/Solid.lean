import Mathlib
import HtmlMarkdown.Proofs.Seam

/-!
# Solid texts

A text with ink at both ends and without blank lines to close stays as it is among others, whatever
becomes of the white space between them.

* `limitBreaks_append_of_inkText`: a text that ends with ink has its line feeds limited by itself;
* `Text.IsSolid`, `isSolid_join`: solid texts, and several of them with a blank line between;
* **`normalize_flatMap_asBlock`**, **`limitBreaks_trim_flatMap_asBlock`**: one blank line is left
  between solid blocks.
-/

namespace HtmlMarkdown

/-! ## Texts that end with ink -/

theorem limitBreaksAfter_of_inkText {t : Text} (h : Side.left.InkText t) (n : ℕ) :
    limitBreaksAfter n t = limitBreaks t := by
  rcases t with _ | ⟨c, t⟩
  · rfl
  · have hc : c ≠ '\n' := ne_break_of_not_isBlank (h c rfl)
    rw [limitBreaks, limitBreaksAfter, limitBreaksAfter, if_neg hc, if_neg hc]

theorem limitBreaksAfter_append_of_inkText {t : Text} (h : Side.right.InkText t) (hne : t ≠ [])
    (n : ℕ) (s : Text) : limitBreaksAfter n (t ++ s) = limitBreaksAfter n t ++ limitBreaks s := by
  induction t generalizing n with
  | nil => exact absurd rfl hne
  | cons c t ih =>
    by_cases hnil : t = []
    · subst hnil
      have hc : c ≠ '\n' := ne_break_of_not_isBlank (h c rfl)
      rw [List.singleton_append, limitBreaksAfter, limitBreaksAfter, if_neg hc, if_neg hc]
      rfl
    · have hkept := ih (Place.inkText_right_of_suffix (List.suffix_cons c t) h) hnil
      rw [List.cons_append, limitBreaksAfter, limitBreaksAfter]
      split
      · split
        · rw [hkept, List.cons_append]
        · exact hkept _
      · rw [hkept, List.cons_append]

/-- A text that ends with ink has its line feeds limited by itself. -/
theorem limitBreaks_append_of_inkText {t : Text} (h : Side.right.InkText t) (s : Text) :
    limitBreaks (t ++ s) = limitBreaks t ++ limitBreaks s := by
  by_cases hne : t = []
  · rw [hne]
    rfl
  · exact limitBreaksAfter_append_of_inkText h hne 0 s

/-! ## Solid texts -/

/-- A text has ink at both ends and no blank lines to close. -/
structure Text.IsSolid (t : Text) : Prop where
  ne_nil : t ≠ []
  ink : ∀ side : Side, side.InkText t
  closed : closeBlankLines t = t

namespace Text.IsSolid

theorem limitBreaks_eq {t : Text} (h : t.IsSolid) : limitBreaks t = t := by
  rw [← h.closed]
  exact limitBreaks_closeBlankLines t

/-- A line with ink at both ends is solid. -/
theorem of_not_mem {t : Text} (hne : t ≠ []) (hbreak : '\n' ∉ t)
    (hink : ∀ side : Side, side.InkText t) : t.IsSolid :=
  ⟨hne, hink, closeBlankLines_of_not_mem hbreak⟩

/-- A solid text is tidy, with ink at its very start. -/
theorem isTidied {t : Text} (h : t.IsSolid) : t.IsTidied := by
  obtain ⟨c, rest, hcons⟩ := List.exists_cons_of_ne_nil h.ne_nil
  have hc : HtmlMarkdown.isBlank c = false := h.ink .left c (hcons ▸ rfl)
  refine ⟨opensInked_iff.mpr ⟨[], c, rest, hcons, rfl, hc, List.not_mem_nil⟩, fun d hd => ?_,
    h.ink .right, h.closed⟩
  by_contra hlead
  rw [Bool.not_eq_false] at hlead
  have hblank := isBlank_of_isLeadingBreak d hlead
  rw [h.ink .left d hd] at hblank
  cases hblank

theorem isBlank_eq_false {t : Text} (h : t.IsSolid) : t.isBlank = false := by
  by_contra hblank
  rw [Bool.not_eq_false] at hblank
  exact h.ne_nil ((h.ink .left).eq_nil_of_isBlank hblank)

end Text.IsSolid

/-! ## White space at the ends -/

/-- Blank lines around a text go with the white space at its ends. -/
theorem trim_asBlock (t : Text) : Text.trim isBlank (asBlock t) = Text.trim isBlank t := by
  have hstart : Text.trimStart isBlank (asBlock t) = Text.trimStart isBlank (t ++ ['\n', '\n']) :=
    List.dropWhile_append_of_pos isBlank_of_mem_breaks
  rw [Text.trim, hstart, Text.trimStart, List.dropWhile_append]
  split
  · next hnone =>
    rw [List.isEmpty_iff] at hnone
    rw [Text.trim, Text.trimStart, hnone]
    rfl
  · rw [trimEnd_append isBlank_of_mem_breaks]
    rfl

theorem isBlank_asBlock (t : Text) : (asBlock t).isBlank = t.isBlank := by
  have hbreaks : Text.isBlank ['\n', '\n'] = true := by decide
  have hsplit : asBlock t = ['\n', '\n'] ++ t ++ ['\n', '\n'] := rfl
  rw [hsplit, isBlank_append, isBlank_append, hbreaks, Bool.true_and, Bool.and_true]

theorem trim_of_inkText {t : Text} (h : ∀ side : Side, side.InkText t) :
    Text.trim isBlank t = t := by
  rw [Text.trim, Text.trimStart_eq_self (h .left), Text.trimEnd_eq_self (h .right)]

/-! ## Solid texts one after another -/

section Join

variable {xs : List Text}

theorem join_ne_nil (h : ∀ x ∈ xs, x.IsSolid) (hne : xs ≠ []) (sep : Text) :
    Text.join sep xs ≠ [] := by
  rcases xs with _ | ⟨x, _ | ⟨y, ys⟩⟩
  · exact absurd rfl hne
  · rw [join_singleton]
    exact (h x List.mem_cons_self).ne_nil
  · rw [join_cons_cons]
    exact List.append_ne_nil_of_left_ne_nil (h x List.mem_cons_self).ne_nil _

/-- Texts with ink at their ends have ink there also one after another. -/
theorem inkText_join (h : ∀ x ∈ xs, x.IsSolid) (sep : Text) (side : Side) :
    side.InkText (Text.join sep xs) := by
  cases side with
  | left =>
    intro c hc
    rw [Side.edge?, head?_join fun x hx => (h x hx).ne_nil] at hc
    obtain ⟨x, hx, hcx⟩ := Option.bind_eq_some_iff.mp hc
    exact (h x (List.mem_of_mem_head? hx)).ink .left c hcx
  | right =>
    exact inkText_right_join (fun x hx => ⟨(h x hx).isTidied.opens, (h x hx).ink .right⟩) sep

/-- Between solid texts four line feeds become two. -/
theorem limitBreaks_join (h : ∀ x ∈ xs, x.IsSolid) :
    limitBreaks (Text.join ['\n', '\n', '\n', '\n'] xs) = Text.join ['\n', '\n'] xs := by
  induction xs with
  | nil => rfl
  | cons x xs ih =>
    rw [List.forall_mem_cons] at h
    rcases xs with _ | ⟨y, ys⟩
    · rw [join_singleton, join_singleton, h.1.limitBreaks_eq]
    · have hrest : Side.left.InkText (Text.join ['\n', '\n', '\n', '\n'] (y :: ys)) :=
        inkText_join h.2 _ .left
      have hbreaks : limitBreaks (['\n', '\n', '\n', '\n'] ++
          Text.join ['\n', '\n', '\n', '\n'] (y :: ys)) =
          ['\n', '\n'] ++ limitBreaks (Text.join ['\n', '\n', '\n', '\n'] (y :: ys)) := by
        rw [← limitBreaksAfter_of_inkText hrest 4]
        rfl
      rw [join_cons_cons, join_cons_cons, limitBreaks_append_of_inkText (h.1.ink .right),
        h.1.limitBreaks_eq, hbreaks, ih h.2]

/-- **Solid texts with blank lines between them are solid.** -/
theorem isSolid_join (h : ∀ x ∈ xs, x.IsSolid) (hne : xs ≠ []) :
    (Text.join ['\n', '\n'] xs).IsSolid := by
  have hrun : closeRun ['\n', '\n'] = ['\n', '\n'] := by decide
  refine ⟨join_ne_nil h hne _, inkText_join h _, ?_⟩
  rw [closeBlankLines_join_of_isTidied (fun x hx => (h x hx).isTidied) (by decide), hrun]

/-! ## Blocks one after another -/

theorem isBlank_flatMap_asBlock (h : ∀ x ∈ xs, x.IsSolid) (hne : xs ≠ []) :
    Text.isBlank (xs.flatMap asBlock) = false := by
  obtain ⟨x, rest, rfl⟩ := List.exists_cons_of_ne_nil hne
  have hx : x.isBlank = false := (h x List.mem_cons_self).isBlank_eq_false
  rw [List.flatMap_cons, isBlank_append, isBlank_asBlock, hx, Bool.false_and]

/-- **One blank line is left between solid blocks** when their ends are trimmed and their line feeds
limited. -/
theorem limitBreaks_trim_flatMap_asBlock (h : ∀ x ∈ xs, x.IsSolid) (hne : xs ≠ []) :
    limitBreaks (Text.trim isBlank (xs.flatMap asBlock)) = Text.join ['\n', '\n'] xs := by
  rw [flatMap_asBlock hne, trim_asBlock, trim_of_inkText (inkText_join h _), limitBreaks_join h]

/-- **One blank line is left between solid blocks** when Markdown is made tidy. -/
theorem normalize_flatMap_asBlock (h : ∀ x ∈ xs, x.IsSolid) (hne : xs ≠ []) :
    normalize (xs.flatMap asBlock) = Text.join ['\n', '\n'] xs :=
  normalize_flatMap_asBlock_of_isTidied (fun x hx => (h x hx).isTidied) hne

end Join

end HtmlMarkdown
