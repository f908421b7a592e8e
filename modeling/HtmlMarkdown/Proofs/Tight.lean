import Mathlib
import HtmlMarkdown.Proofs.Ink
import HtmlMarkdown.Proofs.Tidy
import HtmlMarkdown.Rule.Markdown

/-!
# Tight texts

* `Text.IsTight`: a text with no white space but spaces, no two of them side by side;
* `trimStart_squeezeAfter`: squeezed texts at their start;
* `flank_append`: moving spacing outside a tight content loses and invents nothing;
* `tidyEnds_asBlock`, `normalize_asBlock_of_closed`: the blank lines around a block go;
* **`normalize_asBlock`**: a line stays as it is when Markdown is made tidy.
-/

namespace HtmlMarkdown

/-- A text has no white space but spaces, and no two spaces side by side. -/
def Text.IsTight (t : Text) : Prop :=
  t.IsChain (fun a b => a = ' ' → b ≠ ' ') ∧ ∀ c ∈ t, HtmlMarkdown.isBlank c = true → c = ' '

namespace Text.IsTight

theorem of_infix {s t : Text} (ht : t.IsTight) (h : s <:+: t) : s.IsTight := by
  refine ⟨?_, fun c hc => ht.2 c (h.subset hc)⟩
  exact List.IsChain.infix ht.1 h

theorem eq_space {t : Text} (ht : t.IsTight) {c : Char} (hc : c ∈ t) (h : isSpacing c = true) :
    c = ' ' := ht.2 c hc (isBlank_of_isSpacing c h)

/-- Spacing at the start is one space. -/
theorem trimStart_cons {c : Char} {t : Text} (ht : Text.IsTight (c :: t))
    (h : isSpacing c = true) : c = ' ' ∧ Text.trimStart isSpacing (c :: t) = t := by
  have hc := ht.eq_space List.mem_cons_self h
  refine ⟨hc, ?_⟩
  rw [Text.trimStart, List.dropWhile_cons_of_pos h]
  rcases t with _ | ⟨d, t⟩
  · rfl
  · apply List.dropWhile_cons_of_neg
    intro hd
    have hne := (List.isChain_cons_cons.mp ht.1).1 hc
    exact hne (ht.eq_space (List.mem_cons_of_mem _ List.mem_cons_self) hd)

/-- Spacing at the end is one space. -/
theorem trimEnd_concat {c : Char} {t : Text} (ht : Text.IsTight (t ++ [c]))
    (h : isSpacing c = true) : c = ' ' ∧ Text.trimEnd isSpacing (t ++ [c]) = t := by
  have hreverse : Text.IsTight (c :: t.reverse) := by
    have hchain := List.isChain_reverse.mpr (ht.1.imp fun a b hab (hb : b = ' ') ha => hab ha hb)
    rw [List.reverse_append] at hchain
    exact ⟨hchain, fun d hd => ht.2 d (by simpa [or_comm] using hd)⟩
  obtain ⟨hc, htrim⟩ := hreverse.trimStart_cons h
  refine ⟨hc, ?_⟩
  rw [Text.trimStart] at htrim
  rw [Text.trimEnd, List.reverse_append, List.reverse_singleton, List.singleton_append, htrim,
    List.reverse_reverse]

end Text.IsTight

/-! ## Squeezed texts -/

theorem trimStart_squeezeAfter (isInRun : Bool) (t : Text) :
    Text.trimStart (· == ' ') (squeezeAfter isInRun t) = squeezeAfter true t := by
  induction t generalizing isInRun with
  | nil => rfl
  | cons c t ih =>
    rw [squeezeAfter, squeezeAfter]
    by_cases hc : isSpacing c = true
    · rw [if_pos hc, if_pos hc, if_pos rfl]
      cases isInRun
      · exact ih true
      · exact ih true
    · rw [if_neg hc, if_neg hc]
      apply List.dropWhile_cons_of_neg
      simpa using not_isSpacing_ne_space hc

/-- A text with one space for every run of spacing, without those at its ends. -/
theorem dropTrailingSpaces_squeezeAfter (t : Text) :
    dropTrailingSpaces (squeezeAfter true t) = Text.trim (· == ' ') (squeeze t) := by
  rw [Text.trim, squeeze, trimStart_squeezeAfter, dropTrailingSpaces]

/-! ## Spacing moved outside -/

namespace Place

variable {p : Place} {content : Text}

theorem flankLeft_append (h : content.IsTight) :
    (p.flankLeft content).leading ++ (p.flankLeft content).content = content ∧
      (p.flankLeft content).trailing = [] := by
  rw [flankLeft]
  split
  · next hcond =>
    rw [Bool.and_eq_true] at hcond
    rcases content with _ | ⟨c, t⟩
    · exact absurd hcond.1 (by decide)
    · obtain ⟨rfl, htrim⟩ := h.trimStart_cons hcond.1
      rw [htrim]
      exact ⟨rfl, rfl⟩
  · exact ⟨rfl, rfl⟩

theorem flankRight_append {f : Flanked} (h : f.content.IsTight) (hf : f.trailing = []) :
    (p.flankRight f).leading = f.leading ∧
      (p.flankRight f).content ++ (p.flankRight f).trailing = f.content := by
  rw [flankRight]
  split
  · next hcond =>
    rw [Bool.and_eq_true] at hcond
    rcases List.eq_nil_or_concat f.content with hnil | ⟨t, c, hconcat⟩
    · rw [hnil] at hcond
      exact absurd hcond.1 (by decide)
    · rw [List.concat_eq_append] at hconcat
      rw [hconcat, List.getLast?_concat] at hcond
      rw [hconcat] at h ⊢
      obtain ⟨rfl, htrim⟩ := h.trimEnd_concat hcond.1
      rw [htrim]
      exact ⟨rfl, rfl⟩
  · exact ⟨rfl, by rw [hf, List.append_nil]⟩

/-- **Moving spacing outside a tight content** loses and invents nothing. -/
theorem flank_append (h : content.IsTight) :
    (p.flank content).leading ++ (p.flank content).content ++ (p.flank content).trailing =
      content := by
  rw [flank]
  split
  · rw [List.nil_append, List.append_nil]
  · obtain ⟨hleft, hnone⟩ := p.flankLeft_append h
    have hsuffix : (p.flankLeft content).content <:+: content :=
      ⟨(p.flankLeft content).leading, [], by rw [List.append_nil]; exact hleft⟩
    obtain ⟨hleading, hright⟩ := p.flankRight_append (h.of_infix hsuffix) hnone
    rw [hleading, List.append_assoc, hright, hleft]

end Place

/-! ## A line as a block -/

theorem closeBlankLines_of_not_mem {t : Text} (h : '\n' ∉ t) : closeBlankLines t = t := by
  have happend := closeBlankLines_append_of_not_mem h []
  rwa [closeBlankLines, List.append_nil] at happend

/-- A text that is trimmed at its end is trimmed of anything that goes with its end. -/
theorem trimEnd_append {p : Char → Bool} {s : Text} (hs : ∀ c ∈ s, p c = true) (t : Text) :
    Text.trimEnd p (t ++ s) = Text.trimEnd p t := by
  rw [Text.trimEnd, List.reverse_append, List.dropWhile_append_of_pos (by simpa using hs),
    Text.trimEnd]

theorem isBlank_of_mem_breaks : ∀ c ∈ ['\n', '\n'], isBlank c = true := by
  have hbreak : isBlank '\n' = true := by decide
  simp [hbreak]

/-- The lines around a block go when Markdown is made tidy, and spaces at its start stay. -/
theorem tidyEnds_asBlock_of_head? {t : Text} (hstart : ∀ c ∈ t.head?, isLeadingBreak c = false)
    (hink : Side.right.InkText t) : (asBlock t).tidyEnds = t := by
  rw [Text.tidyEnds]
  rcases t with _ | ⟨c, t⟩
  · rfl
  · have hc : ¬ isLeadingBreak c = true := by simp [hstart c rfl]
    have htrim : Text.trimStart isLeadingBreak (asBlock (c :: t)) = c :: t ++ ['\n', '\n'] :=
      List.dropWhile_cons_of_neg (l := t ++ ['\n', '\n']) hc
    rw [htrim]
    exact (trimEnd_append isBlank_of_mem_breaks _).trans (Text.trimEnd_eq_self hink)

theorem tidyEnds_asBlock {t : Text} (hink : ∀ side : Side, side.InkText t) :
    (asBlock t).tidyEnds = t := by
  refine tidyEnds_asBlock_of_head? (fun c hc => ?_) (hink .right)
  by_contra hlead
  rw [Bool.not_eq_false] at hlead
  have hblank := isBlank_of_isLeadingBreak c hlead
  rw [hink .left c hc] at hblank
  cases hblank

/-- A text without blank lines to close stays as it is when Markdown is made tidy, also with blank
lines around it. -/
theorem normalize_asBlock_of_closed {t : Text} (hclosed : closeBlankLines t = t)
    (hink : ∀ side : Side, side.InkText t) : normalize (asBlock t) = t := by
  rw [normalize_eq_closeBlankLines, tidyEnds_asBlock hink, hclosed]

/-- **A line stays as it is when Markdown is made tidy**, also with blank lines around it. -/
theorem normalize_asBlock {t : Text} (hbreak : '\n' ∉ t) (hink : ∀ side : Side, side.InkText t) :
    normalize (asBlock t) = t :=
  normalize_asBlock_of_closed (closeBlankLines_of_not_mem hbreak) hink

end HtmlMarkdown
