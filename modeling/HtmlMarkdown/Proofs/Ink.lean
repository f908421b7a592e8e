import Mathlib
import HtmlMarkdown.Text.Tidy
import HtmlMarkdown.Whitespace.Blank
import HtmlMarkdown.Whitespace.Collapse

/-!
# The ink of a text

The characters of a text that are no white space, in their order. What the conversion does to white
space leaves the ink as it is.

* `Text.ink`; `ink_trimStart`, `ink_trimEnd`: ends of white space;
* `trimStart_append_of_ink`, `trimEnd_append_of_ink`: the ends of a text with ink are its own;
* `ink_squeeze`, `ink_dropBreaks`: single texts of a document;
* **`ink_normalize`**: assembled Markdown.
-/

namespace HtmlMarkdown

namespace Text

/-- The characters of a text that are no white space. -/
def ink (s : Text) : Text := s.filter fun c => !HtmlMarkdown.isBlank c

@[simp] theorem ink_nil : ink [] = [] := rfl

@[simp] theorem ink_append (s t : Text) : ink (s ++ t) = ink s ++ ink t := List.filter_append s t

theorem ink_cons_of_isBlank {c : Char} (h : HtmlMarkdown.isBlank c = true) (s : Text) :
    ink (c :: s) = ink s := by
  simp [ink, h]

theorem ink_cons (c : Char) (s : Text) : ink (c :: s) = ink [c] ++ ink s := ink_append [c] s

theorem ink_eq_nil_iff {s : Text} : ink s = [] ↔ s.isBlank = true := by
  simp [ink, Text.isBlank, List.filter_eq_nil_iff]

theorem ink_ne_nil_iff {s : Text} : ink s ≠ [] ↔ s.isBlank = false := by
  rw [Ne, ink_eq_nil_iff, Bool.not_eq_true]

@[simp] theorem ink_ink (s : Text) : ink (ink s) = ink s := by
  simp [ink, List.filter_filter]

theorem ink_sublist (s : Text) : (ink s).Sublist s := List.filter_sublist

theorem Sublist.ink {s t : Text} (h : s.Sublist t) : (Text.ink s).Sublist (Text.ink t) :=
  h.filter _

theorem ink_eq_nil_of_all {p : Char → Bool} {s : Text}
    (hp : ∀ c, p c = true → HtmlMarkdown.isBlank c = true) (h : ∀ c ∈ s, p c = true) :
    ink s = [] := by
  rw [ink_eq_nil_iff, Text.isBlank, List.all_eq_true]
  exact fun c hc => hp c (h c hc)

/-! ## White space at the ends -/

theorem ink_takeWhile {p : Char → Bool} (hp : ∀ c, p c = true → HtmlMarkdown.isBlank c = true)
    (s : Text) : ink (s.takeWhile p) = [] :=
  ink_eq_nil_of_all hp fun _ hc => List.mem_takeWhile_imp hc

theorem ink_trimStart {p : Char → Bool} (hp : ∀ c, p c = true → HtmlMarkdown.isBlank c = true)
    (s : Text) : ink (trimStart p s) = ink s := by
  conv_rhs => rw [← List.takeWhile_append_dropWhile (p := p) (l := s)]
  rw [ink_append, ink_takeWhile hp, List.nil_append, trimStart]

theorem ink_reverse (s : Text) : ink s.reverse = (ink s).reverse :=
  List.filter_reverse

theorem ink_trimEnd {p : Char → Bool} (hp : ∀ c, p c = true → HtmlMarkdown.isBlank c = true)
    (s : Text) : ink (trimEnd p s) = ink s := by
  have h := ink_trimStart hp s.reverse
  rw [trimStart] at h
  rw [trimEnd, ink_reverse, h, ink_reverse, List.reverse_reverse]

theorem ink_trim {p : Char → Bool} (hp : ∀ c, p c = true → HtmlMarkdown.isBlank c = true)
    (s : Text) : ink (trim p s) = ink s := by
  rw [trim, ink_trimEnd hp, ink_trimStart hp]

section Ends

variable {p : Char → Bool} (hp : ∀ c, p c = true → HtmlMarkdown.isBlank c = true) {t : Text}
  (h : ink t ≠ [])

include hp h

/-- White space is trimmed at the start of a text that has ink, whatever comes after it. -/
theorem trimStart_append_of_ink (s : Text) : trimStart p (t ++ s) = trimStart p t ++ s := by
  have hne : trimStart p t ≠ [] := fun hnil => h (by rw [← ink_trimStart hp, hnil, ink_nil])
  rw [trimStart] at hne
  rw [trimStart, List.dropWhile_append, if_neg (by simpa using hne), trimStart]

/-- White space is trimmed at the end of a text that has ink, whatever comes before it. -/
theorem trimEnd_append_of_ink (s : Text) : trimEnd p (s ++ t) = s ++ trimEnd p t := by
  have hreverse : ink t.reverse ≠ [] := by
    rwa [ink_reverse, Ne, List.reverse_eq_nil_iff]
  have hstart := trimStart_append_of_ink hp hreverse s.reverse
  rw [trimStart, trimStart] at hstart
  rw [trimEnd, List.reverse_append, hstart, List.reverse_append, List.reverse_reverse, trimEnd]

end Ends

/-- A white space character that gives way to a text leaves all ink in its place. -/
theorem ink_sublist_replaceChar {c : Char} (h : HtmlMarkdown.isBlank c = true) (new s : Text) :
    (ink s).Sublist (replaceChar c new s) := by
  induction s with
  | nil => exact List.Sublist.refl _
  | cons d s ih =>
    rw [replaceChar, List.flatMap_cons]
    by_cases hd : d = c
    · rw [hd, ink_cons_of_isBlank h]
      exact ih.trans (List.sublist_append_right _ _)
    · rw [if_neg hd, ink_cons]
      exact (ink_sublist [d]).append ih

end Text

open Text

theorem isBlank_of_isSpacing (c : Char) (h : isSpacing c = true) : isBlank c = true := by
  simp only [isSpacing, Bool.or_eq_true, beq_iff_eq] at h
  rcases h with ((rfl | rfl) | rfl) | rfl <;> decide

theorem isBlank_of_isLeadingBreak (c : Char) (h : isLeadingBreak c = true) : isBlank c = true := by
  simp only [isLeadingBreak, Bool.or_eq_true, beq_iff_eq] at h
  rcases h with (rfl | rfl) | rfl <;> decide

theorem isBlank_of_eq_space (c : Char) (h : (c == ' ') = true) : isBlank c = true := by
  rw [beq_iff_eq.mp h]
  decide

theorem isBlank_of_eq_break (c : Char) (h : (c == '\n') = true) : isBlank c = true := by
  rw [beq_iff_eq.mp h]
  decide

/-! ## Single texts of a document -/

theorem ink_squeezeAfter (isInRun : Bool) (s : Text) : ink (squeezeAfter isInRun s) = ink s := by
  induction s generalizing isInRun with
  | nil => rfl
  | cons c s ih =>
    rw [squeezeAfter]
    by_cases hc : isSpacing c = true
    · rw [if_pos hc, ink_cons_of_isBlank (isBlank_of_isSpacing c hc)]
      cases isInRun
      · rw [if_neg (by decide), ink_cons_of_isBlank (by decide), ih]
      · rw [if_pos rfl, ih]
    · rw [if_neg hc, ink_cons, ih, ← ink_cons]

theorem ink_squeeze (s : Text) : ink (squeeze s) = ink s := ink_squeezeAfter false s

theorem ink_dropTrailingSpaces (s : Text) : ink (dropTrailingSpaces s) = ink s :=
  ink_trimEnd isBlank_of_eq_space s

theorem ink_dropHeadBreak (s : Text) : ink (dropHeadBreak s) = ink s := by
  unfold dropHeadBreak
  split
  · rfl
  · split
    · exact ink_trimStart (fun _ h => h) _
    · rfl

theorem ink_dropTailBreak (s : Text) : ink (dropTailBreak s) = ink s := by
  unfold dropTailBreak
  split
  · exact ink_trimEnd (fun _ h => h) _
  · rfl

theorem ink_dropBreaks (s : Text) : ink (dropBreaks s) = ink s := by
  rw [dropBreaks, ink_dropTailBreak, ink_dropHeadBreak]

/-! ## Assembled Markdown -/

theorem suffix_of_afterLastBreak? {s r : Text} (h : afterLastBreak? s = some r) : r <:+ s := by
  induction s with
  | nil => simp [afterLastBreak?] at h
  | cons c s ih =>
    rw [afterLastBreak?] at h
    rcases hs : afterLastBreak? s with _ | rest
    · rw [hs] at h
      by_cases hc : c = '\n'
      · simp only [hc, if_true, Option.some.injEq] at h
        exact h ▸ List.suffix_cons c s
      · simp [hc] at h
    · rw [hs, Option.some.injEq] at h
      exact (ih (h ▸ hs)).trans (List.suffix_cons c s)

theorem ink_of_afterBlankLines? {s r : Text} (h : afterBlankLines? s = some r) : ink r = ink s := by
  have hs := ink_takeWhile (fun _ h => h) s
  have hsplit : ink s = ink (s.dropWhile isBlank) := (ink_trimStart (fun _ h => h) s).symm
  unfold afterBlankLines? at h
  split at h
  · cases h
  · next c run hrun =>
    obtain ⟨rest, hrest, rfl⟩ := Option.map_eq_some_iff.mp h
    -- what stands after the last line feed of a blank run is blank
    have hblank : ∀ d ∈ rest, isBlank d = true := fun d hd =>
      List.mem_takeWhile_imp (hrun ▸ List.mem_cons_of_mem c
        ((suffix_of_afterLastBreak? hrest).subset hd))
    rw [ink_append, ink_eq_nil_of_all (fun _ h => h) hblank, List.nil_append, hsplit]

theorem ink_closeBlankLines (s : Text) : ink (closeBlankLines s) = ink s := by
  induction hn : s.length using Nat.strong_induction_on generalizing s with
  | _ n ih =>
    subst hn
    rcases s with _ | ⟨c, s⟩
    · rw [closeBlankLines]
    · rw [closeBlankLines]
      by_cases hc : c = '\n'
      · subst hc
        rw [if_pos rfl, ink_cons_of_isBlank (by decide)]
        split
        · next rest h =>
          have hlt := length_afterBlankLines? h
          rw [ink_cons_of_isBlank (by decide), ink_cons_of_isBlank (by decide),
            ih _ (by rw [List.length_cons]; omega) rest rfl, ink_of_afterBlankLines? h]
        · rw [ink_cons_of_isBlank (by decide), ih _ (by simp) s rfl]
      · rw [if_neg hc, ink_cons, ih _ (by simp) s rfl, ← ink_cons]

theorem ink_limitBreaksAfter (n : Nat) (s : Text) : ink (limitBreaksAfter n s) = ink s := by
  induction s generalizing n with
  | nil => rfl
  | cons c s ih =>
    rw [limitBreaksAfter]
    by_cases hc : c = '\n'
    · subst hc
      rw [if_pos rfl, ink_cons_of_isBlank (by decide)]
      split
      · rw [ink_cons_of_isBlank (by decide), ih]
      · rw [ih]
    · rw [if_neg hc, ink_cons, ih, ← ink_cons]

theorem ink_limitBreaks (s : Text) : ink (limitBreaks s) = ink s := ink_limitBreaksAfter 0 s

/-- **Making Markdown tidy leaves its ink as it is.** -/
theorem ink_normalize (s : Text) : ink (normalize s) = ink s := by
  rw [normalize, ink_limitBreaks, ink_closeBlankLines, ink_trimEnd fun _ h => h,
    ink_trimStart isBlank_of_isLeadingBreak]

end HtmlMarkdown
