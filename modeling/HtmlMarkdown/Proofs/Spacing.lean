import Mathlib
import HtmlMarkdown.Whitespace.Collapse

/-!
# Spacing in a text

* `Text.hasOnlySpacing`: a text without white space of other kinds;
* `runAfter`, `runAfter_eq`: whether a run of spacing is open at the end of a text;
* `squeezeAfter_eq`: what squeezing does after a run of spacing;
* `trimEnd_cons`, `dropTrailingSpaces_squeezeAfter_isEmpty`: what is left without trailing spaces.
-/

namespace HtmlMarkdown

/-! ## White space of other kinds -/

/-- No white space but spacing is in a text. -/
def Text.hasOnlySpacing (s : Text) : Bool := s.all fun c => !HtmlMarkdown.isBlank c || isSpacing c

theorem Text.hasOnlySpacing_iff {s : Text} :
    s.hasOnlySpacing = true ↔ ∀ c ∈ s, HtmlMarkdown.isBlank c = true → isSpacing c = true := by
  rw [hasOnlySpacing, List.all_eq_true]
  refine forall₂_congr fun c _ => ?_
  cases HtmlMarkdown.isBlank c <;> simp

/-! ## Runs of spacing -/

/-- The last character of a text is spacing; `isInRun` says it of the character before the text. -/
def runAfter : (isInRun : Bool) → Text → Bool
  | isInRun, [] => isInRun
  | _, c :: t => runAfter (isSpacing c) t

theorem not_isSpacing_ne_space {c : Char} (h : ¬ isSpacing c = true) : c ≠ ' ' := by
  rintro rfl
  exact h (by decide)

theorem endsWith_cons (c d : Char) (t : Text) :
    Text.endsWith c (d :: t) = if t.isEmpty then d == c else Text.endsWith c t := by
  cases t with
  | nil => rfl
  | cons e t => simp [Text.endsWith, List.getLast?_cons_cons]

/-- A squeezed text shows whether a run of spacing is open at its end. -/
theorem runAfter_eq (isInRun : Bool) (t : Text) : runAfter isInRun t =
    if (squeezeAfter isInRun t).isEmpty then isInRun
    else Text.endsWith ' ' (squeezeAfter isInRun t) := by
  induction t generalizing isInRun with
  | nil => rfl
  | cons c t ih =>
    rw [runAfter, squeezeAfter, ih]
    by_cases hc : isSpacing c = true
    · rw [if_pos hc, hc]
      cases isInRun
      · simp only [Bool.false_eq_true, if_false, List.isEmpty_cons, endsWith_cons]
        split <;> rfl
      · rfl
    · have hne : (c == ' ') = false := beq_eq_false_iff_ne.mpr (not_isSpacing_ne_space hc)
      rw [if_neg hc]
      simp only [List.isEmpty_cons, Bool.false_eq_true, if_false, endsWith_cons, hne]
      simp only [Bool.not_eq_true] at hc
      rw [hc]

theorem squeezeAfter_eq_nil_of_all {t : Text} (h : t.all isSpacing = true) :
    squeezeAfter true t = [] := by
  induction t with
  | nil => rfl
  | cons c t ih =>
    rw [List.all_cons, Bool.and_eq_true] at h
    rw [squeezeAfter, if_pos h.1, if_pos rfl, ih h.2]

theorem squeeze_of_all {run : Text} (hne : run ≠ []) (hall : run.all isSpacing = true) :
    squeeze run = [' '] := by
  rcases run with _ | ⟨c, run⟩
  · exact absurd rfl hne
  · rw [List.all_cons, Bool.and_eq_true] at hall
    rw [squeeze, squeezeAfter, if_pos hall.1, squeezeAfter_eq_nil_of_all hall.2]
    rfl

/-- Spacing goes, or one space is left of it where no spacing comes before it. -/
theorem squeezeAfter_of_all {t : Text} (hall : t.all isSpacing = true) (isInRun : Bool) :
    squeezeAfter isInRun t = [] ∨ isInRun = false ∧ squeezeAfter isInRun t = [' '] := by
  rcases isInRun with _ | _
  · by_cases hne : t = []
    · rw [hne]
      exact Or.inl rfl
    · exact Or.inr ⟨rfl, squeeze_of_all hne hall⟩
  · exact Or.inl (squeezeAfter_eq_nil_of_all hall)

theorem all_of_squeezeAfter_eq_nil {isInRun : Bool} {t : Text} (h : squeezeAfter isInRun t = []) :
    t.all isSpacing = true := by
  induction t generalizing isInRun with
  | nil => rfl
  | cons c t ih =>
    rw [squeezeAfter] at h
    by_cases hc : isSpacing c = true
    · rw [if_pos hc] at h
      cases isInRun
      · cases h
      · rw [List.all_cons, hc, Bool.true_and]
        exact ih h
    · rw [if_neg hc] at h
      cases h

/-- A space that adds nothing is not there. -/
theorem squeezeAfter_eq (isInRun : Bool) (t : Text) : squeezeAfter isInRun t =
    if isInRun && Text.startsWith ' ' (squeeze t) then (squeeze t).drop 1 else squeeze t := by
  cases isInRun
  · rfl
  · rcases t with _ | ⟨c, t⟩
    · rfl
    · rw [squeeze, squeezeAfter, squeezeAfter]
      by_cases hc : isSpacing c = true
      · simp [hc, Text.startsWith]
      · simp [hc, Text.startsWith, not_isSpacing_ne_space hc]

/-! ## Trailing spaces -/

theorem trimEnd_cons (p : Char → Bool) (c : Char) (t : Text) : Text.trimEnd p (c :: t) =
    if (Text.trimEnd p t).isEmpty && p c then [] else c :: Text.trimEnd p t := by
  rw [Text.trimEnd, Text.trimEnd, List.reverse_cons, List.dropWhile_append]
  by_cases ht : (List.dropWhile p t.reverse).isEmpty = true
  · rw [if_pos ht, List.isEmpty_iff.mp ht]
    by_cases hc : p c = true <;> simp [hc]
  · rw [if_neg ht]
    simp [ht]

theorem trimEnd_eq_nil_iff {p : Char → Bool} {t : Text} :
    Text.trimEnd p t = [] ↔ ∀ c ∈ t, p c = true := by
  rw [Text.trimEnd, List.reverse_eq_nil_iff, List.dropWhile_eq_nil_iff]
  simp

theorem dropTrailingSpaces_of_not_endsWith {t : Text} (h : Text.endsWith ' ' t = false) :
    dropTrailingSpaces t = t := by
  induction t with
  | nil => rfl
  | cons c t ih =>
    rw [endsWith_cons] at h
    rw [dropTrailingSpaces, trimEnd_cons]
    split at h
    · next ht => rw [List.isEmpty_iff.mp ht, h, Bool.and_false, if_neg Bool.false_ne_true]; rfl
    · next ht =>
      have hkeep := ih h
      rw [dropTrailingSpaces] at hkeep
      rw [hkeep, if_neg]
      simp [ht]

/-- Trailing spaces are all that is left of spacing. -/
theorem dropTrailingSpaces_squeezeAfter_isEmpty (isInRun : Bool) (t : Text) :
    (dropTrailingSpaces (squeezeAfter isInRun t)).isEmpty = t.all isSpacing := by
  induction t generalizing isInRun with
  | nil => rfl
  | cons c t ih =>
    rw [squeezeAfter, List.all_cons]
    by_cases hc : isSpacing c = true
    · rw [if_pos hc, hc, Bool.true_and]
      cases isInRun
      · rw [← ih true, if_neg Bool.false_ne_true, dropTrailingSpaces, trimEnd_cons]
        by_cases ht : (Text.trimEnd (· == ' ') (squeezeAfter true t)).isEmpty = true
        · simp [ht, dropTrailingSpaces]
        · simp [ht, dropTrailingSpaces]
      · rw [if_pos rfl, ih]
    · have hne : (c == ' ') = false := beq_eq_false_iff_ne.mpr (not_isSpacing_ne_space hc)
      simp only [Bool.not_eq_true] at hc
      rw [hc, if_neg Bool.false_ne_true, dropTrailingSpaces, trimEnd_cons, hne, Bool.and_false,
        if_neg Bool.false_ne_true]
      rfl

end HtmlMarkdown
