import Mathlib
import HtmlMarkdown.Text.ListMarker

/-!
# Literal list markers, period by period

Markup is searched for runs of digits with a period and a space behind them. It comes to the same to
look at every period with the one character before it and the one after it.

* `markerPeriods`: the positions of the periods between a digit and a space;
* `escapeAfter`, `escapeListMarkers_eq_escapeAfter`: a recursion that knows no more than whether a
  digit came last;
* `escapeAfter_eq_foldr_insertIdx`: it inserts a backslash before each of those periods;
* `escapeListMarkers_marker`, `escapeListMarkers_of_not_mem`: texts with such a period, and without;
* `markerPeriodsAfter_escapeAfter`: and leaves none of them; `escapeAfter_of_isInfix`: nor does any part
  of an escaped text have one;
* **`escapeListMarkers_eq_foldr_insertIdx`**.
-/

namespace HtmlMarkdown

/-! ## Periods between a digit and a space -/

/-- A decimal digit stands before a position of a text; before the first one, if `isAfterDigit`. -/
def followsDigit (isAfterDigit : Bool) (t : Text) : ℕ → Bool
  | 0 => isAfterDigit
  | i + 1 => t[i]?.any isDecimalDigit

/-- The positions of the periods right after a decimal digit and right before a space; a digit may
stand before the text. -/
def markerPeriodsAfter (isAfterDigit : Bool) (t : Text) : List ℕ :=
  (List.range t.length).filter fun i =>
    followsDigit isAfterDigit t i && t[i]? == some '.' && t[i + 1]? == some ' '

/-- The positions of the periods right after a decimal digit and right before a space. -/
def markerPeriods (t : Text) : List ℕ := markerPeriodsAfter false t

theorem markerPeriodsAfter_cons (isAfterDigit : Bool) (c : Char) (t : Text) :
    markerPeriodsAfter isAfterDigit (c :: t) =
      (if isAfterDigit && c == '.' && t.head? == some ' ' then [0] else []) ++
        (markerPeriodsAfter (isDecimalDigit c) t).map (· + 1) := by
  have hfollows (i : ℕ) : followsDigit isAfterDigit (c :: t) (i + 1) =
      followsDigit (isDecimalDigit c) t i := by
    cases i <;> rfl
  rw [markerPeriodsAfter, markerPeriodsAfter, List.length_cons, List.range_succ_eq_map,
    List.filter_cons, List.filter_map]
  simp only [Function.comp_def, Nat.succ_eq_add_one, hfollows, List.getElem?_cons_succ,
    List.getElem?_cons_zero, zero_add, List.head?_eq_getElem?]
  split <;> simp_all [followsDigit]

/-- A text without such periods has no digit, period and space in a row. -/
theorem not_infix_of_markerPeriods_eq_nil {t : Text} (h : markerPeriods t = []) {d : Char}
    (hd : isDecimalDigit d = true) : ¬ [d, '.', ' '] <:+: t := by
  rintro ⟨before, after, rfl⟩
  have hget (i : ℕ) : (before ++ [d, '.', ' '] ++ after)[before.length + i]? =
      (d :: '.' :: ' ' :: after)[i]? := by
    rw [List.append_assoc, List.getElem?_append_right (Nat.le_add_right _ _),
      Nat.add_sub_cancel_left]
    rfl
  rw [markerPeriods, markerPeriodsAfter, List.filter_eq_nil_iff] at h
  refine h (before.length + 1) (by simp) ?_
  have hfirst : (before ++ [d, '.', ' '] ++ after)[before.length]? = some d := hget 0
  rw [followsDigit, Nat.add_assoc, hfirst, hget 1, hget 2]
  simp [hd]

/-! ## Inserting and erasing -/

theorem foldr_insertIdx_map_succ (x c : Char) (is : List ℕ) (t : Text) :
    (is.map (· + 1)).foldr (fun i s => s.insertIdx i x) (c :: t) =
      c :: is.foldr (fun i s => s.insertIdx i x) t := by
  induction is with
  | nil => rfl
  | cons i is ih => rw [List.map_cons, List.foldr_cons, ih, List.insertIdx_succ_cons, List.foldr_cons]

/-- What is inserted at some positions, the last one first, is gone when the first one is erased
first. -/
theorem foldl_eraseIdx_foldr_insertIdx (x : Char) (is : List ℕ) (t : Text) :
    is.foldl List.eraseIdx (is.foldr (fun i s => s.insertIdx i x) t) = t := by
  induction is with
  | nil => rfl
  | cons i is ih => rw [List.foldr_cons, List.foldl_cons, List.eraseIdx_insertIdx_self, ih]

/-! ## One character after another -/

/-- A text with a backslash before every period right after a decimal digit and right before a space;
a digit may stand before the text. -/
def escapeAfter : (isAfterDigit : Bool) → Text → Text
  | _, [] => []
  | isAfterDigit, c :: t =>
    if isAfterDigit && c == '.' && t.head? == some ' ' then
      '\\' :: c :: escapeAfter (isDecimalDigit c) t
    else c :: escapeAfter (isDecimalDigit c) t

theorem escapeAfter_digits {digits : Text} (hne : digits ≠ [])
    (hdigits : ∀ d ∈ digits, isDecimalDigit d = true) (isAfterDigit : Bool) (t : Text) :
    escapeAfter isAfterDigit (digits ++ t) = digits ++ escapeAfter true t := by
  induction digits generalizing isAfterDigit with
  | nil => exact absurd rfl hne
  | cons d digits ih =>
    rw [List.forall_mem_cons] at hdigits
    have hperiod : (d == '.') = false := by
      rw [beq_eq_false_iff_ne]
      rintro rfl
      exact absurd hdigits.1 (by decide)
    have hrest : escapeAfter true (digits ++ t) = digits ++ escapeAfter true t := by
      rcases digits with _ | ⟨d', digits⟩
      · rfl
      · exact ih (List.cons_ne_nil d' digits) hdigits.2 true
    rw [List.cons_append, escapeAfter, hperiod, Bool.and_false, Bool.false_and,
      if_neg Bool.false_ne_true, hdigits.1, hrest, List.cons_append]

/-- Where no period and space come first, it does not matter what came before. -/
theorem escapeAfter_of_not_marker {t : Text} (h : ∀ rest, t ≠ '.' :: ' ' :: rest)
    (isAfterDigit : Bool) : escapeAfter isAfterDigit t = escapeAfter false t := by
  rcases t with _ | ⟨c, t⟩
  · rfl
  · have hno : (c == '.' && t.head? == some ' ') = false := by
      rw [Bool.eq_false_iff, ne_eq, Bool.and_eq_true, beq_iff_eq, beq_iff_eq,
        List.head?_eq_some_iff]
      rintro ⟨rfl, rest, rfl⟩
      exact h rest rfl
    simp only [escapeAfter, Bool.and_assoc, hno, Bool.and_false]

/-- **Runs of digits, and one character after another.** -/
theorem escapeListMarkers_eq_escapeAfter (t : Text) :
    escapeListMarkers t = escapeAfter false t := by
  fun_induction escapeListMarkers t with
  | case1 => rfl
  | case2 c s hc digits rest hrest ih =>
    have hs : c :: s = digits ++ '.' :: ' ' :: rest := by
      rw [← hrest, List.cons_append, List.takeWhile_append_dropWhile]
    rw [hs, escapeAfter_digits (List.cons_ne_nil _ _)
      (List.forall_mem_cons.mpr ⟨hc, fun d hd => List.mem_takeWhile_imp hd⟩), ih]
    rfl
  | case3 c s hc digits hrest ih =>
    have hs : c :: s = digits ++ s.dropWhile isDecimalDigit := by
      rw [List.cons_append, List.takeWhile_append_dropWhile]
    rw [hs, escapeAfter_digits (List.cons_ne_nil _ _)
      (List.forall_mem_cons.mpr ⟨hc, fun d hd => List.mem_takeWhile_imp hd⟩), ih,
      escapeAfter_of_not_marker hrest true]
  | case4 c s hc ih =>
    rw [escapeAfter, Bool.false_and, Bool.false_and, if_neg Bool.false_ne_true, ih,
      Bool.eq_false_iff.mpr hc]

/-- Digits before a period and a space get a backslash behind them. -/
theorem escapeListMarkers_marker {digits : Text} (hne : digits ≠ [])
    (hdigits : ∀ c ∈ digits, isDecimalDigit c = true) (t : Text) :
    escapeListMarkers (digits ++ '.' :: ' ' :: t) =
      digits ++ '\\' :: '.' :: ' ' :: escapeListMarkers t := by
  rw [escapeListMarkers_eq_escapeAfter, escapeListMarkers_eq_escapeAfter,
    escapeAfter_digits hne hdigits]
  rfl

/-- **A backslash is inserted before each period** between a digit and a space. -/
theorem escapeAfter_eq_foldr_insertIdx (isAfterDigit : Bool) (t : Text) :
    escapeAfter isAfterDigit t =
      (markerPeriodsAfter isAfterDigit t).foldr (fun i s => s.insertIdx i '\\') t := by
  induction t generalizing isAfterDigit with
  | nil => rfl
  | cons c t ih =>
    rw [escapeAfter, markerPeriodsAfter_cons, List.foldr_append, foldr_insertIdx_map_succ, ← ih]
    split <;> rfl

/-- **Only a space makes a literal marker that is escaped**: a text without spaces stays as it is. -/
theorem escapeListMarkers_of_not_mem {t : Text} (h : ' ' ∉ t) : escapeListMarkers t = t := by
  have hnone : markerPeriodsAfter false t = [] := by
    refine List.filter_eq_nil_iff.mpr fun i _ hi => h ?_
    simp only [Bool.and_eq_true, beq_iff_eq] at hi
    exact List.mem_of_getElem? hi.2
  rw [escapeListMarkers_eq_escapeAfter, escapeAfter_eq_foldr_insertIdx, hnone, List.foldr_nil]

/-- The head of a text stays unless a backslash comes before it. -/
theorem head?_escapeAfter (isAfterDigit : Bool) (t : Text) :
    (escapeAfter isAfterDigit t).head? = some ' ' ↔ t.head? = some ' ' := by
  rcases t with _ | ⟨c, t⟩
  · rfl
  · rw [escapeAfter]
    split
    · next h =>
      simp only [Bool.and_eq_true, beq_iff_eq] at h
      simp [h.1.2]
    · rfl

/-- **No period is left between a digit and a space.** -/
theorem markerPeriodsAfter_escapeAfter (isAfterDigit : Bool) (t : Text) :
    markerPeriodsAfter isAfterDigit (escapeAfter isAfterDigit t) = [] := by
  induction t generalizing isAfterDigit with
  | nil => rfl
  | cons c t ih =>
    have hbackslash : isDecimalDigit '\\' = false := by decide
    rw [escapeAfter]
    split
    · simp [markerPeriodsAfter_cons, hbackslash, ih]
    · next h =>
      rw [markerPeriodsAfter_cons, ih, List.map_nil, List.append_nil, if_neg]
      simpa only [Bool.and_eq_true, beq_iff_eq, head?_escapeAfter] using h

/-- A text without a digit, a period and a space in a row gets no backslash; neither does a period at
its start, if no digit stands before it or no space behind. -/
theorem escapeAfter_eq_self {isAfterDigit : Bool} {t : Text}
    (hstart : isAfterDigit = true → ¬ ['.', ' '] <+: t)
    (h : ∀ d, isDecimalDigit d = true → ¬ [d, '.', ' '] <:+: t) : escapeAfter isAfterDigit t = t := by
  induction t generalizing isAfterDigit with
  | nil => rfl
  | cons c t ih =>
    have hno : (isAfterDigit && c == '.' && t.head? == some ' ') = false := by
      rw [Bool.eq_false_iff, ne_eq, Bool.and_eq_true, Bool.and_eq_true, beq_iff_eq, beq_iff_eq,
        List.head?_eq_some_iff]
      rintro ⟨⟨hafter, rfl⟩, rest, rfl⟩
      exact hstart hafter ⟨rest, rfl⟩
    have hrest : escapeAfter (isDecimalDigit c) t = t := by
      refine ih (fun hdigit hfirst => ?_) fun d hd hpart => ?_
      · exact h c hdigit ((List.prefix_cons_inj c).mpr hfirst).isInfix
      · exact h d hd (hpart.trans (List.suffix_cons c t).isInfix)
    rw [escapeAfter, hno, if_neg Bool.false_ne_true, hrest]

theorem markerPeriods_escapeListMarkers (t : Text) : markerPeriods (escapeListMarkers t) = [] := by
  rw [escapeListMarkers_eq_escapeAfter, markerPeriods, markerPeriodsAfter_escapeAfter]

/-- **What stands in escaped markup has nothing left to escape.** -/
theorem escapeAfter_of_isInfix {t markup : Text} (h : t <:+: escapeListMarkers markup) :
    escapeAfter false t = t :=
  escapeAfter_eq_self (fun hfalse => absurd hfalse Bool.false_ne_true) fun _ hd hpart =>
    not_infix_of_markerPeriods_eq_nil (markerPeriods_escapeListMarkers markup) hd (hpart.trans h)

/-- **A backslash before every period between a digit and a space**, and nothing else: this is what
escaping literal list markers does to a text, and erasing those backslashes gives the text back. What
is escaped has no digit, period and space in a row, so that escaping it once more changes nothing. -/
theorem escapeListMarkers_eq_foldr_insertIdx (t : Text) :
    escapeListMarkers t = (markerPeriods t).foldr (fun i s => s.insertIdx i '\\') t ∧
      (markerPeriods t).foldl List.eraseIdx (escapeListMarkers t) = t ∧
      escapeListMarkers (escapeListMarkers t) = escapeListMarkers t ∧
      ¬ ∃ d, isDecimalDigit d = true ∧ [d, '.', ' '] <:+: escapeListMarkers t := by
  have hinsert (s : Text) :
      escapeListMarkers s = (markerPeriods s).foldr (fun i s => s.insertIdx i '\\') s := by
    rw [escapeListMarkers_eq_escapeAfter, escapeAfter_eq_foldr_insertIdx, markerPeriods]
  have hnone := markerPeriods_escapeListMarkers t
  refine ⟨hinsert t, ?_, ?_, ?_⟩
  · rw [hinsert, foldl_eraseIdx_foldr_insertIdx]
  · rw [hinsert (escapeListMarkers t), hnone, List.foldr_nil]
  · rintro ⟨d, hd, hpart⟩
    exact not_infix_of_markerPeriods_eq_nil hnone hd hpart

end HtmlMarkdown
