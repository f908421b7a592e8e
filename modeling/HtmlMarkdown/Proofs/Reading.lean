import Mathlib
import HtmlMarkdown.Text.Basic

/-!
# Reading and changing texts

* `takeWhile_append_of_head?`, `rtakeWhile_append_of_getLast?`, `span_eq_iff`: the characters of a
  class at an end of a text; `trimStart_eq_self`, `trimEnd_eq_self`: an end without any;
* `splitAt?_eq_some_iff`, `split_append_cons`, `split_of_forall`: texts cut where a character stands;
* `replaceFirst_append`, `sublist_replaceFirst`: the first occurrence of a part replaced;
* `replaceChar_of_not_mem`, `not_mem_replaceChar`: every occurrence of a character replaced.
-/

namespace HtmlMarkdown

namespace Text

/-! ## Characters of a class -/

/-- Characters with a property are taken up to the first one without it. -/
theorem takeWhile_append_of_head? {p : Char → Bool} {s t : Text} (hs : ∀ c ∈ s, p c = true)
    (ht : ∀ c ∈ t.head?, p c = false) :
    (s ++ t).takeWhile p = s ∧ (s ++ t).dropWhile p = t := by
  rw [List.takeWhile_append_of_pos hs, List.dropWhile_append_of_pos hs]
  rcases t with _ | ⟨c, t⟩
  · exact ⟨List.append_nil s, rfl⟩
  · have hc : ¬ p c = true := by simp [ht c rfl]
    rw [List.takeWhile_cons_of_neg hc, List.dropWhile_cons_of_neg hc, List.append_nil]
    exact ⟨rfl, rfl⟩

theorem rtakeWhile_append_of_getLast? {p : Char → Bool} {s t : Text}
    (hs : ∀ c ∈ s.getLast?, p c = false) (ht : ∀ c ∈ t, p c = true) :
    (s ++ t).rtakeWhile p = t ∧ trimEnd p (s ++ t) = s := by
  have hboth := takeWhile_append_of_head? (p := p) (s := t.reverse) (t := s.reverse)
    (fun c hc => ht c (List.mem_reverse.mp hc)) (by rwa [List.head?_reverse])
  rw [List.rtakeWhile, trimEnd, List.reverse_append, hboth.1, hboth.2, List.reverse_reverse,
    List.reverse_reverse]
  exact ⟨rfl, rfl⟩

theorem trimStart_eq_self {p : Char → Bool} {t : Text} (h : ∀ c ∈ t.head?, p c = false) :
    trimStart p t = t :=
  (takeWhile_append_of_head? (List.forall_mem_nil _) h).2

theorem trimEnd_eq_self {p : Char → Bool} {t : Text} (h : ∀ c ∈ t.getLast?, p c = false) :
    trimEnd p t = t := by
  have htrim := (rtakeWhile_append_of_getLast? h (List.forall_mem_nil _)).2
  rwa [List.append_nil] at htrim

/-- The longest start of a text in a class of characters. -/
theorem span_eq_iff {p : Char → Bool} {s before rest : Text} :
    s.span p = (before, rest) ↔
      s = before ++ rest ∧ (∀ c ∈ before, p c = true) ∧ ∀ c ∈ rest.head?, p c = false := by
  rw [List.span_eq_takeWhile_dropWhile, Prod.mk.injEq]
  constructor
  · rintro ⟨rfl, rfl⟩
    refine ⟨List.takeWhile_append_dropWhile.symm, fun c => List.mem_takeWhile_imp, fun c hc => ?_⟩
    simpa [Option.mem_def.mp hc] using List.head?_dropWhile_not p s
  · rintro ⟨rfl, hbefore, hrest⟩
    exact takeWhile_append_of_head? hbefore hrest

/-! ## Cutting a text -/

theorem splitAt?_eq_some_iff {c : Char} {s before rest : Text} :
    splitAt? c s = some (before, rest) ↔ s = before ++ c :: rest ∧ c ∉ before := by
  rw [splitAt?]
  constructor
  · intro h
    split at h
    · next d t hspan =>
      cases h
      obtain ⟨hs, hbefore, hd⟩ := span_eq_iff.mp hspan
      have hdc : d = c := by simpa using hd d rfl
      exact ⟨hdc ▸ hs, fun hc => by simpa using hbefore c hc⟩
    · cases h
  · rintro ⟨hs, hc⟩
    have hspan : s.span (fun d => d != c) = (before, c :: rest) :=
      span_eq_iff.mpr ⟨hs, fun d hd => by simpa using ne_of_mem_of_not_mem hd hc, by simp⟩
    rw [hspan]

theorem split_ne_nil (p : Char → Bool) (s : Text) : split p s ≠ [] := by
  cases s with
  | nil => exact List.cons_ne_nil _ _
  | cons c s =>
    rw [split]
    split
    · exact List.cons_ne_nil _ _
    · split <;> exact List.cons_ne_nil _ _

theorem split_append_cons {p : Char → Bool} {c : Char} (hc : p c = true) (s t : Text) :
    split p (s ++ c :: t) = split p s ++ split p t := by
  induction s with
  | nil =>
    rw [List.nil_append, split.eq_2, if_pos hc]
    rfl
  | cons b s ih =>
    rw [List.cons_append, split, split, ih]
    split
    · rfl
    · obtain ⟨part, parts, hparts⟩ := List.exists_cons_of_ne_nil (split_ne_nil p s)
      rw [hparts]
      rfl

theorem split_of_forall {p : Char → Bool} {s : Text} (h : ∀ c ∈ s, p c = false) :
    split p s = [s] := by
  induction s with
  | nil => rfl
  | cons c s ih =>
    rw [List.forall_mem_cons] at h
    rw [split, ih h.2, h.1, if_neg Bool.false_ne_true]

/-! ## Replacing -/

theorem dropStart?_append (start s : Text) : dropStart? start (start ++ s) = some s := by
  induction start with
  | nil => rfl
  | cons c start ih => rw [List.cons_append, dropStart?, if_pos rfl, ih]

/-- What replaces a part of a text is in the result, if the text has that part. -/
theorem sublist_replaceFirst {old new s : Text} (h : old <:+: s) :
    new.Sublist (replaceFirst old new s) := by
  induction s with
  | nil => simp [List.infix_nil.mp h, replaceFirst]
  | cons c s ih =>
    rw [replaceFirst]
    split
    · exact List.sublist_append_left _ _
    · next hno =>
      rcases List.infix_cons_iff.mp h with ⟨rest, hrest⟩ | h
      · rw [← hrest, dropStart?_append] at hno
        cases hno
      · exact (ih h).trans (List.sublist_cons_self _ _)

/-- The first occurrence of a text is the first of its first character, if it stands there. -/
theorem replaceFirst_append {c : Char} {s : Text} (h : c ∉ s) (old new rest : Text) :
    replaceFirst (c :: old) new (s ++ (c :: old ++ rest)) = s ++ new ++ rest := by
  induction s with
  | nil => rw [List.nil_append, List.cons_append, replaceFirst, ← List.cons_append,
      dropStart?_append, List.nil_append]
  | cons d s ih =>
    obtain ⟨hd, hs⟩ := not_or.mp (mt List.mem_cons.mpr h)
    rw [List.cons_append, replaceFirst, dropStart?, if_neg hd, ih hs]
    rfl

theorem replaceChar_of_not_mem {c : Char} {s : Text} (h : c ∉ s) (new : Text) :
    replaceChar c new s = s := by
  induction s with
  | nil => rfl
  | cons d s ih =>
    obtain ⟨hd, hs⟩ := not_or.mp (mt List.mem_cons.mpr h)
    rw [replaceChar, List.flatMap_cons, if_neg (Ne.symm hd)]
    exact congrArg _ (ih hs)

theorem not_mem_replaceChar {c : Char} {new : Text} (h : c ∉ new) (s : Text) :
    c ∉ replaceChar c new s := by
  rw [replaceChar, List.mem_flatMap]
  rintro ⟨d, -, hd⟩
  split_ifs at hd with hdc
  · exact h hd
  · exact hdc (List.mem_singleton.mp hd).symm

end Text

end HtmlMarkdown
