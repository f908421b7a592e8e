import Mathlib
import HtmlMarkdown.Proofs.Sides
import HtmlMarkdown.Proofs.Tidy
import HtmlMarkdown.Text.Digit

/-!
# The head of a line

Digits, a period and a space at the start of a line are the marker of a list item. A text is written
character by character, and all that has to be known of the last line is how it begins.

* `Text.IsMarked`: a line that begins with a marker;
* `LineHead`, `LineHead.write`, `LineHead.after`: how the last line begins, and what a text does to
  it; a text that completes a marker leads nowhere;
* the order of heads: **`exists_write_of_le`**, `exists_after_of_le`: after a greater head no fewer
  texts can be written;
* `LineHead.Leads`, `Leads.append`: what a text leads to at least;
* `leads_cons`, `leads_replaceChar`: texts that cannot be part of a marker;
* `isSome_after_normalize`: a text made tidy can be written if it could before;
* **`not_isMarked_of_after`**: no line of a text that is written begins with a marker.
-/

namespace HtmlMarkdown

/-- A line that begins with digits, a period and a space. -/
def Text.IsMarked (line : Text) : Prop :=
  ∃ digits rest : Text, digits ≠ [] ∧ (∀ c ∈ digits, isDecimalDigit c = true) ∧
    line = digits ++ '.' :: ' ' :: rest

/-! ## Heads -/

/-- How a line begins: with nothing yet; with digits only; with digits and a period, where a space
would complete a marker; with the same at the edge of an element that may move white space outside,
so that even a line feed would be a space; or with anything else. -/
inductive LineHead
  | fresh
  | number
  | period
  | edge
  | guarded
  deriving DecidableEq

namespace LineHead

instance : Fintype LineHead where
  elems := {fresh, number, period, edge, guarded}
  complete s := by cases s <;> decide

/-- Whatever can be written after a head can be written after a greater one. -/
instance : LE LineHead where
  le s t := s = t ∨ t = guarded ∨ (s = number ∧ t = fresh) ∨ (s = edge ∧ t = period)

instance : DecidableRel (α := LineHead) (· ≤ ·) := fun s t =>
  inferInstanceAs (Decidable
    (s = t ∨ t = guarded ∨ (s = number ∧ t = fresh) ∨ (s = edge ∧ t = period)))

instance : PartialOrder LineHead where
  le_refl := by decide
  le_trans := by decide
  le_antisymm := by decide

theorem le_guarded (s : LineHead) : s ≤ guarded := Or.inr (Or.inl rfl)

/-- A line feed is written. -/
def feed : LineHead → Option LineHead
  | edge => none
  | _ => some fresh

/-- A space is written: after a period it would complete a marker. -/
def space : LineHead → Option LineHead
  | fresh | number | guarded => some guarded
  | period | edge => none

/-- A tab or a carriage return is written. At the start of a text it may go. -/
def tab : LineHead → Option LineHead
  | fresh | number => some fresh
  | period | guarded => some guarded
  | edge => none

/-- A digit is written. -/
def digit : LineHead → LineHead
  | fresh | number => number
  | period | edge | guarded => guarded

/-- A period is written. -/
def point : LineHead → LineHead
  | number => period
  | fresh | period | edge | guarded => guarded

/-- A character is written. -/
def write (s : LineHead) (c : Char) : Option LineHead :=
  if c = '\n' then s.feed
  else if c = ' ' then s.space
  else if c = '\t' ∨ c = '\r' then s.tab
  else if c = '.' then some s.point
  else if isDecimalDigit c then some s.digit
  else some guarded

/-- A text is written. -/
def after (s : LineHead) (t : Text) : Option LineHead := t.foldlM write s

variable {s s' r r' : LineHead} {c : Char} {t u : Text}

@[simp] theorem after_nil (s : LineHead) : s.after [] = some s := rfl

@[simp] theorem after_cons (s : LineHead) (c : Char) (t : Text) :
    s.after (c :: t) = (s.write c).bind fun r => r.after t := rfl

theorem after_append (s : LineHead) (t u : Text) :
    s.after (t ++ u) = (s.after t).bind fun r => r.after u := List.foldlM_append

theorem write_break (s : LineHead) : s.write '\n' = s.feed := rfl

theorem write_space (s : LineHead) : s.write ' ' = s.space := rfl

/-- **After a greater head a character leads to a greater head.** -/
theorem exists_write_of_le (hle : s ≤ r) (h : s.write c = some s') :
    ∃ r', r.write c = some r' ∧ s' ≤ r' := by
  have hfeed : ∀ s r : LineHead, s ≤ r → ∀ s', s.feed = some s' →
      ∃ r', r.feed = some r' ∧ s' ≤ r' := by decide
  have hspace : ∀ s r : LineHead, s ≤ r → ∀ s', s.space = some s' →
      ∃ r', r.space = some r' ∧ s' ≤ r' := by decide
  have htab : ∀ s r : LineHead, s ≤ r → ∀ s', s.tab = some s' →
      ∃ r', r.tab = some r' ∧ s' ≤ r' := by decide
  have hpoint : ∀ s r : LineHead, s ≤ r → s.point ≤ r.point := by decide
  have hdigit : ∀ s r : LineHead, s ≤ r → s.digit ≤ r.digit := by decide
  rw [write] at h ⊢
  split_ifs at h ⊢
  · exact hfeed s r hle s' h
  · exact hspace s r hle s' h
  · exact htab s r hle s' h
  · cases h
    exact ⟨_, rfl, hpoint s r hle⟩
  · cases h
    exact ⟨_, rfl, hdigit s r hle⟩
  · exact ⟨_, rfl, le_guarded s'⟩

theorem exists_after_of_le (hle : s ≤ r) (h : s.after t = some s') :
    ∃ r', r.after t = some r' ∧ s' ≤ r' := by
  induction t generalizing s r with
  | nil =>
    cases h
    exact ⟨r, rfl, hle⟩
  | cons c t ih =>
    rw [after_cons, Option.bind_eq_some_iff] at h
    obtain ⟨q, hq, hrest⟩ := h
    obtain ⟨q', hq', hle'⟩ := exists_write_of_le hle hq
    rw [after_cons, hq']
    exact ih hle' hrest

/-! ## What a text leads to -/

/-- After a head a text can be written, and it leads to a given head at least. -/
def Leads (s : LineHead) (t : Text) (s' : LineHead) : Prop := ∃ r, s.after t = some r ∧ s' ≤ r

namespace Leads

theorem nil (s : LineHead) : s.Leads [] s := ⟨s, rfl, le_rfl⟩

theorem of_le (hle : s ≤ r) (h : s.Leads t s') : r.Leads t s' := by
  obtain ⟨q, hq, hs'⟩ := h
  obtain ⟨q', hq', hle'⟩ := exists_after_of_le hle hq
  exact ⟨q', hq', hs'.trans hle'⟩

theorem weaken (h : s.Leads t s') (hle : r' ≤ s') : s.Leads t r' :=
  h.imp fun _ hq => ⟨hq.1, hle.trans hq.2⟩

/-- **Texts one after another.** -/
theorem append (ht : s.Leads t s') (hu : s'.Leads u r') : s.Leads (t ++ u) r' := by
  obtain ⟨q, hq, hle⟩ := ht
  obtain ⟨q', hq', hr'⟩ := hu.of_le hle
  exact ⟨q', by rw [after_append, hq]; exact hq', hr'⟩

/-- What can be written after anything at all can be written after a guarded head. -/
theorem isSome_guarded (h : s.Leads t s') : (guarded.after t).isSome = true := by
  obtain ⟨q, hq, -⟩ := h.of_le (le_guarded s)
  rw [hq, Option.isSome_some]

end Leads

theorem isSome_after_of_append (h : (s.after (t ++ u)).isSome = true) :
    (s.after t).isSome = true := by
  rw [after_append] at h
  exact Option.isSome_of_isSome_bind h

theorem isSome_after_of_le (hle : s ≤ r) (h : (s.after t).isSome = true) :
    (r.after t).isSome = true := by
  obtain ⟨s', hs'⟩ := Option.isSome_iff_exists.mp h
  obtain ⟨r', hr', -⟩ := exists_after_of_le hle hs'
  rw [hr', Option.isSome_some]

/-- The part in the middle of a text can be written after a guarded head. -/
theorem isSome_after_of_isInfix (hpart : u <:+: t) (h : (s.after t).isSome = true) :
    (guarded.after u).isSome = true := by
  obtain ⟨before, behind, rfl⟩ := hpart
  have hmiddle := isSome_after_of_append h
  rw [after_append] at hmiddle
  obtain ⟨r, hr⟩ := Option.isSome_iff_exists.mp (Option.isSome_of_isSome_bind hmiddle)
  rw [hr] at hmiddle
  exact isSome_after_of_le (le_guarded r) hmiddle

/-- Only an edge stays an edge, and only as long as nothing is written. -/
theorem ne_edge_of_after (hs : s ≠ edge) (h : s.after t = some s') : s' ≠ edge := by
  induction t generalizing s with
  | nil =>
    cases h
    exact hs
  | cons c t ih =>
    rw [after_cons, Option.bind_eq_some_iff] at h
    obtain ⟨r, hr, hrest⟩ := h
    refine ih ?_ hrest
    have hnone : ∀ q : LineHead, q.feed ≠ some edge ∧ q.space ≠ some edge ∧ q.tab ≠ some edge ∧
        q.point ≠ edge ∧ q.digit ≠ edge := by decide
    rintro rfl
    obtain ⟨hfeed, hspace, htab, hpoint, hdigit⟩ := hnone s
    rw [write] at hr
    split_ifs at hr
    · exact hfeed hr
    · exact hspace hr
    · exact htab hr
    · exact hpoint (Option.some.inj hr)
    · exact hdigit (Option.some.inj hr)
    · cases hr

/-! ## Texts that are no part of a marker -/

/-- A character that is neither spacing nor a digit nor a period. -/
def isPlain (c : Char) : Bool := !isSpacing c && !isDecimalDigit c && c != '.'

theorem write_of_isPlain (h : isPlain c = true) (s : LineHead) : s.write c = some guarded := by
  simp only [isPlain, isSpacing, Bool.and_eq_true, Bool.not_eq_true', Bool.or_eq_false_iff,
    beq_eq_false_iff_ne, bne_iff_ne] at h
  obtain ⟨⟨⟨⟨⟨hspace, htab⟩, hreturn⟩, hfeed⟩, hdigit⟩, hpoint⟩ := h
  rw [write, if_neg hfeed, if_neg hspace, if_neg (not_or.mpr ⟨htab, hreturn⟩), if_neg hpoint, hdigit,
    if_neg Bool.false_ne_true]

/-- A text that begins with such a character can be written after every head. -/
theorem leads_cons (hc : isPlain c = true) (h : guarded.Leads t s') (s : LineHead) :
    s.Leads (c :: t) s' := by
  rw [Leads, after_cons, write_of_isPlain hc]
  exact h

theorem leads_singleton (hc : isPlain c = true) (s : LineHead) : s.Leads [c] guarded :=
  leads_cons hc (.nil guarded) s

theorem leads_feed (hs : s ≠ edge) (h : fresh.Leads t s') : s.Leads ('\n' :: t) s' := by
  have hfeed : s.feed = some fresh := by
    revert hs
    revert s
    decide
  rw [Leads, after_cons, write_break, hfeed]
  exact h

theorem write_of_isDecimalDigit (h : isDecimalDigit c = true) (s : LineHead) :
    s.write c = some s.digit := by
  have hne : ∀ d, isDecimalDigit d = false → c ≠ d := by
    rintro _ hd rfl
    rw [hd] at h
    cases h
  rw [write, if_neg (hne _ (by decide)), if_neg (hne _ (by decide)),
    if_neg (not_or.mpr ⟨hne _ (by decide), hne _ (by decide)⟩), if_neg (hne _ (by decide)),
    if_pos h]

/-- In a line that is guarded, anything but a line feed can be written. -/
theorem write_guarded (hc : c ≠ '\n') : guarded.write c = some guarded := by
  rw [write, if_neg hc]
  split_ifs <;> rfl

/-- Lines that start with `start` can be written where it can, if it guards them. -/
theorem leads_replaceChar {start : Text} (hstart : fresh.after start = some guarded) (t : Text) :
    guarded.Leads (Text.replaceChar '\n' ('\n' :: start) t) guarded := by
  induction t with
  | nil => exact .nil guarded
  | cons c t ih =>
    rw [Text.replaceChar, List.flatMap_cons]
    refine Leads.append ?_ ih
    split_ifs with hc
    · exact leads_feed (by decide) ⟨_, hstart, le_rfl⟩
    · exact ⟨guarded, by rw [after_cons, write_guarded hc]; rfl, le_rfl⟩

/-! ## Making a text tidy -/

theorem write_of_isLeadingBreak (h : isLeadingBreak c = true) : fresh.write c = some fresh := by
  simp only [isLeadingBreak, Bool.or_eq_true, beq_iff_eq] at h
  rcases h with (rfl | rfl) | rfl <;> rfl

/-- Breaks at the start of a text lead nowhere else. -/
theorem after_trimStart {p : Char → Bool} (hp : ∀ c, p c = true → isLeadingBreak c = true)
    (t : Text) : fresh.after (Text.trimStart p t) = fresh.after t := by
  induction t with
  | nil => rfl
  | cons c t ih =>
    rw [Text.trimStart, List.dropWhile_cons]
    split
    · next hc =>
      rw [after_cons, write_of_isLeadingBreak (hp c hc)]
      exact ih
    · rfl

/-- White space is no digit in any script. -/
theorem not_isDecimalDigit_of_isBlank (h : isBlank c = true) : isDecimalDigit c = false := by
  have hrows : ∀ n ∈ [0x85, 0xA0, 0x1680, 0x2028, 0x2029, 0x202F, 0x205F, 0x3000] ++
      List.range' 0x2000 11, Codes.inRow 10 decimalZeros n = false := by decide
  simp only [isBlank, Bool.or_eq_true, Bool.and_eq_true, decide_eq_true_eq, beq_iff_eq] at h
  rw [isDecimalDigit]
  split
  · have hdigit : c.isDigit = (decide (48 ≤ c.toNat) && decide (c.toNat ≤ 57)) := rfl
    rw [hdigit, Bool.and_eq_false_iff, decide_eq_false_iff_not, decide_eq_false_iff_not]
    omega
  · refine hrows _ ?_
    simp only [List.mem_append, List.mem_cons, List.not_mem_nil, or_false, List.mem_range'_1]
    omega

/-- White space after nothing, or in a line that is guarded, begins no marker. -/
theorem write_of_isBlank (hc : isBlank c = true) (hs : s = fresh ∨ s = guarded) :
    ∃ r, s.write c = some r ∧ (r = fresh ∨ r = guarded) := by
  have hpoint : c ≠ '.' := by
    rintro rfl
    exact absurd hc (by decide)
  rw [write, if_neg hpoint, not_isDecimalDigit_of_isBlank hc, if_neg Bool.false_ne_true]
  rcases hs with rfl | rfl <;> split_ifs <;> exact ⟨_, rfl, by decide⟩

/-- White space in a line of its own leads nowhere else. -/
theorem after_blankLine {m : Text} (hm : m.isBlank = true) (hs : s = fresh ∨ s = guarded)
    (b : Text) : s.after (m ++ '\n' :: b) = fresh.after b := by
  induction m generalizing s with
  | nil => rcases hs with rfl | rfl <;> rfl
  | cons c m ih =>
    rw [Text.isBlank, List.all_cons, Bool.and_eq_true] at hm
    obtain ⟨r, hr, hr'⟩ := write_of_isBlank hm.1 hs
    rw [List.cons_append, after_cons, hr]
    exact ih hm.2 hr'

/-- A line feed in white space starts a line afresh, whatever blank lines come before it. -/
theorem after_stretch {m : Text} (hm : m.isBlank = true) (b : Text) :
    s.after ('\n' :: (m ++ '\n' :: b)) = s.after ('\n' :: '\n' :: b) := by
  have hfeed : s.feed = none ∨ s.feed = some fresh := by
    revert s
    decide
  rw [after_cons, after_cons, write_break]
  rcases hfeed with hfeed | hfeed
  · rw [hfeed, Option.bind_none, Option.bind_none]
  · rw [hfeed, Option.bind_some, Option.bind_some, after_blankLine hm (Or.inl rfl)]
    rfl

/-- **White space leads where it does with its blank lines closed.** -/
theorem after_closeRun {run : Text} (hrun : run.isBlank = true) (s : LineHead) :
    s.after (closeRun run) = s.after run := by
  rcases break_cases run with hbreak | ⟨a, b, rfl, ha, hb⟩ | ⟨a, m, b, rfl, ha, hb⟩
  · rw [closeRun_of_not_mem hbreak]
  · rw [closeRun_of_one ha hb]
  · rw [isBlank_append, isBlank_cons_of_isBlank (by decide), isBlank_append, Bool.and_eq_true,
      Bool.and_eq_true] at hrun
    rw [closeRun_of_two ha hb, after_append, after_append]
    exact congrArg _ (funext fun r => (after_stretch hrun.2.1 b).symm)

theorem after_closeBlankLines (s : LineHead) (t : Text) :
    s.after (closeBlankLines t) = s.after t := by
  induction t using inductionOnRuns generalizing s with
  | blank run hrun => rw [closeBlankLines_of_isBlank hrun, after_closeRun hrun]
  | ink run c rest hrun hc ih =>
    rw [closeBlankLines_append_cons hrun hc, after_append, after_append, after_closeRun hrun]
    simp only [after_cons, ih]

/-- **Tidy Markdown can be written if the text can.** -/
theorem isSome_after_normalize (h : (fresh.after t).isSome = true) :
    (fresh.after (normalize t)).isSome = true := by
  obtain ⟨white, hsplit⟩ := Place.trimEnd_prefix isBlank (Text.trimStart isLeadingBreak t)
  rw [← after_trimStart (fun _ hc => hc), ← hsplit] at h
  rw [normalize_eq_closeBlankLines, after_closeBlankLines]
  exact isSome_after_of_append h

/-! ## Lines -/

theorem after_digits {digits : Text} (hdigits : ∀ c ∈ digits, isDecimalDigit c = true)
    (t : Text) : number.after (digits ++ t) = number.after t := by
  induction digits with
  | nil => rfl
  | cons c digits ih =>
    rw [List.forall_mem_cons] at hdigits
    have hwrite : number.write c = some number := write_of_isDecimalDigit hdigits.1 number
    rw [List.cons_append, after_cons, hwrite]
    exact ih hdigits.2

/-- A marker cannot be written at the start of a line. -/
theorem after_of_isMarked {line : Text} (h : line.IsMarked) (rest : Text) :
    fresh.after (line ++ rest) = none := by
  obtain ⟨digits, behind, hne, hdigits, rfl⟩ := h
  obtain ⟨c, digits, rfl⟩ := List.exists_cons_of_ne_nil hne
  rw [List.forall_mem_cons] at hdigits
  have hwrite : fresh.write c = some number := write_of_isDecimalDigit hdigits.1 fresh
  rw [List.cons_append, List.cons_append, after_cons, hwrite, Option.bind_some, List.append_assoc,
    after_digits hdigits.2]
  rfl

theorem not_isMarked_head (h : (fresh.after t).isSome = true) :
    ∀ line ∈ t.lines.head?, ¬ line.IsMarked := by
  intro line hline hmarked
  rw [Text.head?_lines] at hline
  obtain rfl := Option.some.inj hline
  have hnone := after_of_isMarked hmarked (t.dropWhile (· != '\n'))
  rw [List.takeWhile_append_dropWhile] at hnone
  rw [hnone] at h
  cases h

/-- The lines after the first one each start afresh. -/
theorem not_isMarked_tail (h : (s.after t).isSome = true) :
    ∀ line ∈ t.lines.tail, ¬ line.IsMarked := by
  induction t generalizing s with
  | nil => exact fun line hline => absurd hline List.not_mem_nil
  | cons c t ih =>
    obtain ⟨r, hr⟩ := Option.isSome_iff_exists.mp (Option.isSome_of_isSome_bind h)
    rw [after_cons, hr, Option.bind_some] at h
    by_cases hc : c = '\n'
    · subst hc
      have hfeed : ∀ q r : LineHead, q.feed = some r → r = fresh := by decide
      obtain rfl := hfeed s r hr
      obtain ⟨first, rest, hlines⟩ := Text.exists_lines_eq t
      have hfirst := not_isMarked_head h first
      have hrest := ih h
      rw [hlines] at hfirst hrest
      rw [Text.lines_cons_break, List.tail_cons, hlines, List.forall_mem_cons]
      exact ⟨hfirst rfl, hrest⟩
    · rw [Text.lines_cons_of_ne hc, List.tail_modifyHead]
      exact ih h

/-- **No line of a text that can be written begins with a marker.** -/
theorem not_isMarked_of_after (h : (fresh.after t).isSome = true) :
    ∀ line ∈ t.lines, ¬ line.IsMarked := by
  obtain ⟨first, rest, hlines⟩ := Text.exists_lines_eq t
  have hfirst := not_isMarked_head h first
  have hrest := not_isMarked_tail h
  rw [hlines] at hfirst hrest
  rw [hlines, List.forall_mem_cons]
  exact ⟨hfirst rfl, hrest⟩

end LineHead

end HtmlMarkdown
