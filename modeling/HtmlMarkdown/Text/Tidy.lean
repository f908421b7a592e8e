import HtmlMarkdown.Text.Basic

/-!
# Tidying assembled Markdown

* `closeBlankLines`: lines of white space between two line feeds give way to one blank line.
* `limitBreaks`: three line feeds and more become two.
* `normalize`: the whole text without leading breaks and trailing white space, and with both.
-/

namespace HtmlMarkdown

/-- A tab or a line break. -/
def isLeadingBreak (c : Char) : Bool := c == '\t' || c == '\r' || c == '\n'

/-- What stands after the last line feed of `s`, if a line feed stands in it. -/
def afterLastBreak? : Text → Option Text
  | [] => none
  | c :: s =>
    match afterLastBreak? s with
    | some rest => some rest
    | none => if c = '\n' then some s else none

theorem length_afterLastBreak? {s r : Text} (h : afterLastBreak? s = some r) :
    r.length < s.length := by
  induction s with
  | nil => simp [afterLastBreak?] at h
  | cons c s ih =>
    simp only [afterLastBreak?] at h
    split at h
    · next rest hs =>
      injection h with h
      subst h
      simpa using Nat.lt_succ_of_lt (ih hs)
    · next hs =>
      split at h
      · injection h with h
        subst h
        simp
      · cases h

/-- After a line feed: what follows the white space up to the last line feed, if at least one
character lies between the two line feeds. -/
def afterBlankLines? (s : Text) : Option Text :=
  match s.takeWhile isBlank with
  | [] => none
  | _ :: run => (afterLastBreak? run).map (· ++ s.dropWhile isBlank)

theorem length_afterBlankLines? {s r : Text} (h : afterBlankLines? s = some r) :
    r.length < s.length := by
  have hs : (s.takeWhile isBlank).length + (s.dropWhile isBlank).length = s.length := by
    rw [← List.length_append, List.takeWhile_append_dropWhile]
  unfold afterBlankLines? at h
  split at h
  · cases h
  · next c run hrun =>
    obtain ⟨rest, hrest, rfl⟩ := Option.map_eq_some_iff.1 h
    have := length_afterLastBreak? hrest
    rw [hrun] at hs
    simp only [List.length_cons, List.length_append] at hs ⊢
    omega

/-- A text in which two line feeds stand for every stretch of white space that begins and ends with
a line feed and has something between them. -/
def closeBlankLines : Text → Text
  | [] => []
  | c :: s =>
    if c = '\n' then
      match _ : afterBlankLines? s with
      | some rest => '\n' :: '\n' :: closeBlankLines rest
      | none => '\n' :: closeBlankLines s
    else c :: closeBlankLines s
termination_by s => s.length
decreasing_by
  · have := length_afterBlankLines? ‹_›
    simp only [List.length_cons]
    omega
  · simp
  · simp

/-- A text with at most two line feeds in a row, after `n` line feeds. -/
def limitBreaksAfter (n : Nat) : Text → Text
  | [] => []
  | c :: s =>
    if c = '\n' then
      if n < 2 then '\n' :: limitBreaksAfter (n + 1) s else limitBreaksAfter (n + 1) s
    else c :: limitBreaksAfter 0 s

/-- A text with at most two line feeds in a row. -/
def limitBreaks (s : Text) : Text := limitBreaksAfter 0 s

/-- Assembled Markdown made tidy: leading line breaks and trailing white space go, a line of white
space becomes a blank line, and there is never more than one blank line in a row. -/
def normalize (s : Text) : Text :=
  limitBreaks (closeBlankLines (Text.trimEnd isBlank (Text.trimStart isLeadingBreak s)))

end HtmlMarkdown
