import Mathlib
import HtmlMarkdown.Proofs.Skim

/-!
# Texts that stand in escaped markup

No digit, period and space stand in a row in markup whose literal markers are escaped. So nothing is
skimmed in texts that stand there as they are, if their periods stand between ink and ink, or between
ink and a space.

* `Text.HasPeriodsInside`, `Node.IsVerbatim`: such periods, such texts;
* `LineHead.isAway`: no period that a space could make a marker of;
* `IsReached`, `IsReached.meet`: what the characters before a place in such a text lead to;
* `exists_skim_of_isInfix`: one text;
* **`isMarkerFree_of_verbatim`**: a document of such texts.
-/

namespace HtmlMarkdown

/-- Every period stands right before ink, or right before a space and right behind ink. -/
def Text.HasPeriodsInside (t : Text) : Prop :=
  ∀ before after, t = before ++ '.' :: after → ∃ c rest, after = c :: rest ∧
    (HtmlMarkdown.isBlank c = false ∨
      c = ' ' ∧ ∃ d ∈ before.getLast?, HtmlMarkdown.isBlank d = false)

/-- A text of the node stands in the markup as it is, and its periods stand inside. -/
def Node.IsVerbatim (markup : Text) : Node → Prop
  | .element .. => True
  | .string kind value => kind.isText = true → value <:+: markup ∧ value.HasPeriodsInside

namespace LineHead

/-- No period that a space could make a marker of. -/
def isAway : LineHead → Bool
  | fresh | number | guarded => true
  | period | edge => false

/-- What the characters of a text lead to: to digits only if ink at its end is a digit, and to a
period behind digits only if it ends so. -/
structure IsReached (u : Text) (s : LineHead) : Prop where
  ne_edge : s ≠ edge
  number : s = number → ∀ d ∈ u.getLast?, isBlank d = false → isDecimalDigit d = true
  period : s = period → ∃ b : Text, u = b ++ ['.'] ∧
    ∀ d ∈ b.getLast?, isBlank d = false → isDecimalDigit d = true

variable {markup t u rest : Text} {s : LineHead} {c : Char}

/-- Ink leads to a period behind digits only from digits, and to digits only if it is one. -/
theorem exists_write_of_ink (h : IsReached u s) (hc : isSpacing c = false) :
    ∃ s', s.write c = some s' ∧ IsReached (u ++ [c]) s' := by
  have hlast : (u ++ [c]).getLast? = some c := List.getLast?_concat
  have hpoint : ∀ s : LineHead, s.point ≠ edge ∧ s.point ≠ LineHead.number ∧
      (s.point = LineHead.period → s = LineHead.number) := by decide
  have hdigit : ∀ s : LineHead, s.digit ≠ edge ∧ s.digit ≠ LineHead.period := by decide
  simp only [isSpacing, Bool.or_eq_false_iff, beq_eq_false_iff_ne] at hc
  obtain ⟨⟨⟨hspace, htab⟩, hreturn⟩, hfeed⟩ := hc
  rw [write, if_neg hfeed, if_neg hspace, if_neg (not_or.mpr ⟨htab, hreturn⟩)]
  split_ifs with hperiod hdecimal
  · subst hperiod
    obtain ⟨hedge, hnumber, hbefore⟩ := hpoint s
    exact ⟨_, rfl, hedge, fun hs => absurd hs hnumber, fun hs => ⟨u, rfl, h.number (hbefore hs)⟩⟩
  · refine ⟨_, rfl, (hdigit s).1, fun _ d hd _ => ?_, fun hs => absurd hs (hdigit s).2⟩
    cases hlast.symm.trans hd
    exact hdecimal
  · exact ⟨_, rfl, by decide, fun hs => absurd hs (by decide), fun hs => absurd hs (by decide)⟩

/-- **One more character of such a text.** -/
theorem IsReached.meet (h : IsReached u s) (ht : t = u ++ c :: rest)
    (hverbatim : t <:+: escapeListMarkers markup) (hperiods : t.HasPeriodsInside) :
    ∃ s', s.meet c = some s' ∧ IsReached (u ++ [c]) s' := by
  have hlast : (u ++ [c]).getLast? = some c := List.getLast?_concat
  -- no white space comes after a period behind digits
  have hinside : isBlank c = true → s ≠ LineHead.period := by
    rintro hc rfl
    obtain ⟨b, rfl, hdigit⟩ := h.period rfl
    rw [List.append_assoc] at ht
    obtain ⟨c', rest', hrest, hnext⟩ := hperiods b (c :: rest) ht
    cases hrest
    rcases hnext with hink | ⟨rfl, d, hd, hink⟩
    · rw [hc] at hink
      cases hink
    · obtain ⟨b, rfl⟩ := List.getLast?_eq_some_iff.mp hd
      have hmarker : [d, '.', ' '] <:+: t := ⟨b, rest, by rw [ht]; simp⟩
      exact not_infix_of_markerPeriods_eq_nil (markerPeriods_escapeListMarkers markup)
        (hdigit d hd hink) (hmarker.trans hverbatim)
  have hblank : isBlank c = true → IsReached (u ++ [c]) s := fun hc => by
    refine ⟨h.ne_edge, fun _ d hd hink => ?_, fun hs => absurd hs (hinside hc)⟩
    cases hlast.symm.trans hd
    rw [hc] at hink
    cases hink
  rw [LineHead.meet]
  split
  · next hspacing =>
    have hc := isBlank_of_isSpacing c hspacing
    have hpause : ∀ s : LineHead, s ≠ edge → s ≠ LineHead.period → s.pause = some s := by decide
    exact ⟨s, hpause s h.ne_edge (hinside hc), hblank hc⟩
  · next hspacing =>
    split
    · next hc => exact ⟨s, rfl, hblank hc⟩
    · exact exists_write_of_ink h (Bool.eq_false_iff.mpr hspacing)

/-- **Such a text** leaves no period that a space could make a marker of. -/
theorem exists_skim_of_isInfix (hverbatim : t <:+: escapeListMarkers markup)
    (hperiods : t.HasPeriodsInside) (hs : s.isAway = true) :
    ∃ s', s.skim t = some s' ∧ s'.isAway = true := by
  have hrun : ∀ (rest u : Text) (r : LineHead), t = u ++ rest → IsReached u r →
      ∃ s', r.skim rest = some s' ∧ IsReached t s' := by
    intro rest
    induction rest with
    | nil =>
      rintro u r rfl hr
      exact ⟨r, rfl, by rwa [List.append_nil]⟩
    | cons c rest ih =>
      intro u r ht hr
      obtain ⟨q, hq, hreached⟩ := hr.meet ht hverbatim hperiods
      obtain ⟨s', hs', hend⟩ := ih (u ++ [c]) q (by rw [ht]; simp) hreached
      exact ⟨s', by rw [skim_cons, hq]; exact hs', hend⟩
  have hstart : IsReached [] s := by
    constructor
    · rintro rfl
      cases hs
    · intro _ d hd
      cases hd
    · rintro rfl
      cases hs
  obtain ⟨s', hs', hend⟩ := hrun t [] s rfl hstart
  refine ⟨s', hs', ?_⟩
  have haway : ∀ s : LineHead, s ≠ edge → s ≠ LineHead.period → s.isAway = true := by decide
  refine haway s' hend.ne_edge fun hperiod => ?_
  obtain ⟨b, rfl, -⟩ := hend.period hperiod
  obtain ⟨c, rest, hnil, -⟩ := hperiods b [] rfl
  cases hnil

end LineHead

/-! ## Documents -/

namespace Setting

variable {s last : LineHead}

theorem exists_enter (setting : Setting) (gfm isSure : Bool) (hs : s.isAway = true) :
    ∃ inner, setting.enter gfm isSure s = some inner ∧ inner.isAway = true := by
  revert gfm isSure s
  cases setting <;> decide

theorem exists_leave (setting : Setting) (isSure : Bool) (hs : s.isAway = true)
    (hlast : last.isAway = true) : ∃ s', setting.leave isSure s last = some s' ∧ s'.isAway = true := by
  revert isSure s last
  cases setting <;> decide

end Setting

section Documents

variable {gfm : Bool} {markup : Text}

mutual

theorem exists_skim_of_verbatim (isKept : Bool) : ∀ {n : Node} {s : LineHead},
    n.Everywhere (Node.IsVerbatim (escapeListMarkers markup)) → s.isAway = true →
    ∃ s', n.skim gfm id isKept s = some s' ∧ s'.isAway = true
  | .string kind value, s, hn, hs => by
    rw [Node.skim]
    split
    · next hkind =>
      obtain ⟨hverbatim, hperiods⟩ := hn hkind
      exact LineHead.exists_skim_of_isInfix hverbatim hperiods hs
    · exact ⟨s, rfl, hs⟩
  | .element name attributes children, s, hn, hs => by
    let setting := (Node.element name attributes children).setting gfm
    let isSure := (Node.element name attributes children).isSure isKept
    obtain ⟨inner, henter, hinner⟩ := setting.exists_enter gfm isSure hs
    obtain ⟨last, hlast, haway⟩ : ∃ last,
        (if setting.isOpen then skimNodes gfm id isSure children inner else some inner) =
          some last ∧ last.isAway = true := by
      split
      · exact exists_skimNodes_of_verbatim isSure hn.children hinner
      · exact ⟨inner, rfl, hinner⟩
    obtain ⟨s', hleave, hend⟩ := setting.exists_leave isSure hs haway
    exact ⟨s', Node.skim_element_eq_some_iff.mpr ⟨inner, last, henter, hlast, hleave⟩, hend⟩

theorem exists_skimNodes_of_verbatim (isKept : Bool) : ∀ {ns : List Node} {s : LineHead},
    Everywhere (Node.IsVerbatim (escapeListMarkers markup)) ns → s.isAway = true →
    ∃ s', skimNodes gfm id isKept ns s = some s' ∧ s'.isAway = true
  | [], s, _, hs => ⟨s, rfl, hs⟩
  | n :: rest, s, hns, hs => by
    obtain ⟨r, hr, haway⟩ := exists_skim_of_verbatim isKept hns.1 hs
    obtain ⟨s', hs', hend⟩ := exists_skimNodes_of_verbatim isKept hns.2 haway
    exact ⟨s', by rw [skimNodes, hr]; exact hs', hend⟩

end

/-- **No marker is skimmed in a document of texts that stand in escaped markup**, with periods that
stand inside. -/
theorem isMarkerFree_of_verbatim {ns : List Node}
    (h : Everywhere (Node.IsVerbatim (escapeListMarkers markup)) ns) :
    isMarkerFree gfm (escapeListMarkers markup) ns = true := by
  obtain ⟨s', hs', -⟩ :=
    exists_skimNodes_of_verbatim true h (by decide : LineHead.fresh.isAway = true)
  rw [isMarkerFree_escapeListMarkers, hs', Option.isSome_some]

end Documents

end HtmlMarkdown
