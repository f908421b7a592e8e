import Mathlib
import HtmlMarkdown.Proofs.Block
import HtmlMarkdown.Proofs.Solid

/-!
# Quotations

A quotation has a mark before every line, and empty lines have one too.

* `Text.quotation`: a text with a mark before each of its lines;
* `prefixLines_eq`: a start put before the lines of a text;
* `isSolid_quotation`: a quoted text is solid;
* `blockquote_eq`, **`markdownOfNode_quotation`**: what the rules make of a quotation.
-/

namespace HtmlMarkdown

/-! ## Lines -/

namespace Text

theorem not_mem_of_mem_lines {t line : Text} (h : line ∈ t.lines) : '\n' ∉ line := by
  induction t generalizing line with
  | nil =>
    rw [lines_nil, List.mem_singleton] at h
    rw [h]
    exact List.not_mem_nil
  | cons c t ih =>
    by_cases hc : c = '\n'
    · rw [hc, lines_cons_break, List.mem_cons] at h
      rcases h with rfl | h
      · exact List.not_mem_nil
      · exact ih h
    · obtain ⟨first, rest, hlines⟩ := exists_lines_eq t
      rw [lines_cons_of_ne hc, hlines, List.modifyHead_cons, List.mem_cons] at h
      rw [hlines] at ih
      rcases h with rfl | h
      · rw [List.mem_cons, not_or]
        exact ⟨Ne.symm hc, ih List.mem_cons_self⟩
      · exact ih (List.mem_cons_of_mem _ h)

/-- A text is its lines with line feeds between them. -/
theorem join_lines (t : Text) : join ['\n'] t.lines = t := List.intercalate_splitOn '\n'

theorem lines_join {ls : List Text} (h : ∀ line ∈ ls, '\n' ∉ line) (hne : ls ≠ []) :
    (join ['\n'] ls).lines = ls := List.splitOn_intercalate '\n' h hne

/-- A text with a quotation mark before each of its lines, also before empty ones. -/
def quotation (t : Text) : Text := join ['\n'] (t.lines.map ("> ".toList ++ ·))

end Text

open Text

/-- **A start put before each line of a text.** -/
theorem prefixLines_eq (start t : Text) :
    prefixLines start t = Text.join ['\n'] (t.lines.map (start ++ ·)) := by
  induction t with
  | nil => rw [lines_nil, List.map_singleton, join_singleton]; rfl
  | cons c t ih =>
    obtain ⟨first, rest, hlines⟩ := exists_lines_eq t
    rw [hlines, List.map_cons, join_cons, prefixLines, List.append_assoc] at ih
    have hrest := List.append_cancel_left ih
    rw [Text.replaceChar] at hrest
    rw [prefixLines, Text.replaceChar, List.flatMap_cons, hrest]
    by_cases hc : c = '\n'
    · rw [if_pos hc, hc, lines_cons_break, hlines, List.map_cons, join_cons, List.map_cons,
        stacked_cons]
      simp
    · rw [if_neg hc, lines_cons_of_ne hc, hlines, List.modifyHead_cons, List.map_cons, join_cons]
      simp

/-- Lines that have ink have no blank lines to close. -/
theorem closeBlankLines_join_lines {ls : List Text}
    (h : ∀ line ∈ ls, '\n' ∉ line ∧ line.isBlank = false) :
    closeBlankLines (Text.join ['\n'] ls) = Text.join ['\n'] ls := by
  rcases ls with _ | ⟨line, ls⟩
  · rw [Text.join, List.intercalate_nil, closeBlankLines]
  · rw [List.forall_mem_cons] at h
    rw [join_cons]
    exact closeBlankLines_append_stacked h.1.1 h.2

/-! ## Quotations -/

theorem not_mem_quotation_line {line : Text} (h : '\n' ∉ line) : '\n' ∉ "> ".toList ++ line := by
  rw [List.mem_append, not_or]
  exact ⟨by decide, h⟩

/-- **A quoted text is solid** if it ends with ink: there is a mark in each of its lines. -/
theorem isSolid_quotation {t : Text} (hne : t ≠ []) (hink : Side.right.InkText t) :
    t.quotation.IsSolid := by
  obtain ⟨first, rest, hlines⟩ := exists_lines_eq t
  have hstart : t.quotation = '>' :: ' ' :: Text.replaceChar '\n' ('\n' :: "> ".toList) t :=
    (prefixLines_eq "> ".toList t).symm
  have hmark : isBlank '>' = false := by decide
  refine ⟨?_, fun side => ?_, ?_⟩
  · rw [hstart]
    exact List.cons_ne_nil _ _
  · cases side with
    | left =>
      rw [hstart]
      rintro c ⟨⟩
      exact hmark
    | right =>
      -- the last character is no line feed, so it stays where it is
      obtain ⟨u, c, rfl⟩ := (List.eq_nil_or_concat' t).resolve_left hne
      have hc : isBlank c = false := hink c List.getLast?_concat
      rw [hstart, Text.replaceChar, List.flatMap_append, List.flatMap_singleton,
        if_neg (ne_break_of_not_isBlank hc), ← List.cons_append, ← List.cons_append]
      intro d hd
      rw [Side.edge?, List.getLast?_concat] at hd
      cases hd
      exact hc
  · rw [Text.quotation]
    refine closeBlankLines_join_lines fun line hline => ?_
    obtain ⟨l, hl, rfl⟩ := List.mem_map.mp hline
    exact ⟨not_mem_quotation_line (not_mem_of_mem_lines hl), isBlank_cons_of_not_isBlank hmark _⟩

/-- **The rule for quotations** trims what is in a quotation and limits its line feeds. -/
theorem blockquote_eq (content : Text) (p : Place) : Markdown.blockquote content p =
    asBlock (Text.quotation (limitBreaks (Text.trim isBlank content))) := by
  rw [Markdown.blockquote, prefixLines_eq]
  rfl

/-- **What the rules make of a quotation**: its trimmed content with a mark before each line. -/
theorem markdownOfNode_quotation (gfm : Bool) (policy : Policy) {attributes : Attributes}
    {children before after : List Node} {outside : Surroundings} {content : Text}
    (hchildren : (Context.builtIn gfm policy).markdownOfNodes
      (.element "blockquote" attributes before after outside) [] children = .ok content)
    (hblank : content.isBlank = false) :
    (Context.builtIn gfm policy).markdownOfNode outside before after
        (.element "blockquote" attributes children) =
      .ok (asBlock (Text.quotation (limitBreaks (Text.trim isBlank content)))) := by
  have htag : (Place.node (.element "blockquote" attributes children) before after outside).tagName =
      "blockquote" := (by decide : lowerName "blockquote" = "blockquote")
  rw [Context.markdownOfNode_element _ hchildren, convertElement_blockquote gfm policy _ htag,
    hblank, if_neg Bool.false_ne_true, blockquote_eq]

end HtmlMarkdown
