import Mathlib
import HtmlMarkdown.Proofs.Block
import HtmlMarkdown.Proofs.Conversion
import HtmlMarkdown.Proofs.Padding
import HtmlMarkdown.Proofs.Stacked

/-!
# Tables

With the GitHub-flavoured rules a table becomes one line for each row, and one more with borders for
each row of its head, whatever white space and comments are between its parts.

* `Table.Cell`, `Table.Row`, `Table.Part`, `Table`: rows of cells, in sections or right in a table;
* `Table.node`, `Table.lines`: the element that a table is, and the lines that it has;
* `lowerAttribute_align`: the alignment that the rules see;
* `mapM_spread_cells`: cells side by side make a line;
* `markdownOfNode_row`, `markdownOfNode_part`: what the rules make of a row, and of a section;
* **`Table.convert_of_padded`**: a table is converted to its lines.
-/

namespace HtmlMarkdown

/-! ## Tables -/

/-- A cell with a phrase or nothing in it. Its alignment, if it has one, is one text. -/
structure Table.Cell where
  isHeader : Bool
  attributes : Attributes
  phrase? : Option Phrase
  isText_align : ∀ v ∈ attributes.lookup "align", v.text?.isSome = true

/-- A row of at least one cell. -/
structure Table.Row where
  attributes : Attributes
  first : Table.Cell
  more : List Table.Cell

/-- The sections that the rows of a table may be in. -/
inductive Table.Section
  | head
  | body
  | foot
  deriving DecidableEq

/-- A part of a table: a section with its rows, or a row that is in no section. -/
inductive Table.Part
  | rowsIn (within : Table.Section) (attributes : Attributes) (rows : List Table.Row)
  | row (row : Table.Row)

/-- A table. -/
structure Table where
  attributes : Attributes
  parts : List Table.Part

namespace Table

/-- The name of a section. -/
def Section.name : Section → String
  | head => "thead"
  | body => "tbody"
  | foot => "tfoot"

/-! ## Elements -/

namespace Cell

variable (c : Cell)

/-- The name of a cell. -/
def name : String := if c.isHeader then "th" else "td"

/-- The element that a cell is. -/
def node : Node :=
  .element c.name c.attributes (c.phrase?.map fun phrase => .string .plain phrase.text).toList

/-- The text of a cell. -/
def text : Text := (c.phrase?.map Phrase.text).getD []

/-- The alignment of a cell, or nothing. -/
def align : Text := ((c.attributes.lookup "align").bind AttributeValue.text?).getD []

/-- The border under a cell: by its alignment in lower case. -/
def border : Text := Gfm.alignBorder (Text.lower c.align)

end Cell

/-- The cells of a row. -/
def Row.cells (r : Row) : List Cell := r.first :: r.more

/-- The element that a row is. -/
def Row.node (r : Row) : Node := .element "tr" r.attributes (r.cells.map Cell.node)

/-- The element that a part of a table is. -/
def Part.node : Part → Node
  | rowsIn within attributes rows => .element within.name attributes (rows.map Row.node)
  | row r => r.node

/-- The element that a table is. -/
def node (t : Table) : Node := .element "table" t.attributes (t.parts.map Part.node)

/-! ## Lines -/

/-- Texts in one line with a bar before, after and between them. -/
def barred (texts : List Text) : Text := '|' :: texts.flatMap fun text => ' ' :: text ++ [' ', '|']

/-- The lines of a row: its texts, and in the head of a table the borders under them. -/
def Row.lines (inHead : Bool) (r : Row) : List Text :=
  barred (r.cells.map Cell.text) :: if inHead then [barred (r.cells.map Cell.border)] else []

/-- The lines of a part of a table. -/
def Part.lines : Part → List Text
  | rowsIn within _ rows => rows.flatMap (Row.lines (within = .head))
  | row r => r.lines false

/-- The lines of a table. -/
def lines (t : Table) : List Text := t.parts.flatMap Part.lines

theorem isInkLine_barred {texts : List Text} (h : ∀ t ∈ texts, '\n' ∉ t) (hne : texts ≠ []) :
    (barred texts).IsInkLine ∧ Side.left.InkText (barred texts) := by
  have hbar : isBlank '|' = false := by decide
  refine ⟨⟨?_, ?_, isBlank_cons_of_not_isBlank hbar _⟩, ?_⟩
  · rw [barred, List.mem_cons, not_or, List.mem_flatMap]
    refine ⟨by decide, ?_⟩
    rintro ⟨t, ht, hbreak⟩
    rw [List.mem_append, List.mem_cons] at hbreak
    rcases hbreak with (hspace | hbreak) | hbreak
    · exact absurd hspace (by decide)
    · exact h t ht hbreak
    · exact absurd hbreak (by decide)
  · obtain ⟨texts, last, rfl⟩ := (List.eq_nil_or_concat' texts).resolve_left hne
    have hsplit : barred (texts ++ [last]) = barred texts ++ (' ' :: last ++ [' ']) ++ ['|'] := by
      rw [barred, List.flatMap_append, List.flatMap_singleton, barred]
      simp
    intro c hc
    rw [hsplit, Side.edge?, List.getLast?_concat] at hc
    cases hc
    exact hbar
  · rintro c ⟨⟩
    exact hbar

theorem Cell.not_mem_text (c : Cell) : '\n' ∉ c.text := by
  rw [text]
  rcases c.phrase? with _ | phrase
  · exact List.not_mem_nil
  · exact phrase.isPhrase.not_mem_break

theorem Cell.not_mem_border (c : Cell) : '\n' ∉ c.border := by
  rw [border, Gfm.alignBorder]
  split
  · decide
  · split
    · decide
    · split <;> decide

theorem Row.isInkLine (r : Row) (inHead : Bool) :
    ∀ l ∈ r.lines inHead, l.IsInkLine ∧ Side.left.InkText l := by
  have hcells : ∀ f : Cell → Text, (∀ c, '\n' ∉ f c) →
      (barred (r.cells.map f)).IsInkLine ∧ Side.left.InkText (barred (r.cells.map f)) := by
    intro f hf
    refine isInkLine_barred (fun t ht => ?_) (by simp [cells])
    obtain ⟨c, _, rfl⟩ := List.mem_map.mp ht
    exact hf c
  rw [lines, List.forall_mem_cons]
  refine ⟨hcells _ Cell.not_mem_text, fun l hl => ?_⟩
  split at hl
  · rw [List.mem_singleton.mp hl]
    exact hcells _ Cell.not_mem_border
  · cases hl

theorem Part.isInkLine (part : Part) : ∀ l ∈ part.lines, l.IsInkLine ∧ Side.left.InkText l := by
  cases part with
  | rowsIn within attributes rows =>
    intro l hl
    obtain ⟨r, _, hl⟩ := List.mem_flatMap.mp hl
    exact r.isInkLine _ l hl
  | row r => exact r.isInkLine false

/-- **All lines of a table begin and end with ink.** -/
theorem isInkLine (t : Table) : ∀ l ∈ t.lines, l.IsInkLine ∧ Side.left.InkText l := by
  intro l hl
  obtain ⟨part, _, hl⟩ := List.mem_flatMap.mp hl
  exact part.isInkLine l hl

/-! ## White space -/

theorem Cell.isLaidOut (c : Cell) : c.node.Everywhere Node.IsLaidOut := by
  have hname : isBlockTag (lowerName c.name) = true ∧ isPreformattedTag (lowerName c.name) = false ∧
      c.name ≠ "body" := by
    rw [name]
    split <;> decide
  rw [node]
  rcases c.phrase? with _ | phrase
  · exact ⟨⟨hname.1, hname.2.1, hname.2.2, List.isChain_nil⟩, trivial⟩
  · exact ⟨⟨hname.1, hname.2.1, hname.2.2, List.isChain_singleton _⟩, ⟨rfl, phrase.isPhrase⟩, trivial⟩

/-- Elements that are laid out may be the children of a block. -/
theorem isLaidOut_element {α : Type} {f : α → Node} {xs : List α}
    (hf : ∀ x, (f x).Everywhere Node.IsLaidOut) (htext : ∀ x, (f x).isText = false) {name : String}
    (hname : isBlockTag (lowerName name) = true ∧ isPreformattedTag (lowerName name) = false ∧
      name ≠ "body") (attributes : Attributes) :
    (Node.element name attributes (xs.map f)).Everywhere Node.IsLaidOut := by
  refine ⟨⟨hname.1, hname.2.1, hname.2.2, Node.isChain_of_not_isText ?_⟩, ?_⟩
  · rw [List.forall_mem_map]
    exact fun x _ => htext x
  · rw [everywhere_iff_forall_mem, List.forall_mem_map]
    exact fun x _ => hf x

theorem Row.isLaidOut (r : Row) : r.node.Everywhere Node.IsLaidOut :=
  isLaidOut_element Cell.isLaidOut (fun _ => rfl) (by decide) r.attributes

theorem Part.isLaidOut (part : Part) : part.node.Everywhere Node.IsLaidOut := by
  cases part with
  | rowsIn within attributes rows =>
    exact isLaidOut_element Row.isLaidOut (fun _ => rfl) (by cases within <;> decide) attributes
  | row r => exact r.isLaidOut

/-- **A table has phrases between block elements** and nothing else. -/
theorem isLaidOut (t : Table) : t.node.Everywhere Node.IsLaidOut :=
  isLaidOut_element Part.isLaidOut (fun part => by cases part <;> rfl) (by decide) t.attributes

/-! ## Rows -/

/-- The rules see the alignment of a cell in lower case. -/
theorem lowerAttribute_align (c : Cell) (before after : List Node) (outside : Surroundings) :
    (Place.node c.node before after outside).lowerAttribute "align" = .ok (Text.lower c.align) := by
  have hfilled : (Place.node c.node before after outside).filledAttribute? "align" =
      (c.attributes.lookup "align").filter fun v => !v.isEmpty := rfl
  rw [Place.lowerAttribute, hfilled, Cell.align]
  rcases hlookup : c.attributes.lookup "align" with _ | ⟨text⟩ | words | ⟨text, written⟩
  · rfl
  · rcases text with _ | ⟨d, text⟩ <;> rfl
  · cases c.isText_align _ hlookup
  · rcases text with _ | ⟨d, text⟩ <;> rfl

section Cells

variable {outside : Surroundings} {g : Place → Except Error Text} {f : Cell → Text}
  (hg : ∀ (c : Cell) (before after : List Node), g (.node c.node before after outside) =
    Gfm.cell (f c) (.node c.node before after outside))

include hg

theorem mapM_spread_cells_of_ne_nil (cells : List Cell) {before : List Node} (hne : before ≠ []) :
    (Place.spread outside before (cells.map Cell.node)).mapM g =
      .ok (cells.map fun c => ' ' :: f c ++ [' ', '|']) := by
  induction cells generalizing before with
  | nil => rfl
  | cons c cells ih =>
    have hindex : before.length ≠ 0 := fun hzero => hne (List.length_eq_zero_iff.mp hzero)
    rw [List.map_cons, Place.spread, List.mapM_cons, hg, ih (List.cons_ne_nil _ _), Gfm.cell,
      Place.indexAmongNodes]
    simp only [Except.map, if_neg hindex]
    rfl

/-- **Cells side by side make a line**: the first one has a bar before it, and each has one after. -/
theorem mapM_spread_cells (r : Row) :
    ((Place.spread outside [] (r.cells.map Cell.node)).mapM g).map List.flatten =
      .ok (barred (r.cells.map f)) := by
  rw [Row.cells, List.map_cons, Place.spread, List.mapM_cons, hg,
    mapM_spread_cells_of_ne_nil hg r.more (List.cons_ne_nil _ _), barred, List.map_cons,
    List.flatMap_cons, List.flatMap_map, List.flatMap]
  rfl

end Cells

section Recursion

variable (policy : Policy)

/-- What the rules make of a cell. -/
theorem markdownOf_cell (c : Cell) (before after : List Node) (outside : Surroundings) :
    (Context.builtIn true policy).markdownOf (.node c.node before after outside) =
      Gfm.cell c.text (.node c.node before after outside) := by
  have hname : lowerName c.name ∈ ["th", "td"] := by
    rw [Cell.name]
    split <;> decide
  have hcontent : (Context.builtIn true policy).markdownOfNodes
      (.element c.name c.attributes before after outside) []
      (c.phrase?.map fun phrase => .string .plain phrase.text).toList = .ok c.text := by
    rw [Cell.text]
    rcases c.phrase? with _ | phrase
    · rfl
    · exact Context.markdownOfNodes_plain _ _ [] phrase.text
  rw [Context.markdownOf, Cell.node, Context.markdownOfNode_element _ hcontent]
  exact convertElement_cell policy c.text hname

/-- What the rules make of the borders under a row: nothing outside the head of a table. -/
theorem borders_row (r : Row) (before after : List Node) (outside : Surroundings) :
    Gfm.borders (.node r.node before after outside) =
      .ok (if outside.tagName == "thead" then barred (r.cells.map Cell.border) else []) := by
  have hborder : ∀ (c : Cell) (before' after' : List Node),
      Gfm.border (.node c.node before' after' (.element "tr" r.attributes before after outside)) =
        Gfm.cell c.border (.node c.node before' after'
          (.element "tr" r.attributes before after outside)) := by
    intro c before' after'
    rw [Gfm.border, lowerAttribute_align]
    rfl
  have helements : (Place.node r.node before after outside).elementChildren =
      Place.spread (.element "tr" r.attributes before after outside) [] (r.cells.map Cell.node) := by
    refine List.filter_eq_self.mpr fun d hd => ?_
    obtain ⟨n, earlier, later, rfl, hnodes⟩ := Place.mem_spread hd
    have hn : n ∈ r.cells.map Cell.node := by
      rw [show r.cells.map Cell.node = earlier ++ n :: later from hnodes]
      simp
    obtain ⟨c, _, rfl⟩ := List.mem_map.mp hn
    rfl
  have hrow := mapM_spread_cells hborder r
  by_cases hhead : outside.tagName = "thead"
  · have hparent : (Place.node r.node before after outside).parentName = "thead" := hhead
    rw [Gfm.borders, if_pos hparent, helements, hhead]
    rcases hmap : (Place.spread (.element "tr" r.attributes before after outside) []
        (r.cells.map Cell.node)).mapM Gfm.border with e | texts
    · rw [hmap] at hrow
      cases hrow
    · rw [hmap] at hrow
      exact hrow
  · have hparent : ¬ (Place.node r.node before after outside).parentName = "thead" := hhead
    rw [Gfm.borders, if_neg hparent, beq_eq_false_iff_ne.mpr hhead]
    rfl

/-- **What the rules make of a row**: its lines, each below the other. -/
theorem markdownOfNode_row (r : Row) (outside : Surroundings) (before after : List Node) :
    (Context.builtIn true policy).markdownOfNode outside before after r.node =
      .ok (stacked (r.lines (outside.tagName == "thead"))) := by
  have hcontent : (Context.builtIn true policy).markdownOfNodes
      (.element "tr" r.attributes before after outside) [] (r.cells.map Cell.node) =
        .ok (barred (r.cells.map Cell.text)) := by
    rw [Context.markdownOfNodes_eq]
    exact mapM_spread_cells (fun c before after => markdownOf_cell policy c before after _) r
  have hblank : (barred (r.cells.map Cell.text)).isBlank = false :=
    isBlank_cons_of_not_isBlank (by decide) _
  have htag : (Place.node r.node before after outside).tagName = "tr" :=
    (by decide : lowerName "tr" = "tr")
  rw [Row.node, Context.markdownOfNode_element _ hcontent]
  refine (convertElement_tableRow policy _ htag).trans ?_
  rw [hblank, if_neg Bool.false_ne_true, Gfm.tableRow, borders_row, Row.lines]
  rcases outside.tagName == "thead" with _ | _ <;> simp [Except.map, barred]

/-- What the rules make of several rows. -/
theorem markdownOfNodes_rows (rows : List Row) (outside : Surroundings) (before : List Node) :
    (Context.builtIn true policy).markdownOfNodes outside before (rows.map Row.node) =
      .ok (stacked (rows.flatMap (Row.lines (outside.tagName == "thead")))) := by
  have hrow := fun r => markdownOfNode_row policy r outside
  rw [Context.markdownOfNodes_map hrow, stacked, List.flatMap_assoc]
  rfl

/-- **What the rules make of a part of a table**: the lines of its rows. -/
theorem markdownOfNode_part (part : Part) {outside : Surroundings} (h : outside.tagName = "table")
    (before after : List Node) :
    (Context.builtIn true policy).markdownOfNode outside before after part.node =
      .ok (stacked part.lines) := by
  cases part with
  | rowsIn within attributes rows =>
    have hinside : ((Surroundings.element within.name attributes before after outside).tagName ==
        "thead") = decide (within = .head) := by
      cases within <;> rfl
    have hcontent := markdownOfNodes_rows policy rows
      (.element within.name attributes before after outside) []
    have hname : lowerName within.name ∈ ["thead", "tbody", "tfoot"] := by
      cases within <;> decide
    have htag : (Place.node (.element within.name attributes (rows.map Row.node)) before after
        outside).tagName ∈ ["thead", "tbody", "tfoot"] := hname
    have hlines : ∀ l ∈ rows.flatMap (Row.lines (within = .head)), l.IsInkLine := fun l hl =>
      ((Part.rowsIn within attributes rows).isInkLine l hl).1
    rw [hinside] at hcontent
    rw [Part.node, Context.markdownOfNode_element _ hcontent]
    refine (convertElement_tableSection policy _ htag).trans ?_
    rw [Part.lines, isBlank_stacked hlines]
    split
    · next hnone => rw [List.isEmpty_iff.mp hnone, stacked_nil]
    · rfl
  | row r =>
    have hrow := markdownOfNode_row policy r outside before after
    rwa [h] at hrow

/-- What the rules make of all parts of a table. -/
theorem markdownOfNodes_parts (parts : List Part) {outside : Surroundings}
    (h : outside.tagName = "table") (before : List Node) :
    (Context.builtIn true policy).markdownOfNodes outside before (parts.map Part.node) =
      .ok (stacked (parts.flatMap Part.lines)) := by
  have hpart := fun part => markdownOfNode_part policy part h
  rw [Context.markdownOfNodes_map hpart, stacked, List.flatMap_assoc]
  rfl

/-- What the rules make of a table: nothing if it has no rows. -/
theorem contentBelow_node (t : Table) :
    (Context.builtIn true policy).contentBelow (.document [t.node]) =
      .ok (if t.lines.isEmpty then [] else asBlock (stacked t.lines)) := by
  have hname : lowerName "table" = "table" := by decide
  have hinside : (Surroundings.element "table" t.attributes [] [] .document).tagName = "table" :=
    hname
  have htag : (Place.node t.node [] [] .document).tagName = "table" := hname
  have hcontent := markdownOfNodes_parts policy t.parts hinside []
  have hnode : (Context.builtIn true policy).markdownOfNode .document [] [] t.node =
      .ok (if t.lines.isEmpty then [] else asBlock (stacked t.lines)) := by
    rw [node, Context.markdownOfNode_element _ hcontent]
    refine (convertElement_table policy _ htag).trans ?_
    rw [← lines, isBlank_stacked fun l hl => (t.isInkLine l hl).1]
  rw [Context.contentBelow_of_nodes_eq rfl]
  exact hnode

end Recursion

/-! ## Conversions -/

/-- **A table is converted to its lines**, with any white space and any comments between and around
its parts: one line for each row, and the borders below each row of its head. -/
theorem convert_of_padded (policy : Policy) {t : Table} {padded document : List Node}
    (h : Padded [t.node] padded) (hcomments : Commented padded document) (s : Progress) :
    ∃ s', ((Context.builtIn true policy).convert document).run s =
      .ok (Text.join ['\n'] t.lines) s' := by
  have hcontent := contentBelow_node policy t
  rw [← foldedRoot_of_padded_of_commented h hcomments ⟨t.isLaidOut, trivial⟩
    (List.isChain_singleton _)] at hcontent
  refine Context.exists_run_convert_iff.mpr ⟨_, hcontent, ?_⟩
  rcases hcases : t.lines with _ | ⟨first, rest⟩
  · exact (normalize_eq_nil_iff.mpr rfl).symm
  · have hlines := t.isInkLine
    rw [hcases] at hlines
    rw [List.isEmpty_cons, if_neg Bool.false_ne_true]
    exact (normalize_asBlock_stacked (hlines first List.mem_cons_self).2
      fun l hl => (hlines l hl).1).symm

/-- A head with an empty cell, and a row in no section. -/
def headAndRow : Table where
  attributes := []
  parts := [
    .rowsIn .head [] [{
      attributes := []
      first := ⟨true, [("align", .text "LEFT".toList)],
        some ⟨['a'], Text.isPhrase_a⟩, by decide⟩
      more := [⟨true, [], none, by decide⟩] }],
    .row {
      attributes := []
      first := ⟨false, [], some ⟨['b'], Text.isPhrase_b⟩, by decide⟩
      more := [⟨false, [], some ⟨['c'], Text.isPhrase_c⟩, by decide⟩] }]

/-- The row of the head, with a line feed between its cells. -/
def headRowNode : Node :=
  .element "tr" [] [
    .element "th" [("align", .text "LEFT".toList)] [.string .plain ['a']],
    .string .plain ['\n'], .element "th" [] []]

/-- The row in no section, with spaces around the text of a cell. -/
def bodyRowNode : Node :=
  .element "tr" [] [.element "td" [] [.string .plain [' '], .string .plain ['b'],
    .string .plain [' ']], .element "td" [] [.string .plain ['c']]]

/-- The table with white space among its nodes. -/
def headAndRowPadded : List Node :=
  [.element "table" [] [.string .plain ['\n'], .element "thead" [] [headRowNode],
    .string .plain ['\n', '\t'], bodyRowNode], .string .plain ['\n']]

/-- The table with white space and a comment among its nodes. -/
def headAndRowCommented : List Node :=
  [.element "table" [] [.string .plain ['\n'], .element "thead" [] [headRowNode],
    .string .comment ['x'], .string .plain ['\n', '\t'], bodyRowNode], .string .plain ['\n']]

theorem convert_of_padded_headAndRow : Padded [headAndRow.node] headAndRowPadded ∧
    Commented headAndRowPadded headAndRowCommented ∧
    ∃ s', ((Context.builtIn true .passthrough).convert headAndRowCommented).run {} =
      .ok "| a |  |\n| :-- | --- |\n| b | c |".toList s' := by
  have hheadRow : Padded [Node.element "tr" [] [
      .element "th" [("align", .text "LEFT".toList)] [.string .plain ['a']], .element "th" [] []]]
      [headRowNode] :=
    .element "tr" [] (.element "th" _ (.refl _) (.space rfl rfl (.refl _))) .nil
  have hbodyRow : Padded [Node.element "tr" [] [.element "td" [] [.string .plain ['b']],
      .element "td" [] [.string .plain ['c']]]] [bodyRowNode] :=
    .element "tr" [] (.element "td" [] (.space rfl rfl (.string _ _ (.space rfl rfl .nil))) (.refl _))
      .nil
  have hpadded : Padded [headAndRow.node] headAndRowPadded :=
    .element "table" [] (.space rfl rfl (.element "thead" [] hheadRow (.space rfl rfl hbodyRow)))
      (.space rfl rfl .nil)
  have hcommented : Commented headAndRowPadded headAndRowCommented :=
    .element "table" [] (.string _ _ (.element "thead" [] (.refl _) (.comment _ rfl (.refl _))))
      (.refl _)
  have hlines : Text.join ['\n'] headAndRow.lines =
      "| a |  |\n| :-- | --- |\n| b | c |".toList := by decide
  obtain ⟨s', hrun⟩ := convert_of_padded .passthrough hpadded hcommented {}
  exact ⟨hpadded, hcommented, s', hlines ▸ hrun⟩

end Table

end HtmlMarkdown
