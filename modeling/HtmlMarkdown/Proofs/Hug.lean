import Mathlib
import HtmlMarkdown.Proofs.Faithful

/-!
# Markers hug their text

A rule for an element within a line never gets a content with spacing at an end. At an end where no
sibling has a space the spacing is moved outside; at one where a sibling has a space the content
begins with ink, since spaces stand apart.

* `edge?_marksOf_of_textContent`: a space at the side of a sibling's text is a mark at its side;
* `isChain_siblings`: spaces stand apart among siblings everywhere;
* `inkMark_of_isFlankedBySpace`: what stands beside a sibling's space;
* **`isHugged_flank_of_turn`**: at every turn of a fold.
-/

namespace HtmlMarkdown

/-! ## A space beside an element -/

theorem head?_of_head?_chars {ms : List Mark} (hms : ms.IsChain Apart)
    (h : (ms.filterMap Mark.char?).head? = some ' ') : ms.head? = some (.char ' ') := by
  induction ms with
  | nil => cases h
  | cons m ms ih =>
    cases m with
    | char c =>
      rw [List.filterMap_cons_some (f := Mark.char?) rfl, List.head?_cons, Option.some.injEq] at h
      rw [h, List.head?_cons]
    | lineEnd =>
      -- the end of a line cannot stand beside the space
      rw [List.filterMap_cons_none rfl] at h
      have hhead := ih hms.tail h
      have hink := ((List.isChain_cons.mp hms).1 _ hhead).2 rfl
      cases hink

theorem Apart.symm {a b : Mark} (h : Apart a b) : Apart b a := ⟨h.2, h.1⟩

theorem isChain_reverse {ms : List Mark} (h : ms.IsChain Apart) : ms.reverse.IsChain Apart :=
  List.isChain_reverse.mpr (h.imp fun _ _ => Apart.symm)

/-- If the characters of marks have a space at a side, then the marks have it. -/
theorem edge?_of_edge?_chars {side : Side} {ms : List Mark} (hms : ms.IsChain Apart)
    (h : side.edge? (ms.filterMap Mark.char?) = some ' ') : side.edge? ms = some (.char ' ') := by
  cases side
  · exact head?_of_head?_chars hms h
  · rw [Side.edge?, ← List.head?_reverse] at h ⊢
    rw [← List.filterMap_reverse] at h
    exact head?_of_head?_chars (isChain_reverse hms) h

mutual

theorem filterMap_marksOf {holds : StringKind → Bool} (hplain : holds .plain = true) :
    ∀ n : Node, n.Everywhere Node.IsShown →
    (marksOf n).filterMap Mark.char? = n.strings holds
  | .element name attributes children, h => by
    rw [marksOf_element, h.1.1.isPreTag_eq_false, Node.strings,
      ← filterMap_marks hplain children h.2]
    simp only [Bool.false_eq_true, if_false]
    split
    · rw [List.filterMap_cons_none rfl, List.filterMap_append, List.filterMap_cons_none rfl,
        List.filterMap_nil, List.append_nil]
    · rfl
  | .string kind value, h => by
    have hk : kind.isText = true := by
      simpa [Node.isComment] using h.2
    rw [marksOf_string, if_pos hk, Node.strings, (h.1 hk).1, hplain, if_pos rfl, filterMap_char?]

theorem filterMap_marks {holds : StringKind → Bool} (hplain : holds .plain = true) :
    ∀ ns : List Node, Everywhere Node.IsShown ns →
    (marks ns).filterMap Mark.char? = Node.stringsList holds ns
  | [], _ => rfl
  | n :: rest, h => by
    rw [marks_cons, List.filterMap_append, filterMap_marksOf hplain n h.1,
      filterMap_marks hplain rest h.2, Node.stringsList]

end

mutual

theorem strings_eq_nil {holds : StringKind → Bool} (hplain : holds .plain = false) :
    ∀ n : Node, n.Everywhere Node.IsShown → n.strings holds = []
  | .element _ _ children, h => stringsList_eq_nil hplain children h.2
  | .string kind value, h => by
    have hk : kind.isText = true := by
      simpa [Node.isComment] using h.2
    rw [Node.strings, (h.1 hk).1, hplain, if_neg Bool.false_ne_true]

theorem stringsList_eq_nil {holds : StringKind → Bool} (hplain : holds .plain = false) :
    ∀ ns : List Node, Everywhere Node.IsShown ns → Node.stringsList holds ns = []
  | [], _ => rfl
  | n :: rest, h => by
    rw [Node.stringsList, strings_eq_nil hplain n h.1, stringsList_eq_nil hplain rest h.2,
      List.append_nil]

end

/-- The text of a node is that of its marks, or nothing where the node holds other text. -/
theorem textContent_eq {n : Node} (h : n.Everywhere Node.IsShown) :
    n.textContent = (marksOf n).filterMap Mark.char? ∨ n.textContent = [] := by
  cases n with
  | element name attributes children =>
    rw [Node.textContent]
    rcases hplain : isHeldBy name .plain with _ | _
    · exact Or.inr (stringsList_eq_nil hplain children h.2)
    · refine Or.inl ?_
      rw [filterMap_marksOf hplain _ h]
      rfl
  | string kind value =>
    left
    rw [Node.textContent, marksOf_string]
    split
    · exact (filterMap_char? value).symm
    · rfl

/-- A node whose text has a space at a side has the space there as a mark. -/
theorem edge?_marksOf_of_textContent {side : Side} {n : Node} (h : n.Everywhere Node.IsShown)
    (hchain : (marksOf n).IsChain Apart) (hspace : side.edge? n.textContent = some ' ') :
    side.edge? (marksOf n) = some (.char ' ') := by
  rcases textContent_eq h with heq | heq
  · exact edge?_of_edge?_chars hchain (heq ▸ hspace)
  · rw [heq, Side.edge?_nil] at hspace
    cases hspace

theorem inlineText_eq {sibling : Option Node} (side : Side)
    (h : side.edge? (inlineText sibling) = some ' ') :
    ∃ n, sibling = some n ∧ side.edge? n.textContent = some ' ' := by
  rcases sibling with _ | n
  · rw [inlineText, Side.edge?_nil] at h
    cases h
  · refine ⟨n, rfl, ?_⟩
    rw [inlineText] at h
    split at h
    · exact h
    · rw [Side.edge?_nil] at h
      cases h

theorem marks_infix_marksOf {name : String} {attributes : Attributes} {children : List Node}
    (h : isPreTag (lowerName name) = false) :
    marks children <:+: marksOf (.element name attributes children) := by
  rw [marksOf_element, h]
  simp only [Bool.false_eq_true, if_false]
  split
  · exact ⟨[.lineEnd], [.lineEnd], by simp⟩
  · exact List.infix_refl _

/-- Siblings everywhere below a place have spaces that stand apart. -/
theorem isChain_siblings {p d : Place} (h : (marks p.nodes).IsChain Apart)
    (hp : Everywhere Node.IsShown p.nodes) (hd : d ∈ p.descendants) :
    ∃ here before after outside, d = .node here before after outside ∧
      (marks (before.reverse ++ here :: after)).IsChain Apart ∧
      Everywhere Node.IsShown (before.reverse ++ here :: after) := by
  induction p using Place.inductionOnChildren with
  | step p ih =>
    obtain ⟨c, hc, hd⟩ := Place.mem_descendants_iff.mp hd
    obtain ⟨n, earlier, later, rfl, hnodes⟩ := Place.mem_spread hc
    have hsame : (earlier.reverse ++ []).reverse ++ n :: later = p.nodes := by
      rw [hnodes]
      simp
    rcases hd with rfl | hd
    · exact ⟨n, _, later, _, rfl, hsame ▸ h, hsame ▸ hp⟩
    · cases n with
      | string => cases hd
      | element name attributes children =>
        have hn : (Node.element name attributes children).Everywhere Node.IsShown :=
          everywhere_iff_forall_mem.mp hp _ (by rw [hnodes]; simp)
        have hinfix : marksOf (.element name attributes children) <:+: marks p.nodes :=
          ⟨marks earlier, marks later, by rw [hnodes]; simp⟩
        have hinside := (marks_infix_marksOf hn.here.1.isPreTag_eq_false).trans hinfix
        have hchain : (marks children).IsChain Apart := List.IsChain.infix h hinside
        exact ih _ hc hchain hn.children hd

/-- **Beside a sibling's space there is ink.** -/
theorem inkMark_of_isFlankedBySpace {here : Node} {before after : List Node}
    {outside : Surroundings} {side : Side}
    (hchain : (marks (before.reverse ++ here :: after)).IsChain Apart)
    (hshown : Everywhere Node.IsShown (before.reverse ++ here :: after))
    (h : (Place.node here before after outside).isFlankedBySpace side = true) :
    side.InkMark (marksOf here) := by
  cases side with
  | left =>
    obtain ⟨n, hn, hspace⟩ := inlineText_eq .right (beq_iff_eq.mp h)
    obtain ⟨rest, rfl⟩ : ∃ rest, before = n :: rest := by
      rcases before with _ | ⟨m, rest⟩
      · cases hn
      · cases hn
        exact ⟨rest, rfl⟩
    have hboth : (marksOf n ++ marksOf here).IsChain Apart :=
      List.IsChain.infix hchain ⟨marks rest.reverse, marks after, by simp⟩
    have hnShown := everywhere_iff_forall_mem.mp hshown n (by simp)
    rw [List.isChain_append] at hboth
    have hedge := edge?_marksOf_of_textContent hnShown hboth.1 hspace
    exact fun m hm => (hboth.2.2 _ hedge m hm).1 rfl
  | right =>
    obtain ⟨n, hn, hspace⟩ := inlineText_eq .left (beq_iff_eq.mp h)
    obtain ⟨rest, rfl⟩ : ∃ rest, after = n :: rest := by
      rcases after with _ | ⟨m, rest⟩
      · cases hn
      · cases hn
        exact ⟨rest, rfl⟩
    have hboth : (marksOf here ++ marksOf n).IsChain Apart :=
      List.IsChain.infix hchain ⟨marks before.reverse, marks rest, by simp⟩
    have hnShown := everywhere_iff_forall_mem.mp hshown n (by simp)
    rw [List.isChain_append] at hboth
    have hedge := edge?_marksOf_of_textContent hnShown hboth.2.1 hspace
    exact fun m hm => (hboth.2.2 m hm _ hedge).2 rfl

/-! ## Contents passed to rules -/

/-- **Markers hug their text.** In an ordinary document, after both passes over white space, the
content that a fold with the built-in rules passes to the rule for an element that starts no new
line neither begins nor ends with spacing. -/
theorem isHugged_flank_of_turn {document : List Node}
    (hdocument : Everywhere Node.IsOrdinary (Place.root document).nodes) {gfm : Bool}
    {policy : Policy} {s : Progress} {e : Place} {content : Text}
    (hturn : (Context.builtIn gfm policy).Turn (foldedRoot document) s e content)
    (hblock : e.isBlock = false) : (e.flank content).content.IsHugged := by
  have hshown := isShown_foldedRoot hdocument
  have hchain := isChain_marks_foldedRoot (voidEndsLine_of_isOrdinary hdocument)
    (onlySpacing_marks hdocument)
  obtain ⟨hbelow, he⟩ := Place.mem_elementsBelow.mp hturn.mem_elementsBelow
  obtain ⟨here, before, after, outside, rfl, hsiblings, hsiblingsShown⟩ :=
    isChain_siblings hchain hshown hbelow
  have hhere := everywhere_iff_forall_mem.mp hsiblingsShown here (by simp)
  refine isHugged_flank hblock fun side hspace => ?_
  have hink := inkMark_of_isFlankedBySpace hsiblings hsiblingsShown hspace
  cases here with
  | string => cases he
  | element name attributes children =>
    rw [marksOf_element, hhere.here.1.isPreTag_eq_false] at hink
    simp only [Bool.false_eq_true, if_false] at hink
    split at hink
    · exact (Faithful.of_lineEnds (marks children) content hink).1
    · have hordinary : Everywhere Node.IsOrdinary children := hhere.children.imp fun _ h => h.1
      exact (faithful_contentBelow
        (p := .node (.element name attributes children) before after outside) hordinary
        hturn.contentBelow_eq side hink).1

/-- Emphasis with spaces on both sides of its ends, and a break. -/
def spacedEmphasis : List Node := [
  .element "p" [] [
    .string .plain ['a', ' '],
    .element "em" [] [.string .plain [' ', 'b', ' ']],
    .string .plain [' ', 'c'],
    .element "br" [] []]]

theorem isHugged_flank_of_turn_spacedEmphasis :
    Everywhere Node.IsOrdinary (Place.root spacedEmphasis).nodes ∧
    ∃ e content, (Context.builtIn true .passthrough).Turn (foldedRoot spacedEmphasis) {} e content ∧
      e.tagName = "em" ∧ e.isBlock = false ∧ (e.flank content).content.IsHugged := by
  have hordinary : Everywhere Node.IsOrdinary (Place.root spacedEmphasis).nodes := by decide
  have hnodes : (foldedRoot spacedEmphasis).nodes = [.element "p" [] [
      .string .plain ['a', ' '], .element "em" [] [.string .plain ['b', ' ']],
      .string .plain ['c'], .element "br" [] []]] := by
    rw [nodes_foldedRoot, collapseNodes, settledTexts_eq (voidEndsLine_of_isOrdinary hordinary)]
    rfl
  have hsome : (foldedRoot spacedEmphasis).elementsBelow.any (fun e => e.tagName == "em") = true := by
    rw [Place.elementsBelow, Place.descendants, inside_foldedRoot, hnodes]
    decide
  obtain ⟨e, he, htag⟩ := List.any_eq_true.mp hsome
  rw [beq_iff_eq] at htag
  have hblock : e.isBlock = false := by
    rw [Place.isBlock, htag]
    decide
  have hconv : Everywhere Node.IsConvertible (foldedRoot spacedEmphasis).nodes := by
    rw [hnodes]
    decide
  obtain ⟨text, htext⟩ := exists_contentBelow hconv true
  obtain ⟨content, hturn⟩ := Context.exists_turn htext he {}
  exact ⟨hordinary, e, content, hturn, htag, hblock,
    isHugged_flank_of_turn hordinary hturn hblock⟩

end HtmlMarkdown
