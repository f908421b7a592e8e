import Mathlib
import HtmlMarkdown.Proofs.Block
import HtmlMarkdown.Proofs.Inline
import HtmlMarkdown.Proofs.Woven

/-!
# Phrasing: text, line breaks and nested elements within a line

What the built-in rules make of phrasing is its ink, with characters that mark elements added.

* `Node.isLink`, `Node.isMarked`: elements that a rule makes something of;
* `Node.IsPhrasing`, `Node.Adds`: the nodes, and the characters that may be added to their ink;
* `Node.IsSilent`: nodes without ink and without links;
* `IsFrame`, `BuiltIn.exists_frame`: what a rule puts around a content;
* `convertElement_phrasing`: what becomes of an element that is no line break;
* `convertElement_lineBreak`: and of one that is;
* `Renders`, **`renders_markdownOfNodes`**: the ink of the Markdown.
-/

namespace HtmlMarkdown

/-! ## Elements that are marked -/

/-- A link: an `a` with a target. -/
def Node.isLink (n : Node) : Bool := n.tagName == "a" && (n.filledAttribute? "href").isSome

theorem Node.isLink_eq_false {n : Node} (h : n.tagName ≠ "a") : n.isLink = false := by
  rw [isLink, beq_eq_false_iff_ne.mpr h, Bool.false_and]

theorem Place.isLink_node {n : Node} {before after : List Node} {outside : Surroundings} :
    (Place.node n before after outside).isLink = n.isLink := rfl

/-- The tags of elements within a line that a rule of plain Markdown marks whatever they hold. -/
def markedTags : List String := ["em", "i", "strong", "b", "code"]

/-- The tags of elements that GitHub-flavoured Markdown strikes through. -/
def struckTags : List String := ["del", "s", "strike"]

/-- A rule marks the element. -/
def Node.isMarked (gfm : Bool) (n : Node) : Bool :=
  markedTags.contains n.tagName || (gfm && struckTags.contains n.tagName) || n.isLink

/-- The ink that is written behind a link. -/
def Node.linkInk (n : Node) : Text :=
  (Markdown.linkTarget (.node n [] [] .document) ++
    Markdown.titlePart (.node n [] [] .document)).ink

/-- The characters that mark elements within a line. -/
def phrasingMarks : Text := ['_', '*', Char.ofNat 0x60, '~', '[', ']', '(', ')']

/-! ## Phrasing -/

/-- A string, a line break, or an element within a line that can hold content. -/
def Node.IsPhrasing : Node → Prop
  | .element name _ children => isBlockTag (lowerName name) = false ∧
      (isVoidTag (lowerName name) = true → lowerName name = "br" ∧ children = [])
  | .string .. => True

instance : DecidablePred Node.IsPhrasing
  | .element name _ [] => inferInstanceAs (Decidable (isBlockTag (lowerName name) = false ∧
      (isVoidTag (lowerName name) = true → lowerName name = "br" ∧ [] = [])))
  | .element name attributes (n :: children) => decidable_of_iff
      (isBlockTag (lowerName name) = false ∧ isVoidTag (lowerName name) = false) (by
        simp [Node.IsPhrasing])
  | .string .. => inferInstanceAs (Decidable True)

/-- An element of phrasing that can hold content ends no line. -/
theorem Node.IsPhrasing.endsLine_eq_false {n : Node} (h : n.IsPhrasing)
    (hvoid : n.isVoid = false) : endsLine n.tagName = false := by
  cases n with
  | element name attributes children =>
    rw [endsLine, Bool.or_eq_false_iff, beq_eq_false_iff_ne]
    refine ⟨h.1, fun htag => ?_⟩
    rw [Node.isVoid, htag] at hvoid
    exact absurd hvoid (by decide)
  | string => exact (by decide : endsLine "" = false)

/-- All that is added to the ink of the node for being a link is allowed. -/
def Node.Adds (extra : Char → Prop) (n : Node) : Prop :=
  n.isLink = true → ∀ c ∈ n.linkInk, extra c

instance {extra : Char → Prop} [DecidablePred extra] : DecidablePred (Node.Adds extra) := fun n =>
  -- the instance for lists: the one that is found by itself goes through all characters
  have := List.decidableBAll extra n.linkInk
  inferInstanceAs (Decidable (n.isLink = true → ∀ c ∈ n.linkInk, extra c))

/-- A node that shows nothing by itself: no link, and no text with ink. -/
def Node.IsSilent : Node → Prop
  | n@(.element ..) => n.isLink = false
  | n@(.string ..) => n.text.ink = []

instance : DecidablePred Node.IsSilent
  | .element name attributes children =>
    inferInstanceAs (Decidable ((Node.element name attributes children).isLink = false))
  | .string kind value => inferInstanceAs (Decidable ((Node.string kind value).text.ink = []))

/-! ## Frames -/

/-- Ink that a rule puts before and after the content of an element. -/
structure IsFrame (extra : Char → Prop) (isLink : Bool) (left right : Text) : Prop where
  left_extra : ∀ c ∈ left, extra c
  right_extra : ∀ c ∈ right, extra c
  left_ne_nil : isLink = true → left ≠ []
  right_ne_nil : isLink = true → right ≠ []

theorem IsFrame.empty {extra : Char → Prop} {isLink : Bool} (h : isLink = false) :
    IsFrame extra isLink [] [] where
  left_extra := by simp
  right_extra := by simp
  left_ne_nil hlink := absurd hlink (by simp [h])
  right_ne_nil hlink := absurd hlink (by simp [h])

/-- What a built-in rule makes of an `a`: only links have one. -/
theorem BuiltIn.eq_link_of_tagName {p : Place} {content : Text} {result : Except Error Text}
    (h : BuiltIn p content result) (htag : p.tagName = "a") :
    p.isLink = true ∧ result = .ok (Markdown.link content p) := by
  have hblock : p.isBlock = false := by
    rw [Place.isBlock, htag]
    decide
  cases h with
  | link hlink => exact ⟨hlink, rfl⟩
  | _ =>
    simp_all [Markdown.headingTags, Place.isInlineCode, Place.isCodeBlockBody, Place.isCodeBlock,
      Place.isHighlightedPre]

section Frames

variable {extra : Char → Prop} (hmarks : ∀ c ∈ phrasingMarks, extra c) {gfm : Bool}
  {n : Node} {before after : List Node} {outside : Surroundings} {content out : Text}

include hmarks

theorem isFrame_of_subset {isLink : Bool} {left right : Text} (h : isLink = false)
    (hleft : left ⊆ phrasingMarks) (hright : right ⊆ phrasingMarks) :
    IsFrame extra isLink left right where
  left_extra c hc := hmarks c (hleft hc)
  right_extra c hc := hmarks c (hright hc)
  left_ne_nil hlink := absurd hlink (by simp [h])
  right_ne_nil hlink := absurd hlink (by simp [h])

/-- The frame of a link has its target and title at the right. -/
theorem isFrame_link {isLink : Bool} (hbehind : ∀ c ∈ n.linkInk, extra c) :
    IsFrame extra isLink (Text.ink ['[']) (Text.ink [']', '('] ++ n.linkInk ++ Text.ink [')']) where
  left_extra c hc := hmarks c ((by decide : Text.ink ['['] ⊆ phrasingMarks) hc)
  right_extra c hc := by
    rw [List.mem_append, List.mem_append] at hc
    rcases hc with (hc | hc) | hc
    · exact hmarks c ((by decide : Text.ink [']', '('] ⊆ phrasingMarks) hc)
    · exact hbehind c hc
    · exact hmarks c ((by decide : Text.ink [')'] ⊆ phrasingMarks) hc)
  left_ne_nil _ := by decide
  right_ne_nil _ := List.append_ne_nil_of_right_ne_nil _ (by decide)

/-- **A built-in rule for an element within a line frames its content.** -/
theorem BuiltIn.exists_frame (hadds : n.Adds extra)
    (h : BuiltIn (.node n before after outside) content (.ok out))
    (hline : endsLine n.tagName = false) (hvoid : n.isVoid = false) :
    ∃ left right, out = left ++ content ++ right ∧ IsFrame extra n.isLink left.ink right.ink := by
  by_cases htag : n.tagName = "a"
  · obtain ⟨hlink, heq⟩ := h.eq_link_of_tagName htag
    cases heq
    refine ⟨['['], [']', '('] ++ (Markdown.linkTarget (.node n [] [] .document) ++
      Markdown.titlePart (.node n [] [] .document)) ++ [')'], ?_, ?_⟩
    · simp [Markdown.link, Markdown.linkTarget, Markdown.titlePart, Place.attribute?,
        Place.filledAttribute?]
    · rw [Text.ink_append, Text.ink_append, ← Node.linkInk]
      exact isFrame_link hmarks (hadds hlink)
  · have hlink : n.isLink = false := Node.isLink_eq_false htag
    have hframe : ∀ left right : Text, left.ink ⊆ phrasingMarks → right.ink ⊆ phrasingMarks →
        IsFrame extra n.isLink left.ink right.ink := fun _ _ => isFrame_of_subset hmarks hlink
    rcases h.eq_of_not_endsLine rfl hline hvoid with rfl | rfl | rfl | rfl | rfl | ⟨hlink', -⟩
    · exact ⟨[], [], by simp, hframe [] [] (by decide) (by decide)⟩
    · exact ⟨['_'], ['_'], rfl, hframe _ _ (by decide) (by decide)⟩
    · exact ⟨['*', '*'], ['*', '*'], rfl, hframe _ _ (by decide) (by decide)⟩
    · exact ⟨[Char.ofNat 0x60], [Char.ofNat 0x60], rfl, hframe _ _ (by decide) (by decide)⟩
    · exact ⟨['~', '~'], ['~', '~'], rfl, hframe _ _ (by decide) (by decide)⟩
    · rw [Place.isLink_node, hlink] at hlink'
      cases hlink'

end Frames

/-! ## One element -/

/-- The rule for links is found for a link. -/
theorem findRule_of_isLink {p : Place} (h : p.isLink = true) (gfm : Bool) :
    ∃ r, findRule p (builtInRules gfm) = .ok (some r) := by
  have htag : p.tagName = "a" := by
    rw [Place.isLink, Bool.and_eq_true, beq_iff_eq] at h
    exact h.1
  have hfirst := findRule_of_isFor (p := p) (i := 7) isFor_markdownRules rfl (by rw [htag]; decide)
    (congrArg Except.ok h) rfl
  exact ⟨_, (findRule_builtInRules (by rw [htag]; decide) gfm).trans hfirst⟩

/-- A rule is found only for elements that are marked, among those within a line. -/
theorem isMarked_of_findRule {gfm : Bool} {n : Node} {before after : List Node}
    {outside : Surroundings} {r : Rule} (he : n.isElement = true)
    (hline : endsLine n.tagName = false) (hvoid : n.isVoid = false)
    (h : findRule (.node n before after outside) (builtInRules gfm) = .ok (some r)) :
    n.isMarked gfm = true := by
  let p : Place := .node n before after outside
  obtain ⟨hmem, hholds⟩ := mem_of_findRule h
  have hplain : ∀ tag ∈ markdownTags.flatten, endsLine tag = false → isVoidTag tag = false →
      tag ∈ markedTags ∨ tag = "a" := by decide
  have hgfm : ∀ tag ∈ gfmTags.flatten, endsLine tag = false → isVoidTag tag = false →
      tag ∈ struckTags := by decide
  have hlink : n.tagName = "a" → n.isLink = true := fun htag =>
    ((builtIn_of_holds (p := p) he hmem hholds []).eq_link_of_tagName htag).1
  rw [Node.isMarked, Bool.or_eq_true, Bool.or_eq_true, Bool.and_eq_true, List.contains_iff_mem,
    List.contains_iff_mem]
  rcases List.mem_append.mp hmem with hmem | hmem
  · cases gfm
    · cases hmem
    · by_cases htag : n.tagName ∈ gfmTags.flatten
      · exact Or.inl (Or.inr ⟨rfl, hgfm _ htag hline hvoid⟩)
      · rw [not_holds_of_isFor (p := p) isFor_gfmRules htag r hmem] at hholds
        cases hholds
  · by_cases htag : n.tagName ∈ markdownTags.flatten
    · rcases hplain _ htag hline hvoid with htag | htag
      · exact Or.inl (Or.inl htag)
      · exact Or.inr (hlink htag)
    · rw [not_holds_of_isFor (p := p) isFor_markdownRules htag r hmem] at hholds
      cases hholds

/-- The spaces that are moved outside have no ink. -/
theorem ink_spaces_flank (p : Place) (content : Text) :
    (p.flank content).leading.ink = [] ∧ (p.flank content).trailing.ink = [] := by
  have hspace : Text.ink [' '] = [] := by decide
  have hleft : (p.flankLeft content).leading.ink = [] ∧ (p.flankLeft content).trailing.ink = [] := by
    rcases p.flankLeft_eq content with h | h <;> rw [h]
    · exact ⟨rfl, rfl⟩
    · exact ⟨hspace, rfl⟩
  rw [Place.flank]
  split
  · exact ⟨rfl, rfl⟩
  · rcases p.flankRight_eq (p.flankLeft content) with h | h <;> rw [h]
    · exact hleft
    · exact ⟨hleft.1, hspace⟩

/-- Only a blank element that is no `a` is left out. -/
theorem tagName_ne_of_isElided {p : Place} {content : Text} (h : p.isElided content = true) :
    p.tagName ≠ "a" ∧ content.ink = [] := by
  rw [Place.isElided, Bool.and_eq_true, Bool.and_eq_true] at h
  refine ⟨fun htag => ?_, Text.ink_eq_nil_iff.mpr h.2⟩
  rw [htag] at h
  exact absurd h.1.2 (by decide)

/-- **A line break** is a line feed, after two spaces in plain Markdown. -/
theorem convertElement_lineBreak {p : Place} (h : p.tagName = "br") (gfm : Bool) (policy : Policy) :
    (Context.builtIn gfm policy).convertElement p [] =
      .ok (if gfm then ['\n'] else [' ', ' ', '\n']) := by
  have hElided : p.isElided [] = false := Place.isElided_eq_false [] h (by decide)
  have hflank : p.flank [] = { content := [] } := by
    rw [Place.flank]
    split <;> rfl
  cases gfm
  · have hrule := findRule_of_isFor (p := p) (i := 1) isFor_markdownRules rfl
      (by rw [h]; decide) (Filter.holds_ofTag_of_eq h) rfl
    rw [Context.convertElement_of_rule hElided hrule, hflank]
    rfl
  · have hrule := findRule_gfm (p := p) (i := 0) rfl (by simp) (Filter.holds_ofTag_of_eq h) rfl
    rw [Context.convertElement_of_rule hElided hrule, hflank]
    rfl

section Element

variable {extra : Char → Prop} (hmarks : ∀ c ∈ phrasingMarks, extra c) {gfm : Bool}
  {policy : Policy} {n : Node} {before after : List Node} {outside : Surroundings}
  {content out : Text}

include hmarks

/-- **What becomes of an element within a line**: it is left out; or it is kept as its content, if it
is no link; or it is marked, with its content in a frame and the spaces around it outside. -/
theorem convertElement_phrasing (hadds : n.Adds extra) (he : n.isElement = true)
    (hline : endsLine n.tagName = false) (hvoid : n.isVoid = false)
    (h : (Context.builtIn gfm policy).convertElement (.node n before after outside) content =
      .ok out) :
    let p := Place.node n before after outside
    (p.isElided content = true ∧ out = []) ∨ (n.isLink = false ∧ out = content) ∨
      n.isMarked gfm = true ∧ ∃ left right, IsFrame extra n.isLink left.ink right.ink ∧
        out = (p.flank content).leading ++ (left ++ (p.flank content).content ++ right) ++
          (p.flank content).trailing := by
  rcases Context.convertElement_eq_ok h with h | ⟨_, hnone, h⟩ | ⟨_, r, middle, hr, hmiddle, h⟩
  · exact Or.inl h
  · refine Or.inr (Or.inl ⟨Bool.eq_false_iff.mpr fun hlink => ?_, h⟩)
    obtain ⟨r, hr⟩ := findRule_of_isLink (p := .node n before after outside) hlink gfm
    cases hr.symm.trans hnone
  · obtain ⟨hmem, hholds⟩ := mem_of_findRule hr
    have hrule := builtIn_of_holds (p := .node n before after outside) he hmem hholds
      ((Place.node n before after outside).flank content).content
    rw [hmiddle] at hrule
    obtain ⟨left, right, rfl, hframe⟩ := hrule.exists_frame hmarks hadds hline hvoid
    exact Or.inr (Or.inr ⟨isMarked_of_findRule he hline hvoid hr, left, right, hframe, h⟩)

/-- **The ink of what becomes of an element** within a line is that of its content in a frame. -/
theorem exists_ink_convertElement (hadds : n.Adds extra) (he : n.isElement = true)
    (hline : endsLine n.tagName = false) (hvoid : n.isVoid = false)
    (h : (Context.builtIn gfm policy).convertElement (.node n before after outside) content =
      .ok out) :
    ∃ left right, IsFrame extra n.isLink left right ∧
      out.ink = left ++ content.ink ++ right := by
  rcases convertElement_phrasing hmarks hadds he hline hvoid h with
    ⟨hElided, rfl⟩ | ⟨hlink, rfl⟩ | ⟨_, left, right, hframe, rfl⟩
  · obtain ⟨htag, hblank⟩ := tagName_ne_of_isElided hElided
    have hlink : n.isLink = false := Node.isLink_eq_false htag
    exact ⟨[], [], .empty hlink, by rw [hblank]; rfl⟩
  · exact ⟨[], [], .empty hlink, by simp⟩
  · refine ⟨left.ink, right.ink, hframe, ?_⟩
    simp only [Text.ink_append, ink_flank, ink_spaces_flank, List.nil_append, List.append_nil]

/-- **A line feed inside an element within a line** stays, with the frame of the element before and
after it, if the element is not left out and has ink on both sides of the line feed whenever a rule
marks it. -/
theorem exists_break_convertElement {s t : Text} (hadds : n.Adds extra) (he : n.isElement = true)
    (hline : endsLine n.tagName = false) (hvoid : n.isVoid = false)
    (hbreak : content.HasBreakBetween s t)
    (hkept : n.tagName = "a" ∨ s ≠ [] ∨ t ≠ []) (hmarked : n.isMarked gfm = true → s ≠ [] ∧ t ≠ [])
    (h : (Context.builtIn gfm policy).convertElement (.node n before after outside) content =
      .ok out) :
    ∃ left right, IsFrame extra n.isLink left right ∧
      out.HasBreakBetween (left ++ s) (t ++ right) := by
  rcases convertElement_phrasing hmarks hadds he hline hvoid h with
    ⟨hElided, rfl⟩ | ⟨hlink, rfl⟩ | ⟨hmark, left, right, hframe, rfl⟩
  · obtain ⟨htag, hblank⟩ := tagName_ne_of_isElided hElided
    rw [hbreak.ink_eq, List.append_eq_nil_iff] at hblank
    rcases hkept with hkept | hkept | hkept
    · exact absurd hkept htag
    · exact absurd hblank.1 hkept
    · exact absurd hblank.2 hkept
  · exact ⟨[], [], .empty hlink, by rwa [List.nil_append, List.append_nil]⟩
  · obtain ⟨hs, ht⟩ := hmarked hmark
    obtain ⟨hleading, htrailing⟩ := ink_spaces_flank (.node n before after outside) content
    have hframed := (((hbreak.flank (.node n before after outside) hs ht).append_left
      left).append_right right)
    have hspaced := (hframed.append_left
      ((Place.node n before after outside).flank content).leading).append_right
      ((Place.node n before after outside).flank content).trailing
    rw [hleading, htrailing, List.nil_append, List.append_nil] at hspaced
    exact ⟨left.ink, right.ink, hframe, hspaced⟩

end Element

/-! ## The ink of Markdown -/

/-- The ink `s` is that of the nodes, with characters added; and if they show something, so does it.
-/
structure Renders (extra : Char → Prop) (ns : List Node) (s : Text) : Prop where
  woven : Woven extra (textOf ns).ink s
  silent_of_eq_nil : s = [] → Everywhere Node.IsSilent ns

namespace Renders

variable {extra : Char → Prop} {ns ns' : List Node} {s s' : Text}

theorem nil : Renders extra [] [] := ⟨.nil, fun _ => trivial⟩

theorem append (h : Renders extra ns s) (h' : Renders extra ns' s') :
    Renders extra (ns ++ ns') (s ++ s') where
  woven := by
    rw [textOf_append, Text.ink_append]
    exact h.woven.append h'.woven
  silent_of_eq_nil hnil := by
    rw [List.append_eq_nil_iff] at hnil
    exact everywhere_append.mpr ⟨h.silent_of_eq_nil hnil.1, h'.silent_of_eq_nil hnil.2⟩

theorem text (kind : StringKind) (value : Text) :
    Renders extra [.string kind value] (Node.string kind value).text.ink where
  woven := by
    rw [textOf_cons, textOf_nil, List.append_nil]
    exact .refl _
  silent_of_eq_nil hnil := ⟨hnil, trivial⟩

/-- Ink around the content of an element, some of it if the element is a link. -/
theorem element (name : String) (attributes : Attributes) {children : List Node} (left right : Text)
    (h : Renders extra children s) (hleft : ∀ c ∈ left, extra c) (hright : ∀ c ∈ right, extra c)
    (hlink : (Node.element name attributes children).isLink = true → left ≠ [] ∨ right ≠ []) :
    Renders extra [.element name attributes children] (left ++ s ++ right) where
  woven := by
    rw [textOf_cons, textOf_nil, List.append_nil, Node.text_element]
    have hframed := ((Woven.of_extra hleft).append h.woven).append (.of_extra hright)
    rwa [List.nil_append, List.append_nil] at hframed
  silent_of_eq_nil hnil := by
    rw [List.append_eq_nil_iff, List.append_eq_nil_iff] at hnil
    refine ⟨⟨Bool.eq_false_iff.mpr fun h => ?_, h.silent_of_eq_nil hnil.1.2⟩, trivial⟩
    rcases hlink h with hne | hne
    · exact hne hnil.1.1
    · exact hne hnil.2

theorem lineBreak {name : String} (h : lowerName name = "br") (attributes : Attributes) :
    Renders extra [.element name attributes []] [] where
  woven := .nil
  silent_of_eq_nil _ := by
    refine ⟨⟨Node.isLink_eq_false ?_, trivial⟩, trivial⟩
    rw [Node.tagName, h]
    decide

end Renders

section Recursion

variable {extra : Char → Prop} {gfm : Bool} {policy : Policy}

mutual

theorem renders_markdownOfNode (hmarks : ∀ c ∈ phrasingMarks, extra c) (outside : Surroundings)
    (before after : List Node) :
    ∀ {n : Node} {out : Text}, n.Everywhere (fun m => m.IsPhrasing ∧ m.Adds extra) →
      (Context.builtIn gfm policy).markdownOfNode outside before after n = .ok out →
      Renders extra [n] out.ink
  | .string kind value, out, _, hout => by
    cases hout
    exact .text kind value
  | .element name attributes children, out, hn, hout => by
    obtain ⟨content, hcontent, hout⟩ := (Context.markdownOf_eq_ok_iff _
      (p := .node (.element name attributes children) before after outside) rfl).mp hout
    have hinside := renders_markdownOfNodes hmarks _ [] hn.2 hcontent
    rcases hvoid : isVoidTag (lowerName name) with _ | _
    · obtain ⟨left, right, hframe, hink⟩ := exists_ink_convertElement hmarks hn.1.2 rfl
        (Node.IsPhrasing.endsLine_eq_false hn.1.1 hvoid) hvoid hout
      rw [hink]
      exact hinside.element name attributes left right hframe.left_extra hframe.right_extra
        fun hlink => Or.inl (hframe.left_ne_nil hlink)
    · obtain ⟨htag, rfl⟩ := hn.1.1.2 hvoid
      cases hcontent
      have hline := convertElement_lineBreak
        (p := .node (.element name attributes []) before after outside) htag gfm policy
      rw [hline, Except.ok.injEq] at hout
      have hink : out.ink = [] := by
        rw [← hout]
        cases gfm <;> decide
      rw [hink]
      exact .lineBreak htag attributes

/-- **The ink of the Markdown of phrasing** is that of its text, with characters added. -/
theorem renders_markdownOfNodes (hmarks : ∀ c ∈ phrasingMarks, extra c) (outside : Surroundings)
    (before : List Node) :
    ∀ {ns : List Node} {out : Text}, Everywhere (fun m => m.IsPhrasing ∧ m.Adds extra) ns →
      (Context.builtIn gfm policy).markdownOfNodes outside before ns = .ok out →
      Renders extra ns out.ink
  | [], out, _, hout => by
    cases hout
    exact .nil
  | n :: rest, out, hns, hout => by
    obtain ⟨here, others, hhere, hothers, rfl⟩ := Context.markdownOfNodes_cons_eq_ok_iff.mp hout
    rw [Text.ink_append]
    exact (renders_markdownOfNode hmarks outside before rest hns.1 hhere).append
      (renders_markdownOfNodes hmarks outside (n :: before) hns.2 hothers)

end

end Recursion

end HtmlMarkdown
