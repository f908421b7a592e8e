import Mathlib
import HtmlMarkdown.Proofs.Faithful
import HtmlMarkdown.Proofs.Tight

/-!
# Running text

Text with elements within a line, and what a pass over white space makes of it.

* `textOf`, `Text.unmarked`: the text of nodes; a text without the characters that mark elements;
* `Node.IsRunning`: the nodes of running text; `isRunning_of_thinned`;
* `marks_eq_textOf`: their marks are the characters of their text;
* **`textOf_rebuildNodes`**: removing blank nodes keeps their text.
-/

namespace HtmlMarkdown

/-! ## Text -/

/-- The text of a node. -/
def Node.text (n : Node) : Text := n.strings StringKind.isText

/-- The text of nodes, one after another. -/
def textOf (ns : List Node) : Text := Node.stringsList StringKind.isText ns

@[simp] theorem textOf_nil : textOf [] = [] := rfl

@[simp] theorem textOf_cons (n : Node) (rest : List Node) :
    textOf (n :: rest) = n.text ++ textOf rest := rfl

@[simp] theorem textOf_append (a b : List Node) : textOf (a ++ b) = textOf a ++ textOf b := by
  induction a with
  | nil => rfl
  | cons n a ih => rw [List.cons_append, textOf_cons, textOf_cons, ih, List.append_assoc]

theorem Node.text_element (name : String) (attributes : Attributes) (children : List Node) :
    (Node.element name attributes children).text = textOf children := rfl

theorem Node.text_string (kind : StringKind) (value : Text) :
    (Node.string kind value).text = if kind.isText then value else [] := rfl

theorem text_infix_textOf {n : Node} {earlier later : List Node} :
    n.text <:+: textOf (earlier ++ n :: later) :=
  ⟨textOf earlier, textOf later, by simp⟩

/-- **Thinning keeps the ink of a text.** -/
theorem ink_textOf_of_thinned {ns ns' : List Node} (h : Thinned ns ns') :
    (textOf ns').ink = (textOf ns).ink := by
  induction h with
  | nil => rfl
  | element name attributes _ _ ihc ihr =>
    rw [textOf_cons, textOf_cons, Text.ink_append, Text.ink_append, ihr, Node.text_element,
      Node.text_element, ihc]
  | keep kind hv _ ih =>
    rw [textOf_cons, textOf_cons, Text.ink_append, Text.ink_append, ih, Node.text_string,
      Node.text_string]
    split
    · rw [hv.1]
    · rfl
  | drop kind value hblank _ ih =>
    have hnone : (Node.string kind value).text.ink = [] := by
      rw [Node.text_string]
      split
      · next hk => exact Text.ink_eq_nil_iff.mpr (hblank hk)
      · rfl
    rw [textOf_cons, Text.ink_append, hnone, ih, List.nil_append]

/-! ## Running text -/

/-- The tags of emphasis, code and other elements within a line that have no content but text. -/
def inlineTags : List String := ["em", "i", "strong", "b", "code", "del", "s", "strike", "span"]

/-- A character that marks such an element in Markdown. -/
def isMarker (c : Char) : Bool := c == '_' || c == '*' || c == Char.ofNat 0x60 || c == '~'

/-- A text without markers. -/
def Text.unmarked (t : Text) : Text := t.filter fun c => !isMarker c

/-- An element, or text that is not blank. -/
def Node.isFirm : Node → Bool
  | .element .. => true
  | .string kind value => kind.isText && !value.isBlank

/-- A node of running text: an element with some ink in it, which no blank text opens or closes, or
plain text with no markers in it and no white space but spacing. -/
def Node.IsRunning : Node → Prop
  | .element name _ children => lowerName name ∈ inlineTags ∧ (textOf children).isBlank = false ∧
      children.head?.all Node.isFirm = true ∧ children.getLast?.all Node.isFirm = true
  | .string kind value => kind = .plain ∧ value.hasOnlySpacing = true ∧ value.any isMarker = false

instance : DecidablePred Node.IsRunning
  | .element name _ children => inferInstanceAs (Decidable (lowerName name ∈ inlineTags ∧
      (textOf children).isBlank = false ∧ children.head?.all Node.isFirm = true ∧
      children.getLast?.all Node.isFirm = true))
  | .string kind value => inferInstanceAs (Decidable
      (kind = .plain ∧ value.hasOnlySpacing = true ∧ value.any isMarker = false))

theorem not_endsLine_of_mem_inlineTags : ∀ tag ∈ inlineTags, endsLine tag = false := by decide

theorem not_isVoidTag_of_mem_inlineTags : ∀ tag ∈ inlineTags, isVoidTag tag = false := by decide

namespace Node.IsRunning

theorem isOrdinary {n : Node} (h : n.IsRunning) : n.IsOrdinary := by
  cases n with
  | element name attributes children =>
    refine ⟨?_, fun hvoid => ?_⟩
    · intro hpre
      have hline := not_endsLine_of_mem_inlineTags _ h.1
      rw [hpre] at hline
      exact absurd hline (by decide)
    · rw [not_isVoidTag_of_mem_inlineTags _ h.1] at hvoid
      cases hvoid
  | string kind value => exact fun _ => ⟨h.1, h.2.1⟩

theorem isInline {n : Node} (h : n.IsRunning) : n.isInline = true := by
  cases n with
  | element name attributes children =>
    have hline := not_endsLine_of_mem_inlineTags _ h.1
    rw [endsLine, Bool.or_eq_false_iff] at hline
    rw [Node.isInline, Node.isElement, Node.isBlock, Node.tagName, hline.1]
    rfl
  | string kind value =>
    rw [Node.isInline, Node.isText, h.1]
    rfl

theorem meetsInline {n : Node} (h : n.IsRunning) (rest : List Node) :
    HtmlMarkdown.meetsInline (n :: rest) = true := by
  have hcomment : ¬ n.isComment = true := by
    cases n with
    | element => exact Bool.false_ne_true
    | string kind value =>
      rw [Node.isComment, h.1]
      decide
  rw [HtmlMarkdown.meetsInline, List.dropWhile_cons_of_neg hcomment, List.head?_cons,
    Option.map_some, h.isInline]
  rfl

end Node.IsRunning

/-! ## Running text after a pass -/

theorem Thinned.reverse {ns ns' : List Node} (h : Thinned ns ns') :
    Thinned ns.reverse ns'.reverse := by
  induction h with
  | nil => exact .nil
  | element name attributes hc _ _ ih =>
    rw [List.reverse_cons, List.reverse_cons]
    exact ih.append (.element name attributes hc .nil)
  | keep kind hv _ ih =>
    rw [List.reverse_cons, List.reverse_cons]
    exact ih.append (.keep kind hv .nil)
  | drop kind value hblank _ ih =>
    have h := ih.append (.drop kind value hblank .nil)
    rwa [List.append_nil, ← List.reverse_cons] at h

/-- A firm node at the head of others stays there. -/
theorem isFirm_head?_of_thinned {ns ns' : List Node} (h : Thinned ns ns')
    (hfirm : ns.head?.all Node.isFirm = true) : ns'.head?.all Node.isFirm = true := by
  cases h with
  | nil => rfl
  | element => rfl
  | @keep kind value value' _ _ hv _ =>
    have hvalue : (kind.isText && !value.isBlank) = true := hfirm
    rw [Bool.and_eq_true, Bool.not_eq_true'] at hvalue
    have hvalue' : value'.isBlank = false := by
      by_contra hblank
      rw [Bool.not_eq_false] at hblank
      rw [hv.isBlank hblank] at hvalue
      exact absurd hvalue.2 (by decide)
    rw [List.head?_cons, Option.all_some, Node.isFirm, hvalue.1, hvalue']
    rfl
  | drop kind value hblank _ =>
    have hvalue : (kind.isText && !value.isBlank) = true := hfirm
    rw [Bool.and_eq_true, Bool.not_eq_true'] at hvalue
    rw [hblank hvalue.1] at hvalue
    exact absurd hvalue.2 (by decide)

theorem isFirm_getLast?_of_thinned {ns ns' : List Node} (h : Thinned ns ns')
    (hfirm : ns.getLast?.all Node.isFirm = true) : ns'.getLast?.all Node.isFirm = true := by
  rw [← List.head?_reverse] at hfirm ⊢
  exact isFirm_head?_of_thinned h.reverse hfirm

theorem not_any_isMarker_of_lighter {t v : Text} (h : t.Lighter v) (hv : v.any isMarker = false) :
    t.any isMarker = false := by
  rw [List.any_eq_false] at hv ⊢
  intro c hc
  rcases h.2 c hc with hc | rfl
  · exact hv c hc
  · decide

/-- **What is left of running text is running text.** -/
theorem isRunning_of_thinned {ns ns' : List Node} (h : Thinned ns ns')
    (hns : Everywhere Node.IsRunning ns) : Everywhere Node.IsRunning ns' := by
  refine h.everywhere ?_ ?_ hns
  · rintro name attributes children children' hthin ⟨htag, hblank, hfirst, hlast⟩
    refine ⟨htag, ?_, isFirm_head?_of_thinned hthin hfirst, isFirm_getLast?_of_thinned hthin hlast⟩
    by_contra hnone
    rw [Bool.not_eq_false, ← Text.ink_eq_nil_iff, ink_textOf_of_thinned hthin,
      Text.ink_eq_nil_iff, hblank] at hnone
    cases hnone
  · rintro kind value value' hlighter ⟨hkind, hspacing, hmarker⟩
    exact ⟨hkind, hasOnlySpacing_of_lighter hlighter hspacing,
      not_any_isMarker_of_lighter hlighter hmarker⟩

/-! ## Marks of running text -/

mutual

theorem marksOf_eq_text : ∀ {n : Node}, n.Everywhere Node.IsRunning →
    marksOf n = n.text.map Mark.char
  | .element name attributes children, h => by
    rw [marksOf_element, h.1.isOrdinary.isPreTag_eq_false,
      not_endsLine_of_mem_inlineTags _ h.1.1, Node.text_element]
    exact marks_eq_textOf h.2
  | .string kind value, h => by
    rw [marksOf_string, Node.text_string, h.1]
    rfl

/-- The marks of running text are the characters of its text. -/
theorem marks_eq_textOf : ∀ {ns : List Node}, Everywhere Node.IsRunning ns →
    marks ns = (textOf ns).map Mark.char
  | [], _ => rfl
  | n :: rest, h => by
    rw [marks_cons, textOf_cons, List.map_append, marksOf_eq_text h.1, marks_eq_textOf h.2]

end

theorem onlySpacing_textOf {ns : List Node} (h : Everywhere Node.IsRunning ns) :
    OnlySpacing ((textOf ns).map Mark.char) := by
  rw [← marks_eq_textOf h]
  exact onlySpacing_marks (h.imp fun _ hn => hn.isOrdinary)

/-! ## Blank nodes in running text -/

/-- A node that can open or close a paragraph: no blank text, unless nothing is in it. -/
def Node.mayEnd (n : Node) : Bool := n.isFirm || n.text.isEmpty

theorem all_mayEnd_of_isFirm {n? : Option Node} (h : n?.all Node.isFirm = true) :
    n?.all Node.mayEnd = true := by
  rcases n? with _ | n
  · rfl
  · have hn : n.isFirm = true := h
    rw [Option.all_some, Node.mayEnd, hn, Bool.true_or]

theorem textOf_rebuild_string {value : Text} {outside : Surroundings} {before after : List Node}
    (hspaces : ∀ c ∈ value, isBlank c = true → c = ' ')
    (hkept : (Node.string .plain value).mayEnd = true ∨
      meetsInline before = true ∧ meetsInline after = true) :
    textOf (Place.rebuildNode outside before after (.string .plain value)) = value := by
  have hself : textOf [.string .plain value] = value := by
    rw [textOf_cons, textOf_nil, List.append_nil]
    rfl
  rw [Place.rebuildNode, Place.fate]
  simp only [StringKind.isText, Bool.not_true, Bool.false_eq_true, if_false]
  rcases outside.anyTag isPreformattedTag with _ | _
  · rcases hblank : value.isBlank with _ | _
    · simp only [dropBreaks_of_only_spaces hspaces, if_true, Bool.false_eq_true, if_false, hself]
    · rcases hkept with hend | ⟨hbefore, hafter⟩
      · have hnone : value = [] := by
          rw [Node.mayEnd, Node.isFirm, hblank, Bool.not_true, Bool.and_false, Bool.false_or] at hend
          exact List.isEmpty_iff.mp hend
        subst hnone
        rcases meetsInline before && meetsInline after with _ | _
        · rfl
        · exact hself
      · simp only [hbefore, hafter, Bool.and_self, Bool.false_eq_true, if_false, if_true, hself]
  · simp only [if_true, hself]

mutual

theorem textOf_rebuildNode (outside : Surroundings) (before after : List Node) : ∀ n : Node,
    n.Everywhere Node.IsRunning → (∀ c ∈ n.text, isBlank c = true → c = ' ') →
    (n.mayEnd = true ∨ meetsInline before = true ∧ meetsInline after = true) →
    textOf (Place.rebuildNode outside before after n) = n.text
  | .element name attributes children, h, hspaces, _ => by
    obtain ⟨_, _, hfirst, hlast⟩ := h.1
    rw [Place.rebuildNode, textOf_cons, textOf_nil, List.append_nil]
    exact textOf_rebuildNodes _ [] children h.2 hspaces (Or.inr (all_mayEnd_of_isFirm hfirst))
      (all_mayEnd_of_isFirm hlast)
  | .string kind value, h, hspaces, hkept => by
    obtain rfl : kind = .plain := h.1
    exact textOf_rebuild_string hspaces hkept

/-- **Removing blank nodes keeps running text**, if no blank text opens or closes it. -/
theorem textOf_rebuildNodes (outside : Surroundings) (before : List Node) : ∀ ns : List Node,
    Everywhere Node.IsRunning ns → (∀ c ∈ textOf ns, isBlank c = true → c = ' ') →
    (meetsInline before = true ∨ ns.head?.all Node.mayEnd = true) →
    ns.getLast?.all Node.mayEnd = true →
    textOf (Place.rebuildNodes outside before ns) = textOf ns
  | [], _, _, _, _ => rfl
  | n :: rest, h, hspaces, hfirst, hlast => by
    rw [textOf_cons] at hspaces
    -- a node between two others has something within the line on both sides
    have hkept : n.mayEnd = true ∨ meetsInline before = true ∧ meetsInline rest = true := by
      rcases hfirst with hbefore | hfirst
      · rcases rest with _ | ⟨m, rest⟩
        · exact Or.inl hlast
        · exact Or.inr ⟨hbefore, h.2.1.here.meetsInline rest⟩
      · exact Or.inl hfirst
    have hrest : rest.getLast?.all Node.mayEnd = true := by
      rcases rest with _ | ⟨m, rest⟩
      · rfl
      · rwa [List.getLast?_cons_cons] at hlast
    rw [Place.rebuildNodes, textOf_append, textOf_cons,
      textOf_rebuildNode outside before rest n h.1
        (fun c hc => hspaces c (List.mem_append_left _ hc)) hkept,
      textOf_rebuildNodes outside (n :: before) rest h.2
        (fun c hc => hspaces c (List.mem_append_right _ hc))
        (Or.inl (h.1.here.meetsInline before)) hrest]

end

end HtmlMarkdown
