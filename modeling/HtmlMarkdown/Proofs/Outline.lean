import Mathlib
import HtmlMarkdown.Proofs.Block
import HtmlMarkdown.Proofs.Conversion
import HtmlMarkdown.Proofs.Padding
import HtmlMarkdown.Proofs.Stacked

/-!
# Lists as outlines

A list of phrases with lists below them becomes an outline: one line for each item.

* `Outline.Items`, `Outline.Lists`, `Outline`: items with lists below them, to any depth;
* `Outline.node`, `Outline.lines`: the element that an outline is, and the lines that it has;
* `lines_succ`, `isInkLine`: lines that are one step deeper, and what all lines have;
* `markdownOfNode_item`, `markdownOfNode_list`: what the rules make of one item, and of a list in one;
* `markdownOfNodes_items`, `markdownOfNodes_lists`: what they make of all items and lists below;
* **`convert_outline`**: an outline is converted to its lines.
-/

namespace HtmlMarkdown

/-! ## Outlines -/

namespace Outline

mutual

/-- The items of a list, one after another: phrases, each with lists below it. -/
inductive Items
  | nil
  | cons (attributes : Attributes) (phrase : Phrase) (lists : Lists) (rest : Items)

/-- Lists, one after another: numbered ones and others. -/
inductive Lists
  | nil
  | cons (isNumbered : Bool) (attributes : Attributes) (items : Items) (rest : Lists)

end

/-- The name of a list. -/
def listName (isNumbered : Bool) : String := if isNumbered then "ol" else "ul"

mutual

/-- The elements that items are. -/
def Items.nodes : Items → List Node
  | .nil => []
  | .cons attributes phrase lists rest =>
    .element "li" attributes (.string .plain phrase.text :: lists.nodes) :: rest.nodes

/-- The elements that lists are. -/
def Lists.nodes : Lists → List Node
  | .nil => []
  | .cons isNumbered attributes items rest =>
    .element (listName isNumbered) attributes items.nodes :: rest.nodes

end

/-- The marker of the item with this number: the number in a numbered list, else a star. -/
def marker (isNumbered : Bool) (number : ℕ) : Text :=
  if isNumbered then Text.ofNat number ++ ".  ".toList else "*   ".toList

/-- The line of an item: four spaces for every list around its own, the marker and the phrase. -/
def line (depth : ℕ) (isNumbered : Bool) (number : ℕ) (phrase : Phrase) : Text :=
  List.replicate (4 * depth) ' ' ++ (marker isNumbered number ++ phrase.text)

mutual

/-- The lines of items, the first of which has this number: each before those of the lists below
it. -/
def Items.lines (depth : ℕ) (isNumbered : Bool) (number : ℕ) : Items → List Text
  | .nil => []
  | .cons _ phrase lists rest =>
    line depth isNumbered number phrase ::
      (lists.lines (depth + 1) ++ rest.lines depth isNumbered (number + 1))

/-- The lines of lists, one list after another. -/
def Lists.lines (depth : ℕ) : Lists → List Text
  | .nil => []
  | .cons isNumbered _ items rest => items.lines depth isNumbered 1 ++ rest.lines depth

end

end Outline

/-- A list with its items and all lists below them. -/
structure Outline where
  isNumbered : Bool
  attributes : Attributes
  items : Outline.Items

namespace Outline

/-- The element that an outline is. -/
def node (o : Outline) : Node := .element (listName o.isNumbered) o.attributes o.items.nodes

/-- The lines of an outline. -/
def lines (o : Outline) : List Text := o.items.lines 0 o.isNumbered 1

/-! ## Lines -/

theorem isBlank_of_isDigit {c : Char} (h : c.isDigit = true) : isBlank c = false := by
  rw [Char.isDigit, Bool.and_eq_true, decide_eq_true_eq, decide_eq_true_eq] at h
  have hlow : 48 ≤ c.toNat := h.1
  have hhigh : c.toNat ≤ 57 := h.2
  by_contra hblank
  simp only [isBlank, Bool.not_eq_false, Bool.or_eq_true, Bool.and_eq_true, decide_eq_true_eq,
    beq_iff_eq] at hblank
  omega

/-- A marker begins with ink. -/
theorem exists_marker_eq (isNumbered : Bool) (number : ℕ) :
    ∃ c rest, marker isNumbered number = c :: rest ∧ isBlank c = false := by
  rw [marker]
  cases isNumbered with
  | false => exact ⟨'*', "   ".toList, rfl, by decide⟩
  | true =>
    obtain ⟨c, digits, hdigits⟩ : ∃ c digits, Text.ofNat number = c :: digits :=
      List.exists_cons_of_ne_nil Nat.toDigits_ne_nil
    refine ⟨c, digits ++ ".  ".toList, by rw [if_pos rfl, hdigits]; rfl, ?_⟩
    have hmem : c ∈ Nat.toDigits 10 number := by
      rw [show Nat.toDigits 10 number = c :: digits from hdigits]
      exact List.mem_cons_self
    exact isBlank_of_isDigit (Nat.isDigit_of_mem_toDigits (by decide) (by decide) hmem)

theorem not_mem_marker (isNumbered : Bool) (number : ℕ) : '\n' ∉ marker isNumbered number := by
  rw [marker]
  cases isNumbered with
  | false => exact (by decide : '\n' ∉ "*   ".toList)
  | true =>
    rw [if_pos rfl, List.mem_append, not_or]
    refine ⟨fun hmem => ?_, by decide⟩
    have hdigit : '\n'.isDigit = true :=
      Nat.isDigit_of_mem_toDigits (by decide) (by decide) hmem
    exact absurd hdigit (by decide)

theorem isInkLine_line (depth : ℕ) (isNumbered : Bool) (number : ℕ) (phrase : Phrase) :
    (line depth isNumbered number phrase).IsInkLine := by
  have hphrase := phrase.isPhrase
  have htext : phrase.text.IsInkLine :=
    ⟨hphrase.not_mem_break, hphrase.ink .right, hphrase.not_isBlank⟩
  refine (htext.append_left (not_mem_marker isNumbered number)).append_left fun hbreak => ?_
  exact absurd (List.eq_of_mem_replicate hbreak) (by decide)

theorem line_succ (depth : ℕ) (isNumbered : Bool) (number : ℕ) (phrase : Phrase) :
    line (depth + 1) isNumbered number phrase =
      "    ".toList ++ line depth isNumbered number phrase := by
  rw [line, line, Nat.mul_succ, Nat.add_comm, List.replicate_add, List.append_assoc]
  rfl

/-- An outermost line begins with its marker, so with ink. -/
theorem inkText_line_zero (isNumbered : Bool) (number : ℕ) (phrase : Phrase) :
    Side.left.InkText (line 0 isNumbered number phrase) := by
  obtain ⟨c, rest, hmarker, hc⟩ := exists_marker_eq isNumbered number
  rw [line, hmarker]
  intro d hd
  cases hd
  exact hc

theorem Items.inkText_head?_lines (isNumbered : Bool) (number : ℕ) (items : Items) :
    ∀ l ∈ (items.lines 0 isNumbered number).head?, Side.left.InkText l := by
  cases items with
  | nil => simp [Items.lines]
  | cons _ phrase =>
    rw [Items.lines, List.head?_cons]
    rintro l ⟨⟩
    exact inkText_line_zero isNumbered number phrase

mutual

theorem Items.isInkLine (depth : ℕ) (isNumbered : Bool) : ∀ (number : ℕ) (items : Items),
    ∀ l ∈ items.lines depth isNumbered number, l.IsInkLine
  | _, .nil => by simp [Items.lines]
  | number, .cons _ phrase lists rest => by
    rw [Items.lines, List.forall_mem_cons, List.forall_mem_append]
    exact ⟨isInkLine_line depth isNumbered number phrase, lists.isInkLine (depth + 1),
      rest.isInkLine depth isNumbered (number + 1)⟩

/-- **All lines have ink and end with it.** -/
theorem Lists.isInkLine (depth : ℕ) : ∀ lists : Lists, ∀ l ∈ lists.lines depth, l.IsInkLine
  | .nil => by simp [Lists.lines]
  | .cons isNumbered _ items rest => by
    rw [Lists.lines, List.forall_mem_append]
    exact ⟨items.isInkLine depth isNumbered 1, rest.isInkLine depth⟩

end

mutual

theorem Items.lines_succ (depth : ℕ) (isNumbered : Bool) : ∀ (number : ℕ) (items : Items),
    items.lines (depth + 1) isNumbered number =
      (items.lines depth isNumbered number).map ("    ".toList ++ ·)
  | _, .nil => rfl
  | number, .cons _ phrase lists rest => by
    rw [Items.lines, Items.lines, List.map_cons, List.map_append, line_succ,
      Lists.lines_succ (depth + 1) lists, Items.lines_succ depth isNumbered (number + 1) rest]

/-- **Lines that are one step deeper** have four more spaces. -/
theorem Lists.lines_succ (depth : ℕ) : ∀ lists : Lists,
    lists.lines (depth + 1) = (lists.lines depth).map ("    ".toList ++ ·)
  | .nil => rfl
  | .cons isNumbered _ items rest => by
    rw [Lists.lines, Lists.lines, List.map_append, Items.lines_succ depth isNumbered 1 items,
      Lists.lines_succ depth rest]

end

theorem isInkLine (o : Outline) : ∀ l ∈ o.lines, l.IsInkLine := o.items.isInkLine 0 o.isNumbered 1

/-! ## White space -/

theorem isText_of_mem_lists : ∀ (lists : Lists), ∀ n ∈ lists.nodes, n.isText = false
  | .nil => by simp [Lists.nodes]
  | .cons _ _ _ rest => by
    rw [Lists.nodes, List.forall_mem_cons]
    exact ⟨rfl, isText_of_mem_lists rest⟩

theorem isText_of_mem_items : ∀ (items : Items), ∀ n ∈ items.nodes, n.isText = false
  | .nil => by simp [Items.nodes]
  | .cons _ _ _ rest => by
    rw [Items.nodes, List.forall_mem_cons]
    exact ⟨rfl, isText_of_mem_items rest⟩

theorem isLaidOut_list {isNumbered : Bool} {attributes : Attributes} {children : List Node}
    (h : children.IsChain Node.NotBothText) :
    (Node.element (listName isNumbered) attributes children).IsLaidOut := by
  cases isNumbered <;> exact ⟨by decide, by decide, by decide, h⟩

mutual

theorem Items.isLaidOut : ∀ items : Items, Everywhere Node.IsLaidOut items.nodes
  | .nil => trivial
  | .cons attributes phrase lists rest => by
    have hchain : (Node.string .plain phrase.text :: lists.nodes).IsChain Node.NotBothText :=
      Node.isChain_cons_of_not_isText (isText_of_mem_lists lists)
    exact ⟨⟨⟨by decide, by decide, by decide, hchain⟩, ⟨rfl, phrase.isPhrase⟩, lists.isLaidOut⟩,
      rest.isLaidOut⟩

/-- **An outline has phrases between block elements** and nothing else. -/
theorem Lists.isLaidOut : ∀ lists : Lists, Everywhere Node.IsLaidOut lists.nodes
  | .nil => trivial
  | .cons _ _ items rest =>
    ⟨⟨isLaidOut_list (Node.isChain_of_not_isText (isText_of_mem_items items)), items.isLaidOut⟩,
      rest.isLaidOut⟩

end

theorem foldedRoot_node (o : Outline) : foldedRoot [o.node] = .document [o.node] := by
  have hlist : o.node.IsLaidOut :=
    isLaidOut_list (Node.isChain_of_not_isText (isText_of_mem_items o.items))
  exact foldedRoot_of_isLaidOut ⟨⟨hlist, o.items.isLaidOut⟩, trivial⟩ (List.isChain_singleton _)

/-! ## Items -/

theorem tagName_inside_list (isNumbered : Bool) (attributes : Attributes) (before after : List Node)
    (outside : Surroundings) :
    (Surroundings.element (listName isNumbered) attributes before after outside).tagName =
      listName isNumbered := by
  cases isNumbered
  · exact (by decide : lowerName "ul" = "ul")
  · exact (by decide : lowerName "ol" = "ol")

theorem itemMarker_eq {isNumbered : Bool} {outside : Surroundings}
    (h : outside.tagName = listName isNumbered) (name : String) (attributes : Attributes)
    (children before after : List Node) :
    Markdown.itemMarker (.node (.element name attributes children) before after outside) =
      .ok (marker isNumbered (elementCount before + 1)) := by
  rw [Markdown.itemMarker, Place.parentName, h, marker]
  cases isNumbered <;> rfl

/-- An item is a line of its own, with the lines below it four spaces deeper. -/
theorem listItem_eq {isNumbered : Bool} {outside : Surroundings}
    (h : outside.tagName = listName isNumbered) (phrase : Phrase) {lines : List Text}
    (hlines : ∀ l ∈ lines, '\n' ∉ l) (name : String) (attributes : Attributes)
    (children before after : List Node) :
    Markdown.listItem (phrase.text ++ stacked lines)
        (.node (.element name attributes children) before after outside) =
      .ok (stacked (line 0 isNumbered (elementCount before + 1) phrase ::
        lines.map ("    ".toList ++ ·))) := by
  have htrim : Text.trimStart isBlank (phrase.text ++ stacked lines) =
      phrase.text ++ stacked lines := by
    refine Text.trimStart_eq_self fun c hc => phrase.isPhrase.ink .left c ?_
    rwa [List.head?_append_of_ne_nil _ phrase.isPhrase.ne_nil] at hc
  rw [Markdown.listItem, itemMarker_eq h, htrim,
    indentRest_append_stacked phrase.isPhrase.not_mem_break hlines, stacked_cons, line]
  simp [Except.map]

/-! ## The recursion -/

section Recursion

variable (gfm : Bool) (policy : Policy)

/-- A list has its items for content, and nothing where it has none. -/
theorem convertElement_listName {isNumbered : Bool} {lines : List Text}
    (hlines : ∀ l ∈ lines, l.IsInkLine) (attributes : Attributes) (children before after : List Node)
    (outside : Surroundings) :
    (Context.builtIn gfm policy).convertElement
        (.node (.element (listName isNumbered) attributes children) before after outside)
        (stacked lines) =
      .ok (if lines.isEmpty then [] else Markdown.list (stacked lines)
        (.node (.element (listName isNumbered) attributes children) before after outside)) := by
  rw [convertElement_list, isBlank_stacked hlines]
  cases isNumbered
  · exact Or.inl (by decide : lowerName "ul" = "ul")
  · exact Or.inr (by decide : lowerName "ol" = "ol")

/-- One item: if what follows its phrase makes lines, they come below its own line. -/
theorem markdownOfNode_item {isNumbered : Bool} {outside : Surroundings}
    (h : outside.tagName = listName isNumbered) (attributes : Attributes) (phrase : Phrase)
    {children before after : List Node} {lines : List Text} (hlines : ∀ l ∈ lines, l.IsInkLine)
    (hchildren : (Context.builtIn gfm policy).markdownOfNodes
      (.element "li" attributes before after outside) [.string .plain phrase.text] children =
        .ok (stacked lines)) :
    (Context.builtIn gfm policy).markdownOfNode outside before after
        (.element "li" attributes (.string .plain phrase.text :: children)) =
      .ok (stacked (line 0 isNumbered (elementCount before + 1) phrase ::
        lines.map ("    ".toList ++ ·))) := by
  have htag : (Place.node (.element "li" attributes (.string .plain phrase.text :: children))
      before after outside).tagName = "li" := (by decide : lowerName "li" = "li")
  have hblank : Text.isBlank (phrase.text ++ stacked lines) = false := by
    rw [isBlank_append, phrase.isPhrase.not_isBlank, Bool.false_and]
  rw [Context.markdownOfNode, Context.markdownOfNodes, Context.markdownOfNode, hchildren]
  show (Context.builtIn gfm policy).convertElement _ (phrase.text ++ stacked lines) = _
  rw [convertElement_listItem gfm policy _ htag, hblank, if_neg Bool.false_ne_true,
    listItem_eq h phrase fun l hl => (hlines l hl).unbroken]

/-- One list in an item: it adds nothing to the lines of its items. -/
theorem markdownOfNode_list {outside : Surroundings} (h : outside.tagName = "li")
    (isNumbered : Bool) (attributes : Attributes) {children before after : List Node}
    {lines : List Text} (hlines : ∀ l ∈ lines, l.IsInkLine)
    (hchildren : (Context.builtIn gfm policy).markdownOfNodes
      (.element (listName isNumbered) attributes before after outside) [] children =
        .ok (stacked lines)) :
    (Context.builtIn gfm policy).markdownOfNode outside before after
        (.element (listName isNumbered) attributes children) = .ok (stacked lines) := by
  rw [Context.markdownOfNode, hchildren]
  show (Context.builtIn gfm policy).convertElement _ (stacked lines) = _
  rw [convertElement_listName gfm policy hlines, Markdown.list, Place.parentName, if_pos h]
  split
  · next hnone => rw [List.isEmpty_iff.mp hnone, stacked_nil]
  · rfl

-- Every list makes its lines as if it were outermost: the items around it indent them afterwards,
-- one after another.
mutual

/-- **What the rules make of the items of a list**: their lines. -/
theorem markdownOfNodes_items {isNumbered : Bool} {outside : Surroundings}
    (h : outside.tagName = listName isNumbered) : ∀ (items : Items) (before : List Node),
    (Context.builtIn gfm policy).markdownOfNodes outside before items.nodes =
      .ok (stacked (items.lines 0 isNumbered (elementCount before + 1)))
  | .nil, _ => rfl
  | .cons attributes phrase lists rest, before => by
    have hinside : (Surroundings.element "li" attributes before rest.nodes outside).tagName = "li" :=
      (by decide : lowerName "li" = "li")
    have hlists : (Context.builtIn gfm policy).markdownOfNodes
        (.element "li" attributes before rest.nodes outside) [.string .plain phrase.text]
        lists.nodes = .ok (stacked (lists.lines 0)) :=
      markdownOfNodes_lists hinside lists _
    have hitem := markdownOfNode_item gfm policy h attributes phrase (lists.isInkLine 0) hlists
    have hcount : elementCount (.element "li" attributes
        (.string .plain phrase.text :: lists.nodes) :: before) = elementCount before + 1 :=
      List.countP_cons_of_pos rfl
    rw [Items.nodes, Context.markdownOfNodes, hitem, markdownOfNodes_items h rest, hcount,
      Items.lines, Lists.lines_succ, ← List.cons_append, stacked_append]
    rfl

/-- **What the rules make of the lists in an item**: the lines of their items. -/
theorem markdownOfNodes_lists {outside : Surroundings} (h : outside.tagName = "li") :
    ∀ (lists : Lists) (before : List Node),
    (Context.builtIn gfm policy).markdownOfNodes outside before lists.nodes =
      .ok (stacked (lists.lines 0))
  | .nil, _ => rfl
  | .cons isNumbered attributes items rest, before => by
    have hitems : (Context.builtIn gfm policy).markdownOfNodes
        (.element (listName isNumbered) attributes before rest.nodes outside) [] items.nodes =
          .ok (stacked (items.lines 0 isNumbered 1)) :=
      markdownOfNodes_items (tagName_inside_list isNumbered _ _ _ _) items []
    have hlist := markdownOfNode_list gfm policy h isNumbered attributes
      (items.isInkLine 0 isNumbered 1) hitems
    rw [Lists.nodes, Context.markdownOfNodes, hlist, markdownOfNodes_lists h rest, Lists.lines,
      stacked_append]
    rfl

end

end Recursion

/-! ## Conversions -/

/-- An outermost list is a block of its lines, and nothing where it has none. -/
theorem contentBelow_node (gfm : Bool) (policy : Policy) (o : Outline) :
    (Context.builtIn gfm policy).contentBelow (.document [o.node]) =
      .ok (if o.lines.isEmpty then [] else asBlock (Text.join ['\n'] o.lines)) := by
  have hitems : (Context.builtIn gfm policy).contentBelow (.node o.node [] [] .document) =
      .ok (stacked o.lines) :=
    markdownOfNodes_items gfm policy (tagName_inside_list o.isNumbered _ _ _ _) o.items []
  have hlist : (Context.builtIn gfm policy).markdownOf (.node o.node [] [] .document) =
      .ok (if o.lines.isEmpty then [] else asBlock (Text.trimStart (· == '\n') (stacked o.lines))) := by
    rw [Context.markdownOf_eq _ rfl, hitems]
    exact convertElement_listName gfm policy o.isInkLine _ _ _ _ _
  rw [Context.contentBelow_of_nodes_eq rfl, Place.inside, hlist]
  rcases hcases : o.lines with _ | ⟨first, rest⟩
  · rfl
  · have hfirst : first ∈ o.lines.head? := by rw [hcases]; rfl
    have hink : Side.left.InkText first := o.items.inkText_head?_lines o.isNumbered 1 first hfirst
    have hne : first ≠ [] := (o.isInkLine first (List.mem_of_mem_head? hfirst)).ne_nil
    rw [trimStart_stacked hink hne]

/-- **An outline is converted to its lines**, one for every item: below its parent, and indented by
four spaces for every list around its own. -/
theorem convert_outline (gfm : Bool) (policy : Policy) (o : Outline) (s : Progress) :
    ∃ s', ((Context.builtIn gfm policy).convert [o.node]).run s =
      .ok (Text.join ['\n'] o.lines) s' := by
  have hcontent := o.contentBelow_node gfm policy
  rw [← foldedRoot_node] at hcontent
  refine Context.exists_run_convert_iff.mpr ⟨_, hcontent, ?_⟩
  rcases hcases : o.lines with _ | ⟨first, rest⟩
  · exact (normalize_eq_nil_iff.mpr rfl).symm
  · have hink : Side.left.InkText first :=
      o.items.inkText_head?_lines o.isNumbered 1 first (by rw [← lines, hcases]; rfl)
    rw [List.isEmpty_cons, if_neg Bool.false_ne_true]
    exact (normalize_asBlock_join hink (hcases ▸ o.isInkLine)).symm

/-- A numbered list in an item of a list. -/
def nestedLists : Outline where
  isNumbered := false
  attributes := []
  items :=
    .cons [] ⟨['a'], Text.isPhrase_singleton (by decide)⟩
      (.cons true [] (.cons [] ⟨['b'], Text.isPhrase_singleton (by decide)⟩ .nil
        (.cons [] ⟨['c'], Text.isPhrase_singleton (by decide)⟩ .nil .nil)) .nil)
      (.cons [] ⟨['d'], Text.isPhrase_singleton (by decide)⟩ .nil .nil)

example : nestedLists.lines =
    ["*   a".toList, "    1.  b".toList, "    2.  c".toList, "*   d".toList] := by
  decide

end Outline

end HtmlMarkdown
