import Mathlib
import HtmlMarkdown.Proofs.Passes
import HtmlMarkdown.Proofs.Reading

/-!
# Blank nodes in one pass

The strings below a place are marked first, with a stack, and then go or change one after another. What
becomes of each is judged by its siblings and the elements that it lies in. A recursion comes to the
same that carries no more than whether it is inside preformatted text or code, and the nearest sibling
before that is no comment.

* `Text.IsFramed`, `Text.exists_isFramed`: ink between white space;
* `Text.bared`, `dropBreaks_eq_bared`: a text with ink without the breaks at its ends;
* `nearest?`, `meetsInline_eq`: the nearest node that is no comment;
* `cleared`, `rebuildNodes_eq_cleared`: the recursion, and the fates of all strings;
* **`removeBlank_eq_cleared`**.
-/

namespace HtmlMarkdown

/-! ## White space at both ends -/

theorem isBlank_of_isHeadBreak {c : Char} (h : isHeadBreak c = true) : isBlank c = true := by
  simp only [isHeadBreak, Bool.or_eq_true, beq_iff_eq] at h
  rcases h with ((rfl | rfl) | rfl) | rfl <;> decide

theorem dropHeadBreak_eq (t : Text) :
    dropHeadBreak t = if t.head?.any isHeadBreak then Text.trimStart isBlank t else t := by
  cases t <;> rfl

theorem dropTailBreak_eq (t : Text) :
    dropTailBreak t = if (t.rtakeWhile isBlank).any isLineBreak then Text.trimEnd isBlank t else t := by
  rw [dropTailBreak, List.rtakeWhile, List.any_reverse]

namespace Text

/-- White space, a text with ink at both ends, and white space. -/
structure IsFramed (lead core trail : Text) : Prop where
  lead : ∀ c ∈ lead, HtmlMarkdown.isBlank c = true
  ne_nil : core ≠ []
  head : ∀ c ∈ core.head?, HtmlMarkdown.isBlank c = false
  last : ∀ c ∈ core.getLast?, HtmlMarkdown.isBlank c = false
  trail : ∀ c ∈ trail, HtmlMarkdown.isBlank c = true

/-- **A text with ink** is ink between white space. -/
theorem exists_isFramed {t : Text} (h : t.isBlank = false) :
    ∃ lead core trail, t = lead ++ (core ++ trail) ∧ IsFramed lead core trail := by
  rcases hrest : t.dropWhile HtmlMarkdown.isBlank with _ | ⟨c, rest⟩
  · rw [isBlank, List.all_eq_true.mpr (List.dropWhile_eq_nil_iff.mp hrest)] at h
    cases h
  · have hc : HtmlMarkdown.isBlank c = false := by
      have hnot := List.head?_dropWhile_not HtmlMarkdown.isBlank t
      rwa [hrest] at hnot
    have hsplit := List.rdropWhile_append_rtakeWhile (p := HtmlMarkdown.isBlank) (l := c :: rest)
    rcases hcore : (c :: rest).rdropWhile HtmlMarkdown.isBlank with _ | ⟨d, core⟩
    · rw [List.rdropWhile_eq_nil_iff.mp hcore c List.mem_cons_self] at hc
      cases hc
    · rw [hcore] at hsplit
      refine ⟨t.takeWhile HtmlMarkdown.isBlank, d :: core,
        (c :: rest).rtakeWhile HtmlMarkdown.isBlank, ?_, fun e he => List.mem_takeWhile_imp he,
        List.cons_ne_nil d core, fun e he => ?_, fun e he => ?_,
        fun e he => List.mem_rtakeWhile_imp he⟩
      · rw [hsplit, ← hrest, List.takeWhile_append_dropWhile]
      · cases he
        rw [(List.cons.inj hsplit).1, hc]
      · have hlast := List.rdropWhile_last_not HtmlMarkdown.isBlank (c :: rest)
          (by rw [hcore]; exact List.cons_ne_nil d core)
        simp only [hcore, Bool.not_eq_true] at hlast
        rw [List.getLast?_eq_some_getLast (List.cons_ne_nil d core)] at he
        cases he
        exact hlast

/-- A text without the white space at its head, if this begins with a break, and without that at its
end, if a line break is in it. -/
def bared (t : Text) : Text :=
  let lead := t.takeWhile HtmlMarkdown.isBlank
  let trail := t.rtakeWhile HtmlMarkdown.isBlank
  (if t.head?.any isHeadBreak then [] else lead) ++
    (trim HtmlMarkdown.isBlank t ++ if trail.any isLineBreak then [] else trail)

section Framed

variable {lead core trail : Text} (h : IsFramed lead core trail)

include h

theorem IsFramed.append_head? : ∀ c ∈ (core ++ trail).head?, HtmlMarkdown.isBlank c = false := by
  intro c hc
  rw [List.head?_append_of_ne_nil _ h.ne_nil] at hc
  exact h.head c hc

theorem IsFramed.append_getLast? : ∀ c ∈ (lead ++ core).getLast?, HtmlMarkdown.isBlank c = false := by
  intro c hc
  rw [List.getLast?_append_of_ne_nil _ h.ne_nil] at hc
  exact h.last c hc

/-- The text begins with a break if the white space at its head does. -/
theorem IsFramed.any_head? :
    (lead ++ (core ++ trail)).head?.any isHeadBreak = lead.head?.any isHeadBreak := by
  rcases lead with _ | ⟨c, lead⟩
  · rw [List.nil_append, List.head?_nil, Option.any_none]
    rcases hhead : (core ++ trail).head? with _ | c
    · rfl
    · have hc := h.append_head? c hhead
      rw [Option.any_some]
      by_contra hbreak
      rw [Bool.not_eq_false] at hbreak
      rw [isBlank_of_isHeadBreak hbreak] at hc
      cases hc
  · rfl

theorem bared_append : bared (lead ++ (core ++ trail)) =
    (if lead.head?.any isHeadBreak then [] else lead) ++
      (core ++ if trail.any isLineBreak then [] else trail) := by
  have hleft := takeWhile_append_of_head? h.lead h.append_head?
  have hright := rtakeWhile_append_of_getLast? h.append_getLast? h.trail
  have hcore := rtakeWhile_append_of_getLast? h.last h.trail
  rw [bared, h.any_head?, hleft.1, trim, trimStart, hleft.2, hcore.2, ← List.append_assoc lead,
    hright.1]

theorem dropBreaks_append : dropBreaks (lead ++ (core ++ trail)) =
    (if lead.head?.any isHeadBreak then [] else lead) ++
      (core ++ if trail.any isLineBreak then [] else trail) := by
  have htail : ∀ s : Text, (∀ c ∈ (s ++ core).getLast?, HtmlMarkdown.isBlank c = false) →
      dropTailBreak (s ++ (core ++ trail)) =
        s ++ (core ++ if trail.any isLineBreak then [] else trail) := by
    intro s hs
    have hright := rtakeWhile_append_of_getLast? hs h.trail
    rw [← List.append_assoc, dropTailBreak_eq, hright.1, hright.2]
    split
    · rw [List.append_nil]
    · rw [List.append_assoc]
  have hleft := takeWhile_append_of_head? h.lead h.append_head?
  rw [dropBreaks, dropHeadBreak_eq, h.any_head?, trimStart, hleft.2]
  split
  · exact htail [] h.last
  · exact htail lead h.append_getLast?

/-- A text has no breaks at its ends after they are dropped. -/
theorem dropBreaks_dropBreaks_append :
    dropBreaks (dropBreaks (lead ++ (core ++ trail))) = dropBreaks (lead ++ (core ++ trail)) := by
  have hframed : IsFramed (if lead.head?.any isHeadBreak then [] else lead) core
      (if trail.any isLineBreak then [] else trail) := by
    refine ⟨fun c hc => ?_, h.ne_nil, h.head, h.last, fun c hc => ?_⟩
    · split at hc
      · cases hc
      · exact h.lead c hc
    · split at hc
      · cases hc
      · exact h.trail c hc
  rw [dropBreaks_append h, dropBreaks_append hframed]
  congr 1
  · split <;> rfl
  · congr 1
    split <;> rfl

end Framed

end Text

/-- **A text with ink** loses what carries a break at its ends, and nothing else. -/
theorem dropBreaks_eq_bared {t : Text} (h : t.isBlank = false) : dropBreaks t = t.bared := by
  obtain ⟨lead, core, trail, rfl, hframed⟩ := Text.exists_isFramed h
  rw [Text.dropBreaks_append hframed, Text.bared_append hframed]

theorem dropBreaks_dropBreaks {t : Text} (h : t.isBlank = false) :
    dropBreaks (dropBreaks t) = dropBreaks t := by
  obtain ⟨lead, core, trail, rfl, hframed⟩ := Text.exists_isFramed h
  exact Text.dropBreaks_dropBreaks_append hframed

/-! ## One pass -/

/-- The nearest of some nodes that is no comment. -/
def nearest? (ns : List Node) : Option Node := ns.find? fun n => !n.isComment

theorem meetsInline_eq (ns : List Node) : meetsInline ns = (nearest? ns).any Node.isInline := by
  rw [meetsInline, nearest?, List.find?_eq_head?_dropWhile_not]
  simp only [Bool.not_not]
  cases (ns.dropWhile fun n => n.isComment).head? <;> rfl

theorem nearest?_cons (n : Node) (ns : List Node) :
    nearest? (n :: ns) = if n.isComment then nearest? ns else some n := by
  rw [nearest?, List.find?_cons]
  cases n.isComment <;> rfl

mutual

/-- What is left of a node without comments and blank text: `isHidden` says that it is inside
preformatted text or code, `left` and `right` are the nearest nodes beside it that are no comments.
-/
def clearedNode (isHidden : Bool) (left right : Option Node) : Node → List Node
  | .element name attributes children =>
    [.element name attributes
      (cleared (isPreformattedTag (lowerName name) || isHidden) none children)]
  | .string kind value =>
    if !kind.isText then []
    else if isHidden then [.string kind value]
    else if value.isBlank then
      if left.any Node.isInline && right.any Node.isInline then [.string kind value] else []
    else [.string kind value.bared]

/-- What is left of nodes without comments and blank text. -/
def cleared (isHidden : Bool) (left : Option Node) : List Node → List Node
  | [] => []
  | n :: rest =>
    clearedNode isHidden left (nearest? rest) n ++
      cleared isHidden (if n.isComment then left else some n) rest

end

mutual

theorem rebuildNode_eq_clearedNode (outside : Surroundings) (before after : List Node) :
    ∀ n : Node, Place.rebuildNode outside before after n =
      clearedNode (outside.anyTag isPreformattedTag) (nearest? before) (nearest? after) n
  | .element name attributes children => by
    rw [Place.rebuildNode, clearedNode, rebuildNodes_eq_cleared]
    rfl
  | .string kind value => by
    rw [rebuildNode_string, clearedNode, meetsInline_eq, meetsInline_eq]
    rcases hblank : value.isBlank with _ | _
    · rw [dropBreaks_eq_bared hblank]
    · rfl

/-- **The fates of all strings** come to what one pass over the nodes leaves. -/
theorem rebuildNodes_eq_cleared (outside : Surroundings) (before : List Node) :
    ∀ ns : List Node, Place.rebuildNodes outside before ns =
      cleared (outside.anyTag isPreformattedTag) (nearest? before) ns
  | [] => rfl
  | n :: rest => by
    rw [Place.rebuildNodes, cleared, rebuildNode_eq_clearedNode outside before rest n,
      rebuildNodes_eq_cleared outside (n :: before) rest, nearest?_cons]

end

/-- **Removing blank nodes is one pass** over the nodes below a place: comments go; text inside
preformatted text or code stays as it is; other text with ink is bared; and blank text stays if and
only if the nearest siblings on both sides that are no comments are text or elements within a line.
-/
theorem removeBlank_eq_cleared (p : Place) :
    p.removeBlank = cleared (p.inside.anyTag isPreformattedTag) none p.nodes := by
  rw [Place.removeBlank_eq_rebuildNodes]
  exact rebuildNodes_eq_cleared p.inside [] p.nodes

end HtmlMarkdown
