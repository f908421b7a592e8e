import Mathlib
import HtmlMarkdown.Proofs.Apart
import HtmlMarkdown.Proofs.Root
import HtmlMarkdown.Proofs.Tight

/-!
# Phrases that have their lines to themselves

A document that is laid out well has no blank text to remove.

* `Text.IsPhrase`, `Phrase`: a text with ink at both ends and no white space but single spaces;
* `Node.IsLaidOut`: phrases between block elements;
* **`rebuildNodes_of_isLaidOut`**: such nodes are left as they are.
-/

namespace HtmlMarkdown

/-! ## Phrases -/

/-- A text begins and ends with ink, and has no white space but single spaces. -/
structure Text.IsPhrase (t : Text) : Prop where
  ne_nil : t ≠ []
  ink : ∀ side : Side, side.InkText t
  tight : t.IsTight

/-- A text that begins and ends with ink and has no white space but single spaces. -/
structure Phrase where
  text : Text
  isPhrase : text.IsPhrase

theorem Text.isPhrase_singleton {c : Char} (h : HtmlMarkdown.isBlank c = false) :
    IsPhrase [c] := by
  have hmem : ∀ d ∈ [c], HtmlMarkdown.isBlank d = false := List.forall_mem_singleton.mpr h
  refine ⟨List.cons_ne_nil c [], fun side d hd => hmem d (Side.mem_of_mem_edge? hd),
    List.isChain_singleton c, fun d hd hblank => ?_⟩
  rw [hmem d hd] at hblank
  cases hblank

-- Letters by name: a definition with one of these phrases in it needs no proof of its own.
theorem Text.isPhrase_a : IsPhrase ['a'] := isPhrase_singleton (by decide)

theorem Text.isPhrase_b : IsPhrase ['b'] := isPhrase_singleton (by decide)

theorem Text.isPhrase_c : IsPhrase ['c'] := isPhrase_singleton (by decide)

/-- A tight text is squeezed already, unless a space at its start belongs to the run before it. -/
theorem squeezeAfter_of_isTight {isInRun : Bool} {t : Text} (h : t.IsTight)
    (hstart : isInRun = true → ∀ c ∈ t.head?, c ≠ ' ') : squeezeAfter isInRun t = t := by
  induction t generalizing isInRun with
  | nil => rfl
  | cons c t ih =>
    have htail : Text.IsTight t := h.of_infix (List.suffix_cons c t).isInfix
    rw [squeezeAfter]
    split
    · next hspacing =>
      obtain rfl : c = ' ' := h.eq_space List.mem_cons_self hspacing
      have hrun : isInRun = false := by
        by_contra hrun
        rw [Bool.not_eq_false] at hrun
        exact hstart hrun ' ' rfl rfl
      have hnext : ∀ d ∈ t.head?, d ≠ ' ' := fun d hd =>
        (List.isChain_cons.mp h.1).1 d hd rfl
      rw [hrun, if_neg Bool.false_ne_true, ih htail fun _ => hnext]
    · rw [ih htail fun hrun => absurd hrun Bool.false_ne_true]

namespace Text.IsPhrase

variable {t : Text} (h : t.IsPhrase)

include h

theorem ne_of_mem_head? {c : Char} (hc : c ∈ t.head?) {d : Char}
    (hd : HtmlMarkdown.isBlank d = true) : c ≠ d := by
  rintro rfl
  rw [h.ink .left c hc] at hd
  cases hd

theorem not_mem_break : '\n' ∉ t := fun hbreak =>
  absurd (h.tight.2 _ hbreak (by decide)) (by decide)

theorem not_isBlank : t.isBlank = false := by
  by_contra hblank
  rw [Bool.not_eq_false] at hblank
  exact h.ne_nil ((h.ink .left).eq_nil_of_isBlank hblank)

theorem squeezeAfter_eq (isInRun : Bool) : squeezeAfter isInRun t = t :=
  squeezeAfter_of_isTight h.tight fun _ _ hc => h.ne_of_mem_head? hc (by decide)

theorem dropTrailingSpaces_eq : dropTrailingSpaces t = t := by
  refine dropTrailingSpaces_of_not_endsWith (Bool.eq_false_iff.mpr fun hends => ?_)
  rw [Text.endsWith, beq_iff_eq] at hends
  have hink : HtmlMarkdown.isBlank ' ' = false := h.ink .right ' ' hends
  exact absurd hink (by decide)

theorem dropBreaks_eq : dropBreaks t = t := dropBreaks_of_only_spaces h.tight.2

end Text.IsPhrase

/-! ## Phrases between blocks -/

/-- Of two nodes one is no text. -/
def Node.NotBothText (m n : Node) : Prop := m.isText = false ∨ n.isText = false

theorem Node.isChain_of_not_isText {ns : List Node} (h : ∀ n ∈ ns, n.isText = false) :
    ns.IsChain NotBothText := by
  induction ns with
  | nil => exact List.IsChain.nil
  | cons n ns ih =>
    rw [List.forall_mem_cons] at h
    exact List.IsChain.cons (ih h.2) fun _ _ => Or.inl h.1

/-- A text may stand before nodes that are no texts. -/
theorem Node.isChain_cons_of_not_isText {n : Node} {ns : List Node}
    (h : ∀ m ∈ ns, m.isText = false) : (n :: ns).IsChain NotBothText :=
  List.IsChain.cons (isChain_of_not_isText h) fun m hm => Or.inr (h m (List.mem_of_mem_head? hm))

/-- A string is a phrase; an element is a block without preformatted text and no `body`, and no two
texts stand side by side in it. -/
def Node.IsLaidOut : Node → Prop
  | .element name _ children =>
    isBlockTag (lowerName name) = true ∧ isPreformattedTag (lowerName name) = false ∧
      name ≠ "body" ∧ children.IsChain NotBothText
  | .string kind value => kind.isText = true ∧ value.IsPhrase

theorem endsLine_of_isBlockTag {tag : String} (h : isBlockTag tag = true) : endsLine tag = true := by
  rw [endsLine, h, Bool.true_or]

theorem isPreTag_of_not_isPreformattedTag {tag : String} (h : isPreformattedTag tag = false) :
    isPreTag tag = false := by
  rw [isPreformattedTag, Bool.or_eq_false_iff] at h
  exact h.1

namespace Node.IsLaidOut

variable {n : Node} (h : n.IsLaidOut)

include h

theorem voidEndsLine : Scan.VoidEndsLine n := by
  cases n with
  | element => exact fun _ => endsLine_of_isBlockTag h.1
  | string => exact fun hvoid => absurd hvoid (by decide : ¬ isVoidTag "" = true)

theorem isOtherThan_body : n.IsOtherThan "body" := by
  cases n with
  | element => exact h.2.2.1
  | string => trivial

end Node.IsLaidOut

/-! ## Blank nodes -/

mutual

theorem rebuildNode_of_isLaidOut {outside : Surroundings}
    (houtside : outside.anyTag isPreformattedTag = false) (before after : List Node) : ∀ {n : Node},
    n.Everywhere Node.IsLaidOut → Place.rebuildNode outside before after n = [n]
  | .element name attributes children, h => by
    have hinside : (Surroundings.element name attributes before after outside).anyTag
        isPreformattedTag = false := by
      rw [Surroundings.anyTag, houtside, show isPreformattedTag _ = false from h.1.2.1]
      rfl
    rw [Place.rebuildNode, rebuildNodes_of_isLaidOut hinside [] h.2]
  | .string kind value, h => by
    simp only [Place.rebuildNode, Place.fate, h.1, houtside, h.2.not_isBlank, h.2.dropBreaks_eq,
      Bool.not_true, Bool.false_eq_true, if_false, if_true]

/-- **There is no blank text** between block elements. -/
theorem rebuildNodes_of_isLaidOut {outside : Surroundings}
    (houtside : outside.anyTag isPreformattedTag = false) (before : List Node) : ∀ {ns : List Node},
    Everywhere Node.IsLaidOut ns → Place.rebuildNodes outside before ns = ns
  | [], _ => rfl
  | n :: rest, h => by
    rw [Place.rebuildNodes, rebuildNode_of_isLaidOut houtside before rest h.1,
      rebuildNodes_of_isLaidOut houtside (n :: before) h.2, List.singleton_append]

end

end HtmlMarkdown
