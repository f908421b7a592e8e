import Mathlib
import HtmlMarkdown.Proofs.Below
import HtmlMarkdown.Proofs.Cleared
import HtmlMarkdown.Proofs.Conversion

/-!
# Removing blank nodes once more

Whether a blank text stays is judged by its siblings as they were. One may stay for the sake of
another that goes, if only comments stood between them, and the next pass takes it away.

* **`rebuildNodes_eq_self_iff`**: nodes stay as they are if the fate of each place is to stay;
* `rebuildNode_string_cases`: what can become of a string;
* `Place.IsBare`, `isBare_of_mem_rebuildNodes`: what all places have that are left;
* `reachesInline`, `meetsInline_rebuildNodes`: what a node meets when blank text has gone;
* `isBetweenInline_rebuildNodes_iff`: when all blank text that is left is between inline nodes;
* **`removeBlank_removeBlank_eq_iff`**.
-/

namespace HtmlMarkdown

namespace Place

/-! ## Fates that keep everything -/

theorem fate_eq_become {kind : StringKind} {value text : Text} {before after : List Node}
    {outside : Surroundings}
    (h : fate (node (.string kind value) before after outside) = .become text) : text ≠ value := by
  rw [fate] at h
  split at h
  · cases h
  · split at h
    · cases h
    · split at h
      · split at h <;> cases h
      · dsimp only at h
        split at h
        · cases h
        · next hne =>
          cases h
          exact hne

theorem length_rebuildNode_le (outside : Surroundings) (before after : List Node) (n : Node) :
    (rebuildNode outside before after n).length ≤ 1 := by
  cases n with
  | element name attributes children => exact Nat.le_refl 1
  | string kind value =>
    rw [rebuildNode]
    split
    · exact Nat.le_refl 1
    · exact Nat.zero_le 1
    · exact Nat.le_refl 1

theorem length_rebuildNodes_le (outside : Surroundings) (before ns : List Node) :
    (rebuildNodes outside before ns).length ≤ ns.length := by
  induction ns generalizing before with
  | nil => exact Nat.le_refl _
  | cons n rest ih =>
    have hhere := length_rebuildNode_le outside before rest n
    have hrest := ih (n :: before)
    rw [rebuildNodes, List.length_append, List.length_cons]
    omega

theorem rebuildNodes_cons_eq_self_iff (outside : Surroundings) (before : List Node) (n : Node)
    (rest : List Node) : rebuildNodes outside before (n :: rest) = n :: rest ↔
      rebuildNode outside before rest n = [n] ∧
        rebuildNodes outside (n :: before) rest = rest := by
  constructor
  · intro h
    have hhere := length_rebuildNode_le outside before rest n
    have hrest := length_rebuildNodes_le outside (n :: before) rest
    have hlength := congrArg List.length h
    rw [rebuildNodes, List.length_append, List.length_cons] at hlength
    rw [rebuildNodes, ← List.singleton_append] at h
    exact List.append_inj h (by rw [List.length_singleton]; omega)
  · rintro ⟨hhere, hrest⟩
    rw [rebuildNodes, hhere, hrest, List.singleton_append]

/-- **Nodes stay as they are** if and only if the fate of every place below is to stay. -/
theorem rebuildNodes_eq_self_iff : ∀ (ns : List Node) (outside : Surroundings)
    (before : List Node), rebuildNodes outside before ns = ns ↔
      ∀ d ∈ allDescendants outside before ns [], d.fate = .keep
  | [], _, _ => by simp [rebuildNodes, allDescendants]
  | .element name attributes children :: rest, outside, before => by
    rw [rebuildNodes_cons_eq_self_iff, forall_mem_allDescendants_cons,
      rebuildNodes_eq_self_iff rest, rebuildNode, ← and_assoc]
    refine and_congr_left' ?_
    have hchildren := rebuildNodes_eq_self_iff children
      (.element name attributes before rest outside) []
    rw [descendants, inside, nodes, Node.children, ← hchildren]
    simp [fate]
  | .string kind value :: rest, outside, before => by
    rw [rebuildNodes_cons_eq_self_iff, forall_mem_allDescendants_string,
      rebuildNodes_eq_self_iff rest, rebuildNode]
    refine and_congr_left' ?_
    rcases hfate : fate (node (.string kind value) before rest outside) with _ | _ | text
    · simp
    · simp
    · simp [fate_eq_become hfate]

/-! ## What is left of blank text -/

/-- Blank text outside preformatted text and code. -/
def isBlankInView : Place → Bool
  | document _ => false
  | node here _ _ outside => here.isBlankText && !outside.anyTag isPreformattedTag

/-- The nearest siblings on both sides that are no comments are text or elements within a line. -/
def isBetweenInline : Place → Bool
  | document _ => false
  | node _ before after _ => meetsInline before && meetsInline after

/-- **What can become of a string**: it goes; it stays, perhaps without the breaks at its ends, and
is no blank text in view; or it is blank text in view that stays between inline nodes. -/
theorem rebuildNode_string_cases (outside : Surroundings) (before after : List Node)
    (kind : StringKind) (value : Text) :
    (rebuildNode outside before after (.string kind value) = [] ∧
      (kind.isText && !value.isBlank) = false ∧
      ((node (.string kind value) before after outside).isBlankInView = true →
        (node (.string kind value) before after outside).isBetweenInline = false)) ∨
    (∃ text, rebuildNode outside before after (.string kind value) = [.string kind text] ∧
      kind.isText = true ∧ text.isBlank = value.isBlank ∧
      (outside.anyTag isPreformattedTag = false → value.isBlank = false ∧ dropBreaks text = text)) ∨
    (rebuildNode outside before after (.string kind value) = [.string kind value] ∧
      kind.isText = true ∧ value.isBlank = true ∧ outside.anyTag isPreformattedTag = false ∧
      (meetsInline before && meetsInline after) = true) := by
  rw [rebuildNode_string, isBlankInView, isBetweenInline, Node.isBlankText]
  rcases hkind : kind.isText with _ | _
  · exact Or.inl ⟨rfl, rfl, fun h => absurd h Bool.false_ne_true⟩
  rcases hhidden : outside.anyTag isPreformattedTag with _ | _
  · rcases hblank : value.isBlank with _ | _
    · have hink : (dropBreaks value).isBlank = false := by
        rw [Bool.eq_false_iff]
        intro hgone
        rw [(lighter_dropBreaks value).isBlank hgone] at hblank
        cases hblank
      exact Or.inr (Or.inl ⟨_, rfl, rfl, hink, fun _ => ⟨rfl, dropBreaks_dropBreaks hblank⟩⟩)
    · rcases hbetween : meetsInline before && meetsInline after with _ | _
      · exact Or.inl ⟨rfl, rfl, fun _ => rfl⟩
      · exact Or.inr (Or.inr ⟨rfl, rfl, rfl, rfl, rfl⟩)
  · exact Or.inr (Or.inl ⟨value, rfl, rfl, rfl, fun h => absurd h.symm Bool.false_ne_true⟩)

/-- A place that may be left: it is no comment, and no text in view with a break at its ends. -/
def IsBare : Place → Prop
  | document _ => True
  | node (.element ..) _ _ _ => True
  | node (.string kind value) _ _ outside =>
    kind.isText = true ∧ (outside.anyTag isPreformattedTag = false → value.isBlank = false →
      dropBreaks value = value)

/-- **All places that are left** are bare. -/
theorem isBare_of_mem_rebuildNodes : ∀ (ns : List Node) {outside outside' : Surroundings}
    (before before' : List Node),
    outside'.anyTag isPreformattedTag = outside.anyTag isPreformattedTag →
    ∀ d ∈ allDescendants outside' before' (rebuildNodes outside before ns) [], d.IsBare
  | [], _, _, _, _, _ => by simp [rebuildNodes, allDescendants]
  | .element name attributes children :: rest, outside, outside', before, before', h => by
    rw [rebuildNodes, rebuildNode, List.singleton_append, forall_mem_allDescendants_cons]
    refine ⟨trivial, isBare_of_mem_rebuildNodes children _ _ ?_,
      isBare_of_mem_rebuildNodes rest _ _ h⟩
    exact congrArg (isPreformattedTag (lowerName name) || ·) h
  | .string kind value :: rest, outside, outside', before, before', h => by
    have hrest := fun after' => isBare_of_mem_rebuildNodes rest (.string kind value :: before) after' h
    rw [rebuildNodes]
    rcases rebuildNode_string_cases outside before rest kind value with
      ⟨hgone, -, -⟩ | ⟨text, hstays, hkind, -, hbare⟩ | ⟨hstays, hkind, hblank, -, -⟩
    · rw [hgone]
      exact hrest before'
    · rw [hstays, List.singleton_append, forall_mem_allDescendants_string]
      exact ⟨⟨hkind, fun hvisible _ => (hbare (h ▸ hvisible)).2⟩, hrest _⟩
    · rw [hstays, List.singleton_append, forall_mem_allDescendants_string]
      refine ⟨⟨hkind, fun _ hink => ?_⟩, hrest _⟩
      rw [hblank] at hink
      cases hink

/-- **A bare place stays** if and only if it is no blank text in view, or between inline nodes. -/
theorem IsBare.fate_eq_keep_iff {d : Place} (h : d.IsBare) :
    d.fate = .keep ↔ (d.isBlankInView = true → d.isBetweenInline = true) := by
  rcases d with _ | ⟨_ | ⟨kind, value⟩, before, after, outside⟩
  · simp [fate, isBlankInView]
  · simp [fate, isBlankInView, Node.isBlankText]
  · obtain ⟨hkind, hbare⟩ := h
    rw [fate, isBlankInView, Node.isBlankText, isBetweenInline, hkind]
    rcases hhidden : outside.anyTag isPreformattedTag with _ | _
    · rcases hblank : value.isBlank with _ | _
      · simp [hbare hhidden hblank]
      · rcases meetsInline before && meetsInline after with _ | _ <;> simp
    · simp

end Place

/-! ## Past blank text -/

/-- The nearest of some nodes that is neither a comment nor blank text is text or an element within
a line. -/
def reachesInline (ns : List Node) : Bool :=
  ((ns.dropWhile fun n => n.isComment || n.isBlankText).head?.map Node.isInline).getD false

theorem reachesInline_element (name : String) (attributes : Attributes) (children rest : List Node) :
    reachesInline (.element name attributes children :: rest) =
      (Node.element name attributes children).isInline := rfl

theorem reachesInline_string (kind : StringKind) (value : Text) (rest : List Node) :
    reachesInline (.string kind value :: rest) =
      if kind.isText && !value.isBlank then true else reachesInline rest := by
  rw [reachesInline, List.dropWhile_cons, Node.isComment, Node.isBlankText]
  rcases hkind : kind.isText with _ | _
  · rfl
  rcases value.isBlank with _ | _
  · simp [Node.isInline, Node.isText, hkind]
  · rfl

theorem meetsInline_string {kind : StringKind} (hkind : kind.isText = true) (value : Text)
    (rest : List Node) : meetsInline (.string kind value :: rest) = true := by
  rw [meetsInline_cons_of_not_isComment (by rw [Node.isComment, hkind]; rfl), Node.isInline,
    Node.isText, hkind]
  rfl

namespace Place

/-- On both sides the nearest siblings that are neither comments nor blank text are text or elements
within a line. -/
def isHeldInline : Place → Bool
  | document _ => false
  | node _ before after _ => reachesInline before && reachesInline after

/-- Every blank text that stays is held by inline nodes on both sides. -/
def HoldsBlanks (ds : List Place) : Prop :=
  ∀ d ∈ ds, d.isBlankInView = true → d.isBetweenInline = true → d.isHeldInline = true

/-- **What is met in the nodes that are left** is what is met past blank text, if all blank text
among them is held. -/
theorem meetsInline_rebuildNodes {outside : Surroundings}
    (hvisible : outside.anyTag isPreformattedTag = false) : ∀ (ns before : List Node),
    HoldsBlanks (allDescendants outside before ns []) →
    meetsInline (rebuildNodes outside before ns) = reachesInline ns
  | [], _, _ => rfl
  | .element name attributes children :: rest, before, _ => by
    rw [rebuildNodes, rebuildNode, List.singleton_append, reachesInline_element,
      meetsInline_cons_of_not_isComment rfl]
    rfl
  | .string kind value :: rest, before, h => by
    obtain ⟨hhere, hrest⟩ := forall_mem_allDescendants_string.mp h
    rw [rebuildNodes, reachesInline_string]
    rcases rebuildNode_string_cases outside before rest kind value with
      ⟨hgone, hskipped, -⟩ | ⟨text, hstays, hkind, -, hbare⟩ |
      ⟨hstays, hkind, hblank, -, hbetween⟩
    · rw [hgone, hskipped, if_neg Bool.false_ne_true, List.nil_append,
        meetsInline_rebuildNodes hvisible rest _ hrest]
    · rw [hstays, List.singleton_append, meetsInline_string hkind, hkind, (hbare hvisible).1]
      rfl
    · have hview : (node (.string kind value) before rest outside).isBlankInView = true := by
        rw [isBlankInView, Node.isBlankText, hkind, hblank, hvisible]
        rfl
      have hheld := hhere hview hbetween
      rw [isHeldInline, Bool.and_eq_true] at hheld
      rw [hstays, List.singleton_append, meetsInline_string hkind, hkind, hblank, hheld.2]
      rfl

/-- **All blank text that is left is between inline nodes** if and only if all blank text that stays
is held by such nodes on both sides. -/
theorem isBetweenInline_rebuildNodes_iff : ∀ (ns : List Node) {outside outside' : Surroundings}
    {before before' : List Node},
    outside'.anyTag isPreformattedTag = outside.anyTag isPreformattedTag →
    (outside.anyTag isPreformattedTag = false → meetsInline before' = reachesInline before) →
    ((∀ d ∈ allDescendants outside' before' (rebuildNodes outside before ns) [],
        d.isBlankInView = true → d.isBetweenInline = true) ↔
      HoldsBlanks (allDescendants outside before ns []))
  | [], _, _, _, _, _, _ => by simp [rebuildNodes, allDescendants, HoldsBlanks]
  | .element name attributes children :: rest, outside, outside', before, before', h, hbefore => by
    rw [HoldsBlanks, rebuildNodes, rebuildNode, List.singleton_append,
      forall_mem_allDescendants_cons, forall_mem_allDescendants_cons]
    refine and_congr (by simp [isBlankInView, Node.isBlankText]) (and_congr ?_ ?_)
    · refine isBetweenInline_rebuildNodes_iff children ?_ fun _ => rfl
      exact congrArg (isPreformattedTag (lowerName name) || ·) h
    · refine isBetweenInline_rebuildNodes_iff rest h fun _ => ?_
      rw [reachesInline_element, meetsInline_cons_of_not_isComment rfl]
      rfl
  | .string kind value :: rest, outside, outside', before, before', h, hbefore => by
    rw [HoldsBlanks, forall_mem_allDescendants_string, rebuildNodes]
    rcases rebuildNode_string_cases outside before rest kind value with
      ⟨hgone, hskipped, hapart⟩ | ⟨text, hstays, hkind, hsame, hbare⟩ |
      ⟨hstays, hkind, hblank, hvisible, hbetween⟩
    · rw [hgone, List.nil_append, and_iff_right fun hview hbetween =>
        absurd ((hapart hview).symm.trans hbetween) Bool.false_ne_true]
      refine isBetweenInline_rebuildNodes_iff rest h fun hvisible => ?_
      rw [reachesInline_string, hskipped, if_neg Bool.false_ne_true, hbefore hvisible]
    · have hview : ∀ v, v.isBlank = value.isBlank → ∀ bs as o,
          o.anyTag isPreformattedTag = outside.anyTag isPreformattedTag →
          (node (.string kind v) bs as o).isBlankInView = false := by
        intro v hv bs as o ho
        rw [isBlankInView, Node.isBlankText, hkind, hv, ho]
        rcases hhidden : outside.anyTag isPreformattedTag with _ | _
        · rw [(hbare hhidden).1]
          rfl
        · rw [Bool.not_true, Bool.and_false]
      rw [hstays, List.singleton_append, forall_mem_allDescendants_string]
      refine and_congr ?_ (isBetweenInline_rebuildNodes_iff rest h fun hvisible => ?_)
      · simp [hview text hsame _ _ _ h, hview value rfl]
      · rw [meetsInline_string hkind, reachesInline_string, hkind, (hbare hvisible).1]
        rfl
    · have hview : ∀ bs as o, o.anyTag isPreformattedTag = outside.anyTag isPreformattedTag →
          (node (.string kind value) bs as o).isBlankInView = true := by
        intro bs as o ho
        rw [isBlankInView, Node.isBlankText, hkind, hblank, ho, hvisible]
        rfl
      have hhere := hbefore hvisible
      rw [hstays, List.singleton_append, forall_mem_allDescendants_string]
      rcases hreaches : reachesInline before with _ | _
      · -- with no inline node before it, the text is at fault on both sides
        rw [hreaches] at hhere
        simp [hview, h, isBetweenInline, isHeldInline, hbetween, hhere, hreaches]
      · rw [hreaches] at hhere
        refine (and_congr_right' (isBetweenInline_rebuildNodes_iff rest h fun _ => ?_)).trans ?_
        · rw [meetsInline_string hkind, reachesInline_string, hkind, hblank, hreaches]
          rfl
        · refine and_congr_left fun hholds => ?_
          have hafter := meetsInline_rebuildNodes hvisible rest _ hholds
          simp [hview, h, isBetweenInline, isHeldInline, hbetween, hhere, hreaches, hafter]

end Place

/-! ## Removing blank nodes once more -/

open Place

/-- **Removing blank nodes once more** changes nothing if and only if every blank text that stays is
held by inline nodes: on both sides, past comments and blank text, is text or an element within a
line. And then, and only then, all blank text that is left is between inline nodes. -/
theorem removeBlank_removeBlank_eq_iff (p : Place) :
    ((p.withNodes p.removeBlank).removeBlank = p.removeBlank ↔ HoldsBlanks p.descendants) ∧
    ((∀ d ∈ (p.withNodes p.removeBlank).descendants,
        d.isBlankInView = true → d.isBetweenInline = true) ↔ HoldsBlanks p.descendants) := by
  have hbetween : (∀ d ∈ (p.withNodes p.removeBlank).descendants,
      d.isBlankInView = true → d.isBetweenInline = true) ↔ HoldsBlanks p.descendants := by
    rw [descendants, inside_withNodes, nodes_withNodes, removeBlank_eq_rebuildNodes]
    exact isBetweenInline_rebuildNodes_iff p.nodes rfl fun _ => rfl
  refine ⟨?_, hbetween⟩
  have hfates : (p.withNodes p.removeBlank).removeBlank = p.removeBlank ↔
      ∀ d ∈ (p.withNodes p.removeBlank).descendants, d.fate = .keep := by
    rw [descendants, removeBlank_eq_rebuildNodes (p.withNodes _), inside_withNodes, nodes_withNodes]
    exact rebuildNodes_eq_self_iff _ _ _
  rw [hfates, ← hbetween]
  refine forall₂_congr fun d hd => IsBare.fate_eq_keep_iff ?_
  rw [descendants, inside_withNodes, nodes_withNodes, removeBlank_eq_rebuildNodes] at hd
  exact isBare_of_mem_rebuildNodes p.nodes [] [] rfl d hd

/-- Two paragraphs with three blank texts between them that comments keep apart. -/
def commentsBetweenParagraphs : List Node := [
  .element "p" [] [.string .plain ['a']],
  .string .plain [' '],
  .string .comment ['c'],
  .string .plain [' '],
  .string .comment ['d'],
  .string .plain [' '],
  .element "p" [] [.string .plain ['b']]]

/-- **A blank text stays for the sake of others that go**, and goes with the next pass. -/
theorem removeBlank_removeBlank_commentsBetweenParagraphs_ne :
    ((Place.document commentsBetweenParagraphs).withNodes
        (Place.document commentsBetweenParagraphs).removeBlank).removeBlank ≠
      (Place.document commentsBetweenParagraphs).removeBlank := by
  simp only [Place.removeBlank_eq_rebuildNodes]
  exact fun h => absurd (congrArg List.length h) (by decide)

end HtmlMarkdown
