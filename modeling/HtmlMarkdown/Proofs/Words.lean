import Mathlib
import HtmlMarkdown.Proofs.Conversion
import HtmlMarkdown.Proofs.Segment

/-!
# Words

White space between two words may stand in a text of its own. Whether removing blank nodes leaves it
there is judged by the siblings of that text only.

* `Text.HasOnlySpaces`, `hasOnlySpaces_metTexts`: the spacing that a collapse leaves;
* `blankWords_append_cons`: words are cut at every white space;
* `textMarks`, `wordsOf`: the text outside preformatted text and code, and its words stretch by
  stretch;
* `wordsOf_rebuildNodes`: the words of nodes between any other nodes;
* **`wordsOf_removeBlank`**: when removing blank nodes keeps all words apart;
* `wordsOf_removeBlank_openingSpace`: a space that opens an element within a line is lost.
-/

namespace HtmlMarkdown

/-! ## Spacing after a collapse -/

/-- The only spacing in a text is spaces. -/
def Text.HasOnlySpaces (t : Text) : Prop := ∀ c ∈ t, isSpacing c = true → c = ' '

theorem Text.HasOnlySpaces.of_sublist {s t : Text} (ht : t.HasOnlySpaces) (h : s.Sublist t) :
    s.HasOnlySpaces :=
  fun c hc => ht c (h.subset hc)

theorem hasOnlySpaces_squeezeAfter (isInRun : Bool) (t : Text) :
    (squeezeAfter isInRun t).HasOnlySpaces := by
  induction t generalizing isInRun with
  | nil => exact fun c hc => absurd hc List.not_mem_nil
  | cons d t ih =>
    rw [squeezeAfter]
    split
    · split
      · exact ih true
      · rw [Text.HasOnlySpaces, List.forall_mem_cons]
        exact ⟨fun _ => rfl, ih true⟩
    · next hd =>
      rw [Text.HasOnlySpaces, List.forall_mem_cons]
      exact ⟨fun hspacing => absurd hspacing hd, ih false⟩

/-- **The only spacing that a collapse leaves outside preformatted text is spaces.** -/
theorem hasOnlySpaces_metTexts (block pre : String → Bool) (ns : List Node) :
    ∀ t ∈ metTexts pre (collapseNodes block pre ns), t.HasOnlySpaces := by
  intro t ht
  rw [collapseNodes, metTexts_resettle pre ns (lighter_settledTexts block pre ns).length_eq] at ht
  exact forall_mem_settledTexts (fun t h => h.of_sublist (sublist_trimEnd _ t))
    (fun t h => h.of_sublist (List.sublist_cons_self ' ' t))
    (fun value _ => hasOnlySpaces_squeezeAfter false value) t (List.mem_filter.mp ht).1

/-- The break at the head of a text after a collapse can only be a form feed. -/
theorem dropBreaks_of_hasOnlySpaces {t : Text} (h : t.HasOnlySpaces)
    (hhead : t.head? ≠ some (Char.ofNat 0x0C)) : dropBreaks t = t := by
  have hbreak : ∀ c ∈ t, isLineBreak c = false := by
    intro c hc
    by_contra hbreak
    rw [Bool.not_eq_false, isLineBreak, Bool.or_eq_true, beq_iff_eq, beq_iff_eq] at hbreak
    rcases hbreak with rfl | rfl
    · exact absurd (h _ hc (by decide)) (by decide)
    · exact absurd (h _ hc (by decide)) (by decide)
  have hstart : dropHeadBreak t = t := by
    rcases t with _ | ⟨c, t⟩
    · rfl
    · rw [dropHeadBreak, if_neg]
      have hc := hbreak c List.mem_cons_self
      rw [isLineBreak, Bool.or_eq_false_iff] at hc
      rw [isHeadBreak, hc.1, hc.2, Bool.false_or, Bool.false_or, Bool.or_eq_true, beq_iff_eq,
        beq_iff_eq]
      rintro (rfl | rfl)
      · exact absurd (h _ List.mem_cons_self (by decide)) (by decide)
      · exact hhead rfl
  rw [dropBreaks, hstart, dropTailBreak, if_neg]
  rw [List.any_eq_true]
  rintro ⟨c, hc, hline⟩
  rw [hbreak c (List.mem_reverse.mp ((List.takeWhile_sublist _).subset hc))] at hline
  cases hline

/-! ## Words of a text -/

namespace Text

theorem split_eq_splitOnP (p : Char → Bool) (t : Text) : split p t = t.splitOnP p := by
  induction t with
  | nil => rfl
  | cons c t ih =>
    rw [split, List.splitOnP_cons_eq_if_modifyHead, ih]
    split
    · rfl
    · obtain ⟨part, parts, hparts⟩ := List.exists_cons_of_ne_nil (List.splitOnP_ne_nil p t)
      rw [hparts]
      rfl

/-- **Words are cut at every white space.** -/
theorem blankWords_append_cons (s : Text) {c : Char} (hc : HtmlMarkdown.isBlank c = true)
    (t : Text) : blankWords (s ++ c :: t) = blankWords s ++ blankWords t := by
  rw [blankWords, blankWords, blankWords, split_eq_splitOnP, split_eq_splitOnP, split_eq_splitOnP,
    List.splitOnP_append_cons s t hc, List.filter_append]

theorem blankWords_blank_append {run : Text} (hrun : run.isBlank = true) (t : Text) :
    blankWords (run ++ t) = blankWords t := by
  induction run with
  | nil => rfl
  | cons c run ih =>
    rw [Text.isBlank, List.all_cons, Bool.and_eq_true] at hrun
    exact (blankWords_append_cons [] hrun.1 (run ++ t)).trans (ih hrun.2)

theorem blankWords_append_blank {run : Text} (hrun : run.isBlank = true) (t : Text) :
    blankWords (t ++ run) = blankWords t := by
  rcases run with _ | ⟨c, run⟩
  · rw [List.append_nil]
  · rw [Text.isBlank, List.all_cons, Bool.and_eq_true] at hrun
    have hrest : blankWords run = [] := by
      have happend := blankWords_blank_append hrun.2 []
      rwa [List.append_nil] at happend
    rw [blankWords_append_cons t hrun.1, hrest, List.append_nil]

end Text

/-! ## Words of nodes -/

/-- The text on the two sides of an element with this tag is not in one line, or something that is no
text stands between. -/
def cutsText (tag : String) : Bool := isBlockTag tag || isVoidTag tag

mutual

/-- The characters of the text of a node that lies outside preformatted text and code, and the places
where it is cut; `isHidden` says that the node lies inside. -/
def textMarksOf (isHidden : Bool) : Node → List Mark
  | .element name _ children =>
    let inside := textMarks (isHidden || isPreformattedTag (lowerName name)) children
    if cutsText (lowerName name) then .lineEnd :: (inside ++ [.lineEnd]) else inside
  | .string kind value => if kind.isText && !isHidden then value.map .char else []

/-- The characters of the text of nodes, and the places where it is cut. -/
def textMarks (isHidden : Bool) : List Node → List Mark
  | [] => []
  | n :: rest => textMarksOf isHidden n ++ textMarks isHidden rest

end

/-- The words of each stretch of text that is not cut. -/
def wordsOf (ms : List Mark) : List (List Text) :=
  (ms.splitOn .lineEnd).map fun stretch => Text.blankWords (stretch.filterMap Mark.char?)

/-- The words of nodes, stretch by stretch. -/
def wordsIn (outside : Surroundings) (ns : List Node) : List (List Text) :=
  wordsOf (textMarks (outside.anyTag isPreformattedTag) ns)

theorem wordsOf_append_lineEnd (u v : List Mark) :
    wordsOf (u ++ .lineEnd :: v) = wordsOf u ++ wordsOf v := by
  have hcut : (u ++ .lineEnd :: v).splitOnP (fun m => m == Mark.lineEnd) =
      u.splitOnP (fun m => m == Mark.lineEnd) ++ v.splitOnP (fun m => m == Mark.lineEnd) :=
    List.splitOnP_append_cons u v rfl
  rw [wordsOf, wordsOf, wordsOf, List.splitOn, List.splitOn, List.splitOn, hcut, List.map_append]

theorem wordsOf_map_char (t : Text) : wordsOf (t.map .char) = [Text.blankWords t] := by
  rw [wordsOf, splitOn_map_char, List.map_singleton, filterMap_char?]

section Blank

variable {run : Text} (hrun : run.isBlank = true)

include hrun

theorem wordsOf_blank_append (v : List Mark) : wordsOf (run.map .char ++ v) = wordsOf v := by
  induction v using inductionOnLines with
  | last t =>
    rw [← List.map_append, wordsOf_map_char, wordsOf_map_char, Text.blankWords_blank_append hrun]
  | line t ms =>
    rw [← List.append_assoc, ← List.map_append, wordsOf_append_lineEnd, wordsOf_append_lineEnd,
      wordsOf_map_char, wordsOf_map_char, Text.blankWords_blank_append hrun]

theorem wordsOf_append_blank (u : List Mark) : wordsOf (u ++ run.map .char) = wordsOf u := by
  induction u using inductionOnLines with
  | last t =>
    rw [← List.map_append, wordsOf_map_char, wordsOf_map_char, Text.blankWords_append_blank hrun]
  | line t ms ih =>
    rw [List.append_assoc, List.cons_append, wordsOf_append_lineEnd, wordsOf_append_lineEnd, ih]

/-- **White space beside a cut does not count**, nor does any at the start or at the end. -/
theorem wordsOf_insert_blank {u v : List Mark}
    (hcut : (∀ m ∈ u.getLast?, m = .lineEnd) ∨ ∀ m ∈ v.head?, m = .lineEnd) :
    wordsOf (u ++ (run.map .char ++ v)) = wordsOf (u ++ v) := by
  rcases hcut with hu | hv
  · rcases List.eq_nil_or_concat u with rfl | ⟨u, m, rfl⟩
    · exact wordsOf_blank_append hrun v
    · obtain rfl : m = .lineEnd := hu m (by simp)
      rw [List.concat_eq_append, List.append_assoc, List.append_assoc, List.singleton_append,
        List.singleton_append, wordsOf_append_lineEnd, wordsOf_append_lineEnd,
        wordsOf_blank_append hrun]
  · rcases v with _ | ⟨m, v⟩
    · rw [List.append_nil, List.append_nil, wordsOf_append_blank hrun]
    · obtain rfl : m = .lineEnd := hv m rfl
      rw [← List.append_assoc, wordsOf_append_lineEnd, wordsOf_append_lineEnd,
        wordsOf_append_blank hrun]

end Blank

/-! ## Nodes that keep words apart -/

/-- The first of some nodes that is no comment is no blank text. -/
def opensFirm (ns : List Node) : Bool :=
  (ns.dropWhile Node.isComment).head?.all fun n => !n.isBlankText

/-- No blank text opens or closes the content of an element within a line, and no other text begins
with a form feed. -/
def Node.KeepsWords : Node → Prop
  | .element name _ children =>
    cutsText (lowerName name) = false → isPreformattedTag (lowerName name) = false →
      opensFirm children = true ∧ opensFirm children.reverse = true
  | .string kind value =>
    kind.isText = true → value.isBlank = false → value.head? ≠ some (Char.ofNat 0x0C)

instance : DecidablePred Node.KeepsWords
  | .element name _ children => inferInstanceAs (Decidable
      (cutsText (lowerName name) = false → isPreformattedTag (lowerName name) = false →
        opensFirm children = true ∧ opensFirm children.reverse = true))
  | .string kind value => inferInstanceAs (Decidable
      (kind.isText = true → value.isBlank = false → value.head? ≠ some (Char.ofNat 0x0C)))

theorem opensFirm_append_of_opensFirm {a b : List Node} (h : opensFirm (a ++ b) = true) :
    opensFirm a = true := by
  rw [opensFirm] at h ⊢
  rw [List.dropWhile_append] at h
  split at h
  · next ha =>
    rw [List.isEmpty_iff.mp ha]
    rfl
  · next ha =>
    obtain ⟨n, rest, hsome⟩ := List.exists_cons_of_ne_nil (mt List.isEmpty_iff.mpr ha)
    rw [hsome] at h ⊢
    exact h

theorem opensFirm_cons_of_isComment {n : Node} (hn : n.isComment = true) (rest : List Node) :
    opensFirm (n :: rest) = opensFirm rest := by
  rw [opensFirm, List.dropWhile_cons_of_pos hn, opensFirm]

/-! ## Removing blank nodes -/

theorem textMarks_append (isHidden : Bool) (a b : List Node) :
    textMarks isHidden (a ++ b) = textMarks isHidden a ++ textMarks isHidden b := by
  induction a with
  | nil => rfl
  | cons n a ih => rw [List.cons_append, textMarks, textMarks, ih, List.append_assoc]

theorem textMarks_singleton (isHidden : Bool) (n : Node) :
    textMarks isHidden [n] = textMarksOf isHidden n := by
  rw [textMarks, textMarks, List.append_nil]

mutual

theorem textMarks_rebuildNode_of_isHidden (outside : Surroundings) (before after : List Node) :
    ∀ n : Node, textMarks true (Place.rebuildNode outside before after n) = textMarksOf true n
  | .element name attributes children => by
    rw [Place.rebuildNode, textMarks_singleton, textMarksOf, textMarksOf, Bool.true_or,
      textMarks_rebuildNodes_of_isHidden _ [] children]
  | .string kind value => by
    rw [Place.rebuildNode]
    rcases Place.fate (.node (.string kind value) before after outside) <;>
      simp [textMarks, textMarksOf]

/-- Inside preformatted text and code only the cuts count. -/
theorem textMarks_rebuildNodes_of_isHidden (outside : Surroundings) (before : List Node) :
    ∀ ns : List Node, textMarks true (Place.rebuildNodes outside before ns) = textMarks true ns
  | [] => rfl
  | n :: rest => by
    rw [Place.rebuildNodes, textMarks_append, textMarks, textMarks_rebuildNode_of_isHidden,
      textMarks_rebuildNodes_of_isHidden]

end

theorem isComment_string (kind : StringKind) (value : Text) :
    (Node.string kind value).isComment = !kind.isText := rfl

/-- An element that is not within a line is a block. -/
theorem isBlockTag_of_not_isInline {name : String} {attributes : Attributes} {children : List Node}
    (h : (Node.element name attributes children).isInline = false) :
    isBlockTag (lowerName name) = true := by
  simpa [Node.isInline, Node.isText, Node.isElement, Node.isBlock, Node.tagName] using h

theorem textMarksOf_of_isBlockTag {name : String} (h : isBlockTag (lowerName name) = true)
    (attributes : Attributes) (children : List Node) (isHidden : Bool) :
    ∃ inside, textMarksOf isHidden (.element name attributes children) =
      .lineEnd :: (inside ++ [.lineEnd]) := by
  rw [textMarksOf, cutsText, h, Bool.true_or]
  exact ⟨_, rfl⟩

/-- Where nothing within a line follows, the text is cut. -/
theorem head?_textMarks_of_not_meetsInline {ns : List Node} {v : List Mark}
    (h : meetsInline ns = false)
    (hend : (∀ n ∈ ns, n.isComment = true) → ∀ m ∈ v.head?, m = .lineEnd) :
    ∀ m ∈ (textMarks false ns ++ v).head?, m = .lineEnd := by
  induction ns with
  | nil => exact hend fun n hn => absurd hn List.not_mem_nil
  | cons n ns ih =>
    rcases hn : n.isComment with _ | _
    · rw [meetsInline_cons_of_not_isComment hn] at h
      cases n with
      | element name attributes children =>
        obtain ⟨inside, hmarks⟩ :=
          textMarksOf_of_isBlockTag (isBlockTag_of_not_isInline h) attributes children false
        rw [textMarks, hmarks]
        exact fun m hm => (Option.some.inj hm).symm
      | string kind value =>
        rw [isComment_string, Bool.not_eq_false'] at hn
        rw [Node.isInline, Node.isText, hn] at h
        cases h
    · rw [meetsInline_cons_of_isComment hn] at h
      have hnone : textMarksOf false n = [] := by
        cases n with
        | element => cases hn
        | string kind value =>
          rw [isComment_string, Bool.not_eq_true'] at hn
          rw [textMarksOf, hn]
          rfl
      rw [textMarks, hnone]
      exact ih h fun hall => hend (List.forall_mem_cons.mpr ⟨hn, hall⟩)

/-- A node that is not within a line cuts the text. -/
theorem getLast?_textMarks_rebuildNode {n : Node} (hn : n.isComment = false)
    (hinline : n.isInline = false) (outside : Surroundings) (before after : List Node)
    (u : List Mark) :
    ∀ m ∈ (u ++ textMarks false (Place.rebuildNode outside before after n)).getLast?,
      m = .lineEnd := by
  cases n with
  | element name attributes children =>
    obtain ⟨inside, hmarks⟩ :=
      textMarksOf_of_isBlockTag (isBlockTag_of_not_isInline hinline) attributes
        (Place.rebuildNodes (.element name attributes before after outside) [] children) false
    rw [Place.rebuildNode, textMarks_singleton, hmarks, ← List.cons_append, ← List.append_assoc,
      List.getLast?_concat]
    exact fun m hm => (Option.some.inj hm).symm
  | string kind value =>
    rw [isComment_string, Bool.not_eq_false'] at hn
    rw [Node.isInline, Node.isText, hn] at hinline
    cases hinline

/-- A string between other marks keeps the words apart that it separates: if it is blank and goes,
the text is cut there. -/
theorem wordsOf_rebuildNode_string {kind : StringKind} {value : Text} {outside : Surroundings}
    {before after : List Node} {u v : List Mark}
    (hvisible : outside.anyTag isPreformattedTag = false)
    (hkeeps : (Node.string kind value).KeepsWords)
    (hspaces : ∀ t ∈ metTextsOf isPreTag (.string kind value), t.HasOnlySpaces)
    (hcut : (Node.string kind value).isBlankText = true →
      (meetsInline before && meetsInline after) = false →
      (∀ m ∈ u.getLast?, m = .lineEnd) ∨ ∀ m ∈ v.head?, m = .lineEnd) :
    wordsOf (u ++ (textMarks false (Place.rebuildNode outside before after (.string kind value)) ++
        v)) = wordsOf (u ++ (textMarksOf false (.string kind value) ++ v)) := by
  rw [Place.rebuildNode, Place.fate, hvisible]
  rw [Node.isBlankText] at hcut
  rcases hkind : kind.isText with _ | _
  · simp [textMarks, textMarksOf, hkind]
  · rcases hblank : value.isBlank with _ | _
    · have honly : value.HasOnlySpaces := by simpa [metTextsOf, hkind] using hspaces
      have hsame := dropBreaks_of_hasOnlySpaces honly (hkeeps hkind hblank)
      simp [textMarks_singleton, hsame]
    · rcases hmeets : meetsInline before && meetsInline after with _ | _
      · have hinsert := wordsOf_insert_blank hblank (hcut (by simp [hkind, hblank]) hmeets)
        simpa [textMarks, textMarksOf, hkind] using hinsert.symm
      · simp [textMarks_singleton]

mutual

/-- A node between other marks keeps the words apart, if it is no blank text or stays or the text is
cut there. -/
theorem wordsOf_rebuildNode (outside : Surroundings) (before after : List Node)
    (hvisible : outside.anyTag isPreformattedTag = false) : ∀ n : Node,
    n.Everywhere Node.KeepsWords → (∀ t ∈ metTextsOf isPreTag n, t.HasOnlySpaces) →
    ∀ u v : List Mark,
    (n.isBlankText = true → (meetsInline before && meetsInline after) = false →
      (∀ m ∈ u.getLast?, m = .lineEnd) ∨ ∀ m ∈ v.head?, m = .lineEnd) →
    wordsOf (u ++ (textMarks false (Place.rebuildNode outside before after n) ++ v)) =
      wordsOf (u ++ (textMarksOf false n ++ v))
  | .string kind value, hkeeps, hspaces, u, v, hcut =>
    wordsOf_rebuildNode_string hvisible hkeeps hspaces hcut
  | .element name attributes children, hkeeps, hspaces, u, v, _ => by
    rw [Place.rebuildNode, textMarks_singleton, textMarksOf, textMarksOf, Bool.false_or]
    rcases hpre : isPreformattedTag (lowerName name) with _ | _
    · have hvisible' : (Surroundings.element name attributes before after outside).anyTag
          isPreformattedTag = false := by
        rw [Surroundings.anyTag, hpre, hvisible, Bool.or_false]
      have hinside : ∀ t ∈ metTexts isPreTag children, t.HasOnlySpaces := by
        rw [isPreformattedTag, Bool.or_eq_false_iff] at hpre
        have hnotPre : isPreTag (lowerName name) = false := hpre.1
        rwa [metTextsOf, hnotPre, if_neg Bool.false_ne_true] at hspaces
      have hchildren := wordsOf_rebuildNodes _ [] hvisible' children hkeeps.2 hinside
      rcases hcut : cutsText (lowerName name) with _ | _
      · obtain ⟨hopens, hcloses⟩ := hkeeps.1 hcut hpre
        exact hchildren u v (fun _ => Or.inr hopens) (Or.inr hcloses)
      · have hbetween := hchildren (u ++ [.lineEnd]) (.lineEnd :: v) (fun _ => Or.inl (by simp))
          (Or.inl (by simp))
        simpa using hbetween
    · rw [textMarks_rebuildNodes_of_isHidden]

/-- **Removing blank nodes keeps the words of nodes apart**, between any other marks: if nothing
within a line comes before them, the text is cut there or they open with no blank text; and at their
end it is so too. -/
theorem wordsOf_rebuildNodes (outside : Surroundings) (before : List Node)
    (hvisible : outside.anyTag isPreformattedTag = false) : ∀ ns : List Node,
    Everywhere Node.KeepsWords ns → (∀ t ∈ metTexts isPreTag ns, t.HasOnlySpaces) →
    ∀ u v : List Mark,
    (meetsInline before = false → (∀ m ∈ u.getLast?, m = .lineEnd) ∨ opensFirm ns = true) →
    ((∀ m ∈ v.head?, m = .lineEnd) ∨ opensFirm ns.reverse = true) →
    wordsOf (u ++ (textMarks false (Place.rebuildNodes outside before ns) ++ v)) =
      wordsOf (u ++ (textMarks false ns ++ v))
  | [], _, _, _, _, _, _ => rfl
  | n :: rest, hkeeps, hspaces, u, v, hleft, hright => by
    rw [metTexts, List.forall_mem_append] at hspaces
    rw [List.reverse_cons] at hright
    have hhere := wordsOf_rebuildNode outside before rest hvisible n hkeeps.1 hspaces.1 u
      (textMarks false rest ++ v) fun hblank hmeets => ?_
    · have hrest := wordsOf_rebuildNodes outside (n :: before) hvisible rest hkeeps.2 hspaces.2
        (u ++ textMarks false (Place.rebuildNode outside before rest n)) v (fun hmeets => ?_)
        (hright.imp_right opensFirm_append_of_opensFirm)
      · rw [List.append_assoc, List.append_assoc, hhere] at hrest
        rw [Place.rebuildNodes, textMarks_append, textMarks, List.append_assoc, hrest,
          List.append_assoc]
      · rcases hn : n.isComment with _ | _
        · rw [meetsInline_cons_of_not_isComment hn] at hmeets
          exact Or.inl (getLast?_textMarks_rebuildNode hn hmeets outside before rest u)
        · rw [meetsInline_cons_of_isComment hn] at hmeets
          rw [opensFirm_cons_of_isComment hn] at hleft
          cases n with
          | element => cases hn
          | string kind value =>
            rw [isComment_string, Bool.not_eq_true'] at hn
            simpa [Place.rebuildNode, Place.fate, hn, textMarks] using hleft hmeets
    · -- a blank text that goes is neither the first nor the last one within a line
      have hn : n.isComment = false := by
        cases n with
        | element => rfl
        | string kind value =>
          rw [Node.isBlankText, Bool.and_eq_true] at hblank
          rw [isComment_string, hblank.1, Bool.not_true]
      rcases hbefore : meetsInline before with _ | _
      · refine Or.inl ((hleft hbefore).resolve_right ?_)
        rw [opensFirm, List.dropWhile_cons_of_neg (by simp [hn]), List.head?_cons, Option.all_some,
          hblank]
        decide
      · rw [hbefore, Bool.true_and] at hmeets
        refine Or.inr (head?_textMarks_of_not_meetsInline hmeets fun hall => ?_)
        refine hright.resolve_right ?_
        have hdrop : rest.reverse.dropWhile Node.isComment = [] :=
          List.dropWhile_eq_nil_iff.mpr fun m hm => hall m (List.mem_reverse.mp hm)
        rw [opensFirm, List.dropWhile_append, hdrop, List.isEmpty_nil, if_pos rfl,
          List.dropWhile_cons_of_neg (by simp [hn]), List.head?_cons, Option.all_some, hblank]
        decide

end

theorem isPreTag_of_not_anyTag {p : Place} (h : p.inside.anyTag isPreformattedTag = false) :
    isPreTag p.tagName = false := by
  rcases p with _ | ⟨⟨name, attributes, children⟩ | _, before, after, outside⟩
  · rfl
  · rw [Place.inside, Surroundings.anyTag, Bool.or_eq_false_iff, isPreformattedTag,
      Bool.or_eq_false_iff] at h
    exact h.1.1
  · rfl

/-- **Removing blank nodes joins no two words** of a collapsed tree, if no blank text opens or closes
the content of an element within a line and no other text begins with a form feed: stretch by stretch
the text outside preformatted text and code has the words that it had. -/
theorem wordsOf_removeBlank {p : Place}
    (hkeeps : Everywhere Node.KeepsWords (p.collapse isBlockTag isPreTag)) :
    wordsIn p.inside (p.withNodes (p.collapse isBlockTag isPreTag)).removeBlank =
      wordsIn p.inside (p.collapse isBlockTag isPreTag) := by
  rw [Place.removeBlank_eq_rebuildNodes, Place.inside_withNodes, Place.nodes_withNodes, wordsIn, wordsIn]
  rcases hvisible : p.inside.anyTag isPreformattedTag with _ | _
  · have hcollapse : p.collapse isBlockTag isPreTag = collapseNodes isBlockTag isPreTag p.nodes := by
      rw [Place.collapse, isPreTag_of_not_anyTag hvisible, if_neg Bool.false_ne_true]
    have hspaces := hasOnlySpaces_metTexts isBlockTag isPreTag p.nodes
    rw [← hcollapse] at hspaces
    have hwords := wordsOf_rebuildNodes p.inside [] hvisible _ hkeeps hspaces [] []
      (fun _ => Or.inl (by simp)) (Or.inl (by simp))
    simpa using hwords
  · rw [textMarks_rebuildNodes_of_isHidden]

/-- Two words with spaces between them, beside emphasis and within it. -/
def spaceBesideEmphasis : List Node := [
  .string .plain ['a'],
  .string .plain [' '],
  .element "b" [] [.element "i" [] [.string .plain ['x']], .string .plain [' ', 'y']]]

theorem wordsOf_removeBlank_spaceBesideEmphasis :
    Everywhere Node.KeepsWords
      ((Place.document spaceBesideEmphasis).collapse isBlockTag isPreTag) ∧
    wordsIn .document ((Place.document spaceBesideEmphasis).withNodes
        ((Place.document spaceBesideEmphasis).collapse isBlockTag isPreTag)).removeBlank =
      [[['a'], ['x'], ['y']]] := by
  have hvoid : Everywhere Scan.VoidEndsLine spaceBesideEmphasis := by decide
  have hcollapsed : (Place.document spaceBesideEmphasis).collapse isBlockTag isPreTag =
      spaceBesideEmphasis := by
    show collapseNodes isBlockTag isPreTag spaceBesideEmphasis = _
    rw [collapseNodes_eq hvoid]
    rfl
  have hkeeps : Everywhere Node.KeepsWords
      ((Place.document spaceBesideEmphasis).collapse isBlockTag isPreTag) := by
    rw [hcollapsed]
    decide
  refine ⟨hkeeps, ?_⟩
  have hwords := wordsOf_removeBlank hkeeps
  rw [Place.inside] at hwords
  rw [hwords, hcollapsed]
  rfl

/-- Two words with a space between them that opens an element within a line. -/
def openingSpace : List Node := [
  .string .plain ['a'],
  .element "b" [] [.string .plain [' '], .element "i" [] [.string .plain ['x']]]]

/-- **A space that opens an element within a line is lost**, and the words beside it are joined. -/
theorem wordsOf_removeBlank_openingSpace :
    (Place.document openingSpace).collapse isBlockTag isPreTag = openingSpace ∧
    wordsIn .document openingSpace = [[['a'], ['x']]] ∧
    wordsIn .document (Place.document openingSpace).removeBlank = [[['a', 'x']]] := by
  have hvoid : Everywhere Scan.VoidEndsLine openingSpace := by decide
  refine ⟨?_, rfl, ?_⟩
  · show collapseNodes isBlockTag isPreTag openingSpace = _
    rw [collapseNodes_eq hvoid]
    rfl
  · rw [Place.removeBlank_eq_rebuildNodes]
    rfl

end HtmlMarkdown
