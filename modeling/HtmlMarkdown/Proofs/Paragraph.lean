import Mathlib
import HtmlMarkdown.Proofs.Block
import HtmlMarkdown.Proofs.Inline
import HtmlMarkdown.Proofs.Root

/-!
# A paragraph of running text

* `isTight_trim_squeeze`, `inkText_trim_squeeze`: a text with its spacing squeezed and its ends
  trimmed;
* `textOf_foldedRoot`: that is what both passes over white space make of the text of a paragraph;
* `BuiltIn.unmarked`: a rule for an element of running text adds nothing but markers;
* `unmarked_contentBelow`: so does the recursion;
* **`unmarked_convert_paragraph`**: so does a conversion.
-/

namespace HtmlMarkdown

/-! ## Squeezed and trimmed texts -/

section Squeezed

variable {t : Text}

theorem tighten_map_char (t : Text) :
    tighten true (t.map Mark.char) = (Text.trim (· == ' ') (squeeze t)).map Mark.char := by
  have h := tighten_append true t []
  rw [List.append_nil, tighten, List.append_nil] at h
  rw [h, isRestBlank, if_pos rfl, dropTrailingSpaces_squeezeAfter]

theorem isTight_trim_squeeze (h : OnlySpacing (t.map Mark.char)) :
    Text.IsTight (Text.trim (· == ' ') (squeeze t)) := by
  constructor
  · have hchain := isChain_tighten h true
    rw [tighten_map_char, List.isChain_map] at hchain
    refine hchain.imp fun a b hab ha hb => ?_
    have hink := hab.1 (congrArg Mark.char ha)
    rw [hb, isInk_space] at hink
    cases hink
  · intro c hc hblank
    have hmem : Mark.char c ∈ tighten true (t.map Mark.char) := by
      rw [tighten_map_char]
      exact List.mem_map_of_mem hc
    exact eq_space_of_mem_tighten h hmem hblank

theorem inkText_trim_squeeze (h : OnlySpacing (t.map Mark.char)) (side : Side) :
    side.InkText (Text.trim (· == ' ') (squeeze t)) := by
  intro c hc
  by_contra hblank
  rw [Bool.not_eq_false] at hblank
  have hspace := (isTight_trim_squeeze h).2 c (Side.mem_of_mem_edge? hc) hblank
  have hedge : (c == ' ') = false := by
    cases side with
    | left =>
      obtain ⟨rest, hrest⟩ := Place.trimEnd_prefix (· == ' ') (Text.trimStart (· == ' ') (squeeze t))
      refine head?_trimStart c (t := squeeze t) (q := (· == ' ')) ?_
      rw [← hrest, List.head?_append, show (Text.trimEnd _ _).head? = some c from hc]
      rfl
    | right => exact getLast?_trimEnd c hc
  rw [hspace] at hedge
  exact absurd hedge (by decide)

end Squeezed

/-! ## Both passes -/

section Passes

variable {name : String} (attributes : Attributes) {children : List Node}

theorem root_paragraph (hname : lowerName name = "p")
    (hchildren : Everywhere Node.IsRunning children) :
    Place.root [.element name attributes children] =
      .document [.element name attributes children] := by
  refine Place.root_of_none ⟨⟨?_, hchildren.imp fun n hn => ?_⟩, trivial⟩
  · rintro rfl
    exact absurd hname (by decide)
  · cases n with
    | element name' attributes' children' =>
      rintro rfl
      exact absurd hn.1 (by decide)
    | string => trivial

theorem isOrdinary_paragraph (hname : lowerName name = "p")
    (hchildren : Everywhere Node.IsRunning children) :
    Everywhere Node.IsOrdinary [.element name attributes children] := by
  refine ⟨⟨⟨?_, fun hvoid => ?_⟩, hchildren.imp fun _ hn => hn.isOrdinary⟩, trivial⟩
  · rw [hname]
    decide
  · rw [hname] at hvoid
    exact absurd hvoid (by decide)

theorem marks_paragraph (hname : lowerName name = "p")
    (hchildren : Everywhere Node.IsRunning children) :
    marks [.element name attributes children] =
      .lineEnd :: ((textOf children).map Mark.char ++ [.lineEnd]) := by
  rw [marks_cons, marks_nil, List.append_nil, marksOf_element, hname, marks_eq_textOf hchildren]
  rfl

/-- A collapse squeezes the text of a paragraph and trims its ends. -/
theorem textOf_collapsedRoot (hname : lowerName name = "p")
    (hchildren : Everywhere Node.IsRunning children) :
    ∃ children', (collapsedRoot [.element name attributes children]).nodes =
        [.element name attributes children'] ∧
      Everywhere Node.IsRunning children' ∧
      textOf children' = Text.trim (· == ' ') (squeeze (textOf children)) := by
  have hroot := root_paragraph attributes hname hchildren
  have hthin := thinned_collapsedRoot [.element name attributes children]
  have hnodes := nodes_collapsedRoot [.element name attributes children]
  rw [hroot, Place.nodes] at hthin hnodes
  have hmarks := marks_collapseNodes (voidEndsLine_of_isOrdinary
    (isOrdinary_paragraph attributes hname hchildren))
  rw [← hnodes, marks_paragraph attributes hname hchildren, tighten, tighten_append] at hmarks
  generalize (collapsedRoot [.element name attributes children]).nodes = ns at hthin hmarks
  -- all that is left of the paragraph is the paragraph with less in it
  rcases hthin with _ | ⟨_, _, hinside, hrest⟩
  rcases hrest with _ | _
  have hrunning := isRunning_of_thinned hinside hchildren
  refine ⟨_, rfl, hrunning, ?_⟩
  rw [marks_paragraph attributes hname hrunning, isRestBlank, if_pos rfl, dropTrailingSpaces_squeezeAfter]
    at hmarks
  have hchars := List.append_cancel_right (List.cons.inj hmarks).2
  exact List.map_injective_iff.mpr (fun _ _ h => Mark.char.inj h) hchars

/-- A node at a side where its siblings' text has ink is no blank text with something in it. -/
theorem mayEnd_of_inkText {side : Side} {n : Node} {ns : List Node} (hn : n ∈ side.edge? ns)
    (h : side.InkText (textOf ns)) : n.mayEnd = true := by
  have hedge : side.InkText n.text := by
    cases side with
    | left =>
      obtain ⟨rest, rfl⟩ := List.head?_eq_some_iff.mp hn
      exact Place.inkText_left_of_prefix (List.prefix_append _ _) h
    | right =>
      obtain ⟨rest, rfl⟩ := List.getLast?_eq_some_iff.mp hn
      rw [textOf_append, textOf_cons, textOf_nil, List.append_nil] at h
      exact Place.inkText_right_of_suffix (List.suffix_append _ _) h
  cases n with
  | element => rfl
  | string kind value =>
    rw [Node.mayEnd, Bool.or_eq_true, List.isEmpty_iff]
    rw [Node.text_string] at hedge ⊢
    rw [Node.isFirm]
    split at hedge
    · next hk =>
      rw [hk, Bool.true_and, if_pos rfl]
      rcases hblank : value.isBlank with _ | _
      · exact Or.inl rfl
      · exact Or.inr (hedge.eq_nil_of_isBlank hblank)
    · next hk => exact Or.inr (if_neg hk)

/-- **Both passes squeeze the text of a paragraph and trim its ends.** -/
theorem textOf_foldedRoot (hname : lowerName name = "p")
    (hchildren : Everywhere Node.IsRunning children) :
    (foldedRoot [.element name attributes children]).inside = .document ∧
    ∃ children', (foldedRoot [.element name attributes children]).nodes =
        [.element name attributes children'] ∧
      Everywhere Node.IsRunning children' ∧
      textOf children' = Text.trim (· == ' ') (squeeze (textOf children)) := by
  have hinside : (foldedRoot [.element name attributes children]).inside = .document := by
    rw [inside_foldedRoot, root_paragraph attributes hname hchildren]
    rfl
  obtain ⟨between, hnodes, hrunning, htext⟩ := textOf_collapsedRoot attributes hname hchildren
  have hspacing := onlySpacing_textOf hchildren
  have hink : ∀ side : Side, side.InkText (textOf between) := fun side => by
    rw [htext]
    exact inkText_trim_squeeze hspacing side
  have hend : ∀ (side : Side) (n? : Option Node), side.edge? between = n? →
      n?.all Node.mayEnd = true := by
    rintro side (_ | n) hn
    · rfl
    · exact mayEnd_of_inkText hn (hink side)
  have hnodes' := nodes_foldedRoot [.element name attributes children]
  rw [← nodes_collapsedRoot, hnodes, Place.rebuildNodes, Place.rebuildNode, Place.rebuildNodes,
    List.append_nil] at hnodes'
  refine ⟨hinside, _, hnodes', isRunning_of_thinned (thinned_rebuildNodes _ [] between) hrunning, ?_⟩
  rw [textOf_rebuildNodes _ [] between hrunning ?_ (Or.inr (hend .left _ rfl)) (hend .right _ rfl),
    htext]
  rw [htext]
  exact (isTight_trim_squeeze hspacing).2

end Passes

/-! ## Rules -/

theorem unmarked_append (s t : Text) : (s ++ t).unmarked = s.unmarked ++ t.unmarked :=
  List.filter_append s t

theorem unmarked_of_not_any {t : Text} (h : t.any isMarker = false) : t.unmarked = t := by
  rw [List.any_eq_false] at h
  exact List.filter_eq_self.mpr fun c hc => by simpa using h c hc

theorem not_isMarker_of_isBlank {c : Char} (h : isBlank c = true) : isMarker c = false := by
  by_contra hmarker
  simp only [Bool.not_eq_false, isMarker, Bool.or_eq_true, beq_iff_eq] at hmarker
  rcases hmarker with ((rfl | rfl) | rfl) | rfl <;> exact absurd h (by decide)

/-- A text is tight if it is without its markers. -/
theorem Text.IsTight.of_unmarked {t : Text} (h : t.unmarked.IsTight) : t.IsTight := by
  constructor
  · induction t with
    | nil => exact List.IsChain.nil
    | cons c t ih =>
      have htail : (Text.unmarked t).IsTight := h.of_infix (by
        rw [← List.singleton_append, unmarked_append]
        exact (List.suffix_append _ _).isInfix)
      refine (ih htail).cons fun d hd hc hspace => ?_
      subst hc hspace
      obtain ⟨rest, rfl⟩ := List.head?_eq_some_iff.mp hd
      exact (List.isChain_cons_cons.mp h.1).1 rfl rfl
  · intro c hc hblank
    refine h.2 c (List.mem_filter.mpr ⟨hc, ?_⟩) hblank
    rw [not_isMarker_of_isBlank hblank, Bool.not_false]

theorem isBlank_unmarked {t : Text} (h : t.isBlank = true) : t.unmarked.isBlank = true := by
  rw [Text.isBlank, List.all_eq_true] at h ⊢
  exact fun c hc => h c (List.mem_filter.mp hc).1

/-- **A built-in rule for an element of running text adds nothing but markers.** -/
theorem BuiltIn.unmarked {p : Place} {content out : Text} {result : Except Error Text}
    (h : BuiltIn p content result) (hresult : result = .ok out) (htag : p.tagName ∈ inlineTags) :
    out.unmarked = content.unmarked := by
  have hline := not_endsLine_of_mem_inlineTags _ htag
  have hvoid : p.isVoid = false := not_isVoidTag_of_mem_inlineTags _ htag
  rcases h.eq_of_not_endsLine hresult hline hvoid with rfl | rfl | rfl | rfl | rfl | ⟨hlink, _⟩
  · rfl
  · simp [Markdown.emphasis, Text.unmarked, isMarker]
  · simp [Markdown.strong, Text.unmarked, isMarker]
  · simp [Markdown.inlineCode, Text.unmarked, isMarker]
  · simp [Gfm.strikethrough, Text.unmarked, isMarker]
  · rw [Place.isLink, Bool.and_eq_true, beq_iff_eq] at hlink
    rw [hlink.1] at htag
    exact absurd htag (by decide)

/-- **An element of running text adds nothing but markers** to a content that is not blank. -/
theorem unmarked_of_convertElement {gfm : Bool} {policy : Policy} {p : Place} {content out : Text}
    (he : p.isElement = true) (htag : p.tagName ∈ inlineTags) (hblank : content.isBlank = false)
    (htight : content.IsTight)
    (h : (Context.builtIn gfm policy).convertElement p content = .ok out) :
    out.unmarked = content.unmarked := by
  rcases convertElement_builtIn he h with ⟨hElided, rfl⟩ | rfl | ⟨_, middle, hrule, rfl⟩
  · rw [Place.isElided, hblank, Bool.and_false] at hElided
    cases hElided
  · rfl
  · calc ((p.flank content).leading ++ middle ++ (p.flank content).trailing).unmarked
        = (p.flank content).leading.unmarked ++ (p.flank content).content.unmarked ++
            (p.flank content).trailing.unmarked := by
          rw [unmarked_append, unmarked_append, hrule.unmarked rfl htag]
      _ = ((p.flank content).leading ++ (p.flank content).content ++
            (p.flank content).trailing).unmarked := by
          rw [unmarked_append, unmarked_append]
      _ = content.unmarked := by rw [Place.flank_append htight]

/-! ## The recursion -/

namespace Place

/-- The text of a place. -/
def text : Place → Text
  | document nodes => textOf nodes
  | node here .. => here.text

theorem textOf_nodes_eq (p : Place) : textOf p.nodes = p.children.flatMap text :=
  eq_flatMap_children (F := fun _ => textOf) p (fun _ => rfl) fun _ _ _ => rfl

end Place

/-- **What the built-in rules make of running text is the text and markers**, if the text is
tight. -/
theorem unmarked_contentBelow {gfm : Bool} {policy : Policy} {p : Place} {content : Text}
    (hp : Everywhere Node.IsRunning p.nodes) (htight : (textOf p.nodes).IsTight)
    (h : (Context.builtIn gfm policy).contentBelow p = .ok content) :
    content.unmarked = textOf p.nodes := by
  induction p using Place.inductionOnChildren generalizing content with
  | step p ih =>
    rw [Place.textOf_nodes_eq]
    refine Context.contentBelow_induction
      (motive := fun ds out => out.unmarked = ds.flatMap Place.text) h rfl
      fun d hd ds out rest hout ihds => ?_
    rw [List.flatMap_cons, unmarked_append, ihds]
    congr 1
    obtain ⟨n, earlier, later, rfl, hnodes⟩ := Place.mem_spread hd
    have hn := everywhere_iff_forall_mem.mp hp n (by rw [hnodes]; simp)
    cases n with
    | string kind value =>
      obtain ⟨rfl, _, hmarker⟩ := hn
      cases hout
      exact unmarked_of_not_any hmarker
    | element name attributes children =>
      have hinside : (textOf children).IsTight := htight.of_infix (by
        rw [hnodes, ← Node.text_element name attributes]
        exact text_infix_textOf)
      obtain ⟨below, hbelow, hout⟩ := (Context.markdownOf_eq_ok_iff _ rfl).mp hout
      have hunmarked : below.unmarked = textOf children := ih _ hd hn.children hinside hbelow
      -- there is ink in the element, so it is not left out
      have hblank : below.isBlank = false := by
        by_contra hblank
        rw [Bool.not_eq_false] at hblank
        have hnone := isBlank_unmarked hblank
        rw [hunmarked, hn.here.2.1] at hnone
        cases hnone
      have htightBelow : below.IsTight := Text.IsTight.of_unmarked (hunmarked ▸ hinside)
      rw [unmarked_of_convertElement (p := .node (.element name attributes children) _ _ _) rfl
        hn.here.1 hblank htightBelow hout, hunmarked]
      rfl

/-! ## Conversions -/

theorem Side.InkText.of_unmarked {side : Side} {t : Text} (h : side.InkText t.unmarked) :
    side.InkText t := by
  intro c hc
  rcases hmarker : isMarker c with _ | _
  · refine h c ?_
    cases side with
    | left =>
      obtain ⟨rest, rfl⟩ := List.head?_eq_some_iff.mp hc
      simp [Side.edge?, Text.unmarked, hmarker]
    | right =>
      obtain ⟨rest, rfl⟩ := List.getLast?_eq_some_iff.mp hc
      simp [Side.edge?, Text.unmarked, hmarker]
  · by_contra hblank
    rw [Bool.not_eq_false] at hblank
    rw [not_isMarker_of_isBlank hblank] at hmarker
    cases hmarker

/-- A line stays as it is when the paragraph that it is gets tidy. -/
theorem normalize_paragraph {content : Text} (htight : content.IsTight)
    (hink : ∀ side : Side, side.InkText content) :
    normalize (if content.isBlank then [] else asBlock content) = content := by
  rcases hblank : content.isBlank with _ | _
  · refine normalize_asBlock (fun hbreak => ?_) hink
    exact absurd (htight.2 _ hbreak (by decide)) (by decide)
  · rw [(hink .left).eq_nil_of_isBlank hblank, if_pos rfl, normalize]
    show limitBreaks (closeBlankLines []) = []
    rw [closeBlankLines_of_not_mem List.not_mem_nil]
    rfl

theorem isConvertible_of_isRunning {n : Node} (h : n.IsRunning) : n.IsConvertible := by
  have hno : ∀ tag : String, tag ∉ inlineTags → tag ≠ "" → n.tagName ≠ tag := by
    rintro tag hnot hempty rfl
    cases n with
    | element => exact hnot h.1
    | string => exact hempty rfl
  exact ⟨fun hinput => absurd hinput (hno _ (by decide) (by decide)),
    fun hrow => absurd hrow (hno _ (by decide) (by decide))⟩

/-- **The Markdown of a paragraph of running text** is its text with one space for every run of
spacing and none at the ends, if the characters that mark elements are left out. So no space is
lost, doubled or invented where an element begins or ends. -/
theorem unmarked_convert_paragraph (gfm : Bool) {name : String} (attributes : Attributes)
    {children : List Node} (hname : lowerName name = "p")
    (hchildren : Everywhere Node.IsRunning children) (s : Progress) :
    ∃ text s', ((Context.builtIn gfm .passthrough).convert
        [.element name attributes children]).run s = .ok text s' ∧
      text.unmarked = Text.trim (· == ' ') (squeeze (textOf children)) := by
  obtain ⟨hinside, between, hnodes, hrunning, htext⟩ := textOf_foldedRoot attributes hname hchildren
  have hspacing := onlySpacing_textOf hchildren
  have htight : (textOf between).IsTight := htext ▸ isTight_trim_squeeze hspacing
  obtain ⟨content, hcontent⟩ := exists_contentBelow
    (p := .node (.element name attributes between) [] [] .document)
    (hrunning.imp fun _ hn => isConvertible_of_isRunning hn) gfm
  have hunmarked : content.unmarked = textOf between :=
    unmarked_contentBelow (p := .node (.element name attributes between) [] [] .document) hrunning
      htight hcontent
  have hfolded : (Context.builtIn gfm .passthrough).contentBelow
      (foldedRoot [.element name attributes children]) =
        .ok (if content.isBlank then [] else asBlock content) := by
    rw [Context.contentBelow_of_nodes_eq hnodes, hinside, Context.markdownOf_eq _ rfl, hcontent]
    exact convertElement_paragraph gfm .passthrough content
      (p := .node (.element name attributes between) [] [] .document) hname
  obtain ⟨s', hrun⟩ := Context.exists_run_convert_iff.mpr ⟨_, hfolded, rfl⟩
  have hkept : normalize (if content.isBlank then [] else asBlock content) = content := by
    refine normalize_paragraph (Text.IsTight.of_unmarked (hunmarked ▸ htight)) fun side => ?_
    refine Side.InkText.of_unmarked ?_
    rw [hunmarked, htext]
    exact inkText_trim_squeeze hspacing side
  rw [hkept] at hrun
  exact ⟨content, s', hrun, hunmarked.trans htext⟩

/-- Text around nested elements, with spacing at their ends. -/
def nestedEmphasis : List Node := [
  .string .plain ['\n', 'a', ' ', ' '],
  .element "strong" [] [
    .string .plain [' ', 'b', '\t'],
    .element "em" [] [.string .plain ['c', ' ']],
    .string .plain [' '],
    .element "code" [] [.string .plain ['d', '\n']]],
  .string .plain [' '],
  .element "s" [] [.string .plain ['e']]]

theorem unmarked_convert_paragraph_nestedEmphasis :
    lowerName "p" = "p" ∧ Everywhere Node.IsRunning nestedEmphasis ∧
    ∃ text s', ((Context.builtIn true .passthrough).convert
        [.element "p" [] nestedEmphasis]).run {} = .ok text s' ∧
      text.unmarked = ['a', ' ', 'b', ' ', 'c', ' ', 'd', ' ', 'e'] := by
  have hname : lowerName "p" = "p" := by decide
  have hrunning : Everywhere Node.IsRunning nestedEmphasis := by decide
  obtain ⟨text, s', hrun, htext⟩ := unmarked_convert_paragraph true [] hname hrunning {}
  exact ⟨hname, hrunning, text, s', hrun, htext⟩

end HtmlMarkdown
