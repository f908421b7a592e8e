import Mathlib
import HtmlMarkdown.Proofs.Phrasing
import HtmlMarkdown.Proofs.Root

/-!
# Line breaks in a paragraph

A line break is a line feed in Markdown, and a line feed at an end of the content of an element
within a line is spacing that is moved outside as a space. So a break stays if it has something to
show on both sides of it in every element around it that a rule marks.

* `CutAtBreak`: nodes cut in two at a line break, together with the elements around it;
* `KeepsBreak`: the parts of an element in which a line break stays;
* **`exists_break_markdownOfNodes`**: the Markdown of nodes has a line feed where they are cut;
* `CutAtBreak.thinned`: both passes over white space leave the cut;
* **`exists_break_convert_paragraph`**: so does a conversion;
* `not_break_convert_brokenStrong`: a break at the start of an element is lost.
-/

namespace HtmlMarkdown

/-! ## Nodes cut in two -/

/-- Nodes cut in two at a line break, which is in neither part: each element around it is cut too,
into two elements that `keeps` allows. -/
inductive CutAtBreak (keeps : Node → Node → Prop) : List Node → List Node → List Node → Prop
  | here {name : String} (attributes : Attributes) (rest : List Node) : lowerName name = "br" →
      CutAtBreak keeps (.element name attributes [] :: rest) [] rest
  | inside (name : String) (attributes : Attributes) {children left right : List Node}
      (rest : List Node) : CutAtBreak keeps children left right →
      keeps (.element name attributes left) (.element name attributes right) →
      CutAtBreak keeps (.element name attributes children :: rest) [.element name attributes left]
        (.element name attributes right :: rest)
  | later (n : Node) {rest left right : List Node} : CutAtBreak keeps rest left right →
      CutAtBreak keeps (n :: rest) (n :: left) right

/-- Two parts of an element in which a line break between them stays: the element is not left out
for having nothing to show, and if a rule marks it, then both parts show something. -/
def KeepsBreak (gfm : Bool) (before after : Node) : Prop :=
  (before.tagName = "a" ∨ ¬ Everywhere Node.IsSilent before.children ∨
      ¬ Everywhere Node.IsSilent after.children) ∧
    (before.isMarked gfm = true → ¬ Everywhere Node.IsSilent before.children ∧
      ¬ Everywhere Node.IsSilent after.children)

instance (gfm : Bool) (before after : Node) : Decidable (KeepsBreak gfm before after) :=
  inferInstanceAs (Decidable (_ ∧ _))

/-! ## Markdown -/

theorem Renders.ne_nil {extra : Char → Prop} {ns : List Node} {s : Text} (h : Renders extra ns s)
    (hns : ¬ Everywhere Node.IsSilent ns) : s ≠ [] := mt h.silent_of_eq_nil hns

section Recursion

variable {extra : Char → Prop} (hmarks : ∀ c ∈ phrasingMarks, extra c) {gfm : Bool}
  {policy : Policy}

include hmarks

/-- **The Markdown of nodes has a line feed where they are cut**, between the ink of both parts. -/
theorem exists_break_markdownOfNodes {ns left right : List Node}
    (hcut : CutAtBreak (KeepsBreak gfm) ns left right)
    (hns : Everywhere (fun n => n.IsPhrasing ∧ n.Adds extra) ns) (outside : Surroundings)
    (before : List Node) {out : Text}
    (hout : (Context.builtIn gfm policy).markdownOfNodes outside before ns = .ok out) :
    ∃ s t, out.HasBreakBetween s t ∧ Renders extra left s ∧ Renders extra right t := by
  induction hcut generalizing outside before out with
  | @here name attributes rest htag =>
    obtain ⟨here, others, hhere, hothers, rfl⟩ := Context.markdownOfNodes_cons_eq_ok_iff.mp hout
    have hline := convertElement_lineBreak
      (p := .node (.element name attributes []) before rest outside) htag gfm policy
    rw [Context.markdownOfNode_element _ rfl, hline, Except.ok.injEq] at hhere
    have hbreak : here.HasBreakBetween [] [] := by
      rw [← hhere]
      cases gfm
      · exact ⟨[' ', ' '], [], rfl, by decide, rfl⟩
      · exact ⟨[], [], rfl, rfl, rfl⟩
    exact ⟨[], _, hbreak.append_right others, .nil,
      renders_markdownOfNodes hmarks outside _ hns.2 hothers⟩
  | @inside name attributes children left right rest hcut hkeeps ih =>
    obtain ⟨here, others, hhere, hothers, rfl⟩ := Context.markdownOfNodes_cons_eq_ok_iff.mp hout
    obtain ⟨content, hcontent, hhere⟩ := (Context.markdownOf_eq_ok_iff _
      (p := .node (.element name attributes children) before rest outside) rfl).mp hhere
    obtain ⟨s, t, hbreak, hleft, hright⟩ := ih hns.1.2 _ _ hcontent
    have hvoid : isVoidTag (lowerName name) = false := Bool.eq_false_iff.mpr fun hvoid => by
      -- an element that cannot hold content has nothing to be cut
      rw [(hns.1.1.1.2 hvoid).2] at hcut
      cases hcut
    obtain ⟨before', after', hframe, hhere⟩ := exists_break_convertElement hmarks hns.1.1.2 rfl
      (Node.IsPhrasing.endsLine_eq_false hns.1.1.1 hvoid) hvoid hbreak
      (hkeeps.1.imp_right (Or.imp hleft.ne_nil hright.ne_nil))
      (fun hmarked => (hkeeps.2 hmarked).imp hleft.ne_nil hright.ne_nil) hhere
    have hbefore := hleft.element name attributes before' [] hframe.left_extra (by simp)
      fun hlink => Or.inl (hframe.left_ne_nil hlink)
    have hafter := hright.element name attributes [] after' (by simp) hframe.right_extra
      fun hlink => Or.inr (hframe.right_ne_nil hlink)
    rw [List.append_nil] at hbefore
    exact ⟨_, _, hhere.append_right others, hbefore,
      hafter.append (renders_markdownOfNodes hmarks outside _ hns.2 hothers)⟩
  | @later n rest left right hcut ih =>
    obtain ⟨here, others, hhere, hothers, rfl⟩ := Context.markdownOfNodes_cons_eq_ok_iff.mp hout
    obtain ⟨s, t, hbreak, hleft, hright⟩ := ih hns.2 _ _ hothers
    exact ⟨_, t, hbreak.append_left here,
      (renders_markdownOfNode hmarks outside before rest hns.1 hhere).append hleft, hright⟩

end Recursion

/-! ## Both passes -/

/-- What shows something still does when white space goes. -/
theorem silent_of_thinned {ns ns' : List Node} (h : Thinned ns ns')
    (hns : Everywhere Node.IsSilent ns') : Everywhere Node.IsSilent ns := by
  induction h with
  | nil => trivial
  | element name attributes _ _ ihc ihr => exact ⟨⟨hns.1.1, ihc hns.1.2⟩, ihr hns.2⟩
  | @keep kind value value' _ _ hv _ ih =>
    have hink := ink_textOf_of_thinned (.keep kind hv .nil)
    simp only [textOf_cons, textOf_nil, List.append_nil] at hink
    exact ⟨hink.symm.trans hns.1, ih hns.2⟩
  | drop kind value hblank _ ih =>
    have hink := ink_textOf_of_thinned (.drop kind value hblank .nil)
    simp only [textOf_cons, textOf_nil, List.append_nil] at hink
    exact ⟨hink.symm, ih hns⟩

theorem KeepsBreak.thinned {gfm : Bool} {name : String} {attributes : Attributes}
    {left left' right right' : List Node} (hleft : Thinned left left')
    (hright : Thinned right right')
    (h : KeepsBreak gfm (.element name attributes left) (.element name attributes right)) :
    KeepsBreak gfm (.element name attributes left') (.element name attributes right') := by
  have hshown := mt (silent_of_thinned hleft)
  have hshown' := mt (silent_of_thinned hright)
  exact ⟨h.1.imp_right (Or.imp hshown hshown'),
    fun hmarked => (h.2 hmarked).imp hshown hshown'⟩

/-- **Nodes are cut where they were** when white space goes. -/
theorem CutAtBreak.thinned {gfm : Bool} {ns ns' left right : List Node}
    (h : CutAtBreak (KeepsBreak gfm) ns left right) (hthin : Thinned ns ns') :
    ∃ left' right', CutAtBreak (KeepsBreak gfm) ns' left' right' ∧ Thinned left left' ∧
      Thinned right right' := by
  induction h generalizing ns' with
  | here attributes rest htag =>
    cases hthin with
    | element _ _ hc hr =>
      cases hc
      exact ⟨[], _, .here attributes _ htag, .nil, hr⟩
  | inside name attributes rest _ hkeeps ih =>
    cases hthin with
    | element _ _ hc hr =>
      obtain ⟨left', right', hcut, hleft, hright⟩ := ih hc
      exact ⟨_, _, .inside name attributes _ hcut (hkeeps.thinned hleft hright),
        .element name attributes hleft .nil, .element name attributes hright hr⟩
  | later n _ ih =>
    cases hthin with
    | element name attributes hc hr =>
      obtain ⟨left', right', hcut, hleft, hright⟩ := ih hr
      exact ⟨_, right', hcut.later _, .element name attributes hc hleft, hright⟩
    | keep kind hv hr =>
      obtain ⟨left', right', hcut, hleft, hright⟩ := ih hr
      exact ⟨_, right', hcut.later _, .keep kind hv hleft, hright⟩
    | drop kind value hblank hr =>
      obtain ⟨left', right', hcut, hleft, hright⟩ := ih hr
      exact ⟨left', right', hcut, .drop kind value hblank hleft, hright⟩

/-! ## Conversions -/

namespace Node.IsPhrasing

variable {n : Node} (h : n.IsPhrasing)

include h

theorem isConvertible : n.IsConvertible := by
  cases n with
  | element name attributes children =>
    refine ⟨fun hinput => ?_, fun hrow => ?_⟩
    · obtain ⟨htag, _⟩ := h.2 (by rw [show lowerName name = "input" from hinput]; decide)
      exact absurd (htag.symm.trans hinput) (by decide)
    · have hblock := h.1
      rw [show lowerName name = "tr" from hrow] at hblock
      exact absurd hblock (by decide)
  | string =>
    exact ⟨fun hinput => absurd hinput (by decide : "" ≠ "input"),
      fun hrow => absurd hrow (by decide : "" ≠ "tr")⟩

theorem isOtherThan_body : n.IsOtherThan "body" := by
  cases n with
  | element name attributes children =>
    rintro rfl
    exact absurd h.1 (by decide)
  | string => trivial

end Node.IsPhrasing

theorem isPhrasing_of_thinned {ns ns' : List Node} (h : Thinned ns ns')
    (hns : Everywhere Node.IsPhrasing ns) : Everywhere Node.IsPhrasing ns' := by
  refine h.everywhere (fun name attributes children children' hthin hn => ?_) (fun _ _ _ _ h => h)
    hns
  refine ⟨hn.1, fun hvoid => ?_⟩
  obtain ⟨htag, rfl⟩ := hn.2 hvoid
  cases hthin
  exact ⟨htag, rfl⟩

section Paragraph

variable {name : String} (attributes : Attributes) {children : List Node}
  (hname : lowerName name = "p") (hchildren : Everywhere Node.IsPhrasing children)

include hname hchildren

theorem root_phrasing : Place.root [.element name attributes children] =
    .document [.element name attributes children] := by
  refine Place.root_of_none ⟨⟨?_, hchildren.imp fun _ hn => hn.isOtherThan_body⟩, trivial⟩
  rintro rfl
  exact absurd hname (by decide)

/-- A paragraph of phrasing is converted to what is left of it when white space goes. -/
theorem exists_run_convert_phrasing (gfm : Bool) (s : Progress) :
    ∃ children' content s', Thinned children children' ∧
      (Context.builtIn gfm .passthrough).contentBelow
        (.node (.element name attributes children') [] [] .document) = .ok content ∧
      ((Context.builtIn gfm .passthrough).convert [.element name attributes children]).run s =
        .ok (normalize (if content.isBlank then [] else asBlock content)) s' := by
  have hroot := root_phrasing attributes hname hchildren
  have hthin := thinned_foldedRoot [.element name attributes children]
  have hinside := inside_foldedRoot [.element name attributes children]
  rw [hroot] at hthin hinside
  rcases hnodes : (foldedRoot [.element name attributes children]).nodes with _ | ⟨n, rest⟩ <;>
    rw [hnodes] at hthin <;> cases hthin
  next children' hchildren' hrest =>
    cases hrest
    obtain ⟨content, hcontent⟩ := exists_contentBelow
      (p := .node (.element name attributes children') [] [] .document)
      ((isPhrasing_of_thinned hchildren' hchildren).imp fun _ hn => hn.isConvertible) gfm
    have hfolded : (Context.builtIn gfm .passthrough).contentBelow
        (foldedRoot [.element name attributes children]) =
          .ok (if content.isBlank then [] else asBlock content) := by
      rw [Context.contentBelow_of_nodes_eq hnodes, hinside]
      exact (Context.markdownOf_eq_ok_iff _ rfl).mpr ⟨content, hcontent,
        convertElement_paragraph gfm .passthrough content hname⟩
    obtain ⟨s', hrun⟩ := Context.exists_run_convert_iff.mpr ⟨_, hfolded, rfl⟩
    exact ⟨children', content, s', hchildren', hcontent, hrun⟩

end Paragraph

/-- A line feed between ink stays when the paragraph around it gets tidy. -/
theorem Text.HasBreakBetween.normalize_paragraph {w s t : Text} (h : w.HasBreakBetween s t)
    (hs : s ≠ []) (ht : t ≠ []) :
    (HtmlMarkdown.normalize (if w.isBlank then [] else asBlock w)).HasBreakBetween s t := by
  have hblank : w.isBlank = false := Bool.eq_false_iff.mpr fun hblank => hs (by
    rw [← ink_eq_nil_iff, h.ink_eq, List.append_eq_nil_iff] at hblank
    exact hblank.1)
  have hbreaks : ink ['\n', '\n'] = [] := by decide
  have hblock : (asBlock w).HasBreakBetween s t := by
    have happend := (h.append_left ['\n', '\n']).append_right ['\n', '\n']
    rwa [hbreaks, List.nil_append, List.append_nil] at happend
  rw [hblank]
  exact (hasBreakBetween_normalize hs ht).mpr hblock

/-- **A line break in a paragraph of phrasing stays a line break** if it has text before it and after
it, and every element around it that a rule marks shows something on both sides of it, and no other
one is left out. The conversion returns a text with a line feed; the ink before the line feed is that
of the text before the break, and the ink after it that of the text after the break, with no
characters added but those that mark elements or write the targets and titles of links. -/
theorem exists_break_convert_paragraph (gfm : Bool) {name : String} (attributes : Attributes)
    {children left right : List Node} {extra : Char → Prop} (hname : lowerName name = "p")
    (hchildren : Everywhere Node.IsPhrasing children)
    (hmarks : ∀ c ∈ phrasingMarks, extra c) (hadds : Everywhere (Node.Adds extra) children)
    (hcut : CutAtBreak (KeepsBreak gfm) children left right)
    (hleft : (textOf left).isBlank = false) (hright : (textOf right).isBlank = false)
    (s : Progress) :
    ∃ text s', ((Context.builtIn gfm .passthrough).convert
        [.element name attributes children]).run s = .ok text s' ∧
      ∃ before after : Text, text = before ++ '\n' :: after ∧
        Woven extra (textOf left).ink before.ink ∧ Woven extra (textOf right).ink after.ink := by
  obtain ⟨children', content, s', hthin, hcontent, hrun⟩ :=
    exists_run_convert_phrasing attributes hname hchildren gfm s
  -- what is left of the paragraph is cut where the paragraph was
  obtain ⟨left', right', hcut', hleft', hright'⟩ := hcut.thinned hthin
  have hall : Everywhere (fun n => n.IsPhrasing ∧ n.Adds extra) children' :=
    (isPhrasing_of_thinned hthin hchildren).and
      (hthin.everywhere (fun _ _ _ _ _ h => h) (fun _ _ _ _ h => h) hadds)
  obtain ⟨before, after, hbreak, hbefore, hafter⟩ :=
    exists_break_markdownOfNodes hmarks hcut' hall _ _ hcontent
  have hwoven := hbefore.woven
  have hwoven' := hafter.woven
  rw [ink_textOf_of_thinned hleft'] at hwoven
  rw [ink_textOf_of_thinned hright'] at hwoven'
  rw [← Text.ink_ne_nil_iff] at hleft hright
  obtain ⟨u, v, htext, rfl, rfl⟩ :=
    hbreak.normalize_paragraph (hwoven.ne_nil hleft) (hwoven'.ne_nil hright)
  exact ⟨_, s', hrun, u, v, htext, hwoven, hwoven'⟩

/-- A line break in nested elements, one of them a link, with text and a link before it. -/
def nestedBreak : List Node := [
  .string .plain ['a', ' '],
  .element "span" [] [
    .element "a" [("href", .text ['u'])] [],
    .element "strong" [] [
      .element "em" [] [.string .plain ['b']],
      .element "br" [] [],
      .string .plain ['\n', 'c']]]]

theorem exists_break_convert_paragraph_nestedBreak :
    Everywhere Node.IsPhrasing nestedBreak ∧
    ∃ text s', ((Context.builtIn true .passthrough).convert
        [.element "p" [] nestedBreak]).run {} = .ok text s' ∧
      ∃ before after : Text, text = before ++ '\n' :: after ∧
        Woven (· ∈ 'u' :: phrasingMarks) ['a', 'b'] before.ink ∧
        Woven (· ∈ 'u' :: phrasingMarks) ['c'] after.ink := by
  have hname : lowerName "p" = "p" := by decide
  have hphrasing : Everywhere Node.IsPhrasing nestedBreak := by decide
  have hadds : Everywhere (Node.Adds (· ∈ 'u' :: phrasingMarks)) nestedBreak := by decide
  have hcut : CutAtBreak (KeepsBreak true) nestedBreak
      [.string .plain ['a', ' '], .element "span" [] [
        .element "a" [("href", .text ['u'])] [],
        .element "strong" [] [.element "em" [] [.string .plain ['b']]]]]
      [.element "span" [] [.element "strong" [] [.string .plain ['\n', 'c']]]] :=
    .later _ (.inside _ _ _ (.later _ (.inside _ _ _ (.later _ (.here _ _ (by decide)))
      (by decide))) (by decide))
  exact ⟨hphrasing, exists_break_convert_paragraph true [] hname hphrasing
    (fun c hc => List.mem_cons_of_mem _ hc) hadds hcut (by decide) (by decide) {}⟩

/-! ## A break that is lost -/

/-- A line break at the start of an element, with text before it and after it. -/
def leadingStrongBreak : List Node := [
  .string .plain ['a'],
  .element "b" [] [.element "br" [] [], .string .plain ['c']]]

theorem nodes_foldedRoot_leadingStrongBreak :
    (foldedRoot [.element "p" [] leadingStrongBreak]).nodes =
      [.element "p" [] leadingStrongBreak] := by
  have hvoid : Everywhere Scan.VoidEndsLine
      (Place.root [.element "p" [] leadingStrongBreak]).nodes := by decide
  rw [nodes_foldedRoot, collapseNodes_eq hvoid]
  rfl

/-- The element with the break in it. -/
def brokenStrong : Place :=
  .node (.element "b" [] [.element "br" [] [], .string .plain ['c']]) [.string .plain ['a']] []
    (.element "p" [] [] [] .document)

/-- The spacing that the break leaves at the start of the element is one space before it. -/
theorem markdownOf_brokenStrong :
    (Context.builtIn false .passthrough).markdownOf brokenStrong = .ok " **c**".toList := by
  have hrule := findRule_of_isFor (p := brokenStrong) (i := 5) isFor_markdownRules rfl (by decide)
    (Filter.holds_ofTags_of_mem (by decide)) rfl
  exact (Context.markdownOf_eq_ok_iff _ rfl).mpr ⟨"  \nc".toList, rfl,
    Context.convertElement_of_rule (c := .builtIn false .passthrough) (by decide) hrule⟩

theorem contentBelow_leadingStrongBreak : (Context.builtIn false .passthrough).contentBelow
    (foldedRoot [.element "p" [] leadingStrongBreak]) = .ok (asBlock "a **c**".toList) := by
  rw [Context.contentBelow_of_nodes_eq nodes_foldedRoot_leadingStrongBreak, inside_foldedRoot]
  refine (Context.markdownOf_eq_ok_iff _ rfl).mpr
    ⟨"a **c**".toList, ?_, convertElement_paragraph false .passthrough _ (by decide)⟩
  exact Context.markdownOfNodes_cons_eq_ok_iff.mpr ⟨['a'], " **c**".toList, rfl,
    Context.markdownOfNodes_singleton markdownOf_brokenStrong, rfl⟩

/-- **A line break at the start of an element becomes a space.** -/
theorem not_break_convert_leadingStrongBreak :
    Everywhere Node.IsPhrasing leadingStrongBreak ∧
    (∃ left right, CutAtBreak (fun _ _ => True) leadingStrongBreak left right ∧
      textOf left = ['a'] ∧ textOf right = ['c']) ∧
    ∃ text s', ((Context.builtIn false .passthrough).convert
        [.element "p" [] leadingStrongBreak]).run {} = .ok text s' ∧
      text = "a **c**".toList ∧ '\n' ∉ text := by
  have hframed : IsFramed "a **c**".toList := ⟨'a', " **c*".toList, '*', by decide, by decide, rfl⟩
  have htext : normalize (asBlock "a **c**".toList) = "a **c**".toList :=
    normalize_asBlock (by decide) hframed.inkText
  obtain ⟨s', hrun⟩ := Context.exists_run_convert_iff (s := {}).mpr
    ⟨_, contentBelow_leadingStrongBreak, rfl⟩
  refine ⟨by decide, ⟨_, _, .later _ (.inside _ _ _ (.here _ _ (by decide)) trivial), rfl, rfl⟩,
    _, s', hrun, htext, ?_⟩
  rw [htext]
  decide

end HtmlMarkdown
