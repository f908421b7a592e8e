import Mathlib
import HtmlMarkdown.Proofs.Conversion
import HtmlMarkdown.Proofs.Reading
import HtmlMarkdown.Proofs.Total

/-!
# No text is lost

* `Node.plainText`, `plainTextOf`, `Place.plainTextBelow`: plain text, some elements left out;
* `ink_plainTextOf_of_thinned`: both passes over white space keep its ink;
* `BuiltIn.ink_sublist`: so does each built-in rule, unless it reads code from the tree;
* `ink_plainTextBelow_sublist`: so does the recursion;
* **`ink_plainText_sublist_convert`**: so does a conversion.
-/

namespace HtmlMarkdown

open Text

/-! ## Plain text -/

mutual

/-- The plain text of a node, without that of elements whose address `hides` selects. The element
around has the address `around`, and `index` elements come before the node. -/
def Node.plainText (hides : List Nat → Bool) (around : List Nat) (index : Nat) : Node → Text
  | .element _ _ children =>
    if hides (index :: around) then [] else plainTextOf hides (index :: around) 0 children
  | .string kind value => if kind = .plain then value else []

/-- The plain text of nodes, one after another. -/
def plainTextOf (hides : List Nat → Bool) (around : List Nat) (index : Nat) : List Node → Text
  | [] => []
  | n :: rest =>
    n.plainText hides around index ++
      plainTextOf hides around (if n.isElement then index + 1 else index) rest

end

namespace Place

/-- The plain text of a place. -/
def plainText (hides : List Nat → Bool) : Place → Text
  | document nodes => plainTextOf hides [] 0 nodes
  | node here before _ outside => here.plainText hides outside.address (elementCount before)

/-- The plain text below a place. -/
def plainTextBelow (hides : List Nat → Bool) (p : Place) : Text :=
  plainTextOf hides p.inside.address 0 p.nodes

/-- The addresses of the code blocks below a place. -/
def codeBlocks (p : Place) : List (List Nat) := (p.descendants.filter isCodeBlock).map address

variable {hides : List Nat → Bool}

/-- The plain text below a place is that of its children, one after another. -/
theorem plainTextBelow_eq (p : Place) :
    p.plainTextBelow hides = p.children.flatMap (plainText hides) := by
  refine eq_flatMap_children
    (F := fun before => plainTextOf hides p.inside.address (elementCount before)) p (fun _ => rfl)
    fun before n rest => ?_
  have hcount : (if n.isElement then elementCount before + 1 else elementCount before) =
      elementCount (n :: before) := by
    rw [elementCount, elementCount, List.countP_cons]
    split <;> rfl
  rw [plainTextOf, hcount, plainText]

/-- An element's plain text is that below it, unless it is hidden. -/
theorem plainText_of_isElement {p : Place} (h : p.isElement = true) :
    p.plainText hides = if hides p.address then [] else p.plainTextBelow hides := by
  rcases p with _ | ⟨⟨name, attributes, children⟩ | _, before, after, outside⟩
  · simp [isElement] at h
  · rw [plainText, Node.plainText]
    rfl
  · simp [isElement, Node.isElement] at h

end Place

/-- **Thinning keeps the ink of plain text.** -/
theorem ink_plainTextOf_of_thinned {ns ns' : List Node} (h : Thinned ns ns')
    (hides : List Nat → Bool) (around : List Nat) (index : Nat) :
    ink (plainTextOf hides around index ns') = ink (plainTextOf hides around index ns) := by
  induction h generalizing around index with
  | nil => rfl
  | element name attributes _ _ ihc ihr =>
    rw [plainTextOf, plainTextOf, Node.plainText, Node.plainText, ink_append, ink_append]
    congr 1
    · split
      · rfl
      · exact ihc _ _
    · exact ihr _ _
  | keep kind hv _ ih =>
    rw [plainTextOf, plainTextOf, Node.plainText, Node.plainText, ink_append, ink_append]
    congr 1
    · split
      · exact hv.1
      · rfl
    · exact ih _ _
  | drop kind value hblank _ ih =>
    have hnone : ink (if kind = .plain then value else []) = [] := by
      split
      · next hkind => exact ink_eq_nil_iff.mpr (hblank (by rw [hkind]; rfl))
      · rfl
    rw [plainTextOf, Node.plainText, ink_append, hnone, List.nil_append]
    exact ih _ _

/-! ## Rules -/

theorem ink_flank (p : Place) (content : Text) : ink (p.flank content).content = ink content := by
  have hleft : ink (p.flankLeft content).content = ink content := by
    rw [Place.flankLeft]
    split
    · exact ink_trimStart isBlank_of_isSpacing content
    · rfl
  rw [Place.flank]
  split
  · rfl
  · rw [Place.flankRight]
    split
    · exact (ink_trimEnd isBlank_of_isSpacing _).trans hleft
    · exact hleft

theorem sublist_infix_middle (s before after : Text) : s.Sublist (before ++ s ++ after) :=
  (List.infix_append before s after).sublist

theorem ink_sublist_asBlock {s t : Text} (h : (ink s).Sublist t) : (ink s).Sublist (asBlock t) :=
  h.trans (sublist_infix_middle t ['\n', '\n'] ['\n', '\n'])

/-- An element's own tags around a content keep it, unless the element cannot hold any. -/
theorem sublist_outer {p : Place} (he : p.isElement = true) (hvoid : p.isVoid = false)
    (content : Text) : content.Sublist (p.outer content) := by
  rcases p with _ | ⟨⟨name, attributes, children⟩ | _, before, after, outside⟩
  · simp [Place.isElement] at he
  · have hv : isVoidTag (lowerName name) = false := hvoid
    have htags : ['>', '<'] <:+: shell false name attributes :=
      ⟨startTag name attributes, '/' :: name.toList ++ ['>'], by simp [shell]⟩
    simp only [Place.outer, outerTags, hv, Bool.false_eq_true, if_false]
    exact (sublist_infix_middle content ['>'] ['<']).trans (sublist_replaceFirst htags)
  · simp [Place.isElement, Node.isElement] at he

theorem ink_sublist_indentRest (s : Text) : (ink s).Sublist (indentRest s) :=
  ink_sublist_replaceChar (by decide) _ s

theorem ink_sublist_blockquote (content : Text) (p : Place) :
    (ink content).Sublist (Markdown.blockquote content p) := by
  have hbreak : HtmlMarkdown.isBlank '\n' = true := by decide
  have h := ink_sublist_replaceChar hbreak ['\n', '>', ' '] (limitBreaks (trim isBlank content))
  rw [ink_limitBreaks, ink_trim fun _ hc => hc] at h
  exact h.trans ((List.sublist_append_right ['>', ' '] _).trans
    (sublist_infix_middle _ ['\n', '\n'] ['\n', '\n']))

theorem ink_sublist_listItem {content out : Text} {p : Place}
    (h : Markdown.listItem content p = .ok out) : (ink content).Sublist out := by
  rw [Markdown.listItem] at h
  rcases hmarker : Markdown.itemMarker p with e | marker
  · rw [hmarker] at h
    cases h
  · rw [hmarker] at h
    cases h
    have hink := ink_sublist_indentRest (trimStart isBlank content)
    rw [ink_trimStart fun _ hc => hc] at hink
    exact hink.trans ((List.sublist_append_right marker _).trans (List.sublist_cons_self _ _))

theorem ink_sublist_list (content : Text) (p : Place) :
    (ink content).Sublist (Markdown.list content p) := by
  rw [Markdown.list]
  split
  · exact ink_sublist content
  · rw [← ink_trimStart isBlank_of_eq_break content]
    exact ink_sublist_asBlock (ink_sublist _)

theorem ink_sublist_cell {content out : Text} {p : Place} (h : Gfm.cell content p = .ok out) :
    (ink content).Sublist out := by
  rw [Gfm.cell] at h
  rcases hindex : p.indexAmongNodes with e | index
  · rw [hindex] at h
    cases h
  · rw [hindex] at h
    cases h
    exact (ink_sublist content).trans (sublist_infix_middle content _ _)

theorem ink_sublist_tableRow {content out : Text} {p : Place}
    (h : Gfm.tableRow content p = .ok out) : (ink content).Sublist out := by
  rw [Gfm.tableRow] at h
  rcases hborders : Gfm.borders p with e | below
  · rw [hborders] at h
    cases h
  · rw [hborders] at h
    cases h
    refine (ink_sublist content).trans ?_
    dsimp only
    split
    · exact List.sublist_cons_self _ _
    · exact (List.sublist_append_left _ _).trans (List.sublist_cons_self _ _)

/-- **A built-in rule keeps the ink of a content**, unless the element cannot hold any or the rule
reads code from the tree. -/
theorem BuiltIn.ink_sublist {p : Place} {content out : Text} {result : Except Error Text}
    (h : BuiltIn p content result) (hresult : result = .ok out) (he : p.isElement = true)
    (hvoid : p.isVoid = false) (hcode : p.isCodeBlock = false)
    (hhighlighted : p.isHighlightedPre = true → out ≠ Gfm.fenced p.parentLanguage p.textContent) :
    (ink content).Sublist out := by
  have hnotVoid : ∀ tag, isVoidTag tag = true → p.tagName ≠ tag := by
    rintro _ htag rfl
    rw [Place.isVoid, htag] at hvoid
    cases hvoid
  have hkeep : ∀ before after : Text, (ink content).Sublist (before ++ content ++ after) :=
    fun before after => (Text.ink_sublist content).trans (sublist_infix_middle content before after)
  cases h with
  | paragraph | table | highlightWrapper =>
    cases hresult
    exact ink_sublist_asBlock (Text.ink_sublist content)
  | heading level =>
    cases hresult
    exact ink_sublist_asBlock ((Text.ink_sublist content).trans
      ((List.sublist_cons_self ' ' content).trans (List.sublist_append_right _ _)))
  | emphasis =>
    cases hresult
    exact hkeep ['_'] ['_']
  | strong =>
    cases hresult
    exact hkeep ['*', '*'] ['*', '*']
  | inlineCode =>
    cases hresult
    exact hkeep [Char.ofNat 0x60] [Char.ofNat 0x60]
  | strikethrough =>
    cases hresult
    exact hkeep ['~', '~'] ['~', '~']
  | link =>
    cases hresult
    have h := hkeep ['['] (']' :: '(' :: Markdown.linkTarget p ++ Markdown.titlePart p ++ [')'])
    simpa [Markdown.link] using h
  | codeBlockBody | tableSection =>
    cases hresult
    exact Text.ink_sublist content
  | blockquote =>
    cases hresult
    exact ink_sublist_blockquote content p
  | listItem => exact ink_sublist_listItem hresult
  | list =>
    cases hresult
    exact ink_sublist_list content p
  | block =>
    cases hresult
    exact ink_sublist_asBlock ((Text.ink_sublist content).trans (sublist_outer he hvoid content))
  | cell => exact ink_sublist_cell hresult
  | tableRow => exact ink_sublist_tableRow hresult
  | lineBreak _ htag => exact absurd htag (hnotVoid _ (by decide))
  | horizontalRule htag => exact absurd htag (hnotVoid _ (by decide))
  | image htag => exact absurd htag (hnotVoid _ (by decide))
  | checkbox htag => exact absurd htag (hnotVoid _ (by decide))
  | codeBlock _ h =>
    rw [h] at hcode
    cases hcode
  | highlighted h =>
    cases hresult
    exact absurd rfl (hhighlighted h)

/-! ## Highlighted code -/

mutual

theorem plainText_sublist_strings {hides : List Nat → Bool} {holds : StringKind → Bool}
    (hplain : holds .plain = true) : ∀ (n : Node) (around : List Nat) (index : Nat),
    (n.plainText hides around index).Sublist (n.strings holds)
  | .element _ _ children, around, index => by
    rw [Node.plainText, Node.strings]
    split
    · exact List.nil_sublist _
    · exact plainTextOf_sublist_stringsList hplain children _ _
  | .string kind value, around, index => by
    rw [Node.plainText, Node.strings]
    split
    · next hkind => rw [if_pos (by rw [hkind, hplain])]
    · exact List.nil_sublist _

theorem plainTextOf_sublist_stringsList {hides : List Nat → Bool} {holds : StringKind → Bool}
    (hplain : holds .plain = true) : ∀ (ns : List Node) (around : List Nat) (index : Nat),
    (plainTextOf hides around index ns).Sublist (Node.stringsList holds ns)
  | [], _, _ => List.Sublist.refl _
  | n :: rest, around, index => (plainText_sublist_strings hplain n around index).append
      (plainTextOf_sublist_stringsList hplain rest around _)

end

/-- An element holds all plain text that is in it, unless it is one for text of another kind. -/
theorem plainTextBelow_sublist_textContent {hides : List Nat → Bool} {p : Place}
    (h : p.tagName ∉ ["", "script", "style", "template", "rt", "rp"]) :
    (p.plainTextBelow hides).Sublist p.textContent := by
  rcases p with _ | ⟨⟨name, attributes, children⟩ | _, before, after, outside⟩
  · exact absurd (List.mem_cons_self : "" ∈ _) h
  · have hne : ∀ other ∈ ["script", "style", "template", "rt", "rp"],
        lowerName other = other → name ≠ other := by
      rintro _ hmem hother rfl
      have htag : lowerName name ∉ ["", "script", "style", "template", "rt", "rp"] := h
      rw [hother] at htag
      exact htag (List.mem_cons_of_mem _ hmem)
    have hplain : isHeldBy name .plain = true := by
      rw [isHeldBy, if_neg (hne _ (by decide) (by decide)), if_neg (hne _ (by decide) (by decide)),
        if_neg (hne _ (by decide) (by decide)), if_neg (hne _ (by decide) (by decide)),
        if_neg (hne _ (by decide) (by decide))]
      rfl
    exact plainTextOf_sublist_stringsList hplain children _ 0
  · exact absurd (List.mem_cons_self : "" ∈ _) h

theorem sublist_fenced (language code : Text) : code.Sublist (Gfm.fenced language code) := by
  have h := sublist_infix_middle code ('\n' :: '\n' :: Gfm.fence ++ language ++ ['\n'])
    ('\n' :: Gfm.fence ++ ['\n', '\n'])
  simpa [Gfm.fenced, asBlock] using h

/-! ## The recursion -/

/-- A void element has no children. -/
def Node.IsEmptyIfVoid (n : Node) : Prop := n.isVoid = true → n.children.isEmpty = true

instance : DecidablePred Node.IsEmptyIfVoid := fun n =>
  inferInstanceAs (Decidable (n.isVoid = true → n.children.isEmpty = true))

/-- The Markdown of an element keeps the ink that its content keeps. -/
theorem ink_sublist_of_convertElement {gfm : Bool} {policy : Policy} {p : Place}
    {content out kept : Text} (he : p.isElement = true) (hvoid : p.isVoid = false)
    (hcode : p.isCodeBlock = false) (hkept : (ink kept).Sublist content)
    (htext : p.tagName = "pre" → kept.Sublist p.textContent)
    (h : (Context.builtIn gfm policy).convertElement p content = .ok out) :
    (ink kept).Sublist out := by
  have hink : (ink kept).Sublist (ink content) := ink_ink kept ▸ Sublist.ink hkept
  rcases convertElement_builtIn he h with ⟨hElided, rfl⟩ | rfl | ⟨_, middle, hrule, rfl⟩
  · rw [Place.isElided, Bool.and_eq_true] at hElided
    rwa [ink_eq_nil_iff.mpr hElided.2] at hink
  · exact hkept
  · refine List.Sublist.trans ?_ (sublist_infix_middle middle _ _)
    by_cases hfenced : p.isHighlightedPre = true ∧
        middle = Gfm.fenced p.parentLanguage p.textContent
    · obtain ⟨hpre, rfl⟩ := hfenced
      simp only [Place.isHighlightedPre, Bool.and_eq_true, beq_iff_eq] at hpre
      exact (ink_sublist kept).trans ((htext hpre.1.1).trans (sublist_fenced _ _))
    · rw [← ink_flank p content] at hink
      exact hink.trans (hrule.ink_sublist rfl he hvoid hcode fun hpre heq => hfenced ⟨hpre, heq⟩)

/-- **What the built-in rules make of a tree keeps the ink of its plain text**, code blocks left
out. -/
theorem ink_plainTextBelow_sublist {hides : List Nat → Bool} {gfm : Bool} {policy : Policy}
    {p : Place} {content : Text} (hvoid : Everywhere Node.IsEmptyIfVoid p.nodes)
    (hhides : ∀ d ∈ p.descendants, d.isCodeBlock = true → hides d.address = true)
    (h : (Context.builtIn gfm policy).contentBelow p = .ok content) :
    (ink (p.plainTextBelow hides)).Sublist content := by
  induction p using Place.inductionOnChildren generalizing content with
  | step p ih =>
    have hchild : ∀ d ∈ p.children, ∀ out,
        (Context.builtIn gfm policy).markdownOf d = .ok out →
        (ink (d.plainText hides)).Sublist out := by
      intro d hd out hout
      obtain ⟨n, before, after, rfl, hn⟩ := Place.everywhere_of_mem_children hvoid hd
      cases n with
      | string kind value =>
        have hvalue : out = if kind.isText then value else [] := by
          cases hout
          rfl
        rw [hvalue, Place.plainText, Node.plainText]
        split
        · next hkind =>
          rw [hkind]
          exact ink_sublist value
        · exact List.nil_sublist _
      | element name attributes children =>
        obtain ⟨below, hbelow, hout⟩ := (Context.markdownOf_eq_ok_iff _ rfl).mp hout
        rw [Place.plainText_of_isElement rfl]
        split
        · exact List.nil_sublist _
        next hshown =>
        have hbelowKept := ih _ hd hn.children
          (fun d' hd' => hhides d' (Place.mem_descendants_iff.mpr ⟨_, hd, Or.inr hd'⟩)) hbelow
        rcases hv : (Place.node (.element name attributes children) before after p.inside).isVoid
          with _ | _
        · refine ink_sublist_of_convertElement rfl hv ?_ hbelowKept
            (fun hpre => plainTextBelow_sublist_textContent (hpre ▸ by decide)) hout
          by_contra hcode
          rw [Bool.not_eq_false] at hcode
          exact hshown (hhides _ (Place.mem_descendants_iff.mpr ⟨_, hd, Or.inl rfl⟩) hcode)
        · have hnone : children = [] := List.isEmpty_iff.mp (hn.here hv)
          subst hnone
          exact List.nil_sublist _
    rw [Place.plainTextBelow_eq]
    refine Context.contentBelow_induction
      (motive := fun ds out => (ink (ds.flatMap (Place.plainText hides))).Sublist out) h
      (List.Sublist.refl _) fun d hd ds out rest hout ihds => ?_
    rw [List.flatMap_cons, ink_append]
    exact (hchild d hd out hout).append ihds

/-! ## Conversions -/

theorem isEmptyIfVoid_foldedRoot {document : List Node}
    (h : Everywhere Node.IsEmptyIfVoid (Place.root document).nodes) :
    Everywhere Node.IsEmptyIfVoid (foldedRoot document).nodes := by
  refine (thinned_foldedRoot document).everywhere ?_ (fun _ _ _ _ h => h) h
  intro name attributes children children' hthin hempty hvoid
  have hnone : children = [] := List.isEmpty_iff.mp (hempty hvoid)
  subst hnone
  cases hthin
  rfl

theorem isConvertible_of_thinned {ns ns' : List Node} (h : Thinned ns ns')
    (hns : ∀ n ∈ ns, n.HasOneText "align") : ∀ n ∈ ns', n.HasOneText "align" := by
  induction h with
  | nil => exact hns
  | element _ _ _ _ _ ih | keep _ _ _ ih =>
    rw [List.forall_mem_cons] at hns ⊢
    exact ⟨hns.1, ih hns.2⟩
  | drop _ _ _ _ ih => exact ih fun n hn => hns n (List.mem_cons_of_mem _ hn)

theorem isConvertible_foldedRoot {document : List Node}
    (h : Everywhere Node.IsConvertible (Place.root document).nodes) :
    Everywhere Node.IsConvertible (foldedRoot document).nodes := by
  refine (thinned_foldedRoot document).everywhere ?_ (fun _ _ _ _ h => h) h
  intro name attributes children children' hthin hconv
  exact ⟨hconv.1, fun htr => isConvertible_of_thinned hthin (hconv.2 htr)⟩

/-- **A conversion returns** if the rules can read the attributes that they ask for. -/
theorem exists_run_convert (gfm : Bool) {document : List Node}
    (h : Everywhere Node.IsConvertible (Place.root document).nodes) (s : Progress) :
    ∃ text s', ((Context.builtIn gfm .passthrough).convert document).run s = .ok text s' := by
  obtain ⟨content, hcontent⟩ := exists_contentBelow (isConvertible_foldedRoot h) gfm
  obtain ⟨s', hrun⟩ := Context.exists_run_convert_iff.mpr ⟨content, hcontent, rfl⟩
  exact ⟨normalize content, s', hrun⟩

/-- **A conversion loses no text.** With the built-in rules the ink of all plain text below the root
of a document that lies in no code block is, in its order, in the Markdown that a conversion
returns; whether a `pre` is a code block is judged in the tree that is folded. No element that cannot
hold content may have children, as in any document that was parsed. If the rules can read the
attributes that they ask for, then the conversion does return. -/
theorem ink_plainText_sublist_convert (gfm : Bool) (document : List Node)
    (hvoid : Everywhere Node.IsEmptyIfVoid (Place.root document).nodes) (s : Progress) :
    (∀ text s', ((Context.builtIn gfm .passthrough).convert document).run s = .ok text s' →
      (ink ((Place.root document).plainTextBelow (foldedRoot document).codeBlocks.contains)).Sublist
        text) ∧
    (Everywhere Node.IsConvertible (Place.root document).nodes →
      ∃ text s', ((Context.builtIn gfm .passthrough).convert document).run s = .ok text s') := by
  constructor
  · intro text s' hrun
    obtain ⟨content, hcontent, rfl⟩ := Context.exists_run_convert_iff.mp ⟨s', hrun⟩
    have hkept : (ink ((foldedRoot document).plainTextBelow
        (foldedRoot document).codeBlocks.contains)).Sublist content := by
      refine ink_plainTextBelow_sublist (isEmptyIfVoid_foldedRoot hvoid) (fun d hd hcode => ?_)
        hcontent
      rw [List.contains_iff_mem, Place.codeBlocks]
      exact List.mem_map_of_mem (List.mem_filter.mpr ⟨hd, hcode⟩)
    have hsame : ink ((foldedRoot document).plainTextBelow
        (foldedRoot document).codeBlocks.contains) =
        ink ((Place.root document).plainTextBelow (foldedRoot document).codeBlocks.contains) := by
      rw [Place.plainTextBelow, inside_foldedRoot]
      exact ink_plainTextOf_of_thinned (thinned_foldedRoot document) _ _ _
    rw [hsame] at hkept
    have hink := Sublist.ink hkept
    rw [ink_ink, ← ink_normalize content] at hink
    exact hink.trans (ink_sublist _)
  · intro hconv
    obtain ⟨content, hcontent⟩ := exists_contentBelow (isConvertible_foldedRoot hconv) gfm
    obtain ⟨s', hrun⟩ := Context.exists_run_convert_iff.mpr ⟨content, hcontent, rfl⟩
    exact ⟨normalize content, s', hrun⟩

/-- Text around an element within a line and a break, and a code block. -/
def textAndCode : List Node := [
  .element "div" [] [
    .string .plain "one ".toList,
    .element "b" [] [.string .plain "two".toList],
    .element "br" [] [],
    .string .plain " three".toList,
    .element "pre" [] [.element "code" [] [.string .plain "four".toList]]]]

theorem ink_plainText_sublist_convert_textAndCode :
    Everywhere Node.IsEmptyIfVoid (Place.root textAndCode).nodes ∧
    Everywhere Node.IsConvertible (Place.root textAndCode).nodes ∧
    ∃ text s', ((Context.builtIn true .passthrough).convert textAndCode).run {} = .ok text s' ∧
      (ink ((Place.root textAndCode).plainTextBelow
        (foldedRoot textAndCode).codeBlocks.contains)).Sublist text := by
  have hvoid : Everywhere Node.IsEmptyIfVoid (Place.root textAndCode).nodes := by decide
  have hconv : Everywhere Node.IsConvertible (Place.root textAndCode).nodes := by decide
  obtain ⟨hkept, hok⟩ := ink_plainText_sublist_convert true textAndCode hvoid {}
  obtain ⟨text, s', hrun⟩ := hok hconv
  exact ⟨hvoid, hconv, text, s', hrun, hkept text s' hrun⟩

end HtmlMarkdown
