import Mathlib
import HtmlMarkdown.Proofs.Guard
import HtmlMarkdown.Proofs.Unfailing
import HtmlMarkdown.Proofs.Verbatim

/-!
# Literal list markers in Markdown

Markup is searched for list markers before it is read. What is made of it afterwards can make a
marker of a text that had none, but only of a period that stands behind digits in its line and before
white space that the search does not look for.

* `setting_of_findRule_none`: elements that no rule is found for run on;
* `ink_textOf_sublist`: a content has the ink of its text;
* `leads_of_convertElement`: an element is written as it was skimmed;
* **`leads_markdownOfNodes`**: so are nodes, whatever is in them;
* `not_isMarked_of_skim`, **`not_isMarked_convert`**: no line of a conversion begins with a marker if
  none is skimmed;
* `isMarked_convert_breakAfterPeriod`: a period before a line feed is not escaped, and ends a marker
  when the line feed has become a space.
-/

namespace HtmlMarkdown

open Text LineHead

/-! ## Settings and rules -/

namespace Setting

/-- An element within a line runs on if nothing marks it. -/
theorem ofTag_of_not_endsLine {tag : String} (h : endsLine tag = false) :
    Setting.ofTag tag = .running := by
  have hno : ∀ tags : List String, (∀ tag ∈ tags, endsLine tag = true) → tag ∉ tags :=
    fun tags htags hmem => by
      rw [htags tag hmem] at h
      cases h
  have hbreak : tag ∉ ["br", "blockquote", "li"] := hno _ (by decide)
  have hblock : isBlockTag tag = false := (Bool.or_eq_false_iff.mp h).1
  simp only [List.mem_cons, List.not_mem_nil, or_false, not_or] at hbreak
  rw [ofTag, if_neg hbreak.1, if_neg hbreak.2.1, if_neg hbreak.2.2, if_neg (hno _ (by decide)),
    if_neg (hno _ (by decide)), if_neg (hno _ (by decide)), hblock, if_neg Bool.false_ne_true]

/-- An element that ends a line is a line break, a quotation, an item, or an open block. -/
theorem of_endsLine {tag : String} (h : endsLine tag = true) :
    tag = "br" ∨ tag = "blockquote" ∨ tag = "li" ∨
      isBlockTag tag = true ∧ (Setting.ofTag tag).isOpenBlock = true := by
  have hblocks : ∀ tag ∈ blockTags,
      tag = "blockquote" ∨ tag = "li" ∨ (Setting.ofTag tag).isOpenBlock = true := by decide
  rw [endsLine, Bool.or_eq_true, beq_iff_eq] at h
  rcases h with hblock | hbreak
  · exact Or.inr ((hblocks tag (List.contains_iff_mem.mp hblock)).imp_right
      (Or.imp_right fun hopen => ⟨hblock, hopen⟩))
  · exact Or.inl hbreak

end Setting

section Settings

variable {gfm : Bool} {n : Node} {before after : List Node} {outside : Surroundings}

/-- No rule marks an element that ends a line or cannot hold content. -/
theorem isMarked_eq_false (h : endsLine n.tagName = true ∨ n.isVoid = true) :
    n.isMarked gfm = false := by
  have hno : ∀ tags : List String,
      (∀ tag ∈ tags, endsLine tag = false ∧ isVoidTag tag = false) → n.tagName ∉ tags :=
    fun tags htags hmem => by
      obtain ⟨hline, hvoid⟩ := htags _ hmem
      rw [hline, Node.isVoid, hvoid] at h
      simp at h
  have hlink : n.tagName ∉ ["a"] := hno _ (by decide)
  rw [Node.isMarked, Node.isLink_eq_false (by simpa using hlink),
    Bool.eq_false_iff.mpr fun hmem => hno _ (by decide) (List.contains_iff_mem.mp hmem),
    Bool.eq_false_iff.mpr fun hmem => hno struckTags (by decide) (List.contains_iff_mem.mp hmem),
    Bool.and_false]
  rfl

theorem setting_of_isMarked_eq_false (h : endsLine n.tagName = true ∨ n.isVoid = true) :
    n.setting gfm = .ofTag n.tagName := by
  rw [Node.setting, isMarked_eq_false h, if_neg Bool.false_ne_true]

/-- The lines of an item are not open. -/
theorem tagName_ne_of_isOpen (h : (n.setting gfm).isOpen = true) : n.tagName ≠ "li" := by
  intro htag
  rw [setting_of_isMarked_eq_false (Or.inl (by rw [htag]; decide)), htag] at h
  cases h

/-- **An element that no rule is found for runs on.** -/
theorem setting_of_findRule_none
    (h : findRule (.node n before after outside) (builtInRules gfm) = .ok none) :
    n.setting gfm = .running := by
  obtain ⟨hblock, hline, hgfm, hanchor⟩ := tagName_of_findRule h
  simp only [List.mem_cons, List.not_mem_nil, or_false, not_or] at hline
  obtain ⟨hbreak, hem, hi, hstrong, hb, hcode, -⟩ := hline
  have hmarked : markedTags.contains n.tagName = false := by
    simp only [markedTags, List.contains_eq_mem, decide_eq_false_iff_not, List.mem_cons,
      List.not_mem_nil, or_false, not_or]
    exact ⟨hem, hi, hstrong, hb, hcode⟩
  have hstruck : (gfm && struckTags.contains n.tagName) = false := by
    cases gfm with
    | false => rfl
    | true => exact Bool.eq_false_iff.mpr fun hmem => hgfm rfl (List.contains_iff_mem.mp hmem)
  have hlink : (Place.node n before after outside).isLink = false := by
    rw [Place.isLink, Bool.and_eq_false_iff, beq_eq_false_iff_ne]
    exact Classical.or_iff_not_imp_left.mpr fun htag => by
      rw [hanchor (not_not.mp htag), Option.isSome_none]
  rw [Node.setting, Node.isMarked, hmarked, hstruck, ← Place.isLink_node, hlink, if_neg (by decide)]
  refine Setting.ofTag_of_not_endsLine (Bool.or_eq_false_iff.mpr ⟨?_, beq_eq_false_iff_ne.mpr hbreak⟩)
  rwa [isBlockTag, List.contains_eq_mem, decide_eq_false_iff_not]

end Settings

/-! ## Ink -/

section Recursion

variable {gfm : Bool} {policy : Policy}

mutual

theorem ink_text_sublist {outside : Surroundings} {before after : List Node} :
    ∀ {n : Node} {out : Text}, n.Everywhere Node.IsUnnumbered → n.Everywhere Node.IsEmptyIfVoid →
    (Context.builtIn gfm policy).markdownOfNode outside before after n = .ok out →
    (ink n.text).Sublist out
  | .string kind value, out, _, _, h => by
    cases h
    rw [Node.text_string]
    exact ink_sublist _
  | .element name attributes children, out, hn, hempty, h => by
    let p : Place := .node (.element name attributes children) before after outside
    obtain ⟨content, hcontent, hout⟩ := (Context.markdownOf_eq_ok_iff (p := p) _ rfl).mp h
    have hkept := ink_textOf_sublist hn.children hempty.children hcontent
    have hnotPre : p.tagName ≠ "pre" := hn.here.tagName_ne_pre
    have hcode : p.isCodeBlock = false := Bool.eq_false_iff.mpr fun hcode =>
      hnotPre (List.mem_singleton.mp (p.tagName_of_isCodeBlock hcode))
    rcases hvoid : p.isVoid with _ | _
    · exact ink_sublist_of_convertElement rfl hvoid hcode hkept (fun htag => absurd htag hnotPre) hout
    · have hnone : children = [] := List.isEmpty_iff.mp (hempty.here hvoid)
      subst hnone
      exact List.nil_sublist _

/-- **The Markdown of nodes has the ink of their text.** -/
theorem ink_textOf_sublist {outside : Surroundings} {before : List Node} :
    ∀ {ns : List Node} {out : Text}, Everywhere Node.IsUnnumbered ns →
    Everywhere Node.IsEmptyIfVoid ns →
    (Context.builtIn gfm policy).markdownOfNodes outside before ns = .ok out →
    (ink (textOf ns)).Sublist out
  | [], _, _, _, _ => List.nil_sublist _
  | n :: rest, out, hns, hempty, h => by
    obtain ⟨here, others, hhere, hothers, rfl⟩ := Context.markdownOfNodes_cons_eq_ok_iff.mp h
    rw [textOf_cons, ink_append]
    exact (ink_text_sublist hns.1 hempty.1 hhere).append
      (ink_textOf_sublist hns.2 hempty.2 hothers)

end

/-! ## One element -/

section Element

variable {name : String} {attributes : Attributes} {children before after : List Node}
  {outside : Surroundings} {content out middle : Text} {isKept : Bool} {s s' : LineHead}
  (hn : (Node.element name attributes children).IsUnnumbered)
  (hempty : (Node.element name attributes children).isVoid = true → children = [] ∧ content = [])
  (hparent : ∀ tag ∈ ["li", "ol", "pre"], outside.tagName ≠ tag)
  (hcontent : ((Node.element name attributes children).setting gfm).isOpen = true →
    ∀ isSure inner last, skimNodes gfm id isSure children inner = some last →
      inner.Leads content last)
  (hskim : (Node.element name attributes children).skim gfm id isKept s = some s')

/-- An element that is left out had no ink, and promised nothing. -/
theorem le_of_isElided (hkept : (ink (textOf children)).Sublist content)
    (helided : (Place.node (.element name attributes children) before after outside).isElided
      content = true)
    (hskim : (Node.element name attributes children).skim gfm id isKept s = some s') : s' ≤ s := by
  rw [Place.isElided, Bool.and_eq_true, Bool.and_eq_true, Bool.not_eq_true',
    Bool.not_eq_true'] at helided
  obtain ⟨⟨hvoid, hrendered⟩, hblank⟩ := helided
  have hink := Sublist.ink hkept
  rw [ink_ink, ink_eq_nil_iff.mpr hblank, List.sublist_nil, ink_eq_nil_iff] at hink
  refine Node.skim_le (by rwa [Node.text_element]) ?_ hskim
  have htag : isVoidTag (lowerName name) = false ∧ isAlwaysRendered (lowerName name) = false :=
    ⟨hvoid, hrendered⟩
  rw [Node.isSure, Node.children, Node.tagName, hink, htag.1, htag.2, Bool.or_false,
    Bool.and_false]
  rfl

include hn hempty hparent hcontent hskim

/-- An element within a line that a rule is found for. -/
theorem leads_of_not_endsLine (hline : endsLine (lowerName name) = false) {r : Rule}
    (hr : findRule (.node (.element name attributes children) before after outside)
      (builtInRules gfm) = .ok (some r)) :
    let p := Place.node (.element name attributes children) before after outside
    BuiltIn p (p.flank content).content (.ok middle) →
      s.Leads ((p.flank content).leading ++ middle ++ (p.flank content).trailing) s' := by
  intro p hrule
  have hcode : p.isCodeBlockBody = false := by
    have hnotPre : (p.parentName != "pre") = true := bne_iff_ne.mpr (hparent "pre" (by decide))
    rw [Place.isCodeBlockBody, Place.isInlineCode, hnotPre]
    simp
  have hinside : (guarded.after content).isSome = true →
      (guarded.after (p.flank content).content).isSome = true :=
    isSome_after_of_isInfix (isInfix_flank_content p content)
  have hguards := fun h => hrule.guards hn.filledAttribute? rfl hline hcode (hinside h)
  obtain ⟨inner, last, henter, hlast, hleave⟩ := Node.skim_element_eq_some_iff.mp hskim
  rcases hvoid : p.isVoid with _ | _
  · have hset : (Node.element name attributes children).setting gfm = .marked := by
      rw [Node.setting,
        isMarked_of_findRule (n := .element name attributes children) rfl hline hvoid hr, if_pos rfl]
    rw [hset] at henter hlast hcontent
    cases henter
    have hleads := hcontent rfl _ _ _ hlast
    rcases hguards hleads.isSome_guarded with hmiddle | ⟨hyes, -⟩
    · exact (leads_flank hleads hmiddle).weaken (le_guarded s')
    · rw [hvoid] at hyes
      cases hyes
  · have hset : (Node.element name attributes children).setting gfm = .running := by
      rw [setting_of_isMarked_eq_false (n := .element name attributes children) (Or.inr hvoid)]
      exact Setting.ofTag_of_not_endsLine hline
    obtain ⟨rfl, rfl⟩ := hempty hvoid
    rw [hset] at henter hlast hleave
    cases henter
    cases hlast
    cases hleave
    have hflank : p.flank [] = { content := [] } := by
      rw [Place.flank]
      split <;> rfl
    rw [hflank, List.nil_append, List.append_nil]
    rcases hguards rfl with hmiddle | ⟨-, rfl⟩
    · exact (hmiddle s).weaken (le_guarded s)
    · exact .nil s

/-- A line break, or a block that is not left out. -/
theorem leads_of_endsLine (hline : endsLine (lowerName name) = true) :
    let p := Place.node (.element name attributes children) before after outside
    p.isElided content = false → BuiltIn p (p.flank content).content (.ok middle) →
      (Context.builtIn gfm policy).convertElement p content = .ok out →
      out = (p.flank content).leading ++ middle ++ (p.flank content).trailing → s.Leads out s' := by
  intro p hElided hrule h hout
  have hset : (Node.element name attributes children).setting gfm = .ofTag p.tagName :=
    setting_of_isMarked_eq_false (Or.inl hline)
  obtain ⟨inner, last, henter, hlast, hleave⟩ := Node.skim_element_eq_some_iff.mp hskim
  rw [hset] at hcontent henter hlast hleave
  have hnotBlank : isVoidTag p.tagName = false ∧ isAlwaysRendered p.tagName = false →
      content.isBlank = false := fun hkept => by
    rwa [Place.isElided_eq_isBlank content rfl hkept] at hElided
  -- the content of the first three has no say in how their lines begin
  obtain htag | htag | htag | ⟨hblock, hopen⟩ : p.tagName = "br" ∨ p.tagName = "blockquote" ∨
      p.tagName = "li" ∨ p.isBlock = true ∧ (Setting.ofTag p.tagName).isOpenBlock = true :=
    Setting.of_endsLine hline
  · have hvoid : p.isVoid = true := by
      rw [Place.isVoid, htag]
      decide
    have hbreak : Setting.ofTag "br" = .lineBreak := by decide
    have hafter : ∀ (gfm isSure : Bool) (s s' : LineHead),
        Setting.lineBreak.enter gfm isSure s = some s' →
          s.after (if gfm then ['\n'] else [' ', ' ', '\n']) = some fresh ∧ s' ≤ fresh := by decide
    rw [(hempty hvoid).2, convertElement_lineBreak htag] at h
    rw [htag, hbreak] at henter hlast hleave
    cases hlast
    cases hleave
    cases h
    exact ⟨fresh, hafter gfm _ s _ henter⟩
  · have hquotation : Setting.ofTag "blockquote" = .quotation := by decide
    rw [convertElement_blockquote gfm policy content htag,
      hnotBlank (htag ▸ by decide)] at h
    rw [htag, hquotation] at henter hlast hleave
    cases hlast
    cases hleave
    cases h
    refine (leads_blockquote (ne_edge_of_part henter).1 content p).weaken ?_
    split
    · exact le_rfl
    · exact (ne_edge_of_part henter).2
  · have hitem : Setting.ofTag "li" = .item := by decide
    rw [convertElement_listItem gfm policy content htag, hnotBlank (htag ▸ by decide),
      if_neg Bool.false_ne_true] at h
    rw [htag, hitem] at henter
    have hnotOrdered : p.parentName ≠ "ol" := hparent "ol" (by decide)
    exact (leads_listItem (ne_edge_of_part henter).1 hnotOrdered h).weaken (le_guarded s')
  · have hflank : p.flank content = { content } := if_pos hblock
    have hcan : (Setting.ofTag p.tagName).isOpen = true := by
      revert hopen
      generalize Setting.ofTag p.tagName = setting
      cases setting <;> decide
    rw [hflank] at hrule
    rw [hflank, List.nil_append, List.append_nil] at hout
    rw [if_pos hcan] at hlast
    subst hout
    exact hrule.leads rfl hopen (isSome_after_outer (hn.outer hblock)) hn.tagName_ne_pre
      (hparent "li" (by decide)) henter (hcontent hcan _ _ _ hlast) hleave

/-- **An element is written as it was skimmed**, if its content is. -/
theorem leads_of_convertElement
    (hkept : (ink (textOf children)).Sublist content)
    (h : (Context.builtIn gfm policy).convertElement
      (.node (.element name attributes children) before after outside) content = .ok out) :
    s.Leads out s' := by
  let p : Place := .node (.element name attributes children) before after outside
  rcases Context.convertElement_eq_ok h with ⟨hElided, rfl⟩ | ⟨hElided, hnone, rfl⟩ |
    ⟨hElided, r, middle, hr, hmiddle, rfl⟩
  -- nothing is written, so the head that was met has to be no smaller than the promised one
  · exact ⟨s, rfl, le_of_isElided hkept hElided hskim⟩
  · have hset := setting_of_findRule_none hnone
    obtain ⟨inner, last, henter, hlast, hleave⟩ := Node.skim_element_eq_some_iff.mp hskim
    rw [hset] at hcontent henter hlast hleave
    cases henter
    cases hleave
    exact hcontent rfl _ _ _ hlast
  · rcases hline : endsLine p.tagName with _ | _
    · obtain ⟨hmem, hholds⟩ := mem_of_findRule hr
      exact leads_of_not_endsLine hn hempty hparent hcontent hskim hline hr
        (hmiddle ▸ builtIn_of_holds rfl hmem hholds _)
    · obtain ⟨hmem, hholds⟩ := mem_of_findRule hr
      exact leads_of_endsLine hn hempty hparent hcontent hskim hline hElided
        (hmiddle ▸ builtIn_of_holds rfl hmem hholds _) h rfl

end Element

/-! ## The recursion -/

mutual

theorem leads_markdownOfNode {outside : Surroundings} {before after : List Node} :
    ∀ {n : Node} {out : Text} {isKept : Bool} {s s' : LineHead},
    n.Everywhere Node.IsUnnumbered → n.Everywhere Node.IsEmptyIfVoid → n.Everywhere Node.IsUnbroken →
    (∀ tag ∈ ["li", "ol", "pre"], outside.tagName ≠ tag) →
    (Context.builtIn gfm policy).markdownOfNode outside before after n = .ok out →
    n.skim gfm id isKept s = some s' → s.Leads out s'
  | .string kind value, out, _, s, s', _, _, hbreak, _, h, hskim => by
    cases h
    rw [Node.skim] at hskim
    split at hskim
    · next hkind =>
      rw [if_pos hkind]
      exact leads_of_skim (hbreak hkind) hskim
    · next hkind =>
      rw [if_neg hkind]
      exact ⟨s, rfl, (Option.some.inj hskim).ge⟩
  | .element name attributes children, out, _, s, s', hn, hempty, hbreak, hparent, h, hskim => by
    let p : Place := .node (.element name attributes children) before after outside
    obtain ⟨content, hcontent, hout⟩ := (Context.markdownOf_eq_ok_iff (p := p) _ rfl).mp h
    refine leads_of_convertElement hn.here (fun hvoid => ?empty) hparent
      (fun hopen _ inner last hinner => ?content) hskim
      (ink_textOf_sublist hn.children hempty.children hcontent) hout
    case empty =>
      have hnone : children = [] := List.isEmpty_iff.mp (hempty.here hvoid)
      subst hnone
      exact ⟨rfl, (Except.ok.inj hcontent).symm⟩
    case content =>
      refine leads_markdownOfNodes hn.children hempty.children hbreak.children ?_ hcontent hinner
      rw [List.forall_mem_cons, List.forall_mem_cons, List.forall_mem_singleton]
      exact ⟨tagName_ne_of_isOpen hopen, hn.here.notOrdered, hn.here.tagName_ne_pre⟩

/-- **Nodes are written as they were skimmed.** -/
theorem leads_markdownOfNodes {outside : Surroundings} {before : List Node} :
    ∀ {ns : List Node} {out : Text} {isKept : Bool} {s s' : LineHead},
    Everywhere Node.IsUnnumbered ns → Everywhere Node.IsEmptyIfVoid ns → Everywhere Node.IsUnbroken ns →
    (∀ tag ∈ ["li", "ol", "pre"], outside.tagName ≠ tag) →
    (Context.builtIn gfm policy).markdownOfNodes outside before ns = .ok out →
    skimNodes gfm id isKept ns s = some s' → s.Leads out s'
  | [], out, _, s, s', _, _, _, _, h, hskim => by
    cases h
    cases hskim
    exact .nil s
  | n :: rest, out, _, s, s', hns, hempty, hbreak, hparent, h, hskim => by
    obtain ⟨here, others, hhere, hothers, rfl⟩ := Context.markdownOfNodes_cons_eq_ok_iff.mp h
    rw [skimNodes, Option.bind_eq_some_iff] at hskim
    obtain ⟨r, hr, hrest⟩ := hskim
    exact (leads_markdownOfNode hns.1 hempty.1 hbreak.1 hparent hhere hr).append
      (leads_markdownOfNodes hns.2 hempty.2 hbreak.2 hparent hothers hrest)

end

end Recursion

/-! ## Conversions -/

/-- The root of a conversion is no list, no item and no preformatted text. -/
theorem tagName_inside_root_ne (document : List Node) :
    ∀ tag ∈ ["li", "ol", "pre"], (Place.root document).inside.tagName ≠ tag := by
  rcases Place.root_eq document with h | ⟨_, _, _, _, _, h⟩
  · rw [h]
    exact (by decide : ∀ tag ∈ ["li", "ol", "pre"], "" ≠ tag)
  · rw [h]
    exact (by decide : ∀ tag ∈ ["li", "ol", "pre"], lowerName "body" ≠ tag)

/-- The conversion of a document has no literal marker if none is skimmed in what both passes over
white space leave of it. -/
theorem not_isMarked_of_skim {gfm : Bool} {document : List Node} {s s' : Progress} {text : Text}
    (hplain : Everywhere Node.IsUnnumbered (Place.root document).nodes)
    (hempty : Everywhere Node.IsEmptyIfVoid (Place.root document).nodes)
    (hskim : (skimNodes gfm id true (foldedRoot document).nodes .fresh).isSome = true)
    (hrun : ((Context.builtIn gfm .passthrough).convert document).run s = .ok text s') :
    ∀ line ∈ text.lines, ¬ line.IsMarked := by
  obtain ⟨content, hcontent, rfl⟩ := Context.exists_run_convert_iff.mp ⟨s', hrun⟩
  obtain ⟨last, hlast⟩ := Option.isSome_iff_exists.mp hskim
  have hunbroken := isUnbroken_foldedRoot (hplain.imp fun _ hn => hn.notPre)
  have hparent : ∀ tag ∈ ["li", "ol", "pre"], (foldedRoot document).inside.tagName ≠ tag := by
    rw [inside_foldedRoot]
    exact tagName_inside_root_ne document
  obtain ⟨r, hr, -⟩ := leads_markdownOfNodes (isUnnumbered_foldedRoot hplain)
    (isEmptyIfVoid_foldedRoot hempty) hunbroken hparent hcontent hlast
  exact not_isMarked_of_after (isSome_after_normalize (by rw [hr, Option.isSome_some]))

/-- **No line of a conversion begins with a literal marker** if none is skimmed in the tree that both
passes over white space leave, where the periods that the escape looks for count as escaped. None is
skimmed there if none is skimmed in the tree of the markup; and none is skimmed in that one if its
texts stand in the escaped markup as they are, with periods between ink and ink, or between ink and a
space. There are to be no ordered lists and no preformatted text. In any case there is some
Markdown. -/
theorem not_isMarked_convert (gfm : Bool) {markup : Text} {document : List Node}
    (hparse : parseDocument (escapeListMarkers markup) = .ok document)
    (hplain : Everywhere Node.IsUnnumbered (Place.root document).nodes) (s : Progress) :
    (isMarkerFree gfm (escapeListMarkers markup) (foldedRoot document).nodes = true →
      ∀ text s', (({ gfm } : Options).convert (.text markup)).run s = .ok text s' →
        ∀ line ∈ text.lines, ¬ line.IsMarked) ∧
    (isMarkerFree gfm (escapeListMarkers markup) (Place.root document).nodes = true →
      isMarkerFree gfm (escapeListMarkers markup) (foldedRoot document).nodes = true) ∧
    (Everywhere (Node.IsVerbatim (escapeListMarkers markup)) (Place.root document).nodes →
      isMarkerFree gfm (escapeListMarkers markup) (Place.root document).nodes = true) ∧
    ∃ text s', (({ gfm } : Options).convert (.text markup)).run s = .ok text s' := by
  have hconvert : (({ gfm } : Options).convert (.text markup)).run s = .ok [] s ∨
      (({ gfm } : Options).convert (.text markup)).run s =
        ((Context.builtIn gfm .passthrough).convert document).run s := by
    rcases markup with _ | ⟨c, markup⟩
    · exact Or.inl rfl
    · right
      rw [Options.run_convert_text _ (List.cons_ne_nil c markup) hparse, Options.convertDocument,
        context_builtIn]
      rfl
  refine ⟨fun hskim text s' hrun => ?lines, fun hskim => ?passes, isMarkerFree_of_verbatim, ?returns⟩
  case lines =>
    rcases hconvert with h | h
    · cases h.symm.trans hrun
      exact not_isMarked_of_after rfl
    · rw [isMarkerFree_escapeListMarkers] at hskim
      exact not_isMarked_of_skim hplain (everywhere_root (isEmptyIfVoid_parseDocument hparse)) hskim
        (h.symm.trans hrun)
  case passes =>
    rw [isMarkerFree_escapeListMarkers] at hskim ⊢
    obtain ⟨last, hlast⟩ := Option.isSome_iff_exists.mp hskim
    rw [skimNodes_foldedRoot hlast, Option.isSome_some]
  case returns =>
    rcases hconvert with h | h
    · exact ⟨[], s, h⟩
    · rw [h]
      exact exists_run_convert gfm (everywhere_root (isConvertible_parseDocument hparse)) s

/-- A literal marker, a period right behind an element, and a break before a number. -/
def markerAndBreak : Text := "1. See <b>x</b>. Next<br>2".toList

/-- The tree of that markup. -/
def markerAndBreakNodes : List Node := [
  .string .plain "1\\. See ".toList,
  .element "b" [] [.string .plain ['x']],
  .string .plain ". Next".toList,
  .element "br" [] [],
  .string .plain ['2']]

theorem not_isMarked_convert_markerAndBreak :
    parseDocument (escapeListMarkers markerAndBreak) = .ok markerAndBreakNodes ∧
    Everywhere Node.IsUnnumbered (Place.root markerAndBreakNodes).nodes ∧
    isMarkerFree false (escapeListMarkers markerAndBreak)
      (Place.root markerAndBreakNodes).nodes = true ∧
    ∃ text s', (({} : Options).convert (.text markerAndBreak)).run {} = .ok text s' ∧
      ∀ line ∈ text.lines, ¬ line.IsMarked := by
  have hescape : escapeListMarkers markerAndBreak = "1\\. See <b>x</b>. Next<br>2".toList := by
    rw [escapeListMarkers_eq_escapeAfter]
    decide
  have hparse : parseDocument (escapeListMarkers markerAndBreak) = .ok markerAndBreakNodes := by
    rw [hescape]
    rfl
  have hplain : Everywhere Node.IsUnnumbered (Place.root markerAndBreakNodes).nodes := by decide
  have hskim : isMarkerFree false (escapeListMarkers markerAndBreak)
      (Place.root markerAndBreakNodes).nodes = true := by
    rw [isMarkerFree_escapeListMarkers]
    decide
  obtain ⟨hlines, hpasses, -, text, s', hrun⟩ := not_isMarked_convert false hparse hplain {}
  exact ⟨hparse, hplain, hskim, text, s', hrun, hlines (hpasses hskim) text s' hrun⟩

/-- A digit and a period before a line feed. -/
def breakAfterPeriod : Text := ['1', '.', '\n', 'x']

/-- **A period before a line feed ends a marker**: it is not escaped, and the line feed becomes a
space. -/
theorem isMarked_convert_breakAfterPeriod :
    parseDocument (escapeListMarkers breakAfterPeriod) = .ok [.string .plain breakAfterPeriod] ∧
    ∃ text s', (({} : Options).convert (.text breakAfterPeriod)).run {} = .ok text s' ∧
      text = ['1', '.', ' ', 'x'] ∧ ∃ line ∈ text.lines, line.IsMarked := by
  have hescape : escapeListMarkers breakAfterPeriod = breakAfterPeriod :=
    escapeListMarkers_of_not_mem (by decide)
  have hparse : parseDocument (escapeListMarkers breakAfterPeriod) =
      .ok [.string .plain breakAfterPeriod] := by
    rw [hescape]
    rfl
  have hvoid : Everywhere Scan.VoidEndsLine
      (Place.root [.string .plain breakAfterPeriod]).nodes := by decide
  have hnodes : (foldedRoot [.string .plain breakAfterPeriod]).nodes =
      [.string .plain ['1', '.', ' ', 'x']] := by
    rw [nodes_foldedRoot, collapseNodes_eq hvoid]
    rfl
  have hcontent : (Context.builtIn false .passthrough).contentBelow
      (foldedRoot [.string .plain breakAfterPeriod]) = .ok ['1', '.', ' ', 'x'] := by
    rw [Context.contentBelow, hnodes]
    rfl
  have htidy : normalize ['1', '.', ' ', 'x'] = ['1', '.', ' ', 'x'] := by
    rw [normalize_eq_closeBlankLines]
    exact closeBlankLines_of_not_mem (by decide)
  obtain ⟨s', hrun⟩ := Context.exists_run_convert_iff (s := {}).mpr ⟨_, hcontent, htidy.symm⟩
  have hconvert := Options.run_convert_text {} (by decide : breakAfterPeriod ≠ []) hparse {}
  have hlines : Text.lines ['1', '.', ' ', 'x'] = [['1', '.', ' ', 'x']] := by decide
  have hdigit : ∀ c ∈ ['1'], isDecimalDigit c = true := List.forall_mem_singleton.mpr rfl
  exact ⟨hparse, _, s', hconvert.trans hrun, rfl, ['1', '.', ' ', 'x'],
    hlines ▸ List.mem_singleton_self _, ['1'], ['x'], List.cons_ne_nil _ _, hdigit, rfl⟩

end HtmlMarkdown
