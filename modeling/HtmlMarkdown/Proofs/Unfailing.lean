import Mathlib
import HtmlMarkdown.Proofs.Parsed
import HtmlMarkdown.Proofs.Selection
import HtmlMarkdown.Proofs.Strict

/-!
# The failures of the built-in rules

With the built-in rules a fold cannot fail, unless elements that no rule selects are refused.

* `holds_eq_false_of_findRule`, `tagName_of_findRule`: the elements that no built-in rule selects;
* `isElided_eq_false_iff`: which of them are not left out;
* `exists_openingCode_of_findRule`: what the rules for code blocks rely on;
* `keepsContent_builtIn_iff`: which elements keep their content in a lenient fold;
* **`run_fold_builtIn`**: when a fold fails, and why.
-/

namespace HtmlMarkdown

/-! ## Elements that no rule selects -/

/-- If no rule is found, the filter of none selects the place. -/
theorem holds_eq_false_of_findRule {p : Place} {rules : List Rule}
    (h : findRule p rules = .ok none) : ∀ r ∈ rules, r.filter.holds p = .ok false := by
  induction rules with
  | nil => simp
  | cons r rules ih =>
    rw [findRule] at h
    rw [List.forall_mem_cons]
    rcases hr : r.filter.holds p with err | _ | _
    · rw [hr] at h
      cases h
    · rw [hr] at h
      exact ⟨rfl, ih h⟩
    · rcases hc : r.checkReplacement with err | _ <;>
        simp [hr, hc, bind, Except.bind, pure, Except.pure] at h

variable {gfm : Bool} {e p : Place} {content : Text}

/-- **The tags of elements that no built-in rule selects.** -/
theorem tagName_of_findRule (h : findRule e (builtInRules gfm) = .ok none) :
    e.tagName ∉ blockTags ∧ e.tagName ∉ ["br", "em", "i", "strong", "b", "code", "img"] ∧
    (gfm = true → e.tagName ∉ ["del", "s", "strike"]) ∧
    (e.tagName = "a" → e.filledAttribute? "href" = none) := by
  have hnone := holds_eq_false_of_findRule h
  rw [builtInRules, List.forall_mem_append] at hnone
  obtain ⟨hgfm, hplain⟩ := hnone
  simp only [markdownRules, List.forall_mem_cons, Markdown.rule, Markdown.partialRule,
    Filter.holds_ofTag, Filter.holds_ofTags, Filter.holds_ofTest, Except.ok.injEq] at hplain
  obtain ⟨-, hbreak, -, -, hemphasis, hstrong, hinline, hlink, himage, hbody, -, -, -, -, hblock, -⟩ :=
    hplain
  have hnot : ∀ {names : List String}, (names.map lowerName).contains e.tagName = false →
      names.map lowerName = names → e.tagName ∉ names := fun hfalse hlower => by
    rwa [hlower, List.contains_eq_mem, decide_eq_false_iff_not] at hfalse
  refine ⟨?block, ?line, ?struck, ?anchor⟩
  case block =>
    rwa [Place.isBlock, isBlockTag, List.contains_eq_mem, decide_eq_false_iff_not] at hblock
  case line =>
    have hemphasis' := hnot hemphasis (by decide)
    have hstrong' := hnot hstrong (by decide)
    -- a `code` is code within a line or the body of a code block
    have hcode : e.tagName ≠ "code" := by
      intro hcode
      rw [Place.isCodeBlockBody, hinline, hcode] at hbody
      cases hbody
    rw [show lowerName "br" = "br" by decide, beq_eq_false_iff_ne] at hbreak
    rw [show lowerName "img" = "img" by decide, beq_eq_false_iff_ne] at himage
    simp only [List.mem_cons, List.not_mem_nil, or_false, not_or] at hemphasis' hstrong' ⊢
    exact ⟨hbreak, hemphasis'.1, hemphasis'.2, hstrong'.1, hstrong'.2, hcode, himage⟩
  case struck =>
    rintro rfl
    simp only [if_true, gfmRules, List.forall_mem_cons, Markdown.rule, Filter.holds_ofTags,
      Except.ok.injEq] at hgfm
    exact hnot hgfm.2.1 (by decide)
  case anchor =>
    intro ha
    simpa [Place.isLink, ha] using hlink

/-- No built-in rule selects an anchor without a target. -/
theorem findRule_anchor (htag : e.tagName = "a") (htarget : e.filledAttribute? "href" = none)
    (gfm : Bool) : findRule e (builtInRules gfm) = .ok none := by
  have hnone : ∀ r ∈ markdownRules, r.filter.holds e = .ok false := by
    -- the rules before the one for links, that one, and the rules after it
    have hsplit : markdownRules = markdownRules.take 7 ++
        Markdown.partialRule "link" (.ofTest "is_link" Place.isLink) (Markdown.asking "get"
          Markdown.link) :: markdownRules.drop 8 := rfl
    have hbefore := not_holds_of_isFor (List.forall₂_take 7 isFor_markdownRules)
      (p := e) (by rw [htag]; decide)
    have hafter := not_holds_of_isFor (List.forall₂_drop 8 isFor_markdownRules)
      (p := e) (by rw [htag]; decide)
    rw [hsplit, List.forall_mem_append, List.forall_mem_cons]
    refine ⟨hbefore, ?_, hafter⟩
    rw [Markdown.partialRule, Filter.holds_ofTest, Place.isLink, htarget, Option.isSome_none,
      Bool.and_false]
  rw [findRule_builtInRules (by rw [htag]; decide), ← List.append_nil markdownRules,
    findRule_append_of_not_holds hnone]
  rfl

/-- An element whose tag is that of no block is left out unless it is void, an anchor or not blank. -/
theorem isElided_eq_false_iff (h : e.tagName ∉ blockTags) : e.isElided content = false ↔
    isVoidTag e.tagName = true ∨ e.tagName = "a" ∨ content.isBlank = false := by
  have hcell : e.tagName ≠ "th" ∧ e.tagName ≠ "td" :=
    ⟨fun hth => h (by rw [hth]; decide), fun htd => h (by rw [htd]; decide)⟩
  simp only [Place.isElided, isAlwaysRendered, Bool.and_eq_false_iff, Bool.not_eq_false',
    Bool.or_eq_true, beq_iff_eq, hcell.1, hcell.2, or_false, or_assoc]

/-! ## What the rules rely on -/

/-- The names of the rules for code blocks. -/
def codeBlockNames : List Text := ["code block".toList, "fenced code block".toList]

/-- The rules with these names are for code blocks. -/
theorem filter_of_codeBlockNames {r : Rule} {name : Text} (h : r ∈ builtInRules gfm)
    (hname : r.name = .text name) (hmem : name ∈ codeBlockNames) :
    r.filter = .ofTest "is_code_block" Place.isCodeBlock := by
  rcases List.mem_append.mp h with hr | hr
  · cases gfm
    · cases hr
    · simp only [if_true, gfmRules, List.mem_cons, List.not_mem_nil, or_false] at hr
      rcases hr with rfl | rfl | rfl | rfl | rfl | rfl | rfl | rfl | rfl | rfl
      all_goals
        cases Value.text.inj hname
        first | rfl | exact absurd hmem (by decide)
  · simp only [markdownRules, List.mem_cons, List.not_mem_nil, or_false] at hr
    rcases hr with rfl | rfl | rfl | rfl | rfl | rfl | rfl | rfl | rfl | rfl | rfl | rfl | rfl |
      rfl | rfl
    all_goals
      cases Value.text.inj hname
      first | rfl | exact absurd hmem (by decide)

/-- The rules for code blocks meet no place without the code that opens it. -/
theorem exists_openingCode_of_findRule {r : Rule} {name : Text}
    (h : findRule e (builtInRules gfm) = .ok (some r)) (hname : r.name = .text name)
    (hcode : name ∈ codeBlockNames) : ∃ code, e.openingCode? = some code := by
  obtain ⟨hmem, hholds⟩ := mem_of_findRule h
  rw [filter_of_codeBlockNames hmem hname hcode, Filter.holds_ofTest, Except.ok.injEq,
    Place.isCodeBlock, Bool.and_eq_true] at hholds
  exact Option.isSome_iff_exists.mp hholds.2

/-! ## Lenient folds -/

/-- **With the built-in rules an element keeps its content** if no rule selects it and it is void, an
anchor or not blank at its turn. -/
theorem keepsContent_builtIn_iff (h : Everywhere Node.IsConvertible p.nodes)
    (he : e ∈ p.elementsBelow) (s : Progress) :
    (Context.builtIn gfm .passthrough).KeepsContent e ↔
      findRule e (builtInRules gfm) = .ok none ∧
        (isVoidTag e.tagName = true ∨ e.tagName = "a" ∨
          ∃ content, (Context.builtIn gfm .passthrough).Turn p s e content ∧
            content.isBlank = false) := by
  obtain ⟨below, hbelow⟩ := exists_contentBelow h gfm
  obtain ⟨content, hturn⟩ := Context.exists_turn hbelow he s
  have hcontent := hturn.contentBelow_eq
  refine ⟨?_, ?_⟩
  · rintro ⟨content', hcontent', hElided, hnone⟩
    cases hcontent.symm.trans hcontent'
    refine ⟨hnone, ?_⟩
    rcases (isElided_eq_false_iff (tagName_of_findRule hnone).1).mp hElided with hvoid | ha | hink
    · exact Or.inl hvoid
    · exact Or.inr (Or.inl ha)
    · exact Or.inr (Or.inr ⟨content, hturn, hink⟩)
  · rintro ⟨hnone, hkept⟩
    refine ⟨content, hcontent, ?_, hnone⟩
    rw [isElided_eq_false_iff (tagName_of_findRule hnone).1]
    rcases hkept with hvoid | ha | ⟨content', hturn', hink⟩
    · exact Or.inl hvoid
    · exact Or.inr (Or.inl ha)
    · cases hcontent.symm.trans hturn'.contentBelow_eq
      exact Or.inr (Or.inr hink)

/-! ## Strict folds -/

/-- An element below a place with readable attributes fails itself only because it is refused. -/
theorem failsItself_builtIn_of_mem {policy : Policy} {err : Error}
    (h : Everywhere Node.IsConvertible p.nodes) (he : e ∈ p.elementsBelow)
    (hfails : (Context.builtIn gfm policy).FailsItself e err) :
    policy = .error ∧ err = .unmatchedElement e.tagName := by
  obtain ⟨hmem, helement⟩ := Place.mem_elementsBelow.mp he
  obtain ⟨n, before, after, outside, hplace, hn⟩ := Place.everywhere_of_mem_descendants h hmem
  exact failsItself_builtIn helement ⟨n, before, after, outside, hplace, hn.here⟩ hfails

/-- A strict fold fails if and only if some element keeps its content in the lenient one. -/
theorem exists_run_fold_error_iff (h : Everywhere Node.IsConvertible p.nodes) (s : Progress) :
    (∃ err s', ((Context.builtIn gfm .error).fold p).run s = .error err s') ↔
      ∃ e ∈ p.elementsBelow, (Context.builtIn gfm .passthrough).KeepsContent e := by
  refine ⟨?_, ?_⟩
  · rintro ⟨err, s', hrun⟩
    obtain ⟨earlier, e, later, horder, hfails, -⟩ := Context.exists_last_failsItself hrun
    have he : e ∈ p.elementsBelow := Place.mem_levelOrder.mp (by simp [horder])
    rcases Context.FailsItself.of_strict hfails with ⟨hkeeps, -⟩ | hfails
    · exact ⟨e, he, hkeeps⟩
    · have hlenient : (Context.builtIn gfm .passthrough).FailsItself e _ := hfails
      cases (failsItself_builtIn_of_mem h he hlenient).1
  · rintro ⟨e, he, hkeeps⟩
    rcases Context.run_fold (Context.builtIn gfm .error) p s with
      ⟨text, s', -, hbelow, -⟩ | ⟨err, s', hrun, -⟩
    · obtain ⟨out, hout⟩ := Context.isOk_markdownOf_of_contentBelow _ hbelow he
      have hfirm := (Context.not_stumbles_of_strict (Place.mem_elementsBelow.mp he).2 hout).2
      exact absurd (Or.inl hkeeps) hfirm
    · exact ⟨err, s', hrun⟩

/-- **The built-in rules have no hidden failures.** A lenient fold always returns a text. A strict
one fails only because it refuses an element that no rule selects: its tag is that of no block, break,
emphasis, code or image, nor one that is struck out when those rules are there, and if it is an anchor
it has no target. It does fail if and only if there is such an element that is void, an anchor, or not
blank at its turn in the lenient fold. Where a rule for code blocks is found, there is the code that
it reads. -/
theorem run_fold_builtIn (gfm : Bool) {p : Place} (h : Everywhere Node.IsConvertible p.nodes)
    (s : Progress) :
    (∃ text s', ((Context.builtIn gfm .passthrough).fold p).run s = .ok text s') ∧
    (∀ err s', ((Context.builtIn gfm .error).fold p).run s = .error err s' →
      ∃ e ∈ p.elementsBelow, err = .unmatchedElement e.tagName ∧
        findRule e (builtInRules gfm) = .ok none ∧ e.tagName ∉ blockTags ∧
        e.tagName ∉ ["br", "em", "i", "strong", "b", "code", "img"] ∧
        (gfm = true → e.tagName ∉ ["del", "s", "strike"]) ∧
        (e.tagName = "a" → e.filledAttribute? "href" = none)) ∧
    ((∃ err s', ((Context.builtIn gfm .error).fold p).run s = .error err s') ↔
      ∃ e ∈ p.elementsBelow, findRule e (builtInRules gfm) = .ok none ∧
        (isVoidTag e.tagName = true ∨ e.tagName = "a" ∨ ∃ content,
          (Context.builtIn gfm .passthrough).Turn p
            (s.noting ((Context.builtIn gfm .passthrough).startEvents p)) e content ∧
          content.isBlank = false)) ∧
    ∀ e r name, findRule e (builtInRules gfm) = .ok (some r) → r.name = .text name →
      name ∈ codeBlockNames → ∃ code, e.openingCode? = some code := by
  refine ⟨?lenient, fun err s' hrun => ?refused, ?iff, fun _ _ _ => exists_openingCode_of_findRule⟩
  case lenient =>
    obtain ⟨text, htext⟩ := exists_contentBelow h gfm
    exact ⟨text, Context.exists_run_fold_iff.mpr htext⟩
  case refused =>
    obtain ⟨earlier, e, later, horder, hfails, -⟩ := Context.exists_last_failsItself hrun
    have he : e ∈ p.elementsBelow := Place.mem_levelOrder.mp (by simp [horder])
    obtain ⟨-, herr⟩ := failsItself_builtIn_of_mem h he hfails
    rcases Context.FailsItself.of_strict hfails with ⟨⟨_, _, _, hnone⟩, -⟩ | hfails
    · exact ⟨e, he, herr, hnone, tagName_of_findRule hnone⟩
    · have hlenient : (Context.builtIn gfm .passthrough).FailsItself e _ := hfails
      cases (failsItself_builtIn_of_mem h he hlenient).1
  case iff =>
    rw [exists_run_fold_error_iff h]
    refine exists_congr fun e => and_congr_right fun he => ?_
    exact keepsContent_builtIn_iff h he _

/-- A paragraph with an anchor that has no target. -/
def unlinkedAnchor : List Node := [.element "p" [] [.element "a" [] []]]

/-- An anchor without a target is refused although there is nothing in it. -/
theorem run_fold_builtIn_unlinkedAnchor :
    Everywhere Node.IsConvertible (Place.document unlinkedAnchor).nodes ∧
    (∃ text s', ((Context.builtIn true .passthrough).fold (.document unlinkedAnchor)).run {} =
      .ok text s') ∧
    ∃ s', ((Context.builtIn true .error).fold (.document unlinkedAnchor)).run {} =
      .error (.unmatchedElement "a") s' := by
  have hconv : Everywhere Node.IsConvertible (Place.document unlinkedAnchor).nodes := by decide
  obtain ⟨hlenient, hrefused, hiff, -⟩ := run_fold_builtIn true hconv {}
  let anchor : Place := .node (.element "a" [] []) [] [] (.element "p" [] [] [] .document)
  have hbelow : (Place.document unlinkedAnchor).elementsBelow =
      [.node (.element "p" [] [.element "a" [] []]) [] [] .document, anchor] := rfl
  obtain ⟨err, s', hrun⟩ :=
    hiff.mpr ⟨anchor, by rw [hbelow]; simp, findRule_anchor rfl rfl true, Or.inr (Or.inl rfl)⟩
  obtain ⟨e, he, rfl, -, hblock, -⟩ := hrefused err s' hrun
  rw [hbelow, List.mem_cons, List.mem_singleton] at he
  rcases he with rfl | rfl
  · exact absurd (by decide) hblock
  · exact ⟨hconv, hlenient, s', hrun⟩

end HtmlMarkdown
