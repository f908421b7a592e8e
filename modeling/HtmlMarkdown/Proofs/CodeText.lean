import Mathlib
import HtmlMarkdown.Proofs.IndentedCode

/-!
# What a code block keeps

A code block shows the text of the `code` that opens it and nothing else that is in it. It is left
out if its content is blank, and that may be so although it holds text: the rules of plain Markdown
make white space of a further code block in it whose own code is blank.

* `Place.isMute`, `Place.muteBelow`: elements whose Markdown has nothing of the text in them;
* `isBlank_convertElement`, **`isBlank_plainTextBelow`**: a content is blank only if the plain text is
  that lies in no such element;
* `ink_sublist_codeMarkdown`: the Markdown of a code block keeps the ink of its code;
* `stored_codeBlock`, **`ink_sublist_stored_codeBlock`**: what a fold stores for a code block;
* `not_sublist_stored_codeAndText`: text after the code is lost.
-/

namespace HtmlMarkdown

open Text

/-! ## Blank Markdown -/

theorem isBlank_eq_false_of_ink_sublist {s t : Text} (h : (ink s).Sublist t)
    (hs : s.isBlank = false) : t.isBlank = false := by
  rw [← ink_ne_nil_iff] at hs ⊢
  have hink := Sublist.ink h
  rw [ink_ink] at hink
  intro hnil
  rw [hnil, List.sublist_nil] at hink
  exact hs hink

theorem isBlank_fenced (language code : Text) : (Gfm.fenced language code).isBlank = false :=
  rfl

section Blocks

variable {p : Place}

/-- Nothing of the text in an element is in its Markdown: it cannot hold any, or it is an indented code
block whose code is blank. -/
def Place.isMute (gfm : Bool) (p : Place) : Bool :=
  p.isVoid || (!gfm && p.isCodeBlock && p.codeText.isBlank)

/-- The addresses of such elements below a place. -/
def Place.muteBelow (gfm : Bool) (p : Place) : List (List ℕ) :=
  (p.descendants.filter (isMute gfm)).map address

/-- A code block that is not mute has Markdown with ink. -/
theorem isBlank_codeMarkdown {gfm : Bool} (hcode : p.isCodeBlock = true)
    (h : p.isMute gfm = false) : (p.codeMarkdown gfm).isBlank = false := by
  cases gfm with
  | true => exact isBlank_fenced [] p.codeText
  | false =>
    rw [Place.isMute, hcode, Bool.or_eq_false_iff] at h
    rw [Place.codeMarkdown, if_neg Bool.false_ne_true, isBlank_asBlock, isBlank_prefixLines]
    exact h.2

/-- What is made of an element whose content is not blank is not blank, unless the element is mute. -/
theorem isBlank_convertElement {gfm : Bool} {policy : Policy} {content out : Text}
    (he : p.isElement = true) (hmute : p.isMute gfm = false)
    (h : (Context.builtIn gfm policy).convertElement p content = .ok out)
    (hink : content.isBlank = false) : out.isBlank = false := by
  have hvoid : p.isVoid = false := (Bool.or_eq_false_iff.mp hmute).1
  by_cases hblock : p.isCodeBlock = true
  · rw [convertElement_codeBlock gfm policy content hblock, hink] at h
    cases h
    exact isBlank_codeMarkdown hblock hmute
  rcases convertElement_builtIn he h with ⟨hElided, -⟩ | rfl | ⟨-, middle, hrule, rfl⟩
  · rw [Place.isElided, hink, Bool.and_false] at hElided
    cases hElided
  · exact hink
  · have hmiddle : middle.isBlank = false := by
      by_cases hfenced : p.isHighlightedPre = true ∧
          middle = Gfm.fenced p.parentLanguage p.textContent
      · rw [hfenced.2, isBlank_fenced]
      · have hsublist := hrule.ink_sublist rfl he hvoid (Bool.not_eq_true _ ▸ hblock)
          fun hpre heq => hfenced ⟨hpre, heq⟩
        rw [ink_flank] at hsublist
        exact isBlank_eq_false_of_ink_sublist hsublist hink
    rw [isBlank_append, isBlank_append, hmiddle, Bool.and_false, Bool.false_and]

section Blank

variable {hides : List ℕ → Bool} {gfm : Bool} {policy : Policy}

/-- The Markdown of an element is blank only if its plain text is, if the same holds of what lies
below it. -/
theorem isBlank_plainText {out : Text} (he : p.isElement = true)
    (hhides : p.isMute gfm = true → hides p.address = true)
    (hbelow : ∀ content, (Context.builtIn gfm policy).contentBelow p = .ok content →
      content.isBlank = true → (p.plainTextBelow hides).isBlank = true)
    (h : (Context.builtIn gfm policy).markdownOf p = .ok out) (hblank : out.isBlank = true) :
    (p.plainText hides).isBlank = true := by
  obtain ⟨content, hcontent, hout⟩ := (Context.markdownOf_eq_ok_iff _ he).mp h
  rw [Place.plainText_of_isElement he]
  split
  · rfl
  next hshown =>
  refine hbelow content hcontent (by_contra fun hink => ?_)
  have hmute : p.isMute gfm = false := Bool.eq_false_iff.mpr fun hmute => hshown (hhides hmute)
  have hsome := isBlank_convertElement he hmute hout (Bool.eq_false_iff.mpr hink)
  rw [hblank] at hsome
  cases hsome

/-- **A content is blank only if the plain text is** that lies in no mute element. -/
theorem isBlank_plainTextBelow {content : Text}
    (hhides : ∀ d ∈ p.descendants, d.isMute gfm = true → hides d.address = true)
    (h : (Context.builtIn gfm policy).contentBelow p = .ok content)
    (hblank : content.isBlank = true) : (p.plainTextBelow hides).isBlank = true := by
  induction p using Place.inductionOnChildren generalizing content with
  | step p ih =>
    have hchild : ∀ d ∈ p.children, ∀ out, (Context.builtIn gfm policy).markdownOf d = .ok out →
        Text.isBlank out = true → Text.isBlank (d.plainText hides) = true := by
      intro d hd out hout hnone
      obtain ⟨n, earlier, later, rfl, -⟩ := Place.mem_spread hd
      cases n with
      | string kind value =>
        cases hout
        rw [Place.plainText, Node.plainText]
        split
        · next hkind =>
          subst hkind
          exact hnone
        · rfl
      | element name attributes children =>
        refine isBlank_plainText rfl
          (hhides _ (Place.mem_descendants_iff.mpr ⟨_, hd, Or.inl rfl⟩))
          (fun below => ih _ hd fun d' hd' => ?_) hout hnone
        exact hhides d' (Place.mem_descendants_iff.mpr ⟨_, hd, Or.inr hd'⟩)
    rw [Place.plainTextBelow_eq]
    revert hblank
    refine Context.contentBelow_induction
      (motive := fun ds out => Text.isBlank out = true →
        Text.isBlank (ds.flatMap (Place.plainText hides)) = true) h
      (fun _ => rfl) fun d hd ds out rest hout ihds hblank => ?_
    rw [isBlank_append, Bool.and_eq_true] at hblank
    rw [List.flatMap_cons, isBlank_append, hchild d hd out hout hblank.1, ihds hblank.2]
    rfl

end Blank

/-! ## The text of the code -/

theorem tagName_of_firstCode? {ps : List Place} {code : Place} (h : Place.firstCode? ps = some code) :
    code.tagName = "code" := by
  induction ps with
  | nil => cases h
  | cons d ps ih =>
    rw [Place.firstCode?] at h
    split at h
    · exact ih h
    · split at h
      · next htag =>
        cases h
        exact beq_iff_eq.mp htag
      · cases h

/-- **The Markdown of a code block keeps the ink** of all plain text in its code. -/
theorem ink_sublist_codeMarkdown {code : Place} (hcode : p.openingCode? = some code) (gfm : Bool) :
    (ink (code.plainTextBelow fun _ => false)).Sublist (p.codeMarkdown gfm) := by
  have hbreak : HtmlMarkdown.isBlank '\n' = true := by decide
  have htext : p.codeText = code.textContent := by rw [Place.codeText, hcode]
  have htag := tagName_of_firstCode? hcode
  have hbelow : (code.plainTextBelow fun _ => false).Sublist p.codeText :=
    htext ▸ plainTextBelow_sublist_textContent (htag ▸ by decide)
  have hink := Sublist.ink hbelow
  rw [Place.codeMarkdown]
  split
  · exact (hink.trans (ink_sublist _)).trans (sublist_fenced [] p.codeText)
  · have hlines := (ink_sublist_replaceChar hbreak ('\n' :: "    ".toList) p.codeText).trans
      (List.sublist_append_right "    ".toList _)
    exact hink.trans (ink_sublist_asBlock hlines)

end Blocks

/-! ## What a fold stores -/

/-- **What a fold stores for a code block** is its code, unless its content is blank. -/
theorem stored_codeBlock {gfm : Bool} {policy : Policy} {root e : Place} {s s' : Progress}
    {text : Text} (hrun : ((Context.builtIn gfm policy).fold root).run s = .ok text s')
    (he : e ∈ root.elementsBelow) (hblock : e.isCodeBlock = true) :
    ∃ content, (Context.builtIn gfm policy).contentBelow e = .ok content ∧
      s'.outputs.get? e.address = some (if content.isBlank then [] else e.codeMarkdown gfm) := by
  rcases Context.run_fold (Context.builtIn gfm policy) root s with
    ⟨text', s'', hrun', -, hdone⟩ | ⟨err, s'', hrun', -⟩
  · cases hrun.symm.trans hrun'
    obtain ⟨out, hout, hstored⟩ :=
      hdone.stored e (List.mem_reverse.mpr (Place.mem_levelOrder.mpr he))
    obtain ⟨content, hcontent, hconv⟩ :=
      (Context.markdownOf_eq_ok_iff _ (e.isElement_of_isCodeBlock hblock)).mp hout
    rw [convertElement_codeBlock gfm policy content hblock, Except.ok.injEq] at hconv
    exact ⟨content, hcontent, hconv ▸ hstored⟩
  · cases hrun.symm.trans hrun'

/-- **A code block keeps all of its code.** What a fold stores for a code block is made of the text of
the `code` that opens it, or nothing if the content of the block is blank. The ink of all plain text
in that `code` is in it, in its order, as soon as the block has any plain text with ink that lies in no
void element and, with the rules of plain Markdown, in no further code block whose own code is
blank. -/
theorem ink_sublist_stored_codeBlock (gfm : Bool) (root : Place) (s : Progress) :
    (Everywhere Node.IsConvertible root.nodes →
      ∃ text s', ((Context.builtIn gfm .passthrough).fold root).run s = .ok text s') ∧
    ∀ policy text s', ((Context.builtIn gfm policy).fold root).run s = .ok text s' →
      ∀ e ∈ root.elementsBelow, e.isCodeBlock = true →
        ∃ code content out, e.openingCode? = some code ∧
          (Context.builtIn gfm policy).contentBelow e = .ok content ∧
          s'.outputs.get? e.address = some out ∧
          out = (if content.isBlank then [] else e.codeMarkdown gfm) ∧
          ((e.plainTextBelow (e.muteBelow gfm).contains).isBlank = false →
            (ink (code.plainTextBelow fun _ => false)).Sublist out) := by
  refine ⟨fun hconv => ?_, fun policy text s' hrun e he hblock => ?_⟩
  · obtain ⟨text, htext⟩ := exists_contentBelow hconv gfm
    exact ⟨text, Context.exists_run_fold_iff.mpr htext⟩
  · obtain ⟨content, hcontent, hstored⟩ := stored_codeBlock hrun he hblock
    obtain ⟨code, hcode⟩ := Option.isSome_iff_exists.mp (Bool.and_eq_true_iff.mp hblock).2
    refine ⟨code, content, _, hcode, hcontent, hstored, rfl, fun hink => ?_⟩
    have hsome : content.isBlank = false := by
      by_contra hblank
      rw [Bool.not_eq_false] at hblank
      have hnone := isBlank_plainTextBelow (fun d hd hmute => List.contains_iff_mem.mpr
        (List.mem_map_of_mem (List.mem_filter.mpr ⟨hd, hmute⟩))) hcontent hblank
      cases hink.symm.trans hnone
    rw [hsome]
    exact ink_sublist_codeMarkdown hcode gfm

/-- A code block with text after its code. -/
def codeAndText : List Node :=
  [.element "pre" [] [.element "code" [] [.string .plain ['a']], .string .plain ['b']]]

/-- The place of that code block. -/
def codeAndTextBlock : Place :=
  .node (.element "pre" [] [.element "code" [] [.string .plain ['a']], .string .plain ['b']]) [] []
    .document

theorem isConvertible_codeAndText :
    Everywhere Node.IsConvertible (Place.document codeAndText).nodes := by decide

theorem mem_elementsBelow_codeAndText :
    codeAndTextBlock ∈ (Place.document codeAndText).elementsBelow := List.mem_cons_self

theorem isCodeBlock_codeAndText : codeAndTextBlock.isCodeBlock = true := by decide

/-- The code is in what is stored for the block. -/
theorem ink_sublist_stored_codeBlock_codeAndText :
    Everywhere Node.IsConvertible (Place.document codeAndText).nodes ∧
    codeAndTextBlock ∈ (Place.document codeAndText).elementsBelow ∧
    codeAndTextBlock.isCodeBlock = true ∧
    (codeAndTextBlock.plainTextBelow (codeAndTextBlock.muteBelow true).contains).isBlank = false ∧
    ∃ text s' out,
      ((Context.builtIn true .passthrough).fold (.document codeAndText)).run {} = .ok text s' ∧
      s'.outputs.get? codeAndTextBlock.address = some out ∧ ['a'].Sublist out := by
  have hink : (codeAndTextBlock.plainTextBelow
      (codeAndTextBlock.muteBelow true).contains).isBlank = false := by decide
  obtain ⟨hok, hkept⟩ := ink_sublist_stored_codeBlock true (.document codeAndText) {}
  obtain ⟨text, s', hrun⟩ := hok isConvertible_codeAndText
  obtain ⟨code, content, out, hcode, -, hstored, -, hsublist⟩ := hkept .passthrough text s' hrun
    codeAndTextBlock mem_elementsBelow_codeAndText isCodeBlock_codeAndText
  cases hcode
  exact ⟨isConvertible_codeAndText, mem_elementsBelow_codeAndText, isCodeBlock_codeAndText, hink,
    text, s', out, hrun, hstored, hsublist hink⟩

/-- **The text after the code is lost**: it is plain text in the code block, and not in what is stored
for it. -/
theorem not_sublist_stored_codeAndText : ∃ text s' out,
    ((Context.builtIn false .passthrough).fold (.document codeAndText)).run {} = .ok text s' ∧
    codeAndTextBlock ∈ (Place.document codeAndText).elementsBelow ∧
    codeAndTextBlock.isCodeBlock = true ∧
    s'.outputs.get? codeAndTextBlock.address = some out ∧
    ¬ (ink (codeAndTextBlock.plainTextBelow fun _ => false)).Sublist out := by
  obtain ⟨text, htext⟩ := exists_contentBelow isConvertible_codeAndText false
  obtain ⟨s', hrun⟩ := Context.exists_run_fold_iff (s := {}).mpr htext
  obtain ⟨content, -, hstored⟩ :=
    stored_codeBlock hrun mem_elementsBelow_codeAndText isCodeBlock_codeAndText
  refine ⟨text, s', _, hrun, mem_elementsBelow_codeAndText, isCodeBlock_codeAndText, hstored, ?_⟩
  split <;> decide

end HtmlMarkdown
