import Mathlib
import HtmlMarkdown.Proofs.Selection

/-!
# What becomes of a block

* `convertElement_of_isBlock`: a block is left out or what its rule makes of it;
* `convertElement_of_markdownRules`, `convertElement_of_gfmRules`: a block whose rule is the first
  one for its tag;
* `convertElement_paragraph`, `convertElement_heading`, `convertElement_horizontalRule`,
  `convertElement_blockquote`, `convertElement_listItem`, `convertElement_list`: blocks of plain
  Markdown, with the GitHub-flavoured rules and without them;
* `convertElement_cell`, `convertElement_tableRow`, `convertElement_tableSection`,
  `convertElement_table`: the parts of a table with the GitHub-flavoured rules;
* `Place.codeMarkdown`, **`convertElement_codeBlock`**: code blocks.
-/

namespace HtmlMarkdown

variable {p : Place}

/-! ## Blocks and their rules -/

/-- A block is left out, or it is what its rule makes of it. -/
theorem convertElement_of_isBlock {c : Context} {r : Rule} (hblock : p.isBlock = true)
    (hr : findRule p c.rules = .ok (some r)) (content : Text) :
    c.convertElement p content =
      if p.isElided content then .ok [] else r.textFor content p := by
  have hflank : p.flank content = { content } := if_pos hblock
  rcases helided : p.isElided content with _ | _
  · rw [Context.convertElement_of_rule helided hr, hflank, if_neg Bool.false_ne_true]
    rcases r.textFor content p with e | text
    · rfl
    · simp [Except.map]
  · rw [Context.convertElement_of_isElided helided, if_pos rfl]

theorem Filter.holds_ofTag_of_eq {name : String} (h : p.tagName = lowerName name) :
    (Filter.ofTag name).holds p = .ok true := by
  rw [holds_ofTag, h, beq_self_eq_true]

theorem Filter.holds_ofTags_of_mem {names : List String} (h : p.tagName ∈ names.map lowerName) :
    (Filter.ofTags names).holds p = .ok true := by
  rw [holds_ofTags, List.contains_iff_mem.mpr h]

section Tags

variable {tag : String} {r : Rule} {i : ℕ} (policy : Policy) (content : Text)

/-- A blank element is left out, unless its tag is void or always rendered. -/
theorem Place.isElided_eq_isBlank (h : p.tagName = tag)
    (htag : isVoidTag tag = false ∧ isAlwaysRendered tag = false) :
    p.isElided content = content.isBlank := by
  rw [isElided, h, htag.1, htag.2]
  rfl

theorem Place.isElided_eq_false (h : p.tagName = tag)
    (htag : isVoidTag tag = true ∨ isAlwaysRendered tag = true) :
    p.isElided content = false := by
  rw [isElided, h]
  rcases htag with htag | htag <;> rw [htag] <;> simp

/-- A block of plain Markdown is left out or what the first rule for its tag makes of it. -/
theorem convertElement_of_markdownRules (h : p.tagName = tag) (hr : markdownRules[i]? = some r)
    (htag : isBlockTag tag = true ∧ tag ∉ gfmTags.flatten ∧ tag ∉ (markdownTags.take i).flatten)
    (hholds : r.filter.holds p = .ok true) (hfunction : r.checkReplacement = .ok ()) (gfm : Bool) :
    (Context.builtIn gfm policy).convertElement p content =
      if p.isElided content then .ok [] else r.textFor content p := by
  subst h
  obtain ⟨hblock, hgfm, hbefore⟩ := htag
  have hfirst : findRule p markdownRules = .ok (some r) :=
    findRule_of_isFor isFor_markdownRules hr hbefore hholds hfunction
  exact convertElement_of_isBlock hblock ((findRule_builtInRules hgfm gfm).trans hfirst) content

/-- A block is left out or what the first GitHub-flavoured rule for its tag makes of it. -/
theorem convertElement_of_gfmRules (h : p.tagName = tag) (hr : gfmRules[i]? = some r)
    (htag : isBlockTag tag = true ∧ tag ∉ (gfmTags.take i).flatten)
    (hholds : r.filter.holds p = .ok true) (hfunction : r.checkReplacement = .ok ()) :
    (Context.builtIn true policy).convertElement p content =
      if p.isElided content then .ok [] else r.textFor content p := by
  subst h
  exact convertElement_of_isBlock htag.1 (findRule_gfm hr htag.2 hholds hfunction) content

end Tags

/-! ## Plain Markdown -/

section Plain

variable (gfm : Bool) (policy : Policy) (content : Text)

/-- **A paragraph** stands alone, unless it is blank. -/
theorem convertElement_paragraph (h : p.tagName = "p") :
    (Context.builtIn gfm policy).convertElement p content =
      .ok (if content.isBlank then [] else asBlock content) := by
  rw [convertElement_of_markdownRules (i := 0) policy content h rfl (by decide)
    (Filter.holds_ofTag_of_eq h) rfl, Place.isElided_eq_isBlank content h (by decide),
    Rule.textFor_rule]
  split <;> rfl

/-- **A heading** has as many number signs as its level, unless it is blank. -/
theorem convertElement_heading {level : ℕ} (h : p.tagName ∈ Markdown.headingTags)
    (hlevel : Markdown.headingLevel p.tagName = .ok level) :
    (Context.builtIn gfm policy).convertElement p content =
      .ok (if content.isBlank then []
        else asBlock (List.replicate level '#' ++ ' ' :: content)) := by
  have hrule : ∀ tag ∈ Markdown.headingTags, isBlockTag tag = true ∧ tag ∉ gfmTags.flatten ∧
      tag ∉ (markdownTags.take 2).flatten := by decide
  have hkept : ∀ tag ∈ Markdown.headingTags,
      isVoidTag tag = false ∧ isAlwaysRendered tag = false := by decide
  rw [convertElement_of_markdownRules (i := 2) policy content rfl rfl (hrule _ h)
    (Filter.holds_ofTags_of_mem h) rfl, Place.isElided_eq_isBlank content rfl (hkept _ h),
    Rule.textFor_partialRule, Markdown.heading, hlevel]
  split <;> rfl

/-- **A horizontal rule** is three stars, whatever is in it. -/
theorem convertElement_horizontalRule (h : p.tagName = "hr") :
    (Context.builtIn gfm policy).convertElement p content = .ok (asBlock "* * *".toList) := by
  rw [convertElement_of_markdownRules (i := 3) policy content h rfl (by decide)
    (Filter.holds_ofTag_of_eq h) rfl, Place.isElided_eq_false content h (by decide),
    Rule.textFor_rule]
  rfl

/-- **A quotation** is what the rule for quotations makes of it, unless it is blank. -/
theorem convertElement_blockquote (h : p.tagName = "blockquote") :
    (Context.builtIn gfm policy).convertElement p content =
      .ok (if content.isBlank then [] else Markdown.blockquote content p) := by
  rw [convertElement_of_markdownRules (i := 11) policy content h rfl (by decide)
    (Filter.holds_ofTag_of_eq h) rfl, Place.isElided_eq_isBlank content h (by decide),
    Rule.textFor_rule]
  split <;> rfl

/-- **A list item** is what the rule for items makes of it, unless it is blank. -/
theorem convertElement_listItem (h : p.tagName = "li") :
    (Context.builtIn gfm policy).convertElement p content =
      if content.isBlank then .ok [] else Markdown.listItem content p := by
  rw [convertElement_of_markdownRules (i := 12) policy content h rfl (by decide)
    (Filter.holds_ofTag_of_eq h) rfl, Place.isElided_eq_isBlank content h (by decide),
    Rule.textFor_partialRule]

/-- **A list** is its items, with blank lines around them unless it is in an item. -/
theorem convertElement_list (h : p.tagName = "ul" ∨ p.tagName = "ol") :
    (Context.builtIn gfm policy).convertElement p content =
      .ok (if content.isBlank then [] else Markdown.list content p) := by
  have hmem : p.tagName ∈ ["ul", "ol"] := by simpa using h
  have hrule : ∀ tag ∈ ["ul", "ol"], isBlockTag tag = true ∧ tag ∉ gfmTags.flatten ∧
      tag ∉ (markdownTags.take 13).flatten := by decide
  have hkept : ∀ tag ∈ ["ul", "ol"], isVoidTag tag = false ∧ isAlwaysRendered tag = false := by
    decide
  rw [convertElement_of_markdownRules (i := 13) policy content rfl rfl (hrule _ hmem)
    (Filter.holds_ofTags_of_mem hmem) rfl, Place.isElided_eq_isBlank content rfl (hkept _ hmem),
    Rule.textFor_rule]
  split <;> rfl

end Plain

/-! ## Tables -/

section Tables

variable (policy : Policy) (content : Text)

/-- **A cell** is what the rule for cells makes of it, also when it is empty. -/
theorem convertElement_cell (h : p.tagName ∈ ["th", "td"]) :
    (Context.builtIn true policy).convertElement p content = Gfm.cell content p := by
  have hrule : ∀ tag ∈ ["th", "td"], isBlockTag tag = true ∧ tag ∉ (gfmTags.take 3).flatten := by
    decide
  have hkept : ∀ tag ∈ ["th", "td"], isVoidTag tag = true ∨ isAlwaysRendered tag = true := by
    decide
  rw [convertElement_of_gfmRules (i := 3) policy content rfl rfl (hrule _ h)
    (Filter.holds_ofTags_of_mem h) rfl, Place.isElided_eq_false content rfl (hkept _ h),
    Rule.textFor_partialRule]
  rfl

/-- **A row of a table** is what the rule for rows makes of it, unless it is blank. -/
theorem convertElement_tableRow (h : p.tagName = "tr") :
    (Context.builtIn true policy).convertElement p content =
      if content.isBlank then .ok [] else Gfm.tableRow content p := by
  rw [convertElement_of_gfmRules (i := 4) policy content h rfl (by decide)
    (Filter.holds_ofTag_of_eq h) rfl, Place.isElided_eq_isBlank content h (by decide),
    Rule.textFor_partialRule]

/-- **A table** stands alone, unless it is blank. -/
theorem convertElement_table (h : p.tagName = "table") :
    (Context.builtIn true policy).convertElement p content =
      .ok (if content.isBlank then [] else asBlock content) := by
  rw [convertElement_of_gfmRules (i := 5) policy content h rfl (by decide)
    (Filter.holds_ofTag_of_eq h) rfl, Place.isElided_eq_isBlank content h (by decide),
    Rule.textFor_rule]
  split <;> rfl

/-- **A section of a table** is its rows, unless they are blank. -/
theorem convertElement_tableSection (h : p.tagName ∈ ["thead", "tbody", "tfoot"]) :
    (Context.builtIn true policy).convertElement p content =
      .ok (if content.isBlank then [] else content) := by
  have hrule : ∀ tag ∈ ["thead", "tbody", "tfoot"],
      isBlockTag tag = true ∧ tag ∉ (gfmTags.take 6).flatten := by decide
  have hkept : ∀ tag ∈ ["thead", "tbody", "tfoot"],
      isVoidTag tag = false ∧ isAlwaysRendered tag = false := by decide
  rw [convertElement_of_gfmRules (i := 6) policy content rfl rfl (hrule _ h)
    (Filter.holds_ofTags_of_mem h) rfl, Place.isElided_eq_isBlank content rfl (hkept _ h),
    Rule.textFor_rule]
  split <;> rfl

end Tables

/-! ## Code blocks -/

/-- The Markdown of a code block: its code between fences, or indented by four spaces. -/
def Place.codeMarkdown (gfm : Bool) (p : Place) : Text :=
  if gfm then Gfm.fenced [] p.codeText else asBlock (prefixLines "    ".toList p.codeText)

theorem Place.isElement_of_isCodeBlock (h : p.isCodeBlock = true) : p.isElement = true := by
  have htag := List.mem_singleton.mp (p.tagName_of_isCodeBlock h)
  rcases p with _ | ⟨⟨name, attributes, children⟩ | _, before, after, outside⟩
  · exact absurd (show "" = "pre" from htag) (by decide)
  · rfl
  · exact absurd (show "" = "pre" from htag) (by decide)

/-- **A code block** is its code, unless its content is blank. -/
theorem convertElement_codeBlock (gfm : Bool) (policy : Policy) (content : Text)
    (h : p.isCodeBlock = true) :
    (Context.builtIn gfm policy).convertElement p content =
      .ok (if content.isBlank then [] else p.codeMarkdown gfm) := by
  have htag := List.mem_singleton.mp (p.tagName_of_isCodeBlock h)
  have hholds : (Filter.ofTest "is_code_block" Place.isCodeBlock).holds p = .ok true :=
    congrArg Except.ok h
  have hasked := asking_of_isElement (p.isElement_of_isCodeBlock h)
  cases gfm with
  | true =>
    rw [convertElement_of_gfmRules (i := 7) policy content htag rfl (by decide) hholds rfl,
      Place.isElided_eq_isBlank content htag (by decide), Rule.textFor_partialRule, hasked]
    split <;> rfl
  | false =>
    have hbefore : p.tagName ∉ (markdownTags.take 10).flatten := by
      rw [htag]
      decide
    have hblock : p.isBlock = true := by
      rw [Place.isBlock, htag]
      rfl
    have hrule := findRule_of_isFor (i := 10) isFor_markdownRules rfl hbefore hholds rfl
    rw [convertElement_of_isBlock (c := Context.builtIn false policy) hblock hrule,
      Place.isElided_eq_isBlank content htag (by decide), Rule.textFor_partialRule, hasked]
    split <;> rfl

end HtmlMarkdown
