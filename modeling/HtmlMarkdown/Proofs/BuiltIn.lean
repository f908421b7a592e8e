import Mathlib
import HtmlMarkdown.Convert
import HtmlMarkdown.Proofs.Meaning

/-!
# The built-in rules

* `builtInRules`, `Context.builtIn`: the rules and the context of a conversion without rules of a
  caller's own; `context_builtIn`;
* `Filter.holds_ofTag`, `Filter.holds_ofTags`: what a filter by tags selects;
* `mem_of_findRule`: a rule that is found is one of the rules and selects the place;
* **`BuiltIn`, `builtIn_of_holds`**: what each built-in rule makes of an element that it selects.
-/

namespace HtmlMarkdown

/-! ## Rules and context -/

/-- The rules of a conversion without rules of a caller's own. -/
def builtInRules (gfm : Bool) : List Rule := (if gfm then gfmRules else []) ++ markdownRules

/-- The context of a conversion without rules of a caller's own. -/
def Context.builtIn (gfm : Bool) (policy : Policy) : Context := ⟨builtInRules gfm, policy⟩

theorem composeRules_ready (rules : List Rule) : composeRules (rules.map .ready) = .ok rules := by
  rw [composeRules]
  induction rules with
  | nil => rfl
  | cons r rules ih =>
    rw [List.map_cons, List.mapM_cons, ih]
    rfl

theorem context_builtIn (gfm : Bool) (policy : Policy) :
    ({ gfm, unmatched := policy } : Options).context = .ok (Context.builtIn gfm policy) := by
  have h : ({ gfm, unmatched := policy } : Options).allRules = (builtInRules gfm).map .ready := by
    cases gfm <;> simp [Options.allRules, builtInRules]
  rw [Options.context, h, composeRules_ready]
  rfl

/-! ## Filters -/

theorem Filter.holds_ofTag (p : Place) (name : String) :
    (Filter.ofTag name).holds p = .ok (p.tagName == lowerName name) := rfl

theorem Filter.holds_ofTags (p : Place) (names : List String) :
    (Filter.ofTags names).holds p = .ok ((names.map lowerName).contains p.tagName) := by
  simp only [Filter.ofTags, Filter.holds]
  congr 1
  rw [Bool.eq_iff_iff]
  simp [List.mem_eraseDups]

theorem Filter.holds_ofTest (p : Place) (label : String) (test : Place → Bool) :
    (Filter.ofTest label test).holds p = .ok (test p) := rfl

/-- A rule that is found is one of the rules and selects the place. -/
theorem mem_of_findRule {p : Place} {rules : List Rule} {r : Rule}
    (h : findRule p rules = .ok (some r)) : r ∈ rules ∧ r.filter.holds p = .ok true := by
  induction rules with
  | nil => cases h
  | cons q rules ih =>
    rw [findRule] at h
    rcases hq : q.filter.holds p with e | _ | _
    · rw [hq] at h
      cases h
    · rw [hq] at h
      obtain ⟨hmem, hholds⟩ := ih h
      exact ⟨List.mem_cons_of_mem _ hmem, hholds⟩
    · rcases hc : q.checkReplacement with e | _
      · simp [hq, hc, bind, Except.bind] at h
      · simp only [hq, hc, bind, Except.bind, if_true, pure, Except.pure, Except.ok.injEq,
          Option.some.injEq] at h
        subst h
        exact ⟨List.mem_cons_self, hq⟩

/-! ## What each rule makes -/

/-- A line break in either kind of Markdown. -/
def IsLineBreak (text : Text) : Prop := text = "  \n".toList ∨ text = ['\n']

/-- What a built-in rule makes of an element that it selects, with what it has seen of it. -/
inductive BuiltIn (p : Place) (content : Text) : Except Error Text → Prop
  | paragraph : p.tagName = "p" → BuiltIn p content (.ok (asBlock content))
  | lineBreak (text : Text) : p.tagName = "br" → IsLineBreak text → BuiltIn p content (.ok text)
  | heading (level : Nat) : p.tagName ∈ Markdown.headingTags →
      BuiltIn p content (.ok (asBlock (List.replicate level '#' ++ ' ' :: content)))
  | horizontalRule : p.tagName = "hr" → BuiltIn p content (.ok (asBlock "* * *".toList))
  | emphasis : p.tagName ∈ ["em", "i"] → BuiltIn p content (.ok (Markdown.emphasis content p))
  | strong : p.tagName ∈ ["strong", "b"] → BuiltIn p content (.ok (Markdown.strong content p))
  | inlineCode : p.isInlineCode = true → BuiltIn p content (.ok (Markdown.inlineCode content p))
  | link : p.isLink = true → BuiltIn p content (.ok (Markdown.link content p))
  | image : p.tagName = "img" → BuiltIn p content (.ok (Markdown.image content p))
  | codeBlockBody : p.isCodeBlockBody = true → BuiltIn p content (.ok content)
  | codeBlock (text : Text) : p.isCodeBlock = true → BuiltIn p content (.ok text)
  | blockquote : p.tagName = "blockquote" →
      BuiltIn p content (.ok (Markdown.blockquote content p))
  | listItem : p.tagName = "li" → BuiltIn p content (Markdown.listItem content p)
  | list : p.tagName ∈ ["ul", "ol"] → BuiltIn p content (.ok (Markdown.list content p))
  | block : p.isBlock = true → BuiltIn p content (.ok (Markdown.block content p))
  | strikethrough : p.tagName ∈ ["del", "s", "strike"] →
      BuiltIn p content (.ok (Gfm.strikethrough content p))
  | checkbox : p.tagName = "input" → BuiltIn p content (.ok (Gfm.checkbox content p))
  | cell : p.tagName ∈ ["th", "td"] → BuiltIn p content (Gfm.cell content p)
  | tableRow : p.tagName = "tr" → BuiltIn p content (Gfm.tableRow content p)
  | table : p.tagName = "table" → BuiltIn p content (.ok (asBlock content))
  | tableSection : p.tagName ∈ ["thead", "tbody", "tfoot"] → BuiltIn p content (.ok content)
  | highlighted : p.isHighlightedPre = true →
      BuiltIn p content (.ok (Gfm.fenced p.parentLanguage p.textContent))
  | highlightWrapper : p.tagName = "div" → BuiltIn p content (.ok (asBlock content))

theorem requirePart_of_isElement {p : Place} (h : p.isElement = true) (part : String) :
    p.requirePart part = .ok () := by
  rcases p with _ | ⟨⟨⟩ | _, _, _, _⟩
  · rfl
  · rfl
  · simp [Place.isElement, Node.isElement] at h

theorem asking_of_isElement {p : Place} (h : p.isElement = true) (part : String)
    (run : Text → Place → Text) (content : Text) :
    Markdown.asking part run content p = .ok (run content p) := by
  rw [Markdown.asking, requirePart_of_isElement h]
  rfl

theorem heading_of_mem {p : Place} (h : p.tagName ∈ Markdown.headingTags) (content : Text) :
    ∃ level, Markdown.heading content p =
      .ok (asBlock (List.replicate level '#' ++ ' ' :: content)) := by
  simp only [Markdown.headingTags, List.mem_cons, List.not_mem_nil, or_false] at h
  rw [Markdown.heading]
  rcases h with h | h | h | h | h | h <;> rw [h] <;> exact ⟨_, rfl⟩

theorem Rule.textFor_rule (name : String) (filter : Filter) (run : Text → Place → Text)
    (content : Text) (p : Place) :
    (Markdown.rule name filter run).textFor content p = .ok (run content p) := rfl

theorem Rule.textFor_partialRule (name : String) (filter : Filter)
    (run : Text → Place → Except Error Text) (content : Text) (p : Place) :
    (Markdown.partialRule name filter run).textFor content p = run content p := by
  simp only [Rule.textFor, Markdown.partialRule, Replacement.ofResult]
  rcases run content p with e | text <;> rfl

theorem isTaskCheckbox_tagName {p : Place} (h : p.isTaskCheckbox = .ok true) :
    p.tagName = "input" := by
  by_contra hne
  rw [Place.isTaskCheckbox, if_neg hne] at h
  cases h

theorem builtIn_of_mem_markdownRules {p : Place} {r : Rule} (he : p.isElement = true)
    (h : r ∈ markdownRules) (hp : r.filter.holds p = .ok true) (content : Text) :
    BuiltIn p content (r.textFor content p) := by
  simp only [markdownRules, List.mem_cons, List.not_mem_nil, or_false] at h
  rcases h with rfl | rfl | rfl | rfl | rfl | rfl | rfl | rfl | rfl | rfl | rfl | rfl | rfl | rfl |
    rfl
  all_goals
    first
      | rw [Rule.textFor_rule]
      | rw [Rule.textFor_partialRule]
    simp only [Markdown.rule, Markdown.partialRule, Filter.holds_ofTag, Filter.holds_ofTags,
      Filter.holds_ofTest, Except.ok.injEq, beq_iff_eq, List.contains_iff_mem] at hp
  · exact .paragraph hp
  · exact .lineBreak _ hp (Or.inl rfl)
  · obtain ⟨level, hlevel⟩ := heading_of_mem hp content
    exact hlevel ▸ .heading level hp
  · exact .horizontalRule hp
  · exact .emphasis hp
  · exact .strong hp
  · exact .inlineCode hp
  · exact asking_of_isElement he _ _ _ ▸ .link hp
  · exact asking_of_isElement he _ _ _ ▸ .image hp
  · exact .codeBlockBody hp
  · exact asking_of_isElement he _ _ _ ▸ .codeBlock _ hp
  · exact .blockquote hp
  · exact .listItem hp
  · exact .list hp
  · exact asking_of_isElement he _ _ _ ▸ .block hp

theorem builtIn_of_mem_gfmRules {p : Place} {r : Rule} (he : p.isElement = true)
    (h : r ∈ gfmRules) (hp : r.filter.holds p = .ok true) (content : Text) :
    BuiltIn p content (r.textFor content p) := by
  simp only [gfmRules, List.mem_cons, List.not_mem_nil, or_false] at h
  rcases h with rfl | rfl | rfl | rfl | rfl | rfl | rfl | rfl | rfl | rfl
  all_goals
    first
      | rw [Rule.textFor_rule]
      | rw [Rule.textFor_partialRule]
    simp only [Markdown.rule, Markdown.partialRule, Filter.holds_ofTag, Filter.holds_ofTags,
      Filter.holds_ofTest, Except.ok.injEq, beq_iff_eq, List.contains_iff_mem] at hp
  · exact .lineBreak _ hp (Or.inr rfl)
  · exact .strikethrough hp
  · exact asking_of_isElement he _ _ _ ▸ .checkbox (isTaskCheckbox_tagName hp)
  · exact .cell hp
  · exact .tableRow hp
  · exact .table hp
  · exact .tableSection hp
  · exact asking_of_isElement he _ _ _ ▸ .codeBlock _ hp
  · exact .highlighted hp
  · simp only [Place.isHighlightWrapper, Bool.and_eq_true, beq_iff_eq] at hp
    exact .highlightWrapper hp.1

/-- **What a built-in rule makes of an element that it selects.** -/
theorem builtIn_of_holds {p : Place} {gfm : Bool} {r : Rule} (he : p.isElement = true)
    (h : r ∈ builtInRules gfm) (hp : r.filter.holds p = .ok true) (content : Text) :
    BuiltIn p content (r.textFor content p) := by
  rcases List.mem_append.mp h with h | h
  · cases gfm
    · cases h
    · exact builtIn_of_mem_gfmRules he h hp content
  · exact builtIn_of_mem_markdownRules he h hp content

/-- **An element that is converted by the built-in rules** is left out, or kept as its content, or
what one of the rules makes of it. -/
theorem convertElement_builtIn {p : Place} {gfm : Bool} {policy : Policy} {content text : Text}
    (he : p.isElement = true)
    (h : (Context.builtIn gfm policy).convertElement p content = .ok text) :
    (p.isElided content = true ∧ text = []) ∨ text = content ∨
      p.isElided content = false ∧ ∃ middle, BuiltIn p (p.flank content).content (.ok middle) ∧
        text = (p.flank content).leading ++ middle ++ (p.flank content).trailing := by
  rcases Context.convertElement_eq_ok h with h | ⟨_, _, h⟩ | ⟨hElided, r, middle, hr, hmiddle, h⟩
  · exact Or.inl h
  · exact Or.inr (Or.inl h)
  · obtain ⟨hmem, hholds⟩ := mem_of_findRule hr
    exact Or.inr (Or.inr ⟨hElided, middle, hmiddle ▸ builtIn_of_holds he hmem hholds _, h⟩)

end HtmlMarkdown
