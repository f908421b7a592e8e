import Mathlib
import HtmlMarkdown.Proofs.BuiltIn

/-!
# Which rule an element meets first

Every built-in rule is for elements with certain tags. The first rule whose tags an element has is
found, and those before it need not be looked into.

* `Rule.IsFor`: a rule for elements with certain tags;
* `markdownTags`, `gfmTags`: the tags that the built-in rules are for, rule by rule;
* `isFor_markdownRules`, `isFor_gfmRules`: the rules are for these tags;
* **`findRule_of_isFor`**: a rule is found if it selects the element and those before it are for
  other tags;
* `findRule_builtInRules`, `findRule_gfm`: rules of plain Markdown, and those that come before them.
-/

namespace HtmlMarkdown

variable {p : Place}

/-! ## The first rule -/

theorem findRule_append_of_not_holds {rules rules' : List Rule}
    (h : ∀ r ∈ rules, r.filter.holds p = .ok false) :
    findRule p (rules ++ rules') = findRule p rules' := by
  induction rules with
  | nil => rfl
  | cons r rules ih =>
    rw [List.cons_append, findRule, h r List.mem_cons_self]
    exact ih fun q hq => h q (List.mem_cons_of_mem _ hq)

/-- A rule is found if it selects a place and those before it do not. -/
theorem findRule_of_getElem? {rules : List Rule} {i : ℕ} {r : Rule} (hr : rules[i]? = some r)
    (hbefore : ∀ q ∈ rules.take i, q.filter.holds p = .ok false)
    (hholds : r.filter.holds p = .ok true) (hfunction : r.checkReplacement = .ok ()) :
    findRule p rules = .ok (some r) := by
  obtain ⟨hi, rfl⟩ := List.getElem?_eq_some_iff.mp hr
  have hfound : findRule p (rules.drop i) = .ok (some rules[i]) := by
    rw [List.drop_eq_getElem_cons hi, findRule, hholds]
    simp only [bind, Except.bind, if_true, hfunction]
    rfl
  calc findRule p rules = findRule p (rules.take i ++ rules.drop i) := by
        rw [List.take_append_drop]
    _ = .ok (some rules[i]) := by rw [findRule_append_of_not_holds hbefore, hfound]

/-! ## Rules for certain tags -/

/-- The rule selects elements with one of these tags only. -/
def Rule.IsFor (tags : List String) (r : Rule) : Prop :=
  ∀ p : Place, p.tagName ∉ tags → r.filter.holds p = .ok false

namespace Rule

variable {r : Rule}

theorem isFor_ofTags {names tags : List String} (h : r.filter = .ofTags names)
    (hnames : names.map lowerName = tags) : r.IsFor tags := by
  intro p hp
  rw [h, Filter.holds_ofTags, hnames, List.contains_eq_mem, decide_eq_false hp]

theorem isFor_ofTag {name tag : String} (h : r.filter = .ofTag name)
    (hname : lowerName name = tag) : r.IsFor [tag] := by
  intro p hp
  rw [h, Filter.holds_ofTag, hname, beq_eq_false_iff_ne.mpr (by simpa using hp)]

theorem isFor_ofTest {label : String} {test : Place → Bool} {tags : List String}
    (h : r.filter = .ofTest label test) (htest : ∀ p : Place, test p = true → p.tagName ∈ tags) :
    r.IsFor tags := by
  intro p hp
  rw [h, Filter.holds_ofTest, Bool.eq_false_iff.mpr fun hholds => hp (htest p hholds)]

end Rule

/-- Rules whose tags an element has not do not select it. -/
theorem not_holds_of_isFor {table : List (List String)} {rules : List Rule}
    (h : List.Forall₂ Rule.IsFor table rules) (hp : p.tagName ∉ table.flatten) :
    ∀ r ∈ rules, r.filter.holds p = .ok false := by
  induction h with
  | nil => simp
  | cons hr _ ih =>
    rw [List.flatten_cons, List.mem_append, not_or] at hp
    rw [List.forall_mem_cons]
    exact ⟨hr p hp.1, ih hp.2⟩

/-- **A rule is found** if it selects a place and those before it are for other tags. -/
theorem findRule_of_isFor {table : List (List String)} {rules : List Rule}
    (h : List.Forall₂ Rule.IsFor table rules) {i : ℕ} {r : Rule} (hr : rules[i]? = some r)
    (hbefore : p.tagName ∉ (table.take i).flatten) (hholds : r.filter.holds p = .ok true)
    (hfunction : r.checkReplacement = .ok ()) : findRule p rules = .ok (some r) :=
  findRule_of_getElem? hr (not_holds_of_isFor (List.forall₂_take i h) hbefore) hholds hfunction

/-! ## The tags of the built-in rules -/

/-- The tags that the rules of plain Markdown are for, in the order of the rules. -/
def markdownTags : List (List String) := [["p"], ["br"], Markdown.headingTags, ["hr"], ["em", "i"],
  ["strong", "b"], ["code"], ["a"], ["img"], ["code"], ["pre"], ["blockquote"], ["li"],
  ["ul", "ol"], blockTags]

/-- The tags that the GitHub-flavoured rules are for, in the order of the rules. -/
def gfmTags : List (List String) := [["br"], ["del", "s", "strike"], ["input"], ["th", "td"], ["tr"],
  ["table"], ["thead", "tbody", "tfoot"], ["pre"], ["pre"], ["div"]]

theorem Place.tagName_of_isCodeBlock (h : p.isCodeBlock = true) : p.tagName ∈ ["pre"] := by
  simp only [isCodeBlock, Bool.and_eq_true, beq_iff_eq] at h
  exact List.mem_singleton.mpr h.1

theorem isFor_markdownRules : List.Forall₂ Rule.IsFor markdownTags markdownRules := by
  simp only [markdownTags, markdownRules, List.forall₂_cons, List.Forall₂.nil, and_true]
  refine ⟨Rule.isFor_ofTag rfl (by decide), Rule.isFor_ofTag rfl (by decide),
    Rule.isFor_ofTags rfl (by decide), Rule.isFor_ofTag rfl (by decide),
    Rule.isFor_ofTags rfl (by decide), Rule.isFor_ofTags rfl (by decide),
    Rule.isFor_ofTest rfl ?inlineCode, Rule.isFor_ofTest rfl ?link,
    Rule.isFor_ofTag rfl (by decide), Rule.isFor_ofTest rfl ?codeBlockBody,
    Rule.isFor_ofTest rfl fun p => p.tagName_of_isCodeBlock, Rule.isFor_ofTag rfl (by decide),
    Rule.isFor_ofTag rfl (by decide), Rule.isFor_ofTags rfl (by decide),
    Rule.isFor_ofTest rfl ?block⟩
  case inlineCode =>
    intro p h
    simp only [Place.isInlineCode, Bool.and_eq_true, beq_iff_eq] at h
    exact List.mem_singleton.mpr h.1
  case link =>
    intro p h
    simp only [Place.isLink, Bool.and_eq_true, beq_iff_eq] at h
    exact List.mem_singleton.mpr h.1
  case codeBlockBody =>
    intro p h
    simp only [Place.isCodeBlockBody, Bool.and_eq_true, beq_iff_eq] at h
    exact List.mem_singleton.mpr h.1
  case block => exact fun p h => List.contains_iff_mem.mp h

theorem isFor_gfmRules : List.Forall₂ Rule.IsFor gfmTags gfmRules := by
  simp only [gfmTags, gfmRules, List.forall₂_cons, List.Forall₂.nil, and_true]
  refine ⟨Rule.isFor_ofTag rfl (by decide), Rule.isFor_ofTags rfl (by decide), ?checkbox,
    Rule.isFor_ofTags rfl (by decide), Rule.isFor_ofTag rfl (by decide),
    Rule.isFor_ofTag rfl (by decide), Rule.isFor_ofTags rfl (by decide),
    Rule.isFor_ofTest rfl fun p => p.tagName_of_isCodeBlock, Rule.isFor_ofTest rfl ?highlightedPre,
    Rule.isFor_ofTest rfl ?highlightWrapper⟩
  case checkbox => exact fun p hp => if_neg (by simpa using hp)
  case highlightedPre =>
    intro p h
    simp only [Place.isHighlightedPre, Bool.and_eq_true, beq_iff_eq] at h
    exact List.mem_singleton.mpr h.1.1
  case highlightWrapper =>
    intro p h
    simp only [Place.isHighlightWrapper, Bool.and_eq_true, beq_iff_eq] at h
    exact List.mem_singleton.mpr h.1

/-! ## Plain Markdown and beyond -/

/-- An element that no GitHub-flavoured rule is for meets the rules of plain Markdown. -/
theorem findRule_builtInRules (h : p.tagName ∉ gfmTags.flatten) (gfm : Bool) :
    findRule p (builtInRules gfm) = findRule p markdownRules := by
  rw [builtInRules]
  cases gfm
  · rfl
  · exact findRule_append_of_not_holds (not_holds_of_isFor isFor_gfmRules h)

/-- The GitHub-flavoured rules come before those of plain Markdown. -/
theorem findRule_gfm {i : ℕ} {r : Rule} (hr : gfmRules[i]? = some r)
    (hbefore : p.tagName ∉ (gfmTags.take i).flatten) (hholds : r.filter.holds p = .ok true)
    (hfunction : r.checkReplacement = .ok ()) :
    findRule p (builtInRules true) = .ok (some r) := by
  have htable : List.Forall₂ Rule.IsFor (gfmTags ++ markdownTags) (gfmRules ++ markdownRules) :=
    List.rel_append isFor_gfmRules isFor_markdownRules
  obtain ⟨hi, -⟩ := List.getElem?_eq_some_iff.mp hr
  have hrule : (gfmRules ++ markdownRules)[i]? = some r := by
    rw [List.getElem?_append_left hi, hr]
  refine findRule_of_isFor htable hrule ?_ hholds hfunction
  rwa [List.take_append_of_le_length (isFor_gfmRules.length_eq ▸ hi.le)]

end HtmlMarkdown
