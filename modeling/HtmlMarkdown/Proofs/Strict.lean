import Mathlib
import HtmlMarkdown.Proofs.Comment

/-!
# Strict conversions

A strict conversion refuses an element that no rule selects, a lenient one keeps its content. As long
as there is no such element, both do the same.

* `Context.strict`, `Context.lenient`: the same rules with the two policies;
* `Context.KeepsContent`, `Context.Stumbles`: what tells the two apart, and what ends either;
* `contentBelow_of_strict`: what a strict conversion makes, a lenient one makes too;
* `outcome_fold_of_failsItself`: the error of a fold is that of the first element that fails;
* **`outcome_convertDocument_strict`**.
-/

namespace HtmlMarkdown

namespace Context

/-! ## Two policies -/

/-- Elements that no rule selects are refused. -/
def strict (rules : List Rule) : Context := ⟨rules, .error⟩

/-- Elements that no rule selects give way to their content. -/
def lenient (rules : List Rule) : Context := ⟨rules, .passthrough⟩

/-- The step of an element keeps its content: it is not left out, and no rule selects it. -/
def KeepsContent (c : Context) (e : Place) : Prop :=
  ∃ content, c.contentBelow e = .ok content ∧ e.isElided content = false ∧
    findRule e c.rules = .ok none

/-- The step of an element keeps its content or fails. -/
def Stumbles (c : Context) (e : Place) : Prop := c.KeepsContent e ∨ ∃ err, c.FailsItself e err

variable {rules : List Rule} {p e : Place} {content text : Text} {err : Error}

/-! ## Single elements -/

/-- What is strictly made of an element with its content is what is made of it, and a rule makes it
unless the element is left out. -/
theorem convertElement_of_strict (h : (strict rules).convertElement e content = .ok text) :
    (lenient rules).convertElement e content = .ok text ∧
      (e.isElided content = true ∨ findRule e rules ≠ .ok none) := by
  rcases hElided : e.isElided content with _ | _
  · rcases hr : findRule e rules with err | _ | r
    · rw [convertElement, if_neg (by simp [hElided]), strict, hr] at h
      cases h
    · rw [convertElement, if_neg (by simp [hElided]), strict, hr] at h
      cases h
    · have hsame : (lenient rules).convertElement e content =
          (strict rules).convertElement e content := by
        rw [convertElement_of_rule (c := lenient rules) hElided hr,
          convertElement_of_rule (c := strict rules) hElided hr]
      exact ⟨hsame.trans h, Or.inr (by simp)⟩
  · rw [convertElement_of_isElided hElided] at h
    cases h
    exact ⟨convertElement_of_isElided hElided, Or.inl rfl⟩

/-- Where a strict step fails, the lenient one fails in the same way or no rule selects the
element. -/
theorem StepFails.of_strict (h : (strict rules).StepFails e content err) :
    (lenient rules).StepFails e content err ∨
      findRule e rules = .ok none ∧ err = .unmatchedElement e.tagName := by
  cases h with
  | search hr => exact Or.inl (.search hr)
  | unmatched hr _ => exact Or.inr ⟨hr, rfl⟩
  | rule hr htext => exact Or.inl (.rule hr htext)

/-! ## The recursion -/

/-- **What is strictly made of all that lies below a place is what is made of it.** -/
theorem contentBelow_of_strict (h : (strict rules).contentBelow p = .ok content) :
    (lenient rules).contentBelow p = .ok content := by
  induction p using Place.inductionOnChildren generalizing content with
  | step p ih =>
    have hchild : ∀ d ∈ p.children, ∀ out, (strict rules).markdownOf d = .ok out →
        (lenient rules).markdownOf d = .ok out := by
      intro d hd out hout
      rcases hElement : d.isElement with _ | _
      · rw [markdownOf_string _ hd hElement] at hout ⊢
        exact hout
      · obtain ⟨below, hbelow, hconv⟩ := (markdownOf_eq_ok_iff _ hElement).mp hout
        exact (markdownOf_eq_ok_iff _ hElement).mpr
          ⟨below, ih d hd hbelow, (convertElement_of_strict hconv).1⟩
    rw [contentBelow_eq]
    refine contentBelow_induction
      (motive := fun ds out => (ds.mapM (lenient rules).markdownOf).map List.flatten = .ok out)
      h rfl fun d hd ds out rest hout ihds => ?_
    rw [List.mapM_cons, hchild d hd out hout]
    rcases hds : ds.mapM (lenient rules).markdownOf with err | texts
    · rw [hds] at ihds
      cases ihds
    · rw [hds] at ihds
      cases ihds
      rfl

/-- An element that is strictly converted is converted in a step that does not stumble. -/
theorem not_stumbles_of_strict (he : e.isElement = true)
    (h : (strict rules).markdownOf e = .ok text) :
    (lenient rules).markdownOf e = .ok text ∧ ¬ (lenient rules).Stumbles e := by
  obtain ⟨content, hbelow, hconv⟩ := (markdownOf_eq_ok_iff _ he).mp h
  obtain ⟨hsame, hrule⟩ := convertElement_of_strict hconv
  have hlenient := contentBelow_of_strict hbelow
  have hmarkdown : (lenient rules).markdownOf e = .ok text :=
    (markdownOf_eq_ok_iff _ he).mpr ⟨content, hlenient, hsame⟩
  refine ⟨hmarkdown, ?_⟩
  rintro (⟨content', hbelow', hElided, hnone⟩ | ⟨err, hfails⟩)
  · cases hlenient.symm.trans hbelow'
    rcases hrule with hleft | hsome
    · rw [hElided] at hleft
      cases hleft
    · exact hsome hnone
  · rw [hfails.markdownOf_eq he] at hmarkdown
    cases hmarkdown

/-- An element that strictly fails itself stumbles: it keeps its content or fails in the same way. -/
theorem FailsItself.of_strict (h : (strict rules).FailsItself e err) :
    (lenient rules).KeepsContent e ∧ err = .unmatchedElement e.tagName ∨
      (lenient rules).FailsItself e err := by
  obtain ⟨_, content, hbelow, hElided, hfails⟩ := h
  have hlenient := contentBelow_of_strict hbelow
  rcases hfails.of_strict with hfails | ⟨hnone, herr⟩
  · exact Or.inr (failsItself_iff.mpr
      ⟨content, hlenient, convertElement_eq_error_iff.mpr ⟨hElided, hfails⟩⟩)
  · exact Or.inl ⟨⟨content, hlenient, hElided, hnone⟩, herr⟩

/-! ## Folds -/

/-- The error of a fold is that of an element that fails itself, if all elements after it in level
order are converted. -/
theorem outcome_fold_of_failsItself {c : Context} {earlier later : List Place}
    (horder : p.levelOrder = earlier ++ e :: later) (hfails : c.FailsItself e err)
    (hlater : ∀ d ∈ later, ∃ text, c.markdownOf d = .ok text) (s : Progress) :
    (c.fold p).outcome s = .error err := by
  have hmem : e ∈ p.levelOrder.reverse := by simp [horder]
  have hnone := hfails.markdownOf_eq (isElement_of_mem_levelOrder hmem)
  have hfind : p.levelOrder.reverse.find? (fun e => !(c.markdownOf e).isOk) = some e := by
    refine List.find?_eq_some_iff_append.mpr
      ⟨by rw [hnone]; rfl, later.reverse, earlier.reverse, by simp [horder], fun d hd => ?_⟩
    obtain ⟨text, htext⟩ := hlater d (List.mem_reverse.mp hd)
    rw [htext]
    rfl
  rcases run_fold c p s with ⟨text, _, _, hbelow, _⟩ | ⟨err', s', hrun, hstop⟩
  · obtain ⟨text', htext'⟩ := c.isOk_markdownOf_of_contentBelow hbelow
      (Place.mem_levelOrder.mp (List.mem_reverse.mp hmem))
    rw [hnone] at htext'
    cases htext'
  · obtain ⟨e', hfind', hnone'⟩ :=
      hstop.exists_find? fun d hd => isElement_of_mem_levelOrder hd
    cases hfind.symm.trans hfind'
    cases hnone.symm.trans hnone'
    rw [Run.outcome, hrun]

/-- **A strict fold** returns what the lenient one returns, or fails at the first element that
stumbles, as this element does or because no rule selects it. -/
theorem outcome_fold_strict (rules : List Rule) (p : Place) (s : Progress) :
    (∃ text, ((strict rules).fold p).outcome s = .ok text ∧
        ((lenient rules).fold p).outcome s = .ok text) ∨
      ∃ earlier e later, p.levelOrder = earlier ++ e :: later ∧
        (∀ d ∈ later, ¬ (lenient rules).Stumbles d) ∧
        ((lenient rules).KeepsContent e ∧
            ((strict rules).fold p).outcome s = .error (.unmatchedElement e.tagName) ∨
          ∃ err, (lenient rules).FailsItself e err ∧
            ((lenient rules).fold p).outcome s = .error err ∧
            ((strict rules).fold p).outcome s = .error err) := by
  rcases run_fold (strict rules) p s with ⟨text, s', hrun, hbelow, _⟩ | ⟨err, s', hrun, hstop⟩
  · obtain ⟨s'', hrun'⟩ := exists_run_fold_iff (s := s).mpr (contentBelow_of_strict hbelow)
    exact Or.inl ⟨text, by rw [Run.outcome, hrun], by rw [Run.outcome, hrun']⟩
  · obtain ⟨earlier, e, later, horder, hfails, hlater, _⟩ := hstop.exists_failsItself
    have hstrict : ((strict rules).fold p).outcome s = .error err := by rw [Run.outcome, hrun]
    have hconverted : ∀ d ∈ later, (∃ text, (lenient rules).markdownOf d = .ok text) ∧
        ¬ (lenient rules).Stumbles d := by
      intro d hd
      obtain ⟨text, htext⟩ := hlater d hd
      have hmem : d ∈ p.levelOrder.reverse := by simp [horder, hd]
      obtain ⟨hmarkdown, hfirm⟩ := not_stumbles_of_strict (isElement_of_mem_levelOrder hmem) htext
      exact ⟨⟨text, hmarkdown⟩, hfirm⟩
    refine Or.inr ⟨earlier, e, later, horder, fun d hd => (hconverted d hd).2, ?_⟩
    rcases hfails.of_strict with ⟨hkeeps, rfl⟩ | hfails
    · exact Or.inl ⟨hkeeps, hstrict⟩
    · exact Or.inr ⟨err, hfails,
        outcome_fold_of_failsItself horder hfails (fun d hd => (hconverted d hd).1) s, hstrict⟩

end Context

/-! ## Conversions -/

namespace Options

/-- The same options with another policy. -/
def withPolicy (o : Options) (policy : Policy) : Options := { o with unmatched := policy }

variable {o : Options} {rules : List Rule}

theorem outcome_convertDocument_of_rules (h : composeRules o.allRules = .ok rules) (policy : Policy)
    (document : List Node) (s : Progress) :
    ((o.withPolicy policy).convertDocument document).outcome s =
      (((⟨rules, policy⟩ : Context).fold (foldedRoot document)).outcome s).map normalize := by
  have hcontext : (o.withPolicy policy).context = .ok ⟨rules, policy⟩ := by
    show (do let rules ← composeRules o.allRules; return ⟨rules, policy⟩ : Except Error Context) = _
    rw [h]
    rfl
  rw [← Context.outcome_convert, Options.convertDocument, hcontext]
  rfl

theorem outcome_convertDocument_of_error {err : Error} (h : composeRules o.allRules = .error err)
    (policy : Policy) (document : List Node) (s : Progress) :
    ((o.withPolicy policy).convertDocument document).outcome s = .error err := by
  have hcontext : (o.withPolicy policy).context = .error err := by
    show (do let rules ← composeRules o.allRules; return ⟨rules, policy⟩ : Except Error Context) = _
    rw [h]
    rfl
  rw [Options.convertDocument, hcontext]
  rfl

/-- A strict conversion with rules that can be composed does what the fold does. -/
theorem outcome_convertDocument_cases (h : composeRules o.allRules = .ok rules)
    (document : List Node) (s : Progress) :
    (∃ text, ((o.withPolicy .error).convertDocument document).outcome s = .ok text ∧
        ((o.withPolicy .passthrough).convertDocument document).outcome s = .ok text) ∨
      ∃ earlier e later, (foldedRoot document).levelOrder = earlier ++ e :: later ∧
        (∀ d ∈ later, ¬ (Context.lenient rules).Stumbles d) ∧
        ((Context.lenient rules).KeepsContent e ∧
            ((o.withPolicy .error).convertDocument document).outcome s =
              .error (.unmatchedElement e.tagName) ∨
          ∃ err, (Context.lenient rules).FailsItself e err ∧
            ((o.withPolicy .passthrough).convertDocument document).outcome s = .error err ∧
            ((o.withPolicy .error).convertDocument document).outcome s = .error err) := by
  have hstrict : ((o.withPolicy .error).convertDocument document).outcome s =
      (((Context.strict rules).fold (foldedRoot document)).outcome s).map normalize :=
    outcome_convertDocument_of_rules h .error document s
  have hlenient : ((o.withPolicy .passthrough).convertDocument document).outcome s =
      (((Context.lenient rules).fold (foldedRoot document)).outcome s).map normalize :=
    outcome_convertDocument_of_rules h .passthrough document s
  rw [hstrict, hlenient]
  rcases Context.outcome_fold_strict rules (foldedRoot document) s with
    ⟨text, hs, hl⟩ | ⟨earlier, e, later, horder, hlater, ⟨hkeeps, hs⟩ | ⟨err, hfails, hl, hs⟩⟩
  · rw [hs, hl]
    exact Or.inl ⟨_, rfl, rfl⟩
  · rw [hs]
    exact Or.inr ⟨earlier, e, later, horder, hlater, Or.inl ⟨hkeeps, rfl⟩⟩
  · rw [hs, hl]
    exact Or.inr ⟨earlier, e, later, horder, hlater, Or.inr ⟨err, hfails, rfl, rfl⟩⟩

/-- **A strict conversion only ever adds an error.** If it returns a text, the lenient one returns
the same text. Otherwise the rules cannot be composed and both fail alike, or there is a first
element, the last ones in level order coming first, whose step stumbles in the lenient conversion:
if this step keeps the content, the strict conversion fails because no rule selects the element, and
if it fails, both fail as it does. -/
theorem outcome_convertDocument_strict (o : Options) (document : List Node) (s : Progress) :
    (∀ text, ((o.withPolicy .error).convertDocument document).outcome s = .ok text →
      ((o.withPolicy .passthrough).convertDocument document).outcome s = .ok text) ∧
    (∀ err, composeRules o.allRules = .error err →
      ((o.withPolicy .error).convertDocument document).outcome s = .error err ∧
      ((o.withPolicy .passthrough).convertDocument document).outcome s = .error err) ∧
    ∀ rules, composeRules o.allRules = .ok rules →
      (∀ text, ((o.withPolicy .error).convertDocument document).outcome s ≠ .ok text) →
      ∃ earlier e later, (foldedRoot document).levelOrder = earlier ++ e :: later ∧
        (∀ d ∈ later, ¬ (Context.lenient rules).Stumbles d) ∧
        ((Context.lenient rules).KeepsContent e ∧
            ((o.withPolicy .error).convertDocument document).outcome s =
              .error (.unmatchedElement e.tagName) ∨
          ∃ err, (Context.lenient rules).FailsItself e err ∧
            ((o.withPolicy .passthrough).convertDocument document).outcome s = .error err ∧
            ((o.withPolicy .error).convertDocument document).outcome s = .error err) := by
  refine ⟨fun text htext => ?_, fun err herr => ?_, fun rules hrules hnone => ?_⟩
  · rcases hrules : composeRules o.allRules with err | rules
    · rw [outcome_convertDocument_of_error hrules] at htext
      cases htext
    · rcases outcome_convertDocument_cases hrules document s with
        ⟨text', hstrict, hlenient⟩ | ⟨_, _, _, _, _, ⟨_, hstrict⟩ | ⟨_, _, _, hstrict⟩⟩
      · rw [hlenient, ← hstrict, htext]
      · cases hstrict.symm.trans htext
      · cases hstrict.symm.trans htext
  · exact ⟨outcome_convertDocument_of_error herr _ _ _, outcome_convertDocument_of_error herr _ _ _⟩
  · refine (outcome_convertDocument_cases hrules document s).resolve_left ?_
    rintro ⟨text, hstrict, _⟩
    exact hnone text hstrict

end Options

end HtmlMarkdown
