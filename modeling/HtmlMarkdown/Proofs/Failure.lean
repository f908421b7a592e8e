import Mathlib
import HtmlMarkdown.Proofs.Fold

/-!
# The error of a fold

Several elements of a tree may be impossible to convert, for different reasons. A fold stops at the
last of them in level order, after the steps of all elements that come later.

* `Context.StepFails`, `Context.FailsItself`: an element fails although all below it are converted;
* `Context.callOf?`: the call of a caller's replacement in the step of an element;
* `Stopped.exists_failsItself`: where a fold stops, and what it has called until then;
* `outcome_fold`: the text or the error of a fold, whatever has been noted before;
* `exists_last_failsItself`, **`fold_eq_error`**: which error it is, and which calls come before it.
-/

namespace HtmlMarkdown

open Place

/-! ## Elements that fail themselves -/

namespace Context

/-- Why the step of an element with its content fails: looking for a rule fails, no rule selects the
element and the policy does not keep its content, or the rule makes no text of it. -/
inductive StepFails (c : Context) (e : Place) (content : Text) : Error → Prop
  | search {err : Error} : findRule e c.rules = .error err → StepFails c e content err
  | unmatched : findRule e c.rules = .ok none → c.policy = .error →
      StepFails c e content (.unmatchedElement e.tagName)
  | rule {r : Rule} {err : Error} : findRule e c.rules = .ok (some r) →
      r.textFor (e.flank content).content e = .error err → StepFails c e content err

variable (c : Context)

/-- All elements below an element are converted, and the step of the element itself fails. -/
def FailsItself (e : Place) (err : Error) : Prop :=
  (∀ d ∈ e.elementsBelow, ∃ text, c.markdownOf d = .ok text) ∧
    ∃ content, c.contentBelow e = .ok content ∧ e.isElided content = false ∧
      c.StepFails e content err

variable {c} {p e : Place} {content : Text} {err : Error}

theorem convertElement_eq_error_iff : c.convertElement e content = .error err ↔
    e.isElided content = false ∧ c.StepFails e content err := by
  rcases hElided : e.isElided content with _ | _
  · rw [convertElement, if_neg (by simp [hElided])]
    refine ⟨fun h => ⟨rfl, ?_⟩, fun h => ?_⟩
    · rcases hr : findRule e c.rules with err' | _ | r
      · rw [hr] at h
        cases h
        exact .search hr
      · rw [hr] at h
        rcases hpolicy : c.policy with _ | _
        · rw [hpolicy] at h
          cases h
        · rw [hpolicy] at h
          cases h
          exact .unmatched hr hpolicy
      · rw [hr] at h
        rcases htext : r.textFor (e.flank content).content e with err' | text
        · simp only [htext, Except.map] at h
          cases h
          exact .rule hr htext
        · simp only [htext, Except.map] at h
          cases h
    · cases h.2 with
      | search hr => rw [hr]
      | unmatched hr hpolicy => rw [hr, hpolicy]
      | rule hr htext =>
        rw [hr]
        simp only [htext, Except.map]
  · rw [convertElement_of_isElided hElided]
    simp

theorem failsItself_iff : c.FailsItself e err ↔
    ∃ content, c.contentBelow e = .ok content ∧ c.convertElement e content = .error err := by
  constructor
  · rintro ⟨_, content, hbelow, hfails⟩
    exact ⟨content, hbelow, convertElement_eq_error_iff.mpr hfails⟩
  · rintro ⟨content, hbelow, hconv⟩
    exact ⟨fun d hd => c.isOk_markdownOf_of_contentBelow hbelow hd, content, hbelow,
      convertElement_eq_error_iff.mp hconv⟩

/-- An element that fails itself has no Markdown. -/
theorem FailsItself.markdownOf_eq (h : c.FailsItself e err) (he : e.isElement = true) :
    c.markdownOf e = .error err := by
  obtain ⟨content, hbelow, hconv⟩ := failsItself_iff.mp h
  rw [c.markdownOf_eq he, hbelow]
  exact hconv

end Context

/-! ## Calls of replacements -/

/-- The call that an event notes. -/
def Event.call? : Event → Option (String × Text)
  | called tag content => some (tag, content)
  | _ => none

/-- The calls of the rule's replacement are noted: it is a function of a caller. -/
def Rule.isWatched (r : Rule) : Bool :=
  match r.replacement with
  | .function isWatched _ => isWatched
  | .value _ => false

theorem Progress.calls_eq (s : Progress) : s.calls = s.events.toList.filterMap Event.call? := rfl

theorem Rule.filterMap_calls (r : Rule) (content : Text) (p : Place) :
    (r.calls content p).filterMap Event.call? =
      if r.isWatched then [(p.tagName, content)] else [] := by
  rw [Rule.calls, Rule.isWatched]
  rcases r.replacement with ⟨_ | _, run⟩ | v <;> rfl

namespace Context

variable (c : Context)

/-- The call of a caller's replacement in the step of an element, with the tag of the element and
the content that the replacement gets. An element that is left out or that no rule selects leads to
no call. -/
def callOf? (e : Place) : Option (String × Text) :=
  match c.contentBelow e with
  | .error _ => none
  | .ok content =>
    if e.isElided content then none
    else
      match findRule e c.rules with
      | .ok (some r) => if r.isWatched then some (e.tagName, (e.flank content).content) else none
      | .ok none => none
      | .error _ => none

theorem filterMap_eventsFor (e : Place) :
    (c.eventsFor e).filterMap Event.call? = (c.callOf? e).toList := by
  rw [eventsFor, callOf?]
  rcases c.contentBelow e with err | content
  · rfl
  · simp only [eventsOf]
    by_cases hElided : e.isElided content = true
    · simp [hElided]
    · rcases findRule e c.rules with err | _ | r
      · simp [hElided]
      · rcases c.policy with _ | _ <;> simp [hElided, Event.call?]
      · simp only [hElided, Bool.false_eq_true, if_false, r.filterMap_calls]
        split <;> rfl

theorem filterMap_flatMap_eventsFor (es : List Place) :
    (es.flatMap c.eventsFor).filterMap Event.call? = es.filterMap c.callOf? := by
  rw [List.filterMap_flatMap, List.filterMap_eq_flatMap_toList]
  simp only [filterMap_eventsFor]

/-! ## Where a fold stops -/

variable {c} {p : Place} {s s' : Progress} {err : Error}

/-- A fold stops at an element that fails itself. All elements that come later in level order have
been converted, and their calls have been made. -/
theorem Stopped.exists_failsItself
    (h : c.Stopped p.levelOrder.reverse (s.noting (c.startEvents p)) err s') :
    ∃ earlier e later, p.levelOrder = earlier ++ e :: later ∧ c.FailsItself e err ∧
      (∀ d ∈ later, ∃ text, c.markdownOf d = .ok text) ∧
      s'.calls = s.calls ++ later.reverse.filterMap c.callOf? ++ (c.callOf? e).toList := by
  obtain ⟨done, e, rest, content, hsplit, hdone, hbelow, hconv, hevents⟩ := h
  have horder : p.levelOrder = rest.reverse ++ e :: done.reverse := by
    rw [← List.reverse_reverse p.levelOrder, hsplit]
    simp
  refine ⟨rest.reverse, e, done.reverse, horder, failsItself_iff.mpr ⟨content, hbelow, hconv⟩,
    fun d hd => hdone d (List.mem_reverse.mp hd), ?_⟩
  have hlast : c.eventsOf e content = c.eventsFor e := (eventsFor_of_contentBelow hbelow).symm
  have hstart : (c.startEvents p).filterMap Event.call? = [] := rfl
  rw [s'.calls_eq, hevents, hlast, List.reverse_reverse]
  simp [Progress.noting, Progress.calls_eq, hstart, filterMap_eventsFor,
    filterMap_flatMap_eventsFor]

/-- A fold stops at the first element that has no Markdown. -/
theorem Stopped.exists_find? {es : List Place} (hes : ∀ e ∈ es, e.isElement = true)
    (h : c.Stopped es s err s') :
    ∃ e, es.find? (fun e => !(c.markdownOf e).isOk) = some e ∧ c.markdownOf e = .error err := by
  obtain ⟨done, e, rest, content, hsplit, hdone, hbelow, hconv, _⟩ := h
  have hfail : c.markdownOf e = .error err :=
    (failsItself_iff.mpr ⟨content, hbelow, hconv⟩).markdownOf_eq (hes e (by simp [hsplit]))
  refine ⟨e, List.find?_eq_some_iff_append.mpr ⟨?_, done, rest, hsplit, fun d hd => ?_⟩, hfail⟩
  · rw [hfail]
    rfl
  · obtain ⟨text, htext⟩ := hdone d hd
    rw [htext]
    rfl

/-- The error with which a fold stops does not hang on what has been noted before. -/
theorem Stopped.error_unique {es : List Place} {s₁ s₂ s₁' s₂' : Progress} {err₁ err₂ : Error}
    (hes : ∀ e ∈ es, e.isElement = true) (h₁ : c.Stopped es s₁ err₁ s₁')
    (h₂ : c.Stopped es s₂ err₂ s₂') : err₁ = err₂ := by
  obtain ⟨e₁, hfind₁, hfail₁⟩ := h₁.exists_find? hes
  obtain ⟨e₂, hfind₂, hfail₂⟩ := h₂.exists_find? hes
  obtain rfl : e₁ = e₂ := Option.some.inj (hfind₁.symm.trans hfind₂)
  exact Except.error.inj (hfail₁.symm.trans hfail₂)

end Context

/-! ## Outcomes -/

/-- What a computation comes to: its value or its error, without its progress. -/
def Run.outcome {α : Type} (x : Run α) (s : Progress) : Except Error α :=
  match x.run s with
  | .ok a _ => .ok a
  | .error err _ => .error err

namespace Context

/-- **What a fold comes to** does not hang on what has been noted before. -/
theorem outcome_fold (c : Context) (p : Place) (s₁ s₂ : Progress) :
    (c.fold p).outcome s₁ = (c.fold p).outcome s₂ := by
  rcases run_fold c p s₁ with ⟨text₁, s₁', h₁, hbelow₁, _⟩ | ⟨err₁, s₁', h₁, hstop₁⟩
  · obtain ⟨s₂', h₂⟩ := exists_run_fold_iff (s := s₂).mpr hbelow₁
    rw [Run.outcome, Run.outcome, h₁, h₂]
  · rcases run_fold c p s₂ with ⟨text₂, s₂', h₂, hbelow₂, _⟩ | ⟨err₂, s₂', h₂, hstop₂⟩
    · exact absurd hbelow₂ (hstop₁.contentBelow_ne_ok text₂)
    · have herr := hstop₁.error_unique (fun e he => isElement_of_mem_levelOrder he) hstop₂
      rw [Run.outcome, Run.outcome, h₁, h₂, herr]

/-- A fold that fails does so at the last element in level order that fails itself, after the calls
of the elements that come later. -/
theorem exists_last_failsItself {c : Context} {p : Place} {s s' : Progress} {err : Error}
    (h : (c.fold p).run s = .error err s') :
    ∃ earlier e later, p.levelOrder = earlier ++ e :: later ∧ c.FailsItself e err ∧
      (∀ d ∈ later, ∀ err', ¬ c.FailsItself d err') ∧
      s'.calls = s.calls ++ later.reverse.filterMap c.callOf? ++ (c.callOf? e).toList := by
  rcases run_fold c p s with ⟨text, s'', h', _⟩ | ⟨err', s'', h', hstop⟩
  · rw [h] at h'
    cases h'
  · rw [h] at h'
    cases h'
    obtain ⟨earlier, e, later, horder, hfails, hlater, hcalls⟩ := hstop.exists_failsItself
    refine ⟨earlier, e, later, horder, hfails, fun d hd err' hd' => ?_, hcalls⟩
    obtain ⟨text, htext⟩ := hlater d hd
    have hmem : d ∈ p.levelOrder.reverse := by simp [horder, hd]
    rw [hd'.markdownOf_eq (isElement_of_mem_levelOrder hmem)] at htext
    cases htext

/-- A fold fails if an element below its root fails itself. -/
theorem exists_error_of_failsItself {c : Context} {p e : Place} {err : Error}
    (he : e ∈ p.elementsBelow) (hfails : c.FailsItself e err) (s : Progress) :
    ∃ err' s', (c.fold p).run s = .error err' s' := by
  rcases run_fold c p s with ⟨text, _, _, hbelow, _⟩ | ⟨err', s', h, _⟩
  · obtain ⟨t, ht⟩ := c.isOk_markdownOf_of_contentBelow hbelow he
    rw [hfails.markdownOf_eq (mem_elementsBelow.mp he).2] at ht
    cases ht
  · exact ⟨err', s', h⟩

/-- **The error of a fold.** A fold fails if and only if some element below its root fails itself.
Its error is that of the last such element in level order. The calls of callers' replacements made
until then are those of the elements after it, the last one first, and then its own, if its rule got
so far. -/
theorem fold_eq_error (c : Context) (p : Place) (s : Progress) :
    ((∃ err s', (c.fold p).run s = .error err s') ↔
      ∃ e ∈ p.elementsBelow, ∃ err, c.FailsItself e err) ∧
    ∀ err s', (c.fold p).run s = .error err s' →
      ∃ earlier e later, p.levelOrder = earlier ++ e :: later ∧ c.FailsItself e err ∧
        (∀ d ∈ later, ∀ err', ¬ c.FailsItself d err') ∧
        s'.calls = s.calls ++ later.reverse.filterMap c.callOf? ++ (c.callOf? e).toList := by
  refine ⟨⟨?_, ?_⟩, fun err s' h => exists_last_failsItself h⟩
  · rintro ⟨err, s', h⟩
    obtain ⟨earlier, e, later, horder, hfails, _⟩ := exists_last_failsItself h
    have hmem : e ∈ p.levelOrder := by simp [horder]
    exact ⟨e, mem_levelOrder.mp hmem, err, hfails⟩
  · rintro ⟨e, he, err, hfails⟩
    exact exists_error_of_failsItself he hfails s

end Context

end HtmlMarkdown
