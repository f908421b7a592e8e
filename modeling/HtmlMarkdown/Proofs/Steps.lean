import Mathlib
import HtmlMarkdown.Proofs.LevelOrder
import HtmlMarkdown.Proofs.Meaning

/-!
# The steps of a fold

* `Progress.noting`, `Context.eventsOf`, `Context.eventsFor`: what the step of an element notes;
* `Context.Stored`: the Markdown of an element is in the table of outputs;
* `run_contentOf`: the content of a place, once its element children are stored;
* **`run_process`**: the step of one element, whether it succeeds or fails;
* **`run_forM_process`**: the steps of elements whose children come first.
-/

namespace HtmlMarkdown

/-! ## Events -/

/-- The progress after further events. -/
def Progress.noting (s : Progress) (events : List Event) : Progress :=
  { s with events := s.events ++ events }

@[simp] theorem Progress.noting_outputs (s : Progress) (events : List Event) :
    (s.noting events).outputs = s.outputs := rfl

@[simp] theorem Progress.noting_nil (s : Progress) : s.noting [] = s := by
  simp [Progress.noting]

theorem Progress.noting_noting (s : Progress) (a b : List Event) :
    (s.noting a).noting b = s.noting (a ++ b) := by
  simp only [Progress.noting]
  congr 1
  apply Array.toList_inj.mp
  simp

/-- The call of a rule's replacement, if the rule is watched. -/
def Rule.calls (r : Rule) (content : Text) (p : Place) : List Event :=
  match r.replacement with
  | .function true _ => [.called p.tagName content]
  | _ => []

namespace Context

variable (c : Context)

/-- The events of the step of an element with its content. -/
def eventsOf (p : Place) (content : Text) : List Event :=
  if p.isElided content then []
  else
    match findRule p c.rules with
    | .error _ => []
    | .ok (some r) => r.calls (p.flank content).content p
    | .ok none =>
      match c.policy with
      | .error => []
      | .passthrough => [.keptContent p.tagName]

/-- The events of the step of an element. -/
def eventsFor (p : Place) : List Event :=
  match c.contentBelow p with
  | .ok content => c.eventsOf p content
  | .error _ => []

theorem eventsFor_of_contentBelow {c : Context} {p : Place} {content : Text}
    (h : c.contentBelow p = .ok content) : c.eventsFor p = c.eventsOf p content := by
  rw [eventsFor, h]

end Context

/-- Among some elements the children of each come before it. -/
def ChildrenFirst (es : List Place) : Prop :=
  ∀ earlier e later, es = earlier ++ e :: later → ∀ d ∈ e.elementChildren, d ∈ earlier

/-! ## Single computations -/

theorem run_note (e : Event) (s : Progress) : (Run.note e).run s = .ok () (s.noting [e]) := by
  simp [Run.note, EStateM.run_modify, Progress.noting]

theorem run_throw {α : Type} (e : Error) (s : Progress) :
    (throw e : Run α).run s = .error e s := rfl

theorem run_ofExcept {α : Type} (x : Except Error α) (s : Progress) :
    (Run.ofExcept x).run s = match x with
      | .ok a => .ok a s
      | .error e => .error e s := by
  cases x <;> rfl

theorem run_forM_append_singleton {α : Type} (f : α → Run Unit) (xs : List α) (x : α)
    (s : Progress) :
    ((xs ++ [x]).forM f).run s = match (xs.forM f).run s with
      | .ok _ s' => (f x).run s'
      | .error e s' => .error e s' := by
  rw [List.forM_eq_forM, List.forM_append, EStateM.run_bind]
  rcases (forM xs f).run s with ⟨_, s'⟩ | ⟨e, s'⟩ <;> simp

theorem run_setOutput (p : Place) (text : Text) (s : Progress) :
    (setOutput p text).run s = .ok () { s with outputs := s.outputs.insert p.address text } := by
  simp [setOutput, EStateM.run_modify]

theorem Rule.run_apply (r : Rule) (content : Text) (p : Place) (s : Progress) :
    (r.apply content p).run s = match r.textFor content p with
      | .ok text => .ok text (s.noting (r.calls content p))
      | .error e => .error e (s.noting (r.calls content p)) := by
  rcases hr : r.replacement with ⟨isWatched, run⟩ | v
  · simp only [Rule.apply, Rule.textFor, Rule.calls, hr]
    rcases hx : run content p with e | v
    · cases isWatched <;> simp [run_note, run_ofExcept]
    · cases isWatched <;> cases v <;> simp [run_note, run_ofExcept, run_throw]
  · simp [Rule.apply, Rule.textFor, Rule.calls, hr, run_throw]

/-! ## The content of a place -/

namespace Context

variable {c : Context} {p : Place} {s : Progress}

variable (c) in
/-- The Markdown of an element is in the table of outputs. -/
def Stored (s : Progress) (e : Place) : Prop :=
  ∃ text, c.markdownOf e = .ok text ∧ s.outputs.get? e.address = some text

theorem run_outputOf {e : Place} {text : Text} (he : e.isElement = true)
    (h : s.outputs.get? e.address = some text) : (outputOf e).run s = .ok text s := by
  have hout : e.hasOutput = true := by
    rcases e with _ | ⟨⟨⟩ | _, _, _, _⟩
    · rfl
    · rfl
    · simp [Place.isElement, Node.isElement] at he
  simp [outputOf, h, hout]

theorem run_pieceOf {d : Place} (hd : d ∈ p.children)
    (h : d.isElement = true → c.Stored s d) :
    ∃ text, c.markdownOf d = .ok text ∧ (pieceOf d).run s = .ok text s := by
  by_cases hElement : d.isElement = true
  · obtain ⟨text, hm, hget⟩ := h hElement
    refine ⟨text, hm, ?_⟩
    rw [pieceOf, if_pos hElement, run_outputOf hElement hget]
  · have hString : d.isElement = false := by simpa using hElement
    refine ⟨_, c.markdownOf_string hd hString, ?_⟩
    rw [pieceOf, if_neg hElement]
    split <;> rfl

theorem run_mapM_pieceOf (ds : List Place) (hds : ∀ d ∈ ds, d ∈ p.children)
    (h : ∀ d ∈ ds, d.isElement = true → c.Stored s d) :
    ∃ texts, ds.mapM c.markdownOf = .ok texts ∧ (ds.mapM pieceOf).run s = .ok texts s := by
  induction ds with
  | nil => exact ⟨[], rfl, rfl⟩
  | cons d ds ih =>
    obtain ⟨text, hm, hrun⟩ := run_pieceOf (hds d List.mem_cons_self) (h d List.mem_cons_self)
    obtain ⟨texts, hms, hruns⟩ := ih (fun d hd => hds d (List.mem_cons_of_mem _ hd))
      (fun d hd => h d (List.mem_cons_of_mem _ hd))
    refine ⟨text :: texts, ?_, ?_⟩
    · rw [List.mapM_cons, hm, hms]
      rfl
    · rw [List.mapM_cons]
      simp [hrun, hruns]

/-- **The content of a place is found once its element children are stored.** -/
theorem run_contentOf (h : ∀ e ∈ p.elementChildren, c.Stored s e) :
    ∃ content, c.contentBelow p = .ok content ∧ (contentOf p).run s = .ok content s := by
  obtain ⟨texts, hm, hrun⟩ := run_mapM_pieceOf p.children (fun _ hd => hd)
    fun d hd hElement => h d (List.mem_filter.mpr ⟨hd, hElement⟩)
  refine ⟨texts.flatten, ?_, ?_⟩
  · rw [contentBelow_eq, hm]
    rfl
  · simp [contentOf, hrun]

/-! ## The step of one element -/

/-- **The step of an element** stores its Markdown, or fails as the element does. -/
theorem run_process {content : Text} (h : (contentOf p).run s = .ok content s) :
    (c.process p).run s = match c.convertElement p content with
      | .ok text => .ok () { s.noting (c.eventsOf p content) with
          outputs := s.outputs.insert p.address text }
      | .error e => .error e (s.noting (c.eventsOf p content)) := by
  rw [process]
  simp only [EStateM.run_bind, h]
  split
  · next hc =>
    have he : p.isElided content = true := hc
    rw [convertElement, eventsOf, if_pos he, if_pos he]
    simp [run_setOutput]
  · next hc =>
    have he : ¬ p.isElided content = true := hc
    rw [convertElement, eventsOf, if_neg he, if_neg he, EStateM.run_bind, run_ofExcept]
    rcases findRule p c.rules with e | _ | r
    · simp
    · rcases c.policy with _ | _
      · simp [run_note, run_setOutput]
      · simp
    · simp only [EStateM.run_bind, Rule.run_apply]
      rcases r.textFor (p.flank content).content p with e | text
      · rfl
      · simp [run_setOutput, Except.map]

/-! ## The steps of many elements -/

variable (c) in
/-- After the steps of `es` each of them is stored, and nothing else has changed but for events. -/
structure Done (es : List Place) (s s' : Progress) : Prop where
  stored : ∀ e ∈ es, c.Stored s' e
  others : ∀ a, a ∉ es.map Place.address → s'.outputs.get? a = s.outputs.get? a
  events : s'.events = (s.noting (es.flatMap c.eventsFor)).events

variable (c) in
/-- The steps of `es` stop with an error: it is that of the first element whose own step fails. -/
def Stopped (es : List Place) (s : Progress) (err : Error) (s' : Progress) : Prop :=
  ∃ earlier e later content, es = earlier ++ e :: later ∧
    (∀ d ∈ earlier, ∃ text, c.markdownOf d = .ok text) ∧
    c.contentBelow e = .ok content ∧ c.convertElement e content = .error err ∧
    s'.events = (s.noting (earlier.flatMap c.eventsFor ++ c.eventsOf e content)).events

theorem Stopped.append {es more : List Place} {s s' : Progress} {err : Error}
    (h : c.Stopped es s err s') : c.Stopped (es ++ more) s err s' := by
  obtain ⟨earlier, e, later, content, rfl, h⟩ := h
  exact ⟨earlier, e, later ++ more, content, by simp, h⟩

/-- The step of one more element whose children are stored. -/
theorem Done.step {es : List Place} {e : Place} {s s' : Progress} (h : c.Done es s s')
    (he : e.isElement = true) (hchildren : ∀ d ∈ e.elementChildren, d ∈ es)
    (hnew : e.address ∉ es.map Place.address) :
    (∃ s'', (c.process e).run s' = .ok () s'' ∧ c.Done (es ++ [e]) s s'') ∨
      ∃ err s'', (c.process e).run s' = .error err s'' ∧ c.Stopped (es ++ [e]) s err s'' := by
  obtain ⟨content, hbelow, hcontent⟩ := run_contentOf fun d hd => h.stored d (hchildren d hd)
  have hrun := run_process (c := c) hcontent
  rcases hconv : c.convertElement e content with err | text
  · refine Or.inr ⟨err, s'.noting (c.eventsOf e content), by rw [hrun, hconv], ?_⟩
    refine ⟨es, e, [], content, rfl, fun d hd => ?_, hbelow, hconv, ?_⟩
    · obtain ⟨text, hm, _⟩ := h.stored d hd
      exact ⟨text, hm⟩
    · rw [← Progress.noting_noting, Progress.noting, h.events]
      rfl
  · refine Or.inl ⟨{ s'.noting (c.eventsOf e content) with
      outputs := s'.outputs.insert e.address text }, by rw [hrun, hconv], ?_, ?_, ?_⟩
    · intro d hd
      rcases List.mem_append.mp hd with hd | hd
      · -- an earlier output is not overwritten: the address is new
        obtain ⟨t, hm, hget⟩ := h.stored d hd
        refine ⟨t, hm, ?_⟩
        rw [Outputs.get?_insert, if_neg, hget]
        intro heq
        exact hnew (heq ▸ List.mem_map_of_mem hd)
      · obtain rfl := List.mem_singleton.mp hd
        refine ⟨text, ?_, ?_⟩
        · rw [c.markdownOf_eq he, hbelow]
          exact hconv
        · rw [Outputs.get?_insert, if_pos rfl]
    · intro a ha
      rw [List.map_append, List.mem_append, not_or] at ha
      rw [Outputs.get?_insert, if_neg, h.others a ha.1]
      rintro rfl
      exact ha.2 List.mem_cons_self
    · have hev : c.eventsFor e = c.eventsOf e content := eventsFor_of_contentBelow hbelow
      rw [List.flatMap_append, ← Progress.noting_noting, List.flatMap_singleton, hev]
      simp only [Progress.noting, h.events]

/-- **The steps of elements whose children come first**: all are stored, or the first that fails
stops them. -/
theorem run_forM_process {es : List Place} (hfirst : ChildrenFirst es)
    (hnodup : (es.map Place.address).Nodup) (hes : ∀ e ∈ es, e.isElement = true) (s : Progress) :
    (∃ s', (es.forM c.process).run s = .ok () s' ∧ c.Done es s s') ∨
      ∃ err s', (es.forM c.process).run s = .error err s' ∧ c.Stopped es s err s' := by
  induction es using List.reverseRecOn with
  | nil =>
    refine Or.inl ⟨s, rfl, ?_, fun _ _ => rfl, ?_⟩
    · intro e he
      cases he
    · simp
  | append_singleton es e ih =>
    have hfirst' : ChildrenFirst es := by
      rintro earlier d later rfl
      exact hfirst earlier d (later ++ [e]) (by simp)
    rw [List.map_append, List.map_singleton, List.nodup_append] at hnodup
    rw [run_forM_append_singleton]
    rcases ih hfirst' hnodup.1 fun d hd => hes d (List.mem_append_left _ hd) with
      ⟨s', hrun, hdone⟩ | ⟨err, s', hrun, hstop⟩
    · have hnew : e.address ∉ es.map Place.address := fun h =>
        hnodup.2.2 _ h _ List.mem_cons_self rfl
      rcases hdone.step (hes e (by simp)) (hfirst es e [] rfl) hnew with
        ⟨s'', hrun', h⟩ | ⟨err, s'', hrun', h⟩
      · exact Or.inl ⟨s'', by rw [hrun]; exact hrun', h⟩
      · exact Or.inr ⟨err, s'', by rw [hrun]; exact hrun', h⟩
    · exact Or.inr ⟨err, s', by rw [hrun], hstop.append⟩

end Context

end HtmlMarkdown
