import Mathlib
import HtmlMarkdown.Proofs.Failure
import HtmlMarkdown.Proofs.Root
import HtmlMarkdown.Proofs.Selection

/-!
# Idle rules

A rule that selects no element below a place takes no part in the fold of the place, wherever it
stands among the rules. What a fold notes besides the calls of replacements is never read again, so
it is enough that two folds find the same rule for each element.

* `Progress.Agrees`, `Run.Alike`: two runs that differ in such notes only, and how they compose;
* `Context.alike_fold`: folds with the same rule for each element are alike;
* `Interleaved`, `Rule.IsIdle`, `findRule_of_interleaved`: idle rules among others;
* `isIdle_of_isFor`: rules for tags that no element of a document has;
* **`outcome_and_calls_of_isIdle`**.
-/

namespace HtmlMarkdown

/-! ## Runs that differ in notes -/

/-- Two stages with the same outputs and the same calls of replacements. -/
structure Progress.Agrees (s t : Progress) : Prop where
  outputs : s.outputs = t.outputs
  calls : s.calls = t.calls

theorem Progress.Agrees.refl (s : Progress) : s.Agrees s := ⟨rfl, rfl⟩

theorem Progress.calls_noting (s : Progress) (events : List Event) :
    (s.noting events).calls = s.calls ++ events.filterMap Event.call? := by
  simp [Progress.calls_eq, Progress.noting]

namespace Run

variable {α β : Type}

/-- The calls of replacements after a computation, those before it included. -/
def calls (x : Run α) (s : Progress) : List (String × Text) :=
  match x.run s with
  | .ok _ s' => s'.calls
  | .error _ s' => s'.calls

/-- From stages that agree two computations come to the same value or the same error, at stages that
agree. -/
def Alike (x y : Run α) : Prop := ∀ s t : Progress, s.Agrees t →
  (∃ a s' t', x.run s = .ok a s' ∧ y.run t = .ok a t' ∧ s'.Agrees t') ∨
    ∃ err s' t', x.run s = .error err s' ∧ y.run t = .error err t' ∧ s'.Agrees t'

namespace Alike

variable {x y : Run α} {f g : α → Run β}

theorem pure (a : α) : Alike (Pure.pure a) (Pure.pure a) :=
  fun s t h => Or.inl ⟨a, s, t, rfl, rfl, h⟩

theorem throw (err : Error) : Alike (MonadExcept.throw err : Run α) (MonadExcept.throw err) :=
  fun s t h => Or.inr ⟨err, s, t, rfl, rfl, h⟩

theorem bind (h : Alike x y) (hf : ∀ a, Alike (f a) (g a)) : Alike (x >>= f) (y >>= g) := by
  intro s t hst
  rw [EStateM.run_bind, EStateM.run_bind]
  rcases h s t hst with ⟨a, s', t', hx, hy, hst'⟩ | ⟨err, s', t', hx, hy, hst'⟩
  · rw [hx, hy]
    exact hf a s' t' hst'
  · rw [hx, hy]
    exact Or.inr ⟨err, s', t', rfl, rfl, hst'⟩

theorem ofExcept (x : Except Error α) : Alike (Run.ofExcept x) (Run.ofExcept x) := by
  cases x with
  | ok a => exact pure a
  | error err => exact throw err

/-- Notes may differ where no call is noted or the same one. -/
theorem note {e e' : Event} (h : e.call? = e'.call?) : Alike (Run.note e) (Run.note e') := by
  intro s t hst
  refine Or.inl ⟨(), _, _, run_note e s, run_note e' t, hst.outputs, ?_⟩
  rw [s.calls_noting, t.calls_noting, hst.calls, List.filterMap_cons, List.filterMap_cons, h]

theorem mapM {f g : α → Run β} (xs : List α) (h : ∀ x ∈ xs, Alike (f x) (g x)) :
    Alike (xs.mapM f) (xs.mapM g) := by
  induction xs with
  | nil => exact pure []
  | cons x xs ih =>
    rw [List.mapM_cons, List.mapM_cons]
    exact (h x List.mem_cons_self).bind fun _ =>
      (ih fun y hy => h y (List.mem_cons_of_mem _ hy)).bind fun _ => pure _

theorem forM {f g : α → Run Unit} (xs : List α) (h : ∀ x ∈ xs, Alike (f x) (g x)) :
    Alike (xs.forM f) (xs.forM g) := by
  induction xs with
  | nil => exact pure ()
  | cons x xs ih =>
    exact (h x List.mem_cons_self).bind fun _ => ih fun y hy => h y (List.mem_cons_of_mem _ hy)

theorem outcome_eq (h : Alike x y) (s : Progress) : x.outcome s = y.outcome s := by
  rw [Run.outcome, Run.outcome]
  rcases h s s (.refl s) with ⟨a, s', t', hx, hy, _⟩ | ⟨err, s', t', hx, hy, _⟩ <;> rw [hx, hy]

theorem calls_eq (h : Alike x y) (s : Progress) : x.calls s = y.calls s := by
  rw [Run.calls, Run.calls]
  rcases h s s (.refl s) with ⟨a, s', t', hx, hy, hst⟩ | ⟨err, s', t', hx, hy, hst⟩ <;> rw [hx, hy]
  · exact hst.calls
  · exact hst.calls

end Alike

end Run

open Run (Alike)

/-! ## Folds that find the same rules -/

theorem alike_outputOf (p : Place) : Alike (outputOf p) (outputOf p) := by
  intro s t hst
  simp only [outputOf, EStateM.run_bind, EStateM.run_get, hst.outputs]
  rcases t.outputs.get? p.address with _ | text
  · exact Alike.throw _ s t hst
  · cases p.hasOutput
    · exact Alike.throw _ s t hst
    · exact Alike.pure text s t hst

theorem alike_setOutput (p : Place) (text : Text) : Alike (setOutput p text) (setOutput p text) := by
  intro s t hst
  exact Or.inl ⟨(), _, _, run_setOutput p text s, run_setOutput p text t, by rw [hst.outputs],
    hst.calls⟩

theorem alike_contentOf (p : Place) : Alike (contentOf p) (contentOf p) := by
  refine (Alike.mapM _ fun d _ => ?_).bind fun _ => Alike.pure _
  rw [pieceOf]
  split
  · exact alike_outputOf d
  · split
    · exact Alike.pure _
    · exact Alike.pure _

theorem Rule.alike_apply (r : Rule) (content : Text) (p : Place) :
    Alike (r.apply content p) (r.apply content p) := by
  intro s t hst
  have hnoted : (s.noting (r.calls content p)).Agrees (t.noting (r.calls content p)) :=
    ⟨hst.outputs, by rw [Progress.calls_noting, Progress.calls_noting, hst.calls]⟩
  rw [Rule.run_apply, Rule.run_apply]
  rcases r.textFor content p with err | text
  · exact Or.inr ⟨err, _, _, rfl, rfl, hnoted⟩
  · exact Or.inl ⟨text, _, _, rfl, rfl, hnoted⟩

namespace Context

variable {c c' : Context} {p : Place}

theorem alike_process (c : Context) (p : Place) : Alike (c.process p) (c.process p) := by
  rw [process]
  refine (alike_contentOf p).bind fun content => ?_
  dsimp only
  split
  · exact alike_setOutput p []
  · refine (Alike.ofExcept _).bind fun found => ?_
    rcases found with _ | r
    · rcases c.policy with _ | _
      · exact (Alike.note rfl).bind fun _ => alike_setOutput p content
      · exact Alike.throw _
    · exact (r.alike_apply _ p).bind fun _ => alike_setOutput p _

/-- The step of an element knows the rules by the one that it finds. -/
theorem process_congr (hpolicy : c.policy = c'.policy)
    (hrules : findRule p c.rules = findRule p c'.rules) : c.process p = c'.process p := by
  rw [process, process, hpolicy, hrules]

/-- **Folds are alike** if they find the same rule for each element. -/
theorem alike_fold (hpolicy : c.policy = c'.policy)
    (hrules : ∀ e ∈ p.elementsBelow, findRule e c.rules = findRule e c'.rules) :
    Alike (c.fold p) (c'.fold p) := by
  have hsteps : Alike (p.levelOrder.reverse.forM c.process)
      (p.levelOrder.reverse.forM c'.process) := by
    refine Alike.forM _ fun e he => ?_
    rw [process_congr hpolicy (hrules e (Place.mem_levelOrder.mp (List.mem_reverse.mp he)))]
    exact c'.alike_process e
  -- the number of rules differs, and it is noted at the start
  have hstart : (Event.converting p.levelOrder.length c.rules.length).call? =
      (Event.converting p.levelOrder.length c'.rules.length).call? := rfl
  exact (Alike.note hstart).bind fun _ => hsteps.bind fun _ => alike_contentOf p

theorem alike_convert {document : List Node} (hpolicy : c.policy = c'.policy)
    (hrules : ∀ e ∈ (foldedRoot document).elementsBelow,
      findRule e c.rules = findRule e c'.rules) :
    Alike (c.convert document) (c'.convert document) :=
  (Alike.note rfl).bind fun _ => (alike_fold hpolicy hrules).bind fun _ => Alike.pure _

end Context

/-! ## Idle rules among others -/

/-- The first two lists, each in its order, make up the third. -/
inductive Interleaved : List Rule → List Rule → List Rule → Prop
  | nil : Interleaved [] [] []
  | left (r : Rule) {rules idle all : List Rule} :
      Interleaved rules idle all → Interleaved (r :: rules) idle (r :: all)
  | right (r : Rule) {rules idle all : List Rule} :
      Interleaved rules idle all → Interleaved rules (r :: idle) (r :: all)

namespace Interleaved

theorem refl (rules : List Rule) : Interleaved rules [] rules := by
  induction rules with
  | nil => exact .nil
  | cons r rules ih => exact .left r ih

theorem leading {rules idle all : List Rule} (h : Interleaved rules idle all) (more : List Rule) :
    Interleaved rules (more ++ idle) (more ++ all) := by
  induction more with
  | nil => exact h
  | cons r more ih => exact .right r ih

theorem following {rules idle all : List Rule} (h : Interleaved rules idle all)
    (first : List Rule) : Interleaved (first ++ rules) idle (first ++ all) := by
  induction first with
  | nil => exact h
  | cons r first ih => exact .left r ih

end Interleaved

/-- The filter of the rule selects no element below a place, and never fails there. -/
def Rule.IsIdle (r : Rule) (p : Place) : Prop := ∀ e ∈ p.elementsBelow, r.filter.holds e = .ok false

/-- **Rules that do not select a place are passed over.** -/
theorem findRule_of_interleaved {rules idle all : List Rule} {p : Place}
    (h : Interleaved rules idle all) (hidle : ∀ r ∈ idle, r.filter.holds p = .ok false) :
    findRule p all = findRule p rules := by
  induction h with
  | nil => rfl
  | left r _ ih => rw [findRule, findRule, ih hidle]
  | right r _ ih =>
    rw [findRule, hidle r List.mem_cons_self]
    exact ih fun q hq => hidle q (List.mem_cons_of_mem _ hq)

/-- Rules for certain tags are idle where no element of a document has one of them: what is folded is
left of the document. -/
theorem isIdle_of_isFor {table : List (List String)} {rules : List Rule} {document : List Node}
    (h : List.Forall₂ Rule.IsFor table rules)
    (htags : Everywhere (fun n => n.tagName ∉ table.flatten) (Place.root document).nodes) :
    ∀ r ∈ rules, r.IsIdle (foldedRoot document) := by
  have hfolded : Everywhere (fun n => n.tagName ∉ table.flatten) (foldedRoot document).nodes :=
    (thinned_foldedRoot document).everywhere (fun _ _ _ _ _ hn => hn) (fun _ _ _ _ hn => hn) htags
  intro r hr e he
  obtain ⟨n, before, after, outside, rfl, hn⟩ :=
    Place.everywhere_of_mem_descendants hfolded (Place.mem_elementsBelow.mp he).1
  have htag : (Place.node n before after outside).tagName ∉ table.flatten := hn.here
  exact not_holds_of_isFor h htag r hr

theorem Context.alike_fold_of_interleaved {rules idle all : List Rule} {policy : Policy} {p : Place}
    (h : Interleaved rules idle all) (hidle : ∀ r ∈ idle, r.IsIdle p) :
    Alike ((⟨all, policy⟩ : Context).fold p) ((⟨rules, policy⟩ : Context).fold p) :=
  alike_fold rfl fun e he => findRule_of_interleaved h fun r hr => hidle r hr e he

namespace Options

/-- The same options with or without the GitHub-flavoured rules. -/
def withGfm (o : Options) (gfm : Bool) : Options := { o with gfm }

variable (o : Options)

theorem composeRules_allRules (gfm : Bool) : composeRules (o.withGfm gfm).allRules =
    (composeRules o.rules).map (· ++ builtInRules gfm) := by
  have happend (more : List Rule) : composeRules (o.rules ++ more.map .ready) =
      (composeRules o.rules).map (· ++ more) := by
    rw [composeRules, List.mapM_append, ← composeRules, ← composeRules, composeRules_ready]
    rcases composeRules o.rules with err | rules <;> rfl
  cases gfm with
  | false =>
    rw [← happend, allRules, List.append_assoc]
    rfl
  | true =>
    rw [← happend, allRules, List.append_assoc]
    rfl

/-- GitHub-flavoured rules that are idle make no difference to a conversion. -/
theorem alike_convertDocument {document : List Node}
    (hidle : ∀ r ∈ gfmRules, r.IsIdle (foldedRoot document)) :
    Alike ((o.withGfm true).convertDocument document)
      ((o.withGfm false).convertDocument document) := by
  have hcontext (gfm : Bool) : (o.withGfm gfm).context =
      (composeRules o.rules).map fun rules => ⟨rules ++ builtInRules gfm, o.unmatched⟩ := by
    rw [context, composeRules_allRules]
    rcases composeRules o.rules with err | rules <;> rfl
  rw [convertDocument, convertDocument, hcontext, hcontext]
  rcases composeRules o.rules with err | rules
  · exact fun s t hst => Or.inr ⟨err, s, t, rfl, rfl, hst⟩
  · have hmixed : Interleaved (rules ++ markdownRules) gfmRules
        (rules ++ (gfmRules ++ markdownRules)) := by
      have h := ((Interleaved.refl markdownRules).leading gfmRules).following rules
      rwa [List.append_nil] at h
    exact Context.alike_convert rfl fun e he =>
      findRule_of_interleaved hmixed fun r hr => hidle r hr e he

end Options

/-- **Idle rules change nothing.** Rules that select no element below a place, nor fail at any, may
stand among other rules wherever they like, whatever their replacements are: a fold of the place
comes to the same text or the same error, and calls the same replacements in the same order. So do
the GitHub-flavoured rules in the conversion of a document, or of markup, if they are idle below what
is folded. -/
theorem outcome_and_calls_of_isIdle :
    (∀ (rules idle all : List Rule) (policy : Policy) (p : Place) (s : Progress),
      Interleaved rules idle all → (∀ r ∈ idle, r.IsIdle p) →
        ((⟨all, policy⟩ : Context).fold p).outcome s =
            ((⟨rules, policy⟩ : Context).fold p).outcome s ∧
          ((⟨all, policy⟩ : Context).fold p).calls s =
            ((⟨rules, policy⟩ : Context).fold p).calls s) ∧
    (∀ (o : Options) (document : List Node) (s : Progress),
      (∀ r ∈ gfmRules, r.IsIdle (foldedRoot document)) →
        ((o.withGfm true).convertDocument document).outcome s =
            ((o.withGfm false).convertDocument document).outcome s ∧
          ((o.withGfm true).convertDocument document).calls s =
            ((o.withGfm false).convertDocument document).calls s) ∧
    ∀ (o : Options) (markup : Text) (document : List Node) (s : Progress),
      parseDocument (escapeListMarkers markup) = .ok document →
      (∀ r ∈ gfmRules, r.IsIdle (foldedRoot document)) →
        ((o.withGfm true).convert (.text markup)).outcome s =
            ((o.withGfm false).convert (.text markup)).outcome s ∧
          ((o.withGfm true).convert (.text markup)).calls s =
            ((o.withGfm false).convert (.text markup)).calls s := by
  refine ⟨fun rules idle all policy p s h hidle => ?_, fun o document s hidle => ?_,
    fun o markup document s hparse hidle => ?_⟩
  · have halike : Alike ((⟨all, policy⟩ : Context).fold p) _ :=
      Context.alike_fold_of_interleaved h hidle
    exact ⟨halike.outcome_eq s, halike.calls_eq s⟩
  · have halike := o.alike_convertDocument hidle
    exact ⟨halike.outcome_eq s, halike.calls_eq s⟩
  · rcases markup with _ | ⟨c, markup⟩
    · exact ⟨rfl, rfl⟩
    · have halike := o.alike_convertDocument hidle
      have hrun (gfm : Bool) := (o.withGfm gfm).run_convert_text (List.cons_ne_nil c markup) hparse s
      refine ⟨?_, ?_⟩
      · rw [Run.outcome, Run.outcome, hrun, hrun]
        exact halike.outcome_eq s
      · rw [Run.calls, Run.calls, hrun, hrun]
        exact halike.calls_eq s

/-- A page with nothing that a GitHub-flavoured rule is for. -/
def plainPage : List Node := [
  .element "h1" [] [.string .plain ['a']],
  .element "p" [] [.element "em" [] [.string .plain ['b']], .string .plain [' ', 'c']]]

/-- A rule for an element that the page does not have; its replacement is no function. -/
def brokenVideoRule : Rule := { filter := .ofTag "video", replacement := .value (.text []) }

theorem outcome_and_calls_of_isIdle_plainPage :
    (∀ r ∈ brokenVideoRule :: gfmRules, r.IsIdle (foldedRoot plainPage)) ∧
    ((⟨brokenVideoRule :: builtInRules true, .error⟩ : Context).fold (foldedRoot plainPage)).outcome
        {} =
      ((⟨markdownRules, .error⟩ : Context).fold (foldedRoot plainPage)).outcome {} ∧
    ((({} : Options).withGfm true).convertDocument plainPage).outcome {} =
      ((({} : Options).withGfm false).convertDocument plainPage).outcome {} := by
  have hvideo : brokenVideoRule.IsFor ["video"] := Rule.isFor_ofTag rfl (by decide)
  have hidle : ∀ r ∈ brokenVideoRule :: gfmRules, r.IsIdle (foldedRoot plainPage) :=
    isIdle_of_isFor (.cons hvideo isFor_gfmRules) (by decide)
  have hmixed : Interleaved markdownRules (brokenVideoRule :: gfmRules)
      (brokenVideoRule :: builtInRules true) := by
    have h := (Interleaved.refl markdownRules).leading (brokenVideoRule :: gfmRules)
    rwa [List.append_nil] at h
  obtain ⟨hfold, hconvert, _⟩ := outcome_and_calls_of_isIdle
  exact ⟨hidle, (hfold _ _ _ _ _ {} hmixed hidle).1,
    (hconvert {} plainPage {} (List.forall_mem_cons.mp hidle).2).1⟩

end HtmlMarkdown
