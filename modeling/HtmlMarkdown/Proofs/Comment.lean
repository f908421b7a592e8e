import Mathlib
import HtmlMarkdown.Proofs.Failure
import HtmlMarkdown.Proofs.Root
import HtmlMarkdown.Proofs.Scan

/-!
# Comments do not count

Comments may be put anywhere below the root of a conversion. Each pass over white space passes them
over, the second one takes them away, and what is folded is the same.

* `Commented`: nodes with further comments among them;
* `Commented.settledTexts_eq`, `Commented.resettle`: a collapse of both;
* `Commented.rebuildNodes_eq`: both without blank nodes are equal;
* `outcome_convert`: what a conversion comes to is decided by what is folded;
* **`outcome_convertDocument_of_commented`**.
-/

namespace HtmlMarkdown

/-! ## Further comments -/

/-- Nodes and the same nodes with further comments among them, at any depth. -/
inductive Commented : List Node → List Node → Prop
  | nil : Commented [] []
  | element (name : String) (attributes : Attributes) {children children' rest rest' : List Node} :
      Commented children children' → Commented rest rest' →
      Commented (.element name attributes children :: rest)
        (.element name attributes children' :: rest')
  | string (kind : StringKind) (value : Text) {rest rest' : List Node} :
      Commented rest rest' → Commented (.string kind value :: rest) (.string kind value :: rest')
  | comment {kind : StringKind} (value : Text) {rest rest' : List Node} :
      kind.isText = false → Commented rest rest' → Commented rest (.string kind value :: rest')

namespace Commented

variable {ns ns' : List Node} {pre : String → Bool}

theorem refl : ∀ ns : List Node, Commented ns ns
  | [] => .nil
  | .element name attributes children :: rest =>
    .element name attributes (refl children) (refl rest)
  | .string kind value :: rest => .string kind value (refl rest)

theorem append {a a' b b' : List Node} (h : Commented a a') (h' : Commented b b') :
    Commented (a ++ b) (a' ++ b') := by
  induction h with
  | nil => exact h'
  | element name attributes hc _ _ ih => exact .element name attributes hc ih
  | string kind value _ ih => exact .string kind value ih
  | comment value hk _ ih => exact .comment value hk ih

theorem everywhere_isOtherThan {name : String} (h : Commented ns ns')
    (hns : Everywhere (Node.IsOtherThan name) ns) : Everywhere (Node.IsOtherThan name) ns' := by
  induction h with
  | nil => trivial
  | element own attributes _ _ ihc ihr => exact ⟨⟨hns.1.1, ihc hns.1.2⟩, ihr hns.2⟩
  | string kind value _ ih => exact ⟨trivial, ih hns.2⟩
  | comment value _ _ ih => exact ⟨trivial, ih hns⟩

/-- What stands beside a node is judged past comments. -/
theorem meetsInline_eq (h : Commented ns ns') : meetsInline ns' = meetsInline ns := by
  induction h with
  | nil => rfl
  | element name attributes => rfl
  | string kind value _ ih =>
    rw [meetsInline, meetsInline, List.dropWhile_cons, List.dropWhile_cons]
    split
    · exact ih
    · rfl
  | comment value hk _ ih =>
    rw [meetsInline, List.dropWhile_cons_of_pos (by simp [Node.isComment, hk])]
    exact ih

/-! ## A collapse -/

/-- The pass goes over comments without a change. -/
theorem through_eq {block : String → Bool} (h : Commented ns ns') (s : Scan) :
    Scan.through block pre ns' s = Scan.through block pre ns s := by
  induction h generalizing s with
  | nil => rfl
  | element name attributes _ _ ihc ihr => rw [Scan.through_element, Scan.through_element, ihr, ihc]
  | string kind value _ ih => rw [Scan.through_string, Scan.through_string, ih]
  | comment value hk _ ih => rw [Scan.through_string, hk, if_neg Bool.false_ne_true, ih]

theorem settledTexts_eq (h : Commented ns ns') (block : String → Bool) :
    settledTexts block pre ns' = settledTexts block pre ns := by
  rw [settledTexts_eq_through, settledTexts_eq_through, h.through_eq]

/-- Texts are put back past comments. -/
theorem resettle (h : Commented ns ns') (ts : List Text) :
    Commented (HtmlMarkdown.resettle pre ns ts).1 (HtmlMarkdown.resettle pre ns' ts).1 ∧
      (HtmlMarkdown.resettle pre ns' ts).2 = (HtmlMarkdown.resettle pre ns ts).2 := by
  induction h generalizing ts with
  | nil => exact ⟨.nil, rfl⟩
  | element name attributes hc _ ihc ihr =>
    rw [HtmlMarkdown.resettle, HtmlMarkdown.resettle, resettleNode, resettleNode]
    by_cases hpre : pre (lowerName name) = true
    · simp only [hpre, if_true]
      exact ⟨.element name attributes hc (ihr ts).1, (ihr ts).2⟩
    · simp only [hpre, Bool.false_eq_true, if_false]
      obtain ⟨hinside, hleft⟩ := ihc ts
      rw [hleft]
      exact ⟨.element name attributes hinside (ihr _).1, (ihr _).2⟩
  | string kind value _ ih =>
    rw [HtmlMarkdown.resettle, HtmlMarkdown.resettle, resettleNode.eq_def]
    by_cases hk : kind.isText = true
    · rcases ts with _ | ⟨t, ts⟩
      · simp only [hk, if_true]
        exact ⟨.string kind value (ih []).1, (ih []).2⟩
      · simp only [hk, if_true]
        split
        · exact ih ts
        · exact ⟨.string kind t (ih ts).1, (ih ts).2⟩
    · simp only [hk, Bool.false_eq_true, if_false]
      exact ⟨.string kind value (ih ts).1, (ih ts).2⟩
  | comment value hk _ ih =>
    rw [HtmlMarkdown.resettle, resettleNode.eq_def]
    simp only [hk, Bool.false_eq_true, if_false]
    exact ⟨.comment value hk (ih ts).1, (ih ts).2⟩

theorem collapseNodes (h : Commented ns ns') (block : String → Bool) :
    Commented (HtmlMarkdown.collapseNodes block pre ns) (HtmlMarkdown.collapseNodes block pre ns') := by
  rw [HtmlMarkdown.collapseNodes, HtmlMarkdown.collapseNodes, h.settledTexts_eq block]
  exact (h.resettle _).1

/-! ## Blank nodes taken away -/

/-- **Both are equal once blank nodes and comments are taken away**, if text is as preformatted around
the one as around the other, and so is what stands before them. -/
theorem rebuildNodes_eq (h : Commented ns ns') {outside outside' : Surroundings}
    {before before' : List Node}
    (houtside : outside'.anyTag isPreformattedTag = outside.anyTag isPreformattedTag)
    (hbefore : meetsInline before' = meetsInline before) :
    Place.rebuildNodes outside' before' ns' = Place.rebuildNodes outside before ns := by
  induction h generalizing outside outside' before before' with
  | nil => rfl
  | @element name attributes children children' rest rest' _ hrest ihc ihr =>
    have hinside : Place.rebuildNodes (.element name attributes before' rest' outside') [] children' =
        Place.rebuildNodes (.element name attributes before rest outside) [] children :=
      ihc (by rw [Surroundings.anyTag, Surroundings.anyTag, houtside]) rfl
    have hnext : meetsInline (.element name attributes children' :: before') =
        meetsInline (.element name attributes children :: before) := rfl
    rw [Place.rebuildNodes, Place.rebuildNodes, Place.rebuildNode, Place.rebuildNode, hinside,
      ihr houtside hnext]
  | @string kind value rest rest' hrest ih =>
    have hfate : (Place.node (.string kind value) before' rest' outside').fate =
        (Place.node (.string kind value) before rest outside).fate := by
      rw [Place.fate, Place.fate, houtside, hbefore, hrest.meetsInline_eq]
    have hnext : meetsInline (.string kind value :: before') =
        meetsInline (.string kind value :: before) := by
      rw [meetsInline, meetsInline, List.dropWhile_cons, List.dropWhile_cons]
      split
      · exact hbefore
      · rfl
    rw [Place.rebuildNodes, Place.rebuildNodes, Place.rebuildNode, Place.rebuildNode, hfate,
      ih houtside hnext]
  | @comment kind value rest rest' hk _ ih =>
    have hnext : meetsInline (.string kind value :: before') = meetsInline before := by
      rw [meetsInline, List.dropWhile_cons_of_pos (by simp [Node.isComment, hk])]
      exact hbefore
    rw [Place.rebuildNodes, Place.rebuildNode, Place.fate, hk, Bool.not_false, if_pos rfl,
      List.nil_append, ih houtside hnext]

end Commented

/-! ## What is folded -/

theorem foldedRoot_withRootNodes_of_commented {document ns : List Node}
    (h : Commented (Place.root document).nodes ns) :
    foldedRoot (withRootNodes document ns) = foldedRoot document := by
  rw [foldedRoot_withRootNodes h.everywhere_isOtherThan, foldedRoot_eq,
    (h.collapseNodes isBlockTag).rebuildNodes_eq rfl rfl]

/-- **What a conversion comes to** is decided by what is folded. -/
theorem Context.outcome_convert (c : Context) (document : List Node) (s : Progress) :
    (c.convert document).outcome s =
      ((c.fold (foldedRoot document)).outcome s).map normalize := by
  rw [c.outcome_fold _ s (s.noting [.removedBlank (collapsedRoot document).countBlank]),
    Run.outcome, c.run_convert, Run.outcome]
  rcases (c.fold (foldedRoot document)).run _ with ⟨text, s'⟩ | ⟨err, s'⟩ <;> rfl

/-- **Comments do not count.** Further comments below the root of a conversion, anywhere and any
number of them, change neither what is folded nor what the conversion comes to, whatever options it
is made with: its text or its error. -/
theorem outcome_convertDocument_of_commented {document ns : List Node}
    (h : Commented (Place.root document).nodes ns) :
    foldedRoot (withRootNodes document ns) = foldedRoot document ∧
      ∀ (o : Options) (s : Progress),
        (o.convertDocument (withRootNodes document ns)).outcome s =
          (o.convertDocument document).outcome s := by
  have hfolded := foldedRoot_withRootNodes_of_commented h
  refine ⟨hfolded, fun o s => ?_⟩
  rcases hcontext : o.context with err | c
  · simp only [Options.convertDocument, hcontext]
    rfl
  · have hoption : ∀ d : List Node, (o.convertDocument d).outcome s = (c.convert d).outcome s := by
      intro d
      simp only [Options.convertDocument, hcontext]
      rfl
    rw [hoption, hoption, c.outcome_convert, c.outcome_convert, hfolded]

/-- A paragraph with a blank between two inline elements, and preformatted text. -/
def inlineAndPreformatted : List Node := [
  .element "body" [] [
    .element "p" [] [.element "em" [] [.string .plain ['a']], .string .plain [' '],
      .element "code" [] []],
    .element "pre" [] [.string .plain ['b', '\n']]]]

/-- What is below its root, with comments at the edges, between siblings and alone in an element. -/
def inlineAndPreformattedCommented : List Node := [
  .string .doctype ['h', 't', 'm', 'l'],
  .element "p" [] [.element "em" [] [.string .plain ['a'], .string .comment ['c']],
    .string .plain [' '], .string .instruction ['x'], .string .cdata [],
    .element "code" [] [.string .comment ['d']]],
  .element "pre" [] [.string .declaration [], .string .plain ['b', '\n']]]

theorem outcome_convertDocument_of_commented_inlineAndPreformatted :
    Commented (Place.root inlineAndPreformatted).nodes inlineAndPreformattedCommented ∧
    foldedRoot [.element "body" [] inlineAndPreformattedCommented] =
      foldedRoot inlineAndPreformatted ∧
    ∀ (o : Options) (s : Progress),
      (o.convertDocument [.element "body" [] inlineAndPreformattedCommented]).outcome s =
        (o.convertDocument inlineAndPreformatted).outcome s := by
  have hparagraph : Commented
      [.element "em" [] [.string .plain ['a']], .string .plain [' '], .element "code" [] []]
      [.element "em" [] [.string .plain ['a'], .string .comment ['c']], .string .plain [' '],
        .string .instruction ['x'], .string .cdata [],
        .element "code" [] [.string .comment ['d']]] :=
    .element _ _ (.string _ _ (.comment _ rfl .nil)) (.string _ _ (.comment _ rfl
      (.comment _ rfl (.element _ _ (.comment _ rfl .nil) .nil))))
  have h : Commented (Place.root inlineAndPreformatted).nodes inlineAndPreformattedCommented :=
    .comment _ rfl (.element _ _ hparagraph
      (.element _ _ (.comment _ rfl (.string _ _ .nil)) .nil))
  have hdocument : withRootNodes inlineAndPreformatted inlineAndPreformattedCommented =
      [.element "body" [] inlineAndPreformattedCommented] := rfl
  rw [← hdocument]
  exact ⟨h, outcome_convertDocument_of_commented h⟩

end HtmlMarkdown
