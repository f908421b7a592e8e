import Mathlib
import HtmlMarkdown.Convert
import HtmlMarkdown.Proofs.Fold
import HtmlMarkdown.Proofs.Passes

/-!
# A whole conversion

* `foldedRoot`: the place whose content becomes the Markdown of a document;
* `thinned_foldedRoot`: what is below it is left of what is below the root of the document;
* `run_convert`: a conversion is a fold between a note and `normalize`;
* **`exists_run_convert_iff`**: it returns a text if and only if the recursion does.
-/

namespace HtmlMarkdown

/-! ## Roots -/

namespace Place

theorem inside_withNodes (p : Place) (ns : List Node) : (p.withNodes ns).inside = p.inside := by
  rw [withNodes]
  cases p.inside <;> rfl

theorem nodes_withNodes (p : Place) (ns : List Node) : (p.withNodes ns).nodes = ns := by
  rw [withNodes]
  cases p.inside <;> rfl

/-- A conversion starts from a document or a `body`. -/
theorem root_eq (document : List Node) :
    Place.root document = .document document ∨ ∃ attributes children before after outside,
      Place.root document = .node (.element "body" attributes children) before after outside := by
  rw [root]
  rcases hfind : (Place.document document).descendants.find? (isNamed "body") with _ | p
  · exact Or.inl rfl
  · right
    have hbody := List.find?_some hfind
    rcases p with _ | ⟨⟨name, attributes, children⟩ | _, before, after, outside⟩
    · cases hbody
    · rw [isNamed, beq_iff_eq] at hbody
      exact ⟨attributes, children, before, after, outside, by rw [hbody, Option.getD_some]⟩
    · cases hbody

theorem tagName_root (document : List Node) :
    (root document).tagName = "" ∨ (root document).tagName = "body" := by
  have hbody : lowerName "body" = "body" := by decide
  rcases root_eq document with h | ⟨_, _, _, _, _, h⟩ <;> rw [h]
  · exact Or.inl rfl
  · exact Or.inr hbody

end Place

/-- The place that is folded: the root of a document after both passes over white space. -/
def foldedRoot (document : List Node) : Place :=
  (collapsedRoot document).withNodes (collapsedRoot document).removeBlank

section Roots

variable (document : List Node)

theorem inside_collapsedRoot : (collapsedRoot document).inside = (Place.root document).inside :=
  Place.inside_withNodes _ _

theorem nodes_collapsedRoot : (collapsedRoot document).nodes =
    collapseNodes isBlockTag isPreTag (Place.root document).nodes := by
  rw [collapsedRoot, Place.nodes_withNodes, Place.collapse, if_neg]
  rcases Place.tagName_root document with h | h <;> rw [h] <;> decide

theorem inside_foldedRoot : (foldedRoot document).inside = (Place.root document).inside := by
  rw [foldedRoot, Place.inside_withNodes, inside_collapsedRoot]

theorem nodes_foldedRoot : (foldedRoot document).nodes =
    Place.rebuildNodes (Place.root document).inside []
      (collapseNodes isBlockTag isPreTag (Place.root document).nodes) := by
  rw [foldedRoot, Place.nodes_withNodes, Place.removeBlank_eq_rebuildNodes, inside_collapsedRoot,
    nodes_collapsedRoot]

theorem thinned_collapsedRoot :
    Thinned (Place.root document).nodes (collapsedRoot document).nodes := by
  rw [collapsedRoot, Place.nodes_withNodes]
  exact thinned_collapse isBlockTag isPreTag _

/-- **What is folded is left of the document.** -/
theorem thinned_foldedRoot : Thinned (Place.root document).nodes (foldedRoot document).nodes := by
  refine (thinned_collapsedRoot document).trans ?_
  rw [foldedRoot, Place.nodes_withNodes]
  exact thinned_removeBlank (collapsedRoot document)

end Roots

/-! ## Runs -/

namespace Context

variable (c : Context) (document : List Node) (s : Progress)

/-- **A conversion is a fold** between a note of what is left out and `normalize`. -/
theorem run_convert : (c.convert document).run s =
    match (c.fold (foldedRoot document)).run
        (s.noting [.removedBlank (collapsedRoot document).countBlank]) with
      | .ok text s' => .ok (normalize text) s'
      | .error e s' => .error e s' := by
  rw [convert, render, EStateM.run_bind, run_note]
  simp only [EStateM.run_bind, foldedRoot]
  rcases (c.fold _).run _ with ⟨text, s'⟩ | ⟨e, s'⟩ <;> rfl

variable {c document s}

/-- **A conversion returns a text if and only if the recursion does**, and the same one made tidy. -/
theorem exists_run_convert_iff {text : Text} : (∃ s', (c.convert document).run s = .ok text s') ↔
    ∃ content, c.contentBelow (foldedRoot document) = .ok content ∧ text = normalize content := by
  rw [run_convert]
  constructor
  · rintro ⟨s', h⟩
    rcases hfold : (c.fold (foldedRoot document)).run _ with ⟨content, s''⟩ | ⟨e, s''⟩
    · rw [hfold] at h
      cases h
      exact ⟨content, exists_run_fold_iff.mp ⟨s', hfold⟩, rfl⟩
    · rw [hfold] at h
      cases h
  · rintro ⟨content, hcontent, rfl⟩
    obtain ⟨s', h⟩ := exists_run_fold_iff.mpr hcontent
    exact ⟨s', by rw [h]⟩

end Context

end HtmlMarkdown
