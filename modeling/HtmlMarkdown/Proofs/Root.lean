import Mathlib
import HtmlMarkdown.Proofs.Conversion

/-!
# Other nodes below the root of a conversion

A document is converted from its first `body` on, or from its start. What lies below that place does
not decide where it is.

* `Place.IsFirst`: a place with a name that no element before or around it has;
* `find?_descendants_of_isFirst`, `isFirst_of_find?_descendants`: such a place is found first;
* `withRootNodes`, **`root_withRootNodes`**: a document with other nodes below its root;
* `collapsedRoot_withRootNodes`, `foldedRoot_withRootNodes`: after the passes over white space;
* `Options.convertDocument`, `run_convert_text`: the conversion of a document that has been read.
-/

namespace HtmlMarkdown

/-! ## The first element with a name -/

/-- The node is no element with this name. -/
def Node.IsOtherThan (name : String) : Node → Prop
  | .element own .. => own ≠ name
  | .string .. => True

/-- No element around has this name, and none before the elements around. -/
def Surroundings.IsOtherThan (name : String) : Surroundings → Prop
  | document => True
  | element own _ before _ outside =>
    own ≠ name ∧ Everywhere (Node.IsOtherThan name) before ∧ outside.IsOtherThan name

namespace Place

variable {name : String}

/-- A place with a name that no element before it or around it has. -/
def IsFirst (name : String) : Place → Prop
  | document _ => False
  | node here before after outside =>
    (node here before after outside).isNamed name = true ∧
      Everywhere (Node.IsOtherThan name) before ∧ outside.IsOtherThan name

theorem isNamed_of_ne {own : String} (h : own ≠ name) (attributes : Attributes)
    (children before after : List Node) (outside : Surroundings) :
    ¬ (node (.element own attributes children) before after outside).isNamed name = true := by
  rw [isNamed, beq_iff_eq]
  exact h

mutual

theorem find?_withDescendants (outside : Surroundings) (before after : List Node) :
    ∀ (n : Node) (tail : List Place), n.Everywhere (Node.IsOtherThan name) →
    (withDescendants outside before after n tail).find? (isNamed name) = tail.find? (isNamed name)
  | .element own attributes children, tail, h => by
    rw [withDescendants, List.find?_cons_of_neg (isNamed_of_ne h.1 _ _ _ _ _)]
    exact find?_allDescendants _ [] children tail h.2
  | .string kind value, tail, _ => by
    rw [withDescendants, List.find?_cons_of_neg Bool.false_ne_true]

/-- Nodes without the name are passed over. -/
theorem find?_allDescendants (outside : Surroundings) (before : List Node) :
    ∀ (ns : List Node) (tail : List Place), Everywhere (Node.IsOtherThan name) ns →
    (allDescendants outside before ns tail).find? (isNamed name) = tail.find? (isNamed name)
  | [], _, _ => rfl
  | n :: rest, tail, h => by
    rw [allDescendants, find?_withDescendants outside before rest n _ h.1]
    exact find?_allDescendants outside (n :: before) rest tail h.2

end

/-- Siblings without the name are passed over, and a node among them is looked into. -/
theorem find?_allDescendants_append (outside : Surroundings) (before earlier : List Node) (n : Node)
    (after : List Node) (tail : List Place) (h : Everywhere (Node.IsOtherThan name) earlier) :
    (allDescendants outside before (earlier ++ n :: after) tail).find? (isNamed name) =
      (withDescendants outside (earlier.reverse ++ before) after n
        (allDescendants outside (n :: (earlier.reverse ++ before)) after tail)).find?
        (isNamed name) := by
  induction earlier generalizing before with
  | nil => rfl
  | cons m earlier ih =>
    rw [List.cons_append, allDescendants, find?_withDescendants outside before _ m _ h.1,
      ih (m :: before) h.2, List.reverse_cons, List.append_assoc, List.singleton_append]

/-- What is found in a node is found in the document, if the name comes neither before the node nor
around it. -/
theorem find?_wholeDocument {outside : Surroundings} {before after : List Node} {here : Node}
    {p : Place} (hbefore : Everywhere (Node.IsOtherThan name) before)
    (houtside : outside.IsOtherThan name)
    (hfind : ∀ tail, (withDescendants outside before after here tail).find? (isNamed name) = some p) :
    (document (outside.wholeDocument (before.reverse ++ here :: after))).descendants.find?
      (isNamed name) = some p := by
  induction outside generalizing before after here with
  | document =>
    have happend := find?_allDescendants_append .document [] before.reverse here after
      [] (everywhere_reverse hbefore)
    rw [List.reverse_reverse, List.append_nil, hfind] at happend
    exact happend
  | element own attributes before' after' outside ih =>
    obtain ⟨hown, hbefore', houtside⟩ := houtside
    refine ih hbefore' houtside fun tail => ?_
    have happend := find?_allDescendants_append
      (.element own attributes before' after' outside) [] before.reverse here after tail
      (everywhere_reverse hbefore)
    rw [List.reverse_reverse, List.append_nil, hfind] at happend
    rw [withDescendants, List.find?_cons_of_neg (isNamed_of_ne hown _ _ _ _ _)]
    exact happend

/-- **The first place with a name is found first.** -/
theorem find?_descendants_of_isFirst {p : Place} (h : p.IsFirst name) :
    (document p.wholeDocument).descendants.find? (isNamed name) = some p := by
  rcases p with _ | ⟨here, before, after, outside⟩
  · cases h
  · obtain ⟨hnamed, hbefore, houtside⟩ := h
    refine find?_wholeDocument hbefore houtside fun tail => ?_
    cases here with
    | element own attributes children => rw [withDescendants, List.find?_cons_of_pos hnamed]
    | string kind value => cases hnamed

mutual

theorem isFirst_of_find?_withDescendants (outside : Surroundings) (before after : List Node)
    {found : Option Place} (houtside : outside.IsOtherThan name)
    (hbefore : Everywhere (Node.IsOtherThan name) before) : ∀ (n : Node) {tail : List Place},
    (withDescendants outside before after n tail).find? (isNamed name) = found →
    (∃ p, found = some p ∧ p.IsFirst name) ∨
      n.Everywhere (Node.IsOtherThan name) ∧ tail.find? (isNamed name) = found
  | .element own attributes children, tail, h => by
    rw [withDescendants] at h
    by_cases hown : own = name
    · have hnamed : (node (.element own attributes children) before after outside).isNamed name :=
        beq_iff_eq.mpr hown
      rw [List.find?_cons_of_pos hnamed] at h
      exact Or.inl ⟨_, h.symm, hnamed, hbefore, houtside⟩
    · rw [List.find?_cons_of_neg (isNamed_of_ne hown _ _ _ _ _)] at h
      rcases isFirst_of_find?_allDescendants (.element own attributes before after outside) []
        ⟨hown, hbefore, houtside⟩ trivial children h with hfirst | ⟨hchildren, htail⟩
      · exact Or.inl hfirst
      · exact Or.inr ⟨⟨hown, hchildren⟩, htail⟩
  | .string kind value, tail, h => by
    rw [withDescendants, List.find?_cons_of_neg Bool.false_ne_true] at h
    exact Or.inr ⟨trivial, h⟩

theorem isFirst_of_find?_allDescendants (outside : Surroundings) (before : List Node)
    {found : Option Place} (houtside : outside.IsOtherThan name)
    (hbefore : Everywhere (Node.IsOtherThan name) before) : ∀ (ns : List Node) {tail : List Place},
    (allDescendants outside before ns tail).find? (isNamed name) = found →
    (∃ p, found = some p ∧ p.IsFirst name) ∨
      Everywhere (Node.IsOtherThan name) ns ∧ tail.find? (isNamed name) = found
  | [], tail, h => Or.inr ⟨trivial, h⟩
  | n :: rest, tail, h => by
    rcases isFirst_of_find?_withDescendants outside before rest houtside hbefore n h with hfirst | ⟨hn, h⟩
    · exact Or.inl hfirst
    · rcases isFirst_of_find?_allDescendants outside (n :: before) houtside ⟨hn, hbefore⟩ rest h
        with hfirst | ⟨hrest, htail⟩
      · exact Or.inl hfirst
      · exact Or.inr ⟨⟨hn, hrest⟩, htail⟩

end

/-! ## The root -/

/-- The root of a document is its first `body`, or the document if there is none. -/
theorem isFirst_root (document : List Node) :
    (root document).IsFirst "body" ∨
      root document = .document document ∧ Everywhere (Node.IsOtherThan "body") document := by
  rw [root]
  have hclear : Surroundings.document.IsOtherThan "body" := trivial
  rcases isFirst_of_find?_allDescendants .document [] hclear trivial document rfl with
    ⟨p, hp, hfirst⟩ | ⟨hnone, hfind⟩
  · left
    have hfound : (Place.document document).descendants.find? (isNamed "body") = some p := hp
    rw [hfound]
    exact hfirst
  · right
    have hfound : (Place.document document).descendants.find? (isNamed "body") = none := hfind.symm
    rw [hfound]
    exact ⟨rfl, hnone⟩

theorem root_of_isFirst {p : Place} (h : p.IsFirst "body") : root p.wholeDocument = p := by
  rw [root, find?_descendants_of_isFirst h, Option.getD_some]

theorem root_of_none {document : List Node} (h : Everywhere (Node.IsOtherThan "body") document) :
    root document = .document document := by
  have hfind := find?_allDescendants .document [] document [] h
  rw [root, descendants, inside, nodes, hfind]
  rfl

end Place

/-- A document with other nodes below the root of its conversion. -/
def withRootNodes (document ns : List Node) : List Node :=
  ((Place.root document).withNodes ns).wholeDocument

/-- **Other nodes below a root do not move it**, unless the root is the document and they bring a
`body` with them. -/
theorem root_withRootNodes {document ns : List Node}
    (h : Everywhere (Node.IsOtherThan "body") (Place.root document).nodes →
      Everywhere (Node.IsOtherThan "body") ns) :
    Place.root (withRootNodes document ns) = (Place.root document).withNodes ns := by
  rw [withRootNodes]
  rcases Place.isFirst_root document with hfirst | ⟨hroot, hnone⟩
  · refine Place.root_of_isFirst ?_
    rcases hroot : Place.root document with _ | ⟨⟨own, attributes, children⟩ | _, before, after, outside⟩
    · rw [hroot] at hfirst
      cases hfirst
    · rw [hroot] at hfirst
      exact hfirst
    · rw [hroot] at hfirst
      cases hfirst.1
  · rw [hroot] at h ⊢
    exact Place.root_of_none (h hnone)

/-! ## Both passes over white space -/

theorem Place.withNodes_withNodes (p : Place) (ns ns' : List Node) :
    (p.withNodes ns).withNodes ns' = p.withNodes ns' := by
  rw [withNodes, inside_withNodes, withNodes]

theorem collapsedRoot_eq (document : List Node) : collapsedRoot document =
    (Place.root document).withNodes
      (collapseNodes isBlockTag isPreTag (Place.root document).nodes) := by
  rw [← nodes_collapsedRoot, collapsedRoot, Place.nodes_withNodes]

theorem foldedRoot_eq (document : List Node) : foldedRoot document =
    (Place.root document).withNodes (Place.rebuildNodes (Place.root document).inside []
      (collapseNodes isBlockTag isPreTag (Place.root document).nodes)) := by
  rw [← nodes_foldedRoot, foldedRoot, collapsedRoot_eq, Place.withNodes_withNodes,
    Place.nodes_withNodes]

section Changed

variable {document ns : List Node}
  (h : Everywhere (Node.IsOtherThan "body") (Place.root document).nodes →
    Everywhere (Node.IsOtherThan "body") ns)

include h

theorem collapsedRoot_withRootNodes : collapsedRoot (withRootNodes document ns) =
    (Place.root document).withNodes (collapseNodes isBlockTag isPreTag ns) := by
  rw [collapsedRoot_eq, root_withRootNodes h, Place.nodes_withNodes, Place.withNodes_withNodes]

theorem foldedRoot_withRootNodes : foldedRoot (withRootNodes document ns) =
    (Place.root document).withNodes (Place.rebuildNodes (Place.root document).inside []
      (collapseNodes isBlockTag isPreTag ns)) := by
  rw [foldedRoot_eq, root_withRootNodes h, Place.nodes_withNodes, Place.inside_withNodes,
    Place.withNodes_withNodes]

end Changed

/-! ## The conversion of a document -/

/-- The Markdown of a document with the rules and the policy that are asked for. -/
def Options.convertDocument (o : Options) (document : List Node) : Run Text := do
  let context ← Run.ofExcept o.context
  context.convert document

/-- A text of markup is converted as the document that it is read as. -/
theorem Options.run_convert_text (o : Options) {markup : Text} {document : List Node}
    (hmarkup : markup ≠ []) (hparse : parseDocument (escapeListMarkers markup) = .ok document)
    (s : Progress) : (o.convert (.text markup)).run s = (o.convertDocument document).run s := by
  rcases markup with _ | ⟨c, markup⟩
  · exact absurd rfl hmarkup
  · rw [Options.convert, Options.convertDocument, hparse]
    · rcases o.context with err | context <;> rfl
    · exact hmarkup

end HtmlMarkdown
