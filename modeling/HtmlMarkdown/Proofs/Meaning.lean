import Mathlib
import HtmlMarkdown.Fold
import HtmlMarkdown.Proofs.Below

/-!
# What a tree means in Markdown

The Markdown of an element by recursion on the tree, without a table of outputs and without an order
of steps.

* `Rule.textFor`, `Place.isElided`, `Context.convertElement`: one element with its content;
* `Context.markdownOf`, `Context.contentBelow`: the recursion;
* `contentBelow_eq`: the content of a place is the Markdown of its children, one after another;
* `markdownOf_eq`: the Markdown of an element is made of its content;
* `contentBelow_induction`: the Markdown of the children, child by child;
* `isOk_markdownOf_of_contentBelow`: a content is made only if all elements in it are.
-/

namespace HtmlMarkdown

/-! ## Lists of results -/

/-- Results are found for a list if and only if they are found one by one. -/
theorem mapM_eq_ok_iff {α β : Type} {f : α → Except Error β} {xs : List α} {ys : List β} :
    xs.mapM f = .ok ys ↔ List.Forall₂ (fun x y => f x = .ok y) xs ys := by
  induction xs generalizing ys with
  | nil =>
    rw [List.forall₂_nil_left_iff, List.mapM_nil]
    exact ⟨fun h => (Except.ok.inj h).symm, fun h => h ▸ rfl⟩
  | cons x xs ih =>
    rw [List.mapM_cons, List.forall₂_cons_left_iff]
    constructor
    · intro h
      rcases hx : f x with e | y
      · rw [hx] at h
        cases h
      · rcases hxs : xs.mapM f with e | zs
        · rw [hx, hxs] at h
          cases h
        · rw [hx, hxs] at h
          cases h
          exact ⟨y, zs, rfl, ih.mp hxs, rfl⟩
    · rintro ⟨y, zs, hx, hxs, rfl⟩
      rw [hx, ih.mpr hxs]
      rfl

theorem isOk_of_forall₂ {α β : Type} {R : α → β → Prop} {xs : List α} {ys : List β}
    (h : List.Forall₂ R xs ys) : ∀ x ∈ xs, ∃ y, R x y := by
  induction h with
  | nil => simp
  | cons h _ ih =>
    rw [List.forall_mem_cons]
    exact ⟨⟨_, h⟩, ih⟩

/-! ## One element -/

/-- The text that a rule makes of an element with its content, or why it makes none. -/
def Rule.textFor (r : Rule) (content : Text) (p : Place) : Except Error Text :=
  match r.replacement with
  | .value _ => .error (.replacementNotFunction r.label.display)
  | .function _ run =>
    match run content p with
    | .ok (.text s) => .ok s
    | .ok v => .error (.replacementNotText r.label.display v.typeName)
    | .error e => .error e

/-- A place whose content is blank is left out: neither a void one nor a link nor a cell. -/
def Place.isElided (p : Place) (content : Text) : Bool :=
  !isVoidTag p.tagName && !isAlwaysRendered p.tagName && content.isBlank

namespace Context

variable (c : Context)

/-- The Markdown of an element with its content, or why there is none. -/
def convertElement (p : Place) (content : Text) : Except Error Text :=
  if p.isElided content then .ok []
  else
    match findRule p c.rules with
    | .error e => .error e
    | .ok (some r) =>
      let f := p.flank content
      (r.textFor f.content p).map fun text => f.leading ++ text ++ f.trailing
    | .ok none =>
      match c.policy with
      | .error => .error (.unmatchedElement p.tagName)
      | .passthrough => .ok content

section

variable {c} {p : Place} {content : Text}

theorem convertElement_of_isElided (h : p.isElided content = true) :
    c.convertElement p content = .ok [] := by
  rw [convertElement, if_pos h]

theorem convertElement_of_rule {r : Rule} (h : p.isElided content = false)
    (hr : findRule p c.rules = .ok (some r)) :
    c.convertElement p content = (r.textFor (p.flank content).content p).map fun text =>
      (p.flank content).leading ++ text ++ (p.flank content).trailing := by
  rw [convertElement, if_neg (by simp [h]), hr]

theorem convertElement_of_no_rule (h : p.isElided content = false)
    (hr : findRule p c.rules = .ok none) (hpolicy : c.policy = .passthrough) :
    c.convertElement p content = .ok content := by
  rw [convertElement, if_neg (by simp [h]), hr, hpolicy]

/-- An element that is converted is left out, or kept as its content, or what a rule makes of it. -/
theorem convertElement_eq_ok {text : Text} (h : c.convertElement p content = .ok text) :
    (p.isElided content = true ∧ text = []) ∨
      (p.isElided content = false ∧ findRule p c.rules = .ok none ∧ text = content) ∨
      p.isElided content = false ∧ ∃ r middle, findRule p c.rules = .ok (some r) ∧
        r.textFor (p.flank content).content p = .ok middle ∧
        text = (p.flank content).leading ++ middle ++ (p.flank content).trailing := by
  rcases hElided : p.isElided content with _ | _
  · right
    rcases hr : findRule p c.rules with e | _ | r
    · rw [convertElement, if_neg (by simp [hElided]), hr] at h
      cases h
    · rcases hpolicy : c.policy with _ | _
      · rw [convertElement_of_no_rule hElided hr hpolicy] at h
        cases h
        exact Or.inl ⟨rfl, rfl, rfl⟩
      · rw [convertElement, if_neg (by simp [hElided]), hr, hpolicy] at h
        cases h
    · rw [convertElement_of_rule hElided hr] at h
      rcases hmiddle : r.textFor (p.flank content).content p with e | middle
      · rw [hmiddle] at h
        cases h
      · rw [hmiddle] at h
        cases h
        exact Or.inr ⟨rfl, r, middle, rfl, hmiddle, rfl⟩
  · rw [convertElement_of_isElided hElided] at h
    cases h
    exact Or.inl ⟨rfl, rfl⟩

end

/-! ## The recursion -/

mutual

/-- The Markdown of a node: that of an element is made of its content, text stands for itself, and
any other string for nothing. -/
def markdownOfNode (outside : Surroundings) (before after : List Node) : Node → Except Error Text
  | .element name attributes children =>
    match markdownOfNodes (.element name attributes before after outside) [] children with
    | .ok content =>
      c.convertElement (.node (.element name attributes children) before after outside) content
    | .error e => .error e
  | .string kind value => .ok (if kind.isText then value else [])

/-- The Markdown of nodes, one after another. -/
def markdownOfNodes (outside : Surroundings) (before : List Node) :
    List Node → Except Error Text
  | [] => .ok []
  | n :: rest =>
    match markdownOfNode outside before rest n with
    | .ok here => (markdownOfNodes outside (n :: before) rest).map (here ++ ·)
    | .error e => .error e

end

/-- An element is converted with the Markdown of its children for content. -/
theorem markdownOfNode_element {outside : Surroundings} {before after children : List Node}
    {name : String} {attributes : Attributes} {content : Text}
    (h : c.markdownOfNodes (.element name attributes before after outside) [] children =
      .ok content) :
    c.markdownOfNode outside before after (.element name attributes children) =
      c.convertElement (.node (.element name attributes children) before after outside) content := by
  rw [markdownOfNode, h]

/-- Nodes are converted if the first one is and the others are. -/
theorem markdownOfNodes_cons_eq_ok_iff {c : Context} {outside : Surroundings}
    {before rest : List Node} {n : Node} {out : Text} :
    c.markdownOfNodes outside before (n :: rest) = .ok out ↔
      ∃ here others, c.markdownOfNode outside before rest n = .ok here ∧
        c.markdownOfNodes outside (n :: before) rest = .ok others ∧ out = here ++ others := by
  rw [markdownOfNodes]
  rcases c.markdownOfNode outside before rest n with e | here
  · simp
  · rcases c.markdownOfNodes outside (n :: before) rest with e | others
    · simp [Except.map]
    · simp [Except.map, eq_comm]

theorem markdownOfNodes_singleton {c : Context} {outside : Surroundings} {before : List Node}
    {n : Node} {content : Text} (h : c.markdownOfNode outside before [] n = .ok content) :
    c.markdownOfNodes outside before [n] = .ok content := by
  rw [markdownOfNodes, h, markdownOfNodes]
  simp [Except.map]

/-- The Markdown of a single text is that text. -/
theorem markdownOfNodes_plain (c : Context) (outside : Surroundings) (before : List Node)
    (text : Text) : c.markdownOfNodes outside before [.string .plain text] = .ok text :=
  markdownOfNodes_singleton rfl

/-- Siblings whose Markdown does not depend on those before and after them. -/
theorem markdownOfNodes_map {α : Type} {c : Context} {outside : Surroundings} {f : α → Node}
    {g : α → Text}
    (h : ∀ x before after, c.markdownOfNode outside before after (f x) = .ok (g x)) (xs : List α)
    (before : List Node) : c.markdownOfNodes outside before (xs.map f) = .ok (xs.flatMap g) := by
  induction xs generalizing before with
  | nil => rfl
  | cons x xs ih =>
    rw [List.map_cons, markdownOfNodes, h, ih, List.flatMap_cons]
    rfl

/-- The Markdown of all that lies below a place. -/
def contentBelow (p : Place) : Except Error Text := c.markdownOfNodes p.inside [] p.nodes

/-- The Markdown of a place. -/
def markdownOf : Place → Except Error Text
  | .document nodes => c.markdownOfNodes .document [] nodes
  | .node here before after outside => c.markdownOfNode outside before after here

theorem markdownOfNodes_eq (outside : Surroundings) (before ns : List Node) :
    c.markdownOfNodes outside before ns =
      ((Place.spread outside before ns).mapM c.markdownOf).map List.flatten := by
  induction ns generalizing before with
  | nil => rfl
  | cons n rest ih =>
    rw [Place.spread, List.mapM_cons, markdownOfNodes, ih, markdownOf]
    rcases c.markdownOfNode outside before rest n with e | here
    · rfl
    · rcases (Place.spread outside (n :: before) rest).mapM c.markdownOf with e | others <;> rfl

/-- **The content of a place is the Markdown of its children, one after another.** -/
theorem contentBelow_eq (p : Place) :
    c.contentBelow p = (p.children.mapM c.markdownOf).map List.flatten :=
  c.markdownOfNodes_eq _ _ _

/-- The content of a place with one child is the Markdown of that child. -/
theorem contentBelow_of_nodes_eq {c : Context} {p : Place} {n : Node} (h : p.nodes = [n]) :
    c.contentBelow p = c.markdownOf (.node n [] [] p.inside) := by
  rw [contentBelow, h, markdownOfNodes, markdownOf]
  rcases c.markdownOfNode p.inside [] [] n with e | text
  · rfl
  · simp [markdownOfNodes, Except.map]

/-- **The Markdown of an element is made of its content.** -/
theorem markdownOf_eq {p : Place} (h : p.isElement = true) :
    c.markdownOf p = (c.contentBelow p).bind (c.convertElement p) := by
  rcases p with _ | ⟨⟨name, attributes, children⟩ | _, before, after, outside⟩
  · simp [Place.isElement] at h
  · rw [markdownOf, markdownOfNode, contentBelow, Place.inside, Place.nodes, Node.children]
    rcases c.markdownOfNodes _ [] children with e | content <;> rfl
  · simp [Place.isElement, Node.isElement] at h

/-- An element is converted if its content is made and converted. -/
theorem markdownOf_eq_ok_iff {p : Place} {out : Text} (h : p.isElement = true) :
    c.markdownOf p = .ok out ↔
      ∃ content, c.contentBelow p = .ok content ∧ c.convertElement p content = .ok out := by
  rw [c.markdownOf_eq h]
  rcases c.contentBelow p with e | content
  · simp [Except.bind]
  · simp [Except.bind]

theorem markdownOf_string {p d : Place} (hd : d ∈ p.children) (h : d.isElement = false) :
    c.markdownOf d = .ok (if d.isText then d.textContent else []) := by
  obtain ⟨n, _, _, rfl, _⟩ := Place.mem_spread hd
  cases n with
  | element => simp [Place.isElement, Node.isElement] at h
  | string kind value =>
    simp only [markdownOf, markdownOfNode, Place.isText, Node.isText, Place.textContent,
      Node.textContent]
    split <;> rfl

/-- What holds of no Markdown, and of some more whenever one child is converted before others, holds
of the Markdown of all children. -/
theorem contentBelow_induction {c : Context} {p : Place} {content : Text}
    {motive : List Place → Text → Prop} (h : c.contentBelow p = .ok content) (nil : motive [] [])
    (cons : ∀ d ∈ p.children, ∀ ds out rest, c.markdownOf d = .ok out → motive ds rest →
      motive (d :: ds) (out ++ rest)) : motive p.children content := by
  rw [contentBelow_eq] at h
  rcases hm : p.children.mapM c.markdownOf with e | texts
  · rw [hm] at h
    cases h
  · rw [hm] at h
    cases h
    have hall := mapM_eq_ok_iff.mp hm
    clear hm
    revert cons
    generalize p.children = ds at hall
    intro cons
    induction hall with
    | nil => exact nil
    | @cons d out ds outs hd _ ih =>
      rw [List.flatten_cons]
      exact cons d List.mem_cons_self ds out _ hd
        (ih fun d' hd' => cons d' (List.mem_cons_of_mem d hd'))

/-! ## Success -/

theorem isOk_markdownOf_of_mem_children {p d : Place} {text : Text}
    (h : c.contentBelow p = .ok text) (hd : d ∈ p.children) : ∃ t, c.markdownOf d = .ok t := by
  rw [contentBelow_eq] at h
  rcases hm : p.children.mapM c.markdownOf with e | ts
  · rw [hm] at h
    cases h
  · exact isOk_of_forall₂ (mapM_eq_ok_iff.mp hm) d hd

/-- **A content is made only if all elements in it are.** -/
theorem isOk_markdownOf_of_contentBelow {p e : Place} {text : Text}
    (h : c.contentBelow p = .ok text) (he : e ∈ p.elementsBelow) :
    ∃ t, c.markdownOf e = .ok t := by
  induction p using Place.inductionOnChildren generalizing text with
  | step p ih =>
    rw [Place.elementsBelow_eq, List.mem_flatMap] at he
    obtain ⟨d, hd, he⟩ := he
    obtain ⟨hd, hdElement⟩ := List.mem_filter.mp hd
    obtain ⟨t, ht⟩ := c.isOk_markdownOf_of_mem_children h hd
    rcases List.mem_cons.mp he with rfl | he
    · exact ⟨t, ht⟩
    · obtain ⟨content, hcontent, _⟩ := (c.markdownOf_eq_ok_iff hdElement).mp ht
      exact ih d hd hcontent he

end Context

end HtmlMarkdown
