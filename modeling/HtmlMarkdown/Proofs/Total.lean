import Mathlib
import HtmlMarkdown.Proofs.BuiltIn

/-!
# The built-in rules never fail

Two rules read an attribute in lower case, which one that holds several words has not. Apart from
that, every element can be converted.

* `Node.HasOneText`, `Node.IsConvertible`: attributes that the rules can read;
* `exists_findRule`: looking for a rule never fails;
* `exists_of_builtIn`: no rule fails;
* **`exists_contentBelow`**: there is Markdown for all that lies below a place.
-/

namespace HtmlMarkdown

/-! ## Attributes that can be read -/

/-- An attribute of a node is one text, if it is there. -/
def Node.HasOneText (key : String) (n : Node) : Prop :=
  (n.attribute? key).all (fun v => v.text?.isSome) = true

/-- The rules can read the attributes that they ask for in lower case: the type of an input, and the
alignment of what stands in a row of a table. -/
def Node.IsConvertible (n : Node) : Prop :=
  (n.tagName = "input" → n.HasOneText "type") ∧
    (n.tagName = "tr" → ∀ m ∈ n.children, m.HasOneText "align")

instance : DecidablePred Node.IsConvertible := fun n =>
  inferInstanceAs (Decidable
    ((n.tagName = "input" → (n.attribute? "type").all (fun v => v.text?.isSome) = true) ∧
      (n.tagName = "tr" →
        ∀ m ∈ n.children, (m.attribute? "align").all (fun v => v.text?.isSome) = true)))

theorem exists_lowerAttribute {key : String} {n : Node} (h : n.HasOneText key)
    (before after : List Node) (outside : Surroundings) :
    ∃ text, (Place.node n before after outside).lowerAttribute key = .ok text := by
  rw [Place.lowerAttribute, Place.filledAttribute?, Node.filledAttribute?]
  rw [Node.HasOneText] at h
  rcases hvalue : n.attribute? key with _ | v
  · exact ⟨_, rfl⟩
  · rw [hvalue] at h
    rw [Option.filter_some]
    by_cases hv : (!v.isEmpty) = true
    · rw [if_pos hv]
      cases v with
      | words ws => cases h
      | _ => exact ⟨_, rfl⟩
    · rw [if_neg hv]
      exact ⟨_, rfl⟩

theorem exists_isTaskCheckbox {n : Node} (h : n.IsConvertible) (before after : List Node)
    (outside : Surroundings) :
    ∃ b, (Place.node n before after outside).isTaskCheckbox = .ok b := by
  rw [Place.isTaskCheckbox]
  split
  · next hinput =>
    obtain ⟨text, htext⟩ := exists_lowerAttribute (h.1 hinput) before after outside
    rw [htext]
    exact ⟨_, rfl⟩
  · exact ⟨_, rfl⟩

/-! ## Looking for a rule -/

theorem exists_findRule_of {p : Place} {rules : List Rule}
    (h : ∀ r ∈ rules, (∃ b, r.filter.holds p = .ok b) ∧ r.checkReplacement = .ok ()) :
    ∃ found, findRule p rules = .ok found := by
  induction rules with
  | nil => exact ⟨none, rfl⟩
  | cons r rules ih =>
    obtain ⟨⟨b, hb⟩, hcheck⟩ := h r List.mem_cons_self
    rw [findRule, hb]
    cases b
    · exact ih fun q hq => h q (List.mem_cons_of_mem _ hq)
    · refine ⟨some r, ?_⟩
      simp only [bind, Except.bind, if_true, hcheck]
      rfl

/-- **Looking for a built-in rule never fails.** -/
theorem exists_findRule {n : Node} (h : n.IsConvertible) (before after : List Node)
    (outside : Surroundings) (gfm : Bool) :
    ∃ found, findRule (.node n before after outside) (builtInRules gfm) = .ok found := by
  apply exists_findRule_of
  intro r hr
  rcases List.mem_append.mp hr with hr | hr
  · cases gfm
    · cases hr
    · simp only [if_true, gfmRules, List.mem_cons, List.not_mem_nil, or_false] at hr
      rcases hr with rfl | rfl | rfl | rfl | rfl | rfl | rfl | rfl | rfl | rfl
      case inr.inr.inl => exact ⟨exists_isTaskCheckbox h before after outside, rfl⟩
      all_goals exact ⟨⟨_, rfl⟩, rfl⟩
  · simp only [markdownRules, List.mem_cons, List.not_mem_nil, or_false] at hr
    rcases hr with rfl | rfl | rfl | rfl | rfl | rfl | rfl | rfl | rfl | rfl | rfl | rfl | rfl |
      rfl | rfl
    all_goals exact ⟨⟨_, rfl⟩, rfl⟩

/-! ## Results -/

theorem exists_mapM {α β : Type} {f : α → Except Error β} {xs : List α}
    (h : ∀ x ∈ xs, ∃ y, f x = .ok y) : ∃ ys, xs.mapM f = .ok ys := by
  induction xs with
  | nil => exact ⟨[], rfl⟩
  | cons x xs ih =>
    obtain ⟨y, hy⟩ := h x List.mem_cons_self
    obtain ⟨ys, hys⟩ := ih fun z hz => h z (List.mem_cons_of_mem _ hz)
    rw [List.mapM_cons, hy, hys]
    exact ⟨y :: ys, rfl⟩

section Elements

variable {name : String} {attributes : Attributes} {children before after : List Node}
  {outside : Surroundings}

theorem exists_borders
    (h : (Node.element name attributes children).tagName = "tr" →
      ∀ m ∈ children, m.HasOneText "align") :
    (Node.element name attributes children).tagName = "tr" →
    ∃ text, Gfm.borders (.node (.element name attributes children) before after outside) =
      .ok text := by
  intro htr
  rw [Gfm.borders]
  split
  · have hborder : ∀ c ∈ (Place.node (.element name attributes children) before after
        outside).elementChildren, ∃ text, Gfm.border c = .ok text := by
      intro c hc
      obtain ⟨m, earlier, later, rfl, hm⟩ := Place.mem_spread (List.mem_filter.mp hc).1
      obtain ⟨align, halign⟩ := exists_lowerAttribute
        (h htr m (by
          rw [Place.nodes, Node.children] at hm
          rw [hm]
          simp)) (earlier.reverse ++ []) later _
      rw [Gfm.border, halign]
      exact ⟨_, rfl⟩
    obtain ⟨texts, htexts⟩ := exists_mapM hborder
    refine ⟨texts.flatten, ?_⟩
    simp only [bind, Except.bind, Place.requirePart, htexts]
    rfl
  · exact ⟨[], rfl⟩

/-- **No built-in rule fails.** -/
theorem exists_of_builtIn {content : Text} {result : Except Error Text}
    (h : BuiltIn (.node (.element name attributes children) before after outside) content result)
    (hn : (Node.element name attributes children).IsConvertible) :
    ∃ text, result = .ok text := by
  cases h with
  | listItem =>
    rw [Markdown.listItem, Markdown.itemMarker]
    split <;> exact ⟨_, rfl⟩
  | cell => exact ⟨_, rfl⟩
  | tableRow htr =>
    obtain ⟨below, hbelow⟩ : ∃ text, Gfm.borders
        (.node (.element name attributes children) before after outside) = .ok text :=
      exists_borders hn.2 htr
    rw [Gfm.tableRow, hbelow]
    exact ⟨_, rfl⟩
  | _ => exact ⟨_, rfl⟩

/-- **Every element is converted**, whatever its content. -/
theorem exists_convertElement (hn : (Node.element name attributes children).IsConvertible)
    (gfm : Bool) (content : Text) :
    ∃ text, (Context.builtIn gfm .passthrough).convertElement
      (.node (.element name attributes children) before after outside) content = .ok text := by
  rcases hElided : (Place.node (.element name attributes children) before after outside).isElided
    content with _ | _
  · obtain ⟨found, hfound⟩ := exists_findRule hn before after outside gfm
    rcases found with _ | r
    · exact ⟨content, Context.convertElement_of_no_rule hElided hfound rfl⟩
    · obtain ⟨hmem, hholds⟩ := mem_of_findRule hfound
      obtain ⟨text, htext⟩ := exists_of_builtIn (builtIn_of_holds rfl hmem hholds _) hn
      exact ⟨_, by rw [Context.convertElement_of_rule hElided hfound, htext]; rfl⟩
  · exact ⟨[], Context.convertElement_of_isElided hElided⟩

end Elements

/-- **There is Markdown for all that lies below a place.** -/
theorem exists_contentBelow {p : Place} (h : Everywhere Node.IsConvertible p.nodes) (gfm : Bool) :
    ∃ content, (Context.builtIn gfm .passthrough).contentBelow p = .ok content := by
  induction p using Place.inductionOnChildren with
  | step p ih =>
    have hchildren : ∀ d ∈ p.children,
        ∃ text, (Context.builtIn gfm .passthrough).markdownOf d = .ok text := by
      intro d hd
      obtain ⟨n, before, after, rfl, hn⟩ := Place.everywhere_of_mem_children h hd
      cases n with
      | element name attributes children =>
        obtain ⟨content, hcontent⟩ := ih _ hd hn.children
        rw [Context.markdownOf_eq _ rfl, hcontent]
        exact exists_convertElement hn.here gfm content
      | string kind value => exact ⟨_, rfl⟩
    obtain ⟨texts, htexts⟩ := exists_mapM hchildren
    rw [Context.contentBelow_eq, htexts]
    exact ⟨_, rfl⟩

end HtmlMarkdown
