import Mathlib
import HtmlMarkdown.Node.LevelOrder

/-!
# What lies below a place

* `inductionOnChildren`: what holds of a place whenever it holds of its children holds everywhere;
* `eq_flatMap_children`: what is put together from nodes is put together from places;
* `descendants_eq`: the places below are the children, each before the places below it;
* `forall_mem_allDescendants_cons`: what all places below some nodes have;
* `elementsBelow`, `elementsBelow_eq`: the elements among them;
* `address_suffix`: an element's address ends in those of the elements around it;
* **`nodup_address_elementsBelow`**: no two elements below a place have the same address;
* `Everywhere`: what all nodes of a forest have.
-/

namespace HtmlMarkdown.Place

/-! ## Children -/

theorem mem_spread {outside : Surroundings} {before nodes : List Node} {c : Place}
    (h : c ∈ spread outside before nodes) :
    ∃ n earlier later, c = .node n (earlier.reverse ++ before) later outside ∧
      nodes = earlier ++ n :: later := by
  induction nodes generalizing before with
  | nil => simp [spread] at h
  | cons n rest ih =>
    rw [spread, List.mem_cons] at h
    rcases h with rfl | h
    · exact ⟨n, [], rest, rfl, rfl⟩
    · obtain ⟨m, earlier, later, rfl, rfl⟩ := ih h
      exact ⟨m, n :: earlier, later, by simp, rfl⟩

theorem size_le_of_mem {a : List Place} {c : Place} (h : c ∈ a) : c.size ≤ totalSize a := by
  induction a with
  | nil => cases h
  | cons p a ih =>
    rw [totalSize]
    rcases List.mem_cons.mp h with rfl | h
    · exact Nat.le_add_right _ _
    · exact Nat.le_trans (ih h) (Nat.le_add_left _ _)

theorem size_lt_of_mem_children {p c : Place} (h : c ∈ p.children) : c.size < p.size := by
  have h1 := size_le_of_mem h
  rw [children, totalSize_spread] at h1
  exact Nat.lt_of_le_of_lt h1 (sizeList_nodes_lt p)

/-- **What a place has whenever its children have it, every place has.** -/
theorem inductionOnChildren {motive : Place → Prop}
    (step : ∀ p, (∀ c ∈ p.children, motive c) → motive p) (p : Place) : motive p := by
  induction hn : p.size using Nat.strong_induction_on generalizing p with
  | _ n ih =>
    subst hn
    exact step p fun c hc => ih c.size (size_lt_of_mem_children hc) c rfl

/-- What is put together from nodes one after another, each seen with those before and after it, is
put together from the children of a place. -/
theorem eq_flatMap_children {α : Type} {F : (before ns : List Node) → List α} {g : Place → List α}
    (p : Place) (hnil : ∀ before, F before [] = [])
    (hcons : ∀ before n rest,
      F before (n :: rest) = g (.node n before rest p.inside) ++ F (n :: before) rest) :
    F [] p.nodes = p.children.flatMap g := by
  have key : ∀ before ns, F before ns = (spread p.inside before ns).flatMap g := by
    intro before ns
    induction ns generalizing before with
    | nil => exact hnil before
    | cons n rest ih => rw [hcons, ih, spread, List.flatMap_cons]
  exact key [] p.nodes

/-! ## Descendants -/

mutual

theorem withDescendants_tail (outside : Surroundings) (before after : List Node) :
    ∀ (n : Node) (tail : List Place), withDescendants outside before after n tail =
      node n before after outside :: (node n before after outside).descendants ++ tail
  | .element name attributes children, tail => by
    rw [withDescendants, allDescendants_tail]
    rfl
  | .string kind value, tail => rfl

theorem allDescendants_tail (outside : Surroundings) (before : List Node) :
    ∀ (ns : List Node) (tail : List Place), allDescendants outside before ns tail =
      allDescendants outside before ns [] ++ tail
  | [], tail => rfl
  | n :: rest, tail => by
    rw [allDescendants, allDescendants, withDescendants_tail, withDescendants_tail,
      allDescendants_tail outside (n :: before) rest tail]
    simp

end

theorem allDescendants_eq (outside : Surroundings) (before ns : List Node) :
    allDescendants outside before ns [] =
      (spread outside before ns).flatMap fun c => c :: c.descendants := by
  induction ns generalizing before with
  | nil => rfl
  | cons n rest ih => rw [allDescendants, withDescendants_tail, ih, spread, List.flatMap_cons]

theorem forall_mem_allDescendants_cons {P : Place → Prop} {outside : Surroundings}
    {before : List Node} {n : Node} {rest : List Node} :
    (∀ d ∈ allDescendants outside before (n :: rest) [], P d) ↔
      P (node n before rest outside) ∧ (∀ d ∈ (node n before rest outside).descendants, P d) ∧
        ∀ d ∈ allDescendants outside (n :: before) rest [], P d := by
  rw [allDescendants, withDescendants_tail, List.cons_append, List.forall_mem_cons,
    List.forall_mem_append]

theorem forall_mem_allDescendants_string {P : Place → Prop} {outside : Surroundings}
    {before : List Node} {kind : StringKind} {value : Text} {rest : List Node} :
    (∀ d ∈ allDescendants outside before (.string kind value :: rest) [], P d) ↔
      P (node (.string kind value) before rest outside) ∧
        ∀ d ∈ allDescendants outside (.string kind value :: before) rest [], P d := by
  rw [forall_mem_allDescendants_cons]
  exact and_congr_right' (and_iff_right fun d hd => absurd hd List.not_mem_nil)

/-- **The places below are the children, each before the places below it.** -/
theorem descendants_eq (p : Place) :
    p.descendants = p.children.flatMap fun c => c :: c.descendants :=
  allDescendants_eq _ _ _

theorem mem_descendants_iff {p d : Place} :
    d ∈ p.descendants ↔ ∃ c ∈ p.children, d = c ∨ d ∈ c.descendants := by
  rw [descendants_eq, List.mem_flatMap]
  simp only [List.mem_cons]

theorem descendants_of_not_isElement {p c : Place} (hc : c ∈ p.children) (h : c.isElement = false) :
    c.descendants = [] := by
  obtain ⟨n, _, _, rfl, _⟩ := mem_spread hc
  cases n with
  | element => simp [isElement, Node.isElement] at h
  | string => rfl

/-! ## Elements below -/

/-- The elements below a place, in document order. -/
def elementsBelow (p : Place) : List Place := p.descendants.filter isElement

/-- What only elements add something to is put together from the children that are elements. -/
theorem flatMap_children_eq {α : Type} {p : Place} {g : Place → List α}
    (hg : ∀ c ∈ p.children, c.isElement = false → g c = []) :
    p.children.flatMap g = p.elementChildren.flatMap g := by
  have key : ∀ cs : List Place, (∀ c ∈ cs, c ∈ p.children) →
      cs.flatMap g = (cs.filter isElement).flatMap g := by
    intro cs hcs
    induction cs with
    | nil => rfl
    | cons c cs ih =>
      rw [List.flatMap_cons, ih fun d hd => hcs d (List.mem_cons_of_mem _ hd), List.filter_cons]
      rcases h : c.isElement with _ | _
      · rw [hg c (hcs c List.mem_cons_self) h]
        rfl
      · rfl
  exact key p.children fun _ h => h

/-- **The elements below are the children that are elements, each before the elements below it.** -/
theorem elementsBelow_eq (p : Place) :
    p.elementsBelow = p.elementChildren.flatMap fun c => c :: c.elementsBelow := by
  rw [elementsBelow, descendants_eq, List.filter_flatMap, flatMap_children_eq]
  · refine List.flatMap_congr fun c hc => ?_
    rw [List.filter_cons_of_pos (List.mem_filter.mp hc).2, elementsBelow]
  · intro c hc h
    rw [descendants_of_not_isElement hc h, List.filter_cons_of_neg (by simp [h]), List.filter_nil]

theorem mem_elementsBelow {p e : Place} :
    e ∈ p.elementsBelow ↔ e ∈ p.descendants ∧ e.isElement = true := List.mem_filter

theorem mem_elementsBelow_of_mem_elementChildren {p c : Place} (h : c ∈ p.elementChildren) :
    c ∈ p.elementsBelow := by
  rw [elementsBelow_eq, List.mem_flatMap]
  exact ⟨c, h, List.mem_cons_self⟩

/-! ## Addresses -/

theorem address_of_mem_children {p c : Place} (h : c ∈ p.children) :
    ∃ i, c.address = i :: p.address := by
  obtain ⟨n, earlier, later, rfl, hn⟩ := mem_spread h
  refine ⟨elementCount (earlier.reverse ++ []), ?_⟩
  rcases p with ns | ⟨⟨⟩ | _, _, _, _⟩
  · rfl
  · rfl
  · simp [nodes, Node.children] at hn

/-- **An address ends in the addresses of the elements around.** -/
theorem address_suffix {p d : Place} (h : d ∈ p.descendants) : p.address <:+ d.address := by
  induction p using inductionOnChildren with
  | step p ih =>
    obtain ⟨c, hc, h⟩ := mem_descendants_iff.mp h
    obtain ⟨i, hi⟩ := address_of_mem_children hc
    have hp : p.address <:+ c.address := hi ▸ List.suffix_cons _ _
    rcases h with rfl | h
    · exact hp
    · exact hp.trans (ih c hc h)

theorem le_elementCount_of_mem_spread {outside : Surroundings} {before nodes : List Node}
    {c : Place} (h : c ∈ spread outside before nodes) :
    ∃ i, elementCount before ≤ i ∧ c.address = i :: outside.address := by
  obtain ⟨n, earlier, later, rfl, _⟩ := mem_spread h
  refine ⟨elementCount (earlier.reverse ++ before), ?_, rfl⟩
  rw [elementCount, elementCount, List.countP_append]
  exact Nat.le_add_left _ _

/-- Elements side by side have different addresses. -/
theorem pairwise_address_spread (outside : Surroundings) (before nodes : List Node) :
    ((spread outside before nodes).filter isElement).Pairwise fun c d => c.address ≠ d.address := by
  induction nodes generalizing before with
  | nil => exact List.Pairwise.nil
  | cons n rest ih =>
    rw [spread, List.filter_cons]
    split
    · next hn =>
      refine List.pairwise_cons.mpr ⟨fun d hd heq => ?_, ih _⟩
      obtain ⟨i, hi, hd⟩ := le_elementCount_of_mem_spread (List.mem_filter.mp hd).1
      have hn : n.isElement = true := hn
      have hlt : elementCount before < elementCount (n :: before) := by
        rw [elementCount, elementCount, List.countP_cons, if_pos hn]
        exact Nat.lt_succ_self _
      have h0 : elementCount before = i := by
        rw [hd] at heq
        exact (List.cons.inj heq).1
      omega
    · exact ih _

/-- **No two elements below a place have the same address.** -/
theorem nodup_address_elementsBelow (p : Place) : (p.elementsBelow.map address).Nodup := by
  induction p using inductionOnChildren with
  | step p ih =>
    rw [elementsBelow_eq, List.map_flatMap, List.nodup_flatMap]
    have hchild : ∀ c ∈ p.elementChildren, c ∈ p.children := fun c hc => (List.mem_filter.mp hc).1
    have hmem : ∀ c ∈ p.elementChildren, ∀ a ∈ (c :: c.elementsBelow).map address,
        c.address <:+ a := by
      intro c _ a ha
      obtain ⟨d, hd, rfl⟩ := List.mem_map.mp ha
      rcases List.mem_cons.mp hd with rfl | hd
      · exact List.suffix_refl _
      · exact address_suffix (mem_elementsBelow.mp hd).1
    refine ⟨fun c hc => ?_, ?_⟩
    · refine List.nodup_cons.mpr ⟨fun h => ?_, ih c (hchild c hc)⟩
      -- an element below `c` has an address longer than that of `c`
      obtain ⟨d, hd, heq⟩ := List.mem_map.mp h
      obtain ⟨b, hb, hdb⟩ := mem_descendants_iff.mp (mem_elementsBelow.mp hd).1
      obtain ⟨i, hi⟩ := address_of_mem_children hb
      have hbd : b.address <:+ d.address := by
        rcases hdb with rfl | hdb
        · exact List.suffix_refl _
        · exact address_suffix hdb
      have hle := hbd.length_le
      rw [heq, hi, List.length_cons] at hle
      omega
    · refine (pairwise_address_spread p.inside [] p.nodes).imp_of_mem fun {c d} hc hd hne => ?_
      intro a ha hb
      -- both addresses end `a`, and they are equally long
      obtain ⟨i, hi⟩ := address_of_mem_children (hchild c hc)
      obtain ⟨j, hj⟩ := address_of_mem_children (hchild d hd)
      refine hne ((List.suffix_of_suffix_length_le (hmem c hc a ha) (hmem d hd a hb) ?_).eq_of_length ?_)
      · rw [hi, hj, List.length_cons, List.length_cons]
      · rw [hi, hj, List.length_cons, List.length_cons]

end HtmlMarkdown.Place

namespace HtmlMarkdown

/-! ## What all nodes have -/

mutual

/-- A node has a property, and so has every node below it. -/
def Node.Everywhere (P : Node → Prop) : Node → Prop
  | .element name attributes children => P (.element name attributes children) ∧ Everywhere P children
  | .string kind value => P (.string kind value)

/-- Nodes have a property, and so has every node below them. -/
def Everywhere (P : Node → Prop) : List Node → Prop
  | [] => True
  | n :: rest => n.Everywhere P ∧ Everywhere P rest

end

variable {P : Node → Prop}

section Decidable

variable [DecidablePred P]

mutual

/-- What one node has decides what it has everywhere. -/
def Node.decideEverywhere : (n : Node) → Decidable (n.Everywhere P)
  | .element _ _ children =>
    @instDecidableAnd _ _ (inferInstanceAs (Decidable (P _))) (HtmlMarkdown.decideEverywhere children)
  | .string _ _ => inferInstanceAs (Decidable (P _))

/-- What single nodes have decides what nodes have everywhere. -/
def decideEverywhere : (ns : List Node) → Decidable (Everywhere P ns)
  | [] => inferInstanceAs (Decidable True)
  | n :: rest => @instDecidableAnd _ _ n.decideEverywhere (decideEverywhere rest)

end

instance (ns : List Node) : Decidable (Everywhere P ns) := decideEverywhere ns

end Decidable

theorem everywhere_iff_forall_mem {ns : List Node} :
    Everywhere P ns ↔ ∀ n ∈ ns, n.Everywhere P := by
  induction ns with
  | nil => simp [Everywhere]
  | cons n rest ih => rw [Everywhere, ih, List.forall_mem_cons]

theorem everywhere_append {ns ns' : List Node} :
    Everywhere P (ns ++ ns') ↔ Everywhere P ns ∧ Everywhere P ns' := by
  rw [everywhere_iff_forall_mem, everywhere_iff_forall_mem, everywhere_iff_forall_mem,
    List.forall_mem_append]

theorem everywhere_reverse {ns : List Node} (h : Everywhere P ns) : Everywhere P ns.reverse :=
  everywhere_iff_forall_mem.mpr fun n hn =>
    everywhere_iff_forall_mem.mp h n (List.mem_reverse.mp hn)

theorem Node.Everywhere.here {n : Node} (h : n.Everywhere P) : P n := by
  cases n with
  | element => exact h.1
  | string => exact h

theorem Node.Everywhere.children {n : Node} (h : n.Everywhere P) :
    HtmlMarkdown.Everywhere P n.children := by
  cases n with
  | element => exact h.2
  | string => trivial

mutual

theorem Node.Everywhere.imp {Q : Node → Prop} (himp : ∀ n, P n → Q n) :
    ∀ {n : Node}, n.Everywhere P → n.Everywhere Q
  | .element .., h => ⟨himp _ h.1, Everywhere.imp himp h.2⟩
  | .string .., h => himp _ h

theorem Everywhere.imp {Q : Node → Prop} (himp : ∀ n, P n → Q n) :
    ∀ {ns : List Node}, Everywhere P ns → Everywhere Q ns
  | [], _ => trivial
  | _ :: _, h => ⟨Node.Everywhere.imp himp h.1, Everywhere.imp himp h.2⟩

end

mutual

theorem Node.Everywhere.and {Q : Node → Prop} :
    ∀ {n : Node}, n.Everywhere P → n.Everywhere Q → n.Everywhere fun m => P m ∧ Q m
  | .element .., h, h' => ⟨⟨h.1, h'.1⟩, Everywhere.and h.2 h'.2⟩
  | .string .., h, h' => ⟨h, h'⟩

theorem Everywhere.and {Q : Node → Prop} :
    ∀ {ns : List Node}, Everywhere P ns → Everywhere Q ns → Everywhere (fun m => P m ∧ Q m) ns
  | [], _, _ => trivial
  | _ :: _, h, h' => ⟨Node.Everywhere.and h.1 h'.1, Everywhere.and h.2 h'.2⟩

end

namespace Place

/-- A child of a place is one of the nodes right below it. -/
theorem everywhere_of_mem_children {p c : Place} (h : Everywhere P p.nodes) (hc : c ∈ p.children) :
    ∃ n before after, c = .node n before after p.inside ∧ n.Everywhere P := by
  obtain ⟨n, earlier, later, rfl, hn⟩ := mem_spread hc
  rw [everywhere_iff_forall_mem] at h
  exact ⟨n, _, later, rfl, h n (by rw [hn]; simp)⟩

theorem everywhere_nodes_of_mem_children {p c : Place} (h : Everywhere P p.nodes)
    (hc : c ∈ p.children) : Everywhere P c.nodes := by
  obtain ⟨n, _, _, rfl, hn⟩ := everywhere_of_mem_children h hc
  exact hn.children

theorem everywhere_of_mem_descendants {p d : Place} (h : Everywhere P p.nodes)
    (hd : d ∈ p.descendants) :
    ∃ n before after outside, d = .node n before after outside ∧ n.Everywhere P := by
  induction p using inductionOnChildren with
  | step p ih =>
    obtain ⟨c, hc, hd⟩ := mem_descendants_iff.mp hd
    rcases hd with rfl | hd
    · obtain ⟨n, before, after, rfl, hn⟩ := everywhere_of_mem_children h hc
      exact ⟨n, before, after, _, rfl, hn⟩
    · exact ih c hc (everywhere_nodes_of_mem_children h hc) hd

end Place

end HtmlMarkdown
