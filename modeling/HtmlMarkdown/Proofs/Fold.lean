import Mathlib
import HtmlMarkdown.Proofs.Steps

/-!
# The fold is the recursion

* `childrenFirst_levelOrder`: the reversed level order has the children of each element before it;
* `run_fold`: a fold stores all elements and returns the content of its root, or stops;
* `Turn`, `Turn.contentBelow_eq`, `exists_turn`: the moment at which an element is converted;
* **`fold_eq_ok_iff`**: the fold returns a text if and only if the recursion does, the same one, and
  no output is ever missing.
-/

namespace HtmlMarkdown

open Place

theorem childrenFirst_levelOrder (p : Place) : ChildrenFirst p.levelOrder.reverse := by
  intro earlier e later h d hd
  have h' : p.levelOrder = later.reverse ++ e :: earlier.reverse := by
    rw [← List.reverse_reverse p.levelOrder, h]
    simp
  exact List.mem_reverse.mp (mem_later_of_levelOrder_eq h' d hd)

theorem ChildrenFirst.of_append {es more : List Place} (h : ChildrenFirst (es ++ more)) :
    ChildrenFirst es := by
  rintro earlier e later rfl
  exact h earlier e (later ++ more) (by simp)

theorem isElement_of_mem_levelOrder {p e : Place} (h : e ∈ p.levelOrder.reverse) :
    e.isElement = true :=
  (mem_elementsBelow.mp (mem_levelOrder.mp (List.mem_reverse.mp h))).2

theorem nodup_address_reverse_levelOrder (p : Place) :
    (p.levelOrder.reverse.map address).Nodup := by
  rw [List.map_reverse, List.nodup_reverse]
  exact nodup_address_levelOrder p

theorem mem_reverse_levelOrder_of_mem_elementChildren {p e : Place} (h : e ∈ p.elementChildren) :
    e ∈ p.levelOrder.reverse :=
  List.mem_reverse.mpr (mem_levelOrder.mpr (mem_elementsBelow_of_mem_elementChildren h))

namespace Context

variable {c : Context} {p : Place} {s : Progress}

variable (c p) in
/-- The events at the start of a fold. -/
def startEvents : List Event := [.converting p.levelOrder.length c.rules.length]

/-- **A fold** stores all elements below its root and returns the content of the root, or stops. -/
theorem run_fold (c : Context) (p : Place) (s : Progress) :
    (∃ text s', (c.fold p).run s = .ok text s' ∧ c.contentBelow p = .ok text ∧
        c.Done p.levelOrder.reverse (s.noting (c.startEvents p)) s') ∨
      ∃ err s', (c.fold p).run s = .error err s' ∧
        c.Stopped p.levelOrder.reverse (s.noting (c.startEvents p)) err s' := by
  have hrun : (c.fold p).run s =
      (do p.levelOrder.reverse.forM c.process; contentOf p : Run Text).run
        (s.noting (c.startEvents p)) := by
    rw [fold, startEvents, EStateM.run_bind, run_note]
  rcases run_forM_process (c := c) (childrenFirst_levelOrder p)
    (nodup_address_reverse_levelOrder p) (fun _ h => isElement_of_mem_levelOrder h)
    (s.noting (c.startEvents p)) with ⟨s', h, hdone⟩ | ⟨err, s', h, hstop⟩
  · obtain ⟨content, hbelow, hcontent⟩ := run_contentOf (p := p) fun e he =>
      hdone.stored e (mem_reverse_levelOrder_of_mem_elementChildren he)
    refine Or.inl ⟨content, s', ?_, hbelow, hdone⟩
    rw [hrun, EStateM.run_bind, h]
    exact hcontent
  · refine Or.inr ⟨err, s', ?_, hstop⟩
    rw [hrun, EStateM.run_bind, h]

/-- A fold stops only where the recursion fails. -/
theorem Stopped.contentBelow_ne_ok {err : Error} {s' : Progress}
    (h : c.Stopped p.levelOrder.reverse s err s') (text : Text) : c.contentBelow p ≠ .ok text := by
  intro hok
  obtain ⟨earlier, e, later, content, hsplit, _, hbelow, hconv, _⟩ := h
  have he : e ∈ p.levelOrder.reverse := by
    rw [hsplit]
    simp
  obtain ⟨t, ht⟩ := c.isOk_markdownOf_of_contentBelow hok
    (mem_levelOrder.mp (List.mem_reverse.mp he))
  rw [c.markdownOf_eq (isElement_of_mem_levelOrder he), hbelow, Except.bind, hconv] at ht
  cases ht

/-- A fold returns a text if and only if the recursion does, and the same one. -/
theorem exists_run_fold_iff {text : Text} :
    (∃ s', (c.fold p).run s = .ok text s') ↔ c.contentBelow p = .ok text := by
  rcases run_fold c p s with ⟨text', s', h, hbelow, _⟩ | ⟨err, s', h, hstop⟩
  · rw [h, hbelow]
    constructor
    · rintro ⟨s'', hs⟩
      cases hs
      rfl
    · intro hok
      cases hok
      exact ⟨s', rfl⟩
  · constructor
    · rintro ⟨s'', hs⟩
      rw [h] at hs
      cases hs
    · intro hok
      exact absurd hok (hstop.contentBelow_ne_ok text)

/-- The children of an element are stored when its turn comes. -/
theorem run_contentOf_of_split {done rest : List Place} {e : Place} {s' : Progress}
    (h : p.levelOrder.reverse = done ++ e :: rest)
    (hrun : (done.forM c.process).run s = .ok () s') :
    ∃ content, c.contentBelow e = .ok content ∧ (contentOf e).run s' = .ok content s' := by
  have hfirst := childrenFirst_levelOrder p
  have hnodup := nodup_address_reverse_levelOrder p
  have hmem : ∀ d ∈ done, d.isElement = true := fun d hd =>
    isElement_of_mem_levelOrder (p := p) (by rw [h]; exact List.mem_append_left _ hd)
  rw [h] at hfirst hnodup
  rw [List.map_append] at hnodup
  rcases run_forM_process (c := c) hfirst.of_append (List.Nodup.of_append_left hnodup) hmem s with
    ⟨s'', h', hdone⟩ | ⟨err, s'', h', _⟩
  · rw [hrun] at h'
    cases h'
    exact run_contentOf fun d hd => hdone.stored d (hfirst done e rest rfl d hd)
  · rw [hrun] at h'
    cases h'

variable (c p s) in
/-- In a fold the turn of an element comes: the steps before its own have succeeded, and this is its
content. -/
def Turn (e : Place) (content : Text) : Prop :=
  ∃ done rest s', p.levelOrder.reverse = done ++ e :: rest ∧
    (done.forM c.process).run s = .ok () s' ∧ (contentOf e).run s' = .ok content s'

theorem Turn.mem_elementsBelow {e : Place} {content : Text} (h : c.Turn p s e content) :
    e ∈ p.elementsBelow := by
  obtain ⟨done, rest, s', hsplit, _⟩ := h
  refine mem_levelOrder.mp (List.mem_reverse.mp ?_)
  rw [hsplit]
  simp

/-- The content of an element at its turn is that of the recursion. -/
theorem Turn.contentBelow_eq {e : Place} {content : Text} (h : c.Turn p s e content) :
    c.contentBelow e = .ok content := by
  obtain ⟨done, rest, s', hsplit, hrun, hcontent⟩ := h
  obtain ⟨content', hbelow, hcontent'⟩ := run_contentOf_of_split hsplit hrun
  rw [hcontent] at hcontent'
  cases hcontent'
  exact hbelow

/-- If a fold succeeds, the turn of every element below its root comes. -/
theorem exists_turn {e : Place} {text : Text} (h : c.contentBelow p = .ok text)
    (he : e ∈ p.elementsBelow) (s : Progress) : ∃ content, c.Turn p s e content := by
  obtain ⟨done, rest, hsplit⟩ := List.append_of_mem (List.mem_reverse.mpr (mem_levelOrder.mpr he))
  have hfirst := childrenFirst_levelOrder p
  have hnodup := nodup_address_reverse_levelOrder p
  have hmem : ∀ d ∈ done, d ∈ p.elementsBelow := fun d hd =>
    mem_levelOrder.mp (List.mem_reverse.mp (by rw [hsplit]; exact List.mem_append_left _ hd))
  rw [hsplit] at hfirst hnodup
  rw [List.map_append] at hnodup
  rcases run_forM_process (c := c) hfirst.of_append (List.Nodup.of_append_left hnodup)
    (fun d hd => (Place.mem_elementsBelow.mp (hmem d hd)).2) s with
    ⟨s', hrun, _⟩ | ⟨err, s', _, earlier, d, later, content, rfl, _, hbelow, hconv, _⟩
  · obtain ⟨content, _, hcontent⟩ := run_contentOf_of_split hsplit hrun
    exact ⟨content, done, rest, s', hsplit, hrun, hcontent⟩
  · have hd : d ∈ p.elementsBelow := hmem d (by simp)
    obtain ⟨t, ht⟩ := c.isOk_markdownOf_of_contentBelow h hd
    rw [c.markdownOf_eq (Place.mem_elementsBelow.mp hd).2, hbelow, Except.bind, hconv] at ht
    cases ht

/-- **The fold is the recursion.** It returns a text if and only if the recursion does, and the same
one. Then every element below the root has its own Markdown as its output, and nothing else has
changed in the table. The content of an element is there when its turn comes, that of the root at
the end; and the turns are one for each element below the root, all with different addresses. -/
theorem fold_eq_ok_iff (c : Context) (p : Place) (s : Progress) :
    (∀ text, (∃ s', (c.fold p).run s = .ok text s') ↔ c.contentBelow p = .ok text) ∧
    (∀ text s', (c.fold p).run s = .ok text s' →
      (∀ e ∈ p.elementsBelow, ∃ t, c.markdownOf e = .ok t ∧ s'.outputs.get? e.address = some t) ∧
      ∀ a, (∀ e ∈ p.elementsBelow, e.address ≠ a) → s'.outputs.get? a = s.outputs.get? a) ∧
    (∀ done e rest s', p.levelOrder.reverse = done ++ e :: rest →
      (done.forM c.process).run s = .ok () s' →
      ∃ content, (contentOf e).run s' = .ok content s') ∧
    (∀ s', (p.levelOrder.reverse.forM c.process).run s = .ok () s' →
      ∃ content, (contentOf p).run s' = .ok content s') ∧
    p.levelOrder.Perm p.elementsBelow ∧ (p.levelOrder.map address).Nodup := by
  refine ⟨fun text => exists_run_fold_iff, fun text s' h => ?_, fun done e rest s' h hrun => ?_,
    fun s' hrun => ?_, perm_levelOrder p, nodup_address_levelOrder p⟩
  · rcases run_fold c p s with ⟨text', s'', h', _, hdone⟩ | ⟨err, s'', h', _⟩
    · rw [h] at h'
      cases h'
      refine ⟨fun e he => hdone.stored e ?_, fun a ha => hdone.others a ?_⟩
      · exact List.mem_reverse.mpr (mem_levelOrder.mpr he)
      · intro hmem
        obtain ⟨e, he, rfl⟩ := List.mem_map.mp hmem
        exact ha e (mem_levelOrder.mp (List.mem_reverse.mp he)) rfl
    · rw [h] at h'
      cases h'
  · obtain ⟨content, _, hcontent⟩ := run_contentOf_of_split h hrun
    exact ⟨content, hcontent⟩
  · rcases run_forM_process (c := c) (childrenFirst_levelOrder p)
      (nodup_address_reverse_levelOrder p) (fun _ h => isElement_of_mem_levelOrder h) s with
      ⟨s'', h, hdone⟩ | ⟨err, s'', h, _⟩
    · rw [hrun] at h
      cases h
      obtain ⟨content, _, hcontent⟩ := run_contentOf (p := p) fun e he =>
        hdone.stored e (mem_reverse_levelOrder_of_mem_elementChildren he)
      exact ⟨content, hcontent⟩
    · rw [hrun] at h
      cases h

end Context

end HtmlMarkdown
