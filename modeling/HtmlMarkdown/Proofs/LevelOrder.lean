import Mathlib
import HtmlMarkdown.Proofs.Below

/-!
# Level order

* `drain_eq`, `drain_cons`: the queue in two parts is one queue; `inductionOnQueue`;
* `perm_drain`, **`perm_levelOrder`**: every element below a place comes once, and nothing else;
* `nodup_address_levelOrder`: no address comes twice;
* **`mem_later_of_levelOrder_eq`**: the children of an element come after it.
-/

namespace HtmlMarkdown.Place

/-! ## One queue -/

theorem drain_eq (front back : List Place) : drain front back = drain (front ++ back.reverse) [] := by
  induction hn : totalSize front + totalSize back using Nat.strong_induction_on
    generalizing front back with
  | _ n ih =>
    subst hn
    rcases front with _ | ⟨p, front⟩
    · rcases back with _ | ⟨last, back⟩
      · rfl
      · rw [drain]
        rfl
    · have hlt := totalSize_elementChildren_lt p
      rw [drain, List.cons_append, drain,
        ih _ ?_ front (p.elementChildren.reverse ++ back) rfl,
        ih _ ?_ (front ++ back.reverse) (p.elementChildren.reverse ++ []) rfl]
      · simp
      · simp only [totalSize, totalSize_append, totalSize_reverse]
        omega
      · simp only [totalSize, totalSize_append, totalSize_reverse]
        omega

theorem drain_nil : drain [] [] = [] := by rw [drain]

theorem drain_cons (p : Place) (queue : List Place) :
    drain (p :: queue) [] = p :: drain (queue ++ p.elementChildren) [] := by
  rw [drain, drain_eq]
  simp

/-- **Induction along the queue**: a place gives way to its element children at the back. -/
theorem inductionOnQueue {motive : List Place → Prop} (nil : motive [])
    (cons : ∀ p queue, motive (queue ++ p.elementChildren) → motive (p :: queue))
    (queue : List Place) : motive queue := by
  induction hn : totalSize queue using Nat.strong_induction_on generalizing queue with
  | _ n ih =>
    subst hn
    rcases queue with _ | ⟨p, queue⟩
    · exact nil
    · refine cons p queue (ih _ ?_ _ rfl)
      have := totalSize_elementChildren_lt p
      rw [totalSize_append, totalSize]
      omega

/-! ## What the queue holds -/

theorem perm_drain (queue : List Place) :
    (drain queue []).Perm (queue.flatMap fun p => p :: p.elementsBelow) := by
  induction queue using inductionOnQueue with
  | nil =>
    rw [drain_nil]
    exact List.Perm.refl _
  | cons p queue ih =>
    rw [drain_cons, List.flatMap_cons, List.cons_append]
    refine List.Perm.cons p (ih.trans ?_)
    rw [List.flatMap_append, ← elementsBelow_eq]
    exact List.perm_append_comm

theorem mem_drain_of_mem {queue : List Place} {p : Place} (h : p ∈ queue) : p ∈ drain queue [] :=
  (perm_drain queue).mem_iff.mpr (List.mem_flatMap.mpr ⟨p, h, List.mem_cons_self⟩)

/-- **In the queue's order the element children of a place come after it.** -/
theorem mem_later_of_drain_eq {queue earlier later : List Place} {e : Place}
    (h : drain queue [] = earlier ++ e :: later) : ∀ c ∈ e.elementChildren, c ∈ later := by
  induction queue using inductionOnQueue generalizing earlier with
  | nil =>
    rw [drain_nil] at h
    simp at h
  | cons p queue ih =>
    rw [drain_cons] at h
    rcases earlier with _ | ⟨x, earlier⟩
    · obtain ⟨rfl, rfl⟩ := List.cons.inj h
      intro c hc
      exact mem_drain_of_mem (List.mem_append_right _ hc)
    · exact ih (List.cons.inj h).2

/-! ## Level order -/

theorem levelOrder_eq (p : Place) : p.levelOrder = drain p.elementChildren [] := by
  rw [levelOrder, drain_cons]
  rfl

/-- **Level order has every element below a place once.** -/
theorem perm_levelOrder (p : Place) : p.levelOrder.Perm p.elementsBelow := by
  rw [levelOrder_eq, elementsBelow_eq]
  exact perm_drain _

theorem mem_levelOrder {p e : Place} : e ∈ p.levelOrder ↔ e ∈ p.elementsBelow :=
  (perm_levelOrder p).mem_iff

/-- **No address comes twice in level order.** -/
theorem nodup_address_levelOrder (p : Place) : (p.levelOrder.map address).Nodup :=
  ((perm_levelOrder p).map address).nodup_iff.mpr (nodup_address_elementsBelow p)

/-- **In level order the children of an element come after it.** -/
theorem mem_later_of_levelOrder_eq {p e : Place} {earlier later : List Place}
    (h : p.levelOrder = earlier ++ e :: later) : ∀ c ∈ e.elementChildren, c ∈ later :=
  mem_later_of_drain_eq ((levelOrder_eq p).symm.trans h)

end HtmlMarkdown.Place
