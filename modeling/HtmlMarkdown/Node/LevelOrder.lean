import HtmlMarkdown.Node.Place

/-!
# Level order

The elements below a place, the nearest levels first.

* `Place.drain`: takes places from the front of a queue and puts their element children at its back;
* `Place.levelOrder`: all elements below a place, without the place itself.
-/

namespace HtmlMarkdown.Place

/-- The number of nodes from a place on. -/
def size : Place → Nat
  | document nodes => Node.sizeList nodes + 1
  | node here .. => here.size

/-- The number of nodes from the given places on. -/
def totalSize : List Place → Nat
  | [] => 0
  | p :: places => p.size + totalSize places

theorem totalSize_append (a b : List Place) : totalSize (a ++ b) = totalSize a + totalSize b := by
  induction a with
  | nil => simp [totalSize]
  | cons p a ih => simp [totalSize, ih, Nat.add_assoc]

theorem totalSize_reverse (a : List Place) : totalSize a.reverse = totalSize a := by
  induction a with
  | nil => rfl
  | cons p a ih => simp [totalSize, totalSize_append, ih, Nat.add_comm]

theorem totalSize_filter_le (p : Place → Bool) (a : List Place) :
    totalSize (a.filter p) ≤ totalSize a := by
  induction a with
  | nil => simp
  | cons x a ih =>
    rw [List.filter_cons]
    split <;> simp only [totalSize] <;> omega

theorem totalSize_spread (outside : Surroundings) (before nodes : List Node) :
    totalSize (spread outside before nodes) = Node.sizeList nodes := by
  induction nodes generalizing before with
  | nil => rfl
  | cons n rest ih => rw [spread, totalSize, ih, size, Node.sizeList]

theorem sizeList_nodes_lt (p : Place) : Node.sizeList p.nodes < p.size := by
  cases p with
  | document ns => simp [Place.nodes, size]
  | node here => cases here <;> simp [Place.nodes, Node.children, size, Node.size, Node.sizeList]

theorem totalSize_elementChildren_lt (p : Place) : totalSize p.elementChildren < p.size :=
  Nat.lt_of_le_of_lt
    (Nat.le_trans (totalSize_filter_le _ _) (Nat.le_of_eq (totalSize_spread _ _ _)))
    (sizeList_nodes_lt p)

/-- The places of a queue and the elements below them, level by level. The queue is `front` and then
`back`, whose last place comes first. -/
def drain : (front back : List Place) → List Place
  | [], [] => []
  | [], last :: back => drain (last :: back).reverse []
  | p :: front, back => p :: drain front (p.elementChildren.reverse ++ back)
termination_by front back => (totalSize front + totalSize back, back.length)
decreasing_by
  · rw [totalSize_reverse]
    simp only [totalSize, Nat.zero_add, Nat.add_zero, List.length_nil, List.length_cons]
    exact Prod.Lex.right _ (Nat.succ_pos _)
  · apply Prod.Lex.left
    rw [totalSize_append, totalSize_reverse]
    have := totalSize_elementChildren_lt p
    simp only [totalSize] at this ⊢
    omega

/-- The elements below a place, level by level and in document order within a level. -/
def levelOrder (p : Place) : List Place := (drain [p] []).tail

end HtmlMarkdown.Place
