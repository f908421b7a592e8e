import HtmlMarkdown.Node.LevelOrder

/-!
# A walk below a place

The walk comes to every place below its root in document order, and to an element with children once
more on the way out. The inside of an element that `skip` selects is not entered.

* `Place.isEntered`: the elements that have an inside to walk through;
* `Walk.Frame`, `Walk.next?`: the open places on a stack, and one step of the walk;
* `Walk.stackSize_lt_of_next?`: every step leaves less to do;
* `Walk.run`, `Place.walk`: all that the walk comes to.
-/

namespace HtmlMarkdown

/-- The walk enters the place: it is an element with children, and `skip` does not select it. -/
def Place.isEntered (skip : Place → Bool) (p : Place) : Bool :=
  p.isElement && !p.nodes.isEmpty && !skip p

namespace Walk

/-- An open place, and those right below it that the walk has not come to. -/
structure Frame where
  place : Place
  rest : List Place

/-- A place that the walk has just entered. -/
def enter (p : Place) : Frame := ⟨p, p.children⟩

/-- One step of the walk: the place it comes to and the open places afterwards, innermost first. The
last of them is the root, and to leave the root is the end of the walk. -/
def next? (skip : Place → Bool) : List Frame → Option (Place × List Frame)
  | [] => none
  | [⟨_, []⟩] => none
  | ⟨p, []⟩ :: outer :: stack => some (p, outer :: stack)
  | ⟨p, c :: rest⟩ :: stack =>
    some (c, if c.isEntered skip then enter c :: ⟨p, rest⟩ :: stack else ⟨p, rest⟩ :: stack)

/-- A bound on the number of steps that are left. -/
def stackSize : List Frame → Nat
  | [] => 0
  | frame :: stack => 2 * Place.totalSize frame.rest + 1 + stackSize stack

/-- **Every step leaves less to do**: a place is larger than all that lies below it. -/
theorem stackSize_lt_of_next? {skip : Place → Bool} {stack left : List Frame} {p : Place}
    (h : next? skip stack = some (p, left)) : stackSize left < stackSize stack := by
  fun_cases next? skip stack with
  | case1 => simp [next?] at h
  | case2 => simp [next?] at h
  | case3 q outer stack =>
    obtain ⟨rfl, rfl⟩ : q = p ∧ outer :: stack = left := by simpa [next?] using h
    simp only [stackSize, Place.totalSize]
    omega
  | case4 q c rest stack =>
    obtain ⟨rfl, rfl⟩ := Prod.mk.inj (Option.some.inj h)
    have hbelow : Place.totalSize c.children < c.size := by
      rw [Place.children, Place.totalSize_spread]
      exact Place.sizeList_nodes_lt c
    split
    · simp only [stackSize, enter, Place.totalSize]
      omega
    · simp only [stackSize, Place.totalSize]
      omega

/-- All that the walk comes to from a stack on. -/
def run (skip : Place → Bool) (stack : List Frame) : List Place :=
  match _h : next? skip stack with
  | none => []
  | some (p, left) => p :: run skip left
termination_by stackSize stack
decreasing_by exact stackSize_lt_of_next? _h

end Walk

/-- The walk through all that lies below a place. -/
def Place.walk (skip : Place → Bool) (root : Place) : List Place := Walk.run skip [Walk.enter root]

end HtmlMarkdown
