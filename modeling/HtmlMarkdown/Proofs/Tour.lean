import Mathlib
import HtmlMarkdown.Proofs.Below
import HtmlMarkdown.Whitespace.Walk

/-!
# The tour of a tree

A recursion on the tree goes once around everything below a place: a string comes once, and so does
an element that has no children or is skipped; any other element comes once before the tour of its
children and once after it. The walk with a stack of open places comes to the same places in the
same order.

* `tourNode`, `tourNodes`, `Place.tour`: the recursion; `Place.tour_eq`: the same on places;
* `Walk.owed`: what a stack leaves to come to, each open place behind the tours of its rest;
* `Walk.owed_of_next?`, `Walk.run_eq_owed`: what one step does to it, and so the whole walk;
* `Walk.Produces`, `Walk.exists_produces_run`: the places that step after step comes to;
* **`Place.produces_walk_eq_tour`**.
-/

namespace HtmlMarkdown

/-! ## The recursion -/

mutual

/-- The tour of one node. -/
def tourNode (skip : Place → Bool) (outside : Surroundings) (before after : List Node) :
    Node → List Place
  | .string kind value => [.node (.string kind value) before after outside]
  | .element name attributes children =>
    let here : Place := .node (.element name attributes children) before after outside
    if children.isEmpty || skip here then [here]
    else here ::
      (tourNodes skip (.element name attributes before after outside) [] children ++ [here])

/-- The tours of nodes, one after another. -/
def tourNodes (skip : Place → Bool) (outside : Surroundings) (before : List Node) :
    List Node → List Place
  | [] => []
  | n :: rest => tourNode skip outside before rest n ++ tourNodes skip outside (n :: before) rest

end

variable {skip : Place → Bool}

namespace Place

/-- The tours of all nodes right below a place. -/
def tour (skip : Place → Bool) (p : Place) : List Place := tourNodes skip p.inside [] p.nodes

/-- The tour of a place itself. One that is entered comes before the tour of its inside and after. -/
def around (skip : Place → Bool) (p : Place) : List Place :=
  if p.isEntered skip then p :: (p.tour skip ++ [p]) else [p]

theorem isEntered_element (outside : Surroundings) (before after : List Node) (name : String)
    (attributes : Attributes) (children : List Node) :
    (node (.element name attributes children) before after outside).isEntered skip =
      !(children.isEmpty ||
        skip (node (.element name attributes children) before after outside)) := by
  rw [Bool.not_or]
  rfl

theorem around_node (outside : Surroundings) (before after : List Node) (n : Node) :
    (node n before after outside).around skip = tourNode skip outside before after n := by
  cases n with
  | string kind value => rfl
  | element name attributes children =>
    rw [around, isEntered_element, tourNode]
    cases children.isEmpty ||
      skip (node (.element name attributes children) before after outside) with
    | true => rfl
    | false => rfl

/-- **The tour below a place is made of the tours of its children.** -/
theorem tour_eq (p : Place) : p.tour skip = p.children.flatMap (around skip) :=
  eq_flatMap_children p (fun _ => rfl) fun before n rest => by rw [around_node, tourNodes]

theorem size_lt_of_mem_tour {p d : Place} (h : d ∈ p.tour skip) : d.size < p.size := by
  induction p using inductionOnChildren with
  | step p ih =>
    rw [tour_eq, List.mem_flatMap] at h
    obtain ⟨c, hc, hd⟩ := h
    have hlt := size_lt_of_mem_children hc
    rw [around] at hd
    split at hd
    · rcases List.mem_cons.mp hd with rfl | hd
      · exact hlt
      · rcases List.mem_append.mp hd with hd | hd
        · exact (ih c hc hd).trans hlt
        · rwa [List.mem_singleton.mp hd]
    · rwa [List.mem_singleton.mp hd]

end Place

/-! ## What a stack leaves to come to -/

namespace Walk

/-- What a stack leaves to come to: the tours of the rest of the innermost open place, that place on
the way out, and the same for the places around it. To the outermost one, the root, there is no way
out. -/
def owed (skip : Place → Bool) : List Frame → List Place
  | [] => []
  | [frame] => frame.rest.flatMap (Place.around skip)
  | frame :: outer :: stack =>
    frame.rest.flatMap (Place.around skip) ++ frame.place :: owed skip (outer :: stack)

theorem owed_cons (p c : Place) (rest : List Place) (stack : List Frame) :
    owed skip (⟨p, c :: rest⟩ :: stack) = c.around skip ++ owed skip (⟨p, rest⟩ :: stack) := by
  cases stack with
  | nil => rw [owed, owed, List.flatMap_cons]
  | cons outer stack => rw [owed, owed, List.flatMap_cons, List.append_assoc]

theorem owed_enter (c : Place) (frame : Frame) (stack : List Frame) :
    owed skip (enter c :: frame :: stack) = c.tour skip ++ c :: owed skip (frame :: stack) := by
  rw [owed, Place.tour_eq]
  rfl

/-- **One step takes the first place off what is owed.** -/
theorem owed_of_next? (stack : List Frame) :
    owed skip stack =
      match next? skip stack with
      | none => []
      | some (p, left) => p :: owed skip left := by
  fun_cases next? skip stack with
  | case1 => rfl
  | case2 => rfl
  | case3 => rfl
  | case4 p c rest stack =>
    change _ = c :: owed skip (if c.isEntered skip then enter c :: ⟨p, rest⟩ :: stack
      else ⟨p, rest⟩ :: stack)
    rw [owed_cons, Place.around]
    split
    · -- the rest of the child's tour, its way out included, is what its own frame owes
      rw [owed_enter, List.cons_append, List.append_assoc, List.singleton_append]
    · rw [List.singleton_append]

/-- **The walk comes to all that is owed.** -/
theorem run_eq_owed (stack : List Frame) : run skip stack = owed skip stack := by
  fun_induction run skip stack with
  | case1 stack h => rw [owed_of_next?, h]
  | case2 stack p left h ih => rw [owed_of_next?, h, ih]

end Walk

/-- The walk is the tour. -/
theorem Place.walk_eq (p : Place) : p.walk skip = p.tour skip := by
  rw [walk, Walk.run_eq_owed, Walk.owed, tour_eq]
  rfl

/-! ## Step after step -/

namespace Walk

/-- From one stack the walk comes to the given places, in that many steps, and has the other stack
then. -/
inductive Produces (skip : Place → Bool) : List Frame → List Place → List Frame → Prop
  | refl (stack : List Frame) : Produces skip stack [] stack
  | step {stack left last : List Frame} {p : Place} {places : List Place}
      (h : next? skip stack = some (p, left)) (later : Produces skip left places last) :
      Produces skip stack (p :: places) last

/-- **From every stack the walk comes to its end**, and to nothing that is not in the run. -/
theorem exists_produces_run (stack : List Frame) :
    ∃ last, Produces skip stack (run skip stack) last ∧ next? skip last = none := by
  fun_induction run skip stack with
  | case1 stack h => exact ⟨stack, .refl stack, h⟩
  | case2 stack p left h ih =>
    obtain ⟨last, hlater, hend⟩ := ih
    exact ⟨last, .step h hlater, hend⟩

end Walk

/-- **The walk is the tour of what lies below its root.** From any root, whatever it skips, it ends
after one step for each place of the tour, and has come to the places of the tour in their order; to
the root it never comes. -/
theorem Place.produces_walk_eq_tour (skip : Place → Bool) (root : Place) :
    (∃ last, Walk.Produces skip [Walk.enter root] (root.tour skip) last ∧
      Walk.next? skip last = none) ∧
    root.walk skip = root.tour skip ∧ root ∉ root.walk skip := by
  refine ⟨?_, walk_eq root, fun h => ?_⟩
  · rw [← walk_eq]
    exact Walk.exists_produces_run [Walk.enter root]
  · rw [walk_eq] at h
    exact Nat.lt_irrefl _ (size_lt_of_mem_tour h)

-- a text, an element around a text, and an element without children
example :
    ((Place.document [.string .plain ['a'], .element "b" [] [.string .plain ['c']],
      .element "i" [] []]).tour fun _ => false).map Place.path =
        [[0], [1], [1, 0], [1], [2]] := by
  decide

end HtmlMarkdown
