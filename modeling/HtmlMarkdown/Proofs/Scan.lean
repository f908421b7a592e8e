import Mathlib
import HtmlMarkdown.Proofs.Tour
import HtmlMarkdown.Whitespace.Collapse

/-!
# The pass over a forest

The walk meets an element with children twice and an element without any once. For the pass that
settles texts this makes no difference: to meet an element twice in a row is to meet it once.

* `Scan.throughNode`, `Scan.through`: what the pass knows after some nodes, by recursion on them;
* `Scan.through_string`, `Scan.through_element`: its rules;
* `Scan.meetElement_meetElement`;
* **`Scan.foldl_tourNodes`**, `Scan.foldl_walk`: the pass along the tour of nodes, and so along the
  walk, is the recursion on them;
* `settledTexts_eq_through`: the settled texts are those at the end of the last line.
-/

namespace HtmlMarkdown

namespace Scan

variable {block pre : String → Bool}

section Recursion

variable (block pre)

mutual

/-- What the pass knows after a node. It meets an element on the way in and on the way out; the
inside of a preformatted one is skipped. -/
def throughNode : Node → Scan → Scan
  | .element name _ children, s =>
    if pre (lowerName name) then s.meetElement block pre (lowerName name)
    else
      (through children (s.meetElement block pre (lowerName name))).meetElement block pre
        (lowerName name)
  | .string kind value, s => if kind.isText then s.meetText value else s

/-- What the pass knows after some nodes. -/
def through : List Node → Scan → Scan
  | [], s => s
  | n :: rest, s => through rest (throughNode n s)

end

end Recursion

@[simp] theorem through_nil (s : Scan) : through block pre [] s = s := rfl

theorem through_string (kind : StringKind) (value : Text) (rest : List Node) (s : Scan) :
    through block pre (.string kind value :: rest) s =
      through block pre rest (if kind.isText then s.meetText value else s) := rfl

/-- **The pass over an element** goes over its children between the way in and the way out, unless
they are skipped. -/
theorem through_element (name : String) (attributes : Attributes) (children rest : List Node)
    (s : Scan) : through block pre (.element name attributes children :: rest) s =
      through block pre rest
        (if pre (lowerName name) then s.meetElement block pre (lowerName name)
          else
            (through block pre children (s.meetElement block pre (lowerName name))).meetElement
              block pre (lowerName name)) := rfl

theorem endLine_of_not_isOpen {s : Scan} (hopen : s.isOpen = false) :
    s.endLine = { s with isOpen := false, keepsLeading := false } := by
  rw [endLine, hopen, if_neg Bool.false_ne_true]

/-- To meet an element twice in a row is to meet it once. -/
theorem meetElement_meetElement (s : Scan) (tag : String) :
    (s.meetElement block pre tag).meetElement block pre tag = s.meetElement block pre tag := by
  rw [meetElement.eq_def s]
  split
  · next hend =>
    rw [meetElement, if_pos hend, endLine_of_not_isOpen rfl]
    rfl
  · next hend =>
    split
    · next hvoid => rw [meetElement, if_neg hend, if_pos hvoid]
    · next hvoid =>
      by_cases hopen : s.isOpen = true
      · simp [meetElement, hend, hvoid, hopen]
      · simp [meetElement, hend, hvoid, hopen]

/-! ## The pass along the tour -/

mutual

theorem foldl_tourNode (outside : Surroundings) (before after : List Node) :
    ∀ (n : Node) (s : Scan),
      (tourNode (isSkipped pre) outside before after n).foldl (step block pre) s =
        throughNode block pre n s
  | .string kind value, s => rfl
  | .element name attributes children, s => by
    have hskip : isSkipped pre (.node (.element name attributes children) before after outside) =
        pre (lowerName name) := rfl
    have hstep : ∀ t : Scan,
        step block pre t (.node (.element name attributes children) before after outside) =
          t.meetElement block pre (lowerName name) := fun _ => rfl
    rw [tourNode, throughNode, hskip]
    by_cases hpre : pre (lowerName name) = true
    · simp [hpre, hstep]
    · rcases children with _ | ⟨c, cs⟩
      · -- an element without children comes once in the tour
        simp [hpre, hstep, meetElement_meetElement]
      · simp [hpre, hstep, foldl_tourNodes _ [] (c :: cs)]

/-- **The pass along the tour of nodes is the recursion on the nodes.** -/
theorem foldl_tourNodes (outside : Surroundings) (before : List Node) :
    ∀ (ns : List Node) (s : Scan),
      (tourNodes (isSkipped pre) outside before ns).foldl (step block pre) s =
        through block pre ns s
  | [], s => rfl
  | n :: rest, s => by
    rw [tourNodes, List.foldl_append, foldl_tourNode _ _ _ n, foldl_tourNodes _ _ rest, through]

end

/-- The pass along a walk depends on the nodes below its root only. -/
theorem foldl_walk (p : Place) (s : Scan) :
    (p.walk (isSkipped pre)).foldl (step block pre) s = through block pre p.nodes s := by
  rw [Place.walk_eq, Place.tour, foldl_tourNodes]

end Scan

/-- The settled texts are those that the pass has at the end of the last line. -/
theorem settledTexts_eq_through (block pre : String → Bool) (ns : List Node) :
    settledTexts block pre ns = (Scan.through block pre ns {}).endLine.texts.reverse := by
  rw [settledTexts, Scan.foldl_walk]
  rfl

end HtmlMarkdown
