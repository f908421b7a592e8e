import Mathlib
import HtmlMarkdown.Fold
import HtmlMarkdown.Proofs.Ink
import HtmlMarkdown.Proofs.Spacing

/-!
# Sides of a content

What stands at the left and at the right of a content, before and after its spacing is moved
outside.

* `Side.edge?`, `Side.join`, `Side.InkText`: the outermost characters of a text;
* `Place.flankLeft_eq`, `Place.flankRight_eq`: what moving the spacing of one side does;
* **`Place.flank_of_inkText`**: nothing is moved at a side where there is ink;
* **`isHugged_flank`**: no spacing is left where no sibling has a space.
-/

namespace HtmlMarkdown

/-! ## Sides of a list -/

namespace Side

variable {α : Type}

/-- The outermost element at a side of a list. -/
def edge? : Side → List α → Option α
  | left, xs => xs.head?
  | right, xs => xs.getLast?

/-- The list that has `near` at the side and `far` behind it. -/
def join : Side → (near far : List α) → List α
  | left, near, far => near ++ far
  | right, near, far => far ++ near

theorem edge?_join (side : Side) (near far : List α) :
    side.edge? (side.join near far) = (side.edge? near).or (side.edge? far) := by
  cases side
  · exact List.head?_append
  · exact List.getLast?_append

theorem edge?_eq_none_iff {side : Side} {xs : List α} : side.edge? xs = none ↔ xs = [] := by
  cases side
  · exact List.head?_eq_none_iff
  · exact List.getLast?_eq_none_iff

theorem edge?_nil (side : Side) : side.edge? ([] : List α) = none := edge?_eq_none_iff.mpr rfl

theorem mem_of_mem_edge? {side : Side} {xs : List α} {x : α} (h : x ∈ side.edge? xs) : x ∈ xs := by
  cases side
  · exact List.mem_of_mem_head? h
  · exact List.mem_of_mem_getLast? h

theorem join_eq_nil_iff {side : Side} {near far : List α} :
    side.join near far = [] ↔ near = [] ∧ far = [] := by
  cases side
  · exact List.append_eq_nil_iff
  · exact List.append_eq_nil_iff.trans and_comm

/-- A text has no white space at a side. -/
def InkText (side : Side) (t : Text) : Prop := ∀ c ∈ side.edge? t, isBlank c = false

theorem inkText_nil (side : Side) : side.InkText [] := by
  intro c hc
  rw [edge?_nil] at hc
  cases hc

theorem inkText_join {side : Side} {near far : Text} (hnear : side.InkText near)
    (hfar : near = [] → side.InkText far) : side.InkText (side.join near far) := by
  intro c hc
  rw [edge?_join] at hc
  rcases h : side.edge? near with _ | d
  · rw [h, Option.none_or] at hc
    exact hfar (edge?_eq_none_iff.mp h) c hc
  · rw [h, Option.some_or] at hc
    exact hnear c (h ▸ hc)

/-- A text that begins with ink does so whatever comes after it. -/
theorem inkText_left_append {t : Text} (h : Side.left.InkText t) (hne : t ≠ []) (s : Text) :
    Side.left.InkText (t ++ s) :=
  inkText_join h fun hnil => absurd hnil hne

/-- A text that ends with ink does so whatever comes before it. -/
theorem inkText_right_append {t : Text} (h : Side.right.InkText t) (hne : t ≠ []) (s : Text) :
    Side.right.InkText (s ++ t) :=
  inkText_join h fun hnil => absurd hnil hne

theorem InkText.eq_nil_of_isBlank {side : Side} {t : Text} (h : side.InkText t)
    (hblank : t.isBlank = true) : t = [] := by
  apply (edge?_eq_none_iff : side.edge? t = none ↔ t = []).mp
  rcases hedge : side.edge? t with _ | c
  · rfl
  · rw [Text.isBlank, List.all_eq_true] at hblank
    have hc := hblank c (mem_of_mem_edge? hedge)
    rw [h c hedge] at hc
    cases hc

end Side

/-- A text has no spacing at its ends. -/
def Text.IsHugged (t : Text) : Prop := ∀ side : Side, ∀ c ∈ side.edge? t, isSpacing c = false

theorem isSpacing_of_not_isBlank {c : Char} (h : isBlank c = false) : isSpacing c = false := by
  by_contra hc
  rw [Bool.not_eq_false] at hc
  rw [isBlank_of_isSpacing c hc] at h
  cases h

/-! ## Spacing moved outside -/

namespace Place

variable {p : Place} {content : Text}

theorem flank_of_not_isBlock (h : p.isBlock = false) (content : Text) :
    p.flank content = p.flankRight (p.flankLeft content) := by
  rw [flank, if_neg (by simp [h])]

theorem flankLeft_eq (p : Place) (content : Text) : p.flankLeft content = { content } ∨
    p.flankLeft content = { leading := [' '], content := Text.trimStart isSpacing content } := by
  rw [flankLeft]
  split
  · exact Or.inr rfl
  · exact Or.inl rfl

theorem flankRight_eq (p : Place) (f : Flanked) : p.flankRight f = f ∨ p.flankRight f =
    { f with trailing := [' '], content := Text.trimEnd isSpacing f.content } := by
  rw [flankRight]
  split
  · exact Or.inr rfl
  · exact Or.inl rfl

/-- A content that begins with ink keeps its left side. -/
theorem flankLeft_of_inkText (h : Side.left.InkText content) :
    p.flankLeft content = { content } := by
  rw [flankLeft, if_neg]
  intro hcond
  rw [Bool.and_eq_true] at hcond
  rcases hhead : content.head? with _ | c
  · rw [hhead] at hcond
    exact absurd hcond.1 (by decide)
  · rw [hhead] at hcond
    have hspacing : isSpacing c = true := hcond.1
    rw [isSpacing_of_not_isBlank (h c hhead)] at hspacing
    cases hspacing

/-- A content that ends with ink keeps its right side. -/
theorem flankRight_of_inkText {f : Flanked} (h : Side.right.InkText f.content) :
    p.flankRight f = f := by
  rw [flankRight, if_neg]
  intro hcond
  rw [Bool.and_eq_true] at hcond
  rcases hlast : f.content.getLast? with _ | c
  · rw [hlast] at hcond
    exact absurd hcond.1 (by decide)
  · rw [hlast] at hcond
    have hspacing : isSpacing c = true := hcond.1
    rw [isSpacing_of_not_isBlank (h c hlast)] at hspacing
    cases hspacing

theorem inkText_right_of_suffix {s t : Text} (h : s <:+ t) (ht : Side.right.InkText t) :
    Side.right.InkText s := by
  obtain ⟨before, rfl⟩ := h
  intro c hc
  refine ht c ?_
  rw [Side.edge?, List.getLast?_append, show s.getLast? = some c from hc]
  rfl

theorem inkText_left_of_prefix {s t : Text} (h : s <+: t) (ht : Side.left.InkText t) :
    Side.left.InkText s := by
  obtain ⟨after, rfl⟩ := h
  intro c hc
  refine ht c ?_
  rw [Side.edge?, List.head?_append, show s.head? = some c from hc]
  rfl

theorem trimStart_suffix (q : Char → Bool) (t : Text) : Text.trimStart q t <:+ t :=
  List.dropWhile_suffix q

theorem trimEnd_prefix (q : Char → Bool) (t : Text) : Text.trimEnd q t <+: t := by
  rw [Text.trimEnd, ← List.reverse_suffix, List.reverse_reverse]
  exact List.dropWhile_suffix q

/-- White space is not all of a text with ink at a side. -/
theorem exists_ink_of_inkText {side : Side} {t : Text} (h : side.InkText t) (hne : t ≠ []) :
    ∃ c ∈ t, isSpacing c = false := by
  rcases hedge : side.edge? t with _ | c
  · exact absurd (Side.edge?_eq_none_iff.mp hedge) hne
  · exact ⟨c, Side.mem_of_mem_edge? hedge, isSpacing_of_not_isBlank (h c hedge)⟩

theorem trimStart_ne_nil {q : Char → Bool} {t : Text} (h : ∃ c ∈ t, q c = false) :
    Text.trimStart q t ≠ [] := by
  obtain ⟨c, hc, hq⟩ := h
  intro hnil
  rw [Text.trimStart, List.dropWhile_eq_nil_iff] at hnil
  rw [hnil c hc] at hq
  cases hq

theorem trimEnd_ne_nil {q : Char → Bool} {t : Text} (h : ∃ c ∈ t, q c = false) :
    Text.trimEnd q t ≠ [] := by
  obtain ⟨c, hc, hq⟩ := h
  intro hnil
  rw [trimEnd_eq_nil_iff.mp hnil c hc] at hq
  cases hq

/-- **At a side where a content has ink nothing is moved outside**, and ink stays there. -/
theorem flank_of_inkText {side : Side} (hblock : p.isBlock = false) (hink : side.InkText content) :
    side.InkText (p.flank content).content ∧ (content ≠ [] → (p.flank content).content ≠ []) ∧
      ∃ far, (content = [] → far = []) ∧ ∀ middle,
        (p.flank content).leading ++ middle ++ (p.flank content).trailing = side.join middle far := by
  have hsome := fun hne => exists_ink_of_inkText (t := content) hink hne
  rw [flank_of_not_isBlock hblock]
  cases side with
  | left =>
    rw [flankLeft_of_inkText hink]
    by_cases hright : Side.right.InkText content
    · rw [flankRight_of_inkText hright]
      exact ⟨hink, id, [], fun _ => rfl, fun middle => rfl⟩
    · have hne : content ≠ [] := by
        rintro rfl
        exact hright (Side.inkText_nil _)
      rcases p.flankRight_eq { content } with h | h
      · rw [h]
        exact ⟨hink, id, [], fun _ => rfl, fun middle => rfl⟩
      · have hfirst := inkText_left_of_prefix (Place.trimEnd_prefix isSpacing content) hink
        rw [h]
        exact ⟨hfirst, fun hne => trimEnd_ne_nil (hsome hne), [' '],
          fun hnil => absurd hnil hne, fun middle => rfl⟩
  | right =>
    by_cases hleft : Side.left.InkText content
    · rw [flankLeft_of_inkText hleft, flankRight_of_inkText hink]
      exact ⟨hink, id, [], fun _ => rfl, fun middle => List.append_nil _⟩
    · have hne : content ≠ [] := by
        rintro rfl
        exact hleft (Side.inkText_nil _)
      rcases p.flankLeft_eq content with h | h
      · rw [h, flankRight_of_inkText hink]
        exact ⟨hink, id, [], fun _ => rfl, fun middle => List.append_nil _⟩
      · have hsuffix := inkText_right_of_suffix (trimStart_suffix isSpacing content) hink
        rw [h, flankRight_of_inkText hsuffix]
        exact ⟨hsuffix, fun hne => trimStart_ne_nil (hsome hne), [' '],
          fun hnil => absurd hnil hne, fun middle => List.append_nil _⟩

end Place

theorem head?_trimStart {q : Char → Bool} {t : Text} :
    ∀ c ∈ (Text.trimStart q t).head?, q c = false := by
  intro c hc
  have h := List.head?_dropWhile_not q t
  rw [show (List.dropWhile q t).head? = some c from hc] at h
  exact h

theorem getLast?_trimEnd {q : Char → Bool} {t : Text} :
    ∀ c ∈ (Text.trimEnd q t).getLast?, q c = false := by
  rw [Text.trimEnd, List.getLast?_reverse]
  exact head?_trimStart

/-! ## Contents without spacing -/

/-- The left side of a content has no spacing any more, unless a sibling has a space there. -/
theorem head?_flankLeft {p : Place} {content : Text}
    (h : p.isFlankedBySpace .left = true → Side.left.InkText content) :
    ∀ c ∈ (p.flankLeft content).content.head?, isSpacing c = false := by
  rcases hspace : p.isFlankedBySpace .left with _ | _
  · intro c hc
    by_contra hspacing
    rw [Bool.not_eq_false] at hspacing
    rcases hhead : content.head? with _ | d
    · rw [Place.flankLeft, hhead] at hc
      cases hhead.symm.trans hc
    · rcases hd : isSpacing d with _ | _
      · rw [Place.flankLeft, hhead, Option.map_some, Option.getD_some, hd, Bool.false_and,
          if_neg Bool.false_ne_true] at hc
        cases hhead.symm.trans hc
        rw [hd] at hspacing
        cases hspacing
      · rw [Place.flankLeft, hhead, Option.map_some, Option.getD_some, hd, hspace, Bool.not_false,
          Bool.and_true, if_pos rfl] at hc
        rw [head?_trimStart c hc] at hspacing
        cases hspacing
  · intro c hc
    rw [Place.flankLeft_of_inkText (h hspace)] at hc
    exact isSpacing_of_not_isBlank (h hspace c hc)

/-- The right side of a content has no spacing any more, unless a sibling has a space there. -/
theorem getLast?_flankRight {p : Place} {f : Flanked}
    (h : p.isFlankedBySpace .right = true → Side.right.InkText f.content) :
    ∀ c ∈ (p.flankRight f).content.getLast?, isSpacing c = false := by
  rcases hspace : p.isFlankedBySpace .right with _ | _
  · intro c hc
    by_contra hspacing
    rw [Bool.not_eq_false] at hspacing
    rcases hlast : f.content.getLast? with _ | d
    · rw [Place.flankRight, hlast] at hc
      cases hlast.symm.trans hc
    · rcases hd : isSpacing d with _ | _
      · rw [Place.flankRight, hlast, Option.map_some, Option.getD_some, hd, Bool.false_and,
          if_neg Bool.false_ne_true] at hc
        cases hlast.symm.trans hc
        rw [hd] at hspacing
        cases hspacing
      · rw [Place.flankRight, hlast, Option.map_some, Option.getD_some, hd, hspace, Bool.not_false,
          Bool.and_true, if_pos rfl] at hc
        rw [getLast?_trimEnd c hc] at hspacing
        cases hspacing
  · intro c hc
    rw [Place.flankRight_of_inkText (h hspace)] at hc
    exact isSpacing_of_not_isBlank (h hspace c hc)

/-- A content is hugged if it has ink wherever a sibling has a space. -/
theorem isHugged_flank {p : Place} {content : Text} (hblock : p.isBlock = false)
    (h : ∀ side : Side, p.isFlankedBySpace side = true → side.InkText content) :
    (p.flank content).content.IsHugged := by
  rw [Place.flank_of_not_isBlock hblock]
  intro side c hc
  cases side with
  | left =>
    -- what is taken away at the right leaves the left side as it is
    have hprefix : (p.flankRight (p.flankLeft content)).content <+:
        (p.flankLeft content).content := by
      rcases p.flankRight_eq (p.flankLeft content) with heq | heq <;> rw [heq]
      exact Place.trimEnd_prefix _ _
    obtain ⟨rest, hrest⟩ := hprefix
    refine head?_flankLeft (h .left) c ?_
    rw [← hrest, List.head?_append, show (p.flankRight _).content.head? = some c from hc]
    rfl
  | right =>
    refine getLast?_flankRight (fun hspace => ?_) c hc
    have hsuffix : (p.flankLeft content).content <:+ content := by
      rcases p.flankLeft_eq content with heq | heq <;> rw [heq]
      exact Place.trimStart_suffix _ _
    exact Place.inkText_right_of_suffix hsuffix (h .right hspace)

end HtmlMarkdown
