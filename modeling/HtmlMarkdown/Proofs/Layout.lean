import Mathlib
import HtmlMarkdown.Proofs.Line
import HtmlMarkdown.Proofs.Root
import HtmlMarkdown.Proofs.Scan

/-!
# The layout of a source does not count

Between blocks, at the edges of a block and beside a break a source may have a text of spacing or
none. A collapse makes the same tree of both.

* `Border`, `IsGap`: between which siblings such a text may stand;
* `Respaced`: nodes with such texts put in;
* `Filled`: texts among which some empty ones have been put;
* `Scan.InStep`, `Scan.inStepBefore_space`: two passes in step, one of which meets a text more;
* `Respaced.exists_isMask`: the passes over both forests;
* **`convertDocument_of_respaced`**.
-/

namespace HtmlMarkdown

/-! ## Texts of spacing put in -/

/-- What is at one side of a gap between siblings: the end of a line, an element or the edge of one
within a line, or a string. -/
inductive Border
  | lineEnd
  | element
  | string
  deriving DecidableEq

/-- What is beside a node. -/
def Node.border : Node → Border
  | .element name .. => if endsLine (lowerName name) then .lineEnd else .element
  | .string .. => .string

/-- What is at the edge of the inside of an element. -/
def edgeBorder (tag : String) : Border := if isBlockTag tag then .lineEnd else .element

theorem Node.endsLine_of_border {name : String} {attributes : Attributes} {children : List Node}
    (h : (Node.element name attributes children).border = .lineEnd) :
    endsLine (lowerName name) = true := by
  rw [border] at h
  split at h
  · assumption
  · cases h

theorem endsLine_of_edgeBorder {tag : String} (h : edgeBorder tag = .lineEnd) :
    endsLine tag = true := by
  rw [edgeBorder] at h
  split at h
  · next hblock => rw [endsLine, hblock, Bool.true_or]
  · cases h

/-- What is at the right of a gap before nodes at the end of an inside. -/
def borderBefore (edge : Border) : List Node → Border
  | [] => edge
  | n :: _ => n.border

/-- A text of spacing may be put into a gap: no string is beside it, and at one side a line ends. -/
def IsGap (left right : Border) : Prop :=
  left ≠ .string ∧ right ≠ .string ∧ (left = .lineEnd ∨ right = .lineEnd)

instance (left right : Border) : Decidable (IsGap left right) :=
  inferInstanceAs
    (Decidable (left ≠ .string ∧ right ≠ .string ∧ (left = .lineEnd ∨ right = .lineEnd)))

/-- Nodes and the same nodes with texts of spacing put into gaps, at most one into each and none into
preformatted text. At the left of the nodes is `left`, at the end of the inside that they belong to
is `edge`. -/
inductive Respaced : (edge left : Border) → List Node → List Node → Prop
  | nil (edge left : Border) : Respaced edge left [] []
  | string {edge left : Border} (kind : StringKind) (value : Text) {rest rest' : List Node} :
      Respaced edge .string rest rest' →
      Respaced edge left (.string kind value :: rest) (.string kind value :: rest')
  | preformatted {edge left : Border} {name : String} (attributes : Attributes)
      (children : List Node) {rest rest' : List Node} : isPreTag (lowerName name) = true →
      Respaced edge (Node.element name attributes children).border rest rest' →
      Respaced edge left (.element name attributes children :: rest)
        (.element name attributes children :: rest')
  | element {edge left : Border} {name : String} (attributes : Attributes)
      {children children' rest rest' : List Node} : isPreTag (lowerName name) = false →
      Respaced (edgeBorder (lowerName name)) (edgeBorder (lowerName name)) children children' →
      Respaced edge (Node.element name attributes children).border rest rest' →
      Respaced edge left (.element name attributes children :: rest)
        (.element name attributes children' :: rest')
  | space {edge left : Border} {kind : StringKind} {value : Text} {ns ns' : List Node} :
      kind.isText = true → value.all isSpacing = true → IsGap left (borderBefore edge ns) →
      Respaced edge .string ns ns' → Respaced edge left ns (.string kind value :: ns')

theorem Respaced.everywhere_isOtherThan {edge left : Border} {name : String} {ns ns' : List Node}
    (h : Respaced edge left ns ns') (hns : Everywhere (Node.IsOtherThan name) ns) :
    Everywhere (Node.IsOtherThan name) ns' := by
  induction h with
  | nil => trivial
  | string kind value _ ih => exact ⟨trivial, ih hns.2⟩
  | preformatted attributes children _ _ ih => exact ⟨hns.1, ih hns.2⟩
  | element attributes _ _ _ ihc ihr => exact ⟨⟨hns.1.1, ihc hns.1.2⟩, ihr hns.2⟩
  | space _ _ _ _ ih => exact ⟨trivial, ih hns⟩

/-! ## Empty texts put in -/

/-- Texts and the same texts with empty ones put in where the mask says so. -/
inductive Filled : (mask : List Bool) → List Text → List Text → Prop
  | nil : Filled [] [] []
  | keep (t : Text) {mask : List Bool} {ts ts' : List Text} :
      Filled mask ts ts' → Filled (false :: mask) (t :: ts) (t :: ts')
  | put {mask : List Bool} {ts ts' : List Text} :
      Filled mask ts ts' → Filled (true :: mask) ts ([] :: ts')

namespace Filled

variable {mask more : List Bool} {ts ts' us us' : List Text}

theorem append (h : Filled mask ts ts') (h' : Filled more us us') :
    Filled (mask ++ more) (ts ++ us) (ts' ++ us') := by
  induction h with
  | nil => exact h'
  | keep t _ ih => exact .keep t ih
  | put _ ih => exact .put ih

theorem reverse (h : Filled mask ts ts') : Filled mask.reverse ts.reverse ts'.reverse := by
  induction h with
  | nil => exact .nil
  | keep t _ ih =>
    rw [List.reverse_cons, List.reverse_cons, List.reverse_cons]
    exact ih.append (.keep t .nil)
  | put _ ih =>
    have hlast := ih.append (.put .nil)
    rw [List.append_nil] at hlast
    rw [List.reverse_cons, List.reverse_cons]
    exact hlast

theorem latest_eq (h : Filled mask ts ts') : Scan.latest ts' = Scan.latest ts := by
  induction h with
  | nil => rfl
  | keep t _ ih => rw [Scan.latest, Scan.latest, ih]
  | put _ ih => exact ih

theorem changeLatest (h : Filled mask ts ts') (change : Text → Text) :
    Filled mask (Scan.changeLatest change ts) (Scan.changeLatest change ts') := by
  induction h with
  | nil => exact .nil
  | keep t h ih =>
    rw [Scan.changeLatest, Scan.changeLatest]
    split
    · exact .keep t ih
    · exact .keep _ h
  | put _ ih => exact .put ih

end Filled

/-! ## Two passes in step -/

namespace Scan

variable {mask : List Bool} {s s' : Scan} {left right : Border}

/-- Two passes know the same, but for empty texts that only the second one has met. -/
structure InStep (mask : List Bool) (s s' : Scan) : Prop where
  texts : Filled mask s.texts s'.texts
  isOpen : s'.isOpen = s.isOpen
  keepsLeading : s'.keepsLeading = s.keepsLeading

/-- Two passes are in step before a border, at the latest when the line has ended if it does. -/
def InStepBefore (right : Border) (mask : List Bool) (s s' : Scan) : Prop :=
  match right with
  | .lineEnd => InStep mask s.endLine s'.endLine
  | _ => InStep mask s s'

/-- What a pass knows after a border: no text is open after the end of a line, and within a line no
text that is open has to keep the leading space of the next one. -/
def IsAfter (left : Border) (s : Scan) : Prop :=
  match left with
  | .lineEnd => s.isOpen = false ∧ s.keepsLeading = false
  | .element => s.isOpen = true → s.keepsLeading = false
  | .string => True

namespace InStep

theorem dropsLeading (h : InStep mask s s') : s'.dropsLeading = s.dropsLeading := by
  rw [Scan.dropsLeading, Scan.dropsLeading, h.texts.latest_eq, h.isOpen, h.keepsLeading]

theorem endLine (h : InStep mask s s') : InStep mask s.endLine s'.endLine := by
  refine ⟨?_, rfl, rfl⟩
  rw [Scan.endLine, Scan.endLine, h.isOpen]
  rcases s.isOpen with _ | _
  · exact h.texts
  · exact h.texts.changeLatest dropTrailingSpaces

theorem before (h : InStep mask s s') (right : Border) : InStepBefore right mask s s' := by
  cases right with
  | lineEnd => exact h.endLine
  | element => exact h
  | string => exact h

theorem meetText (h : InStep mask s s') (value : Text) :
    InStep (false :: mask) (s.meetText value) (s'.meetText value) := by
  rw [meetText_eq, meetText_eq, h.dropsLeading]
  exact ⟨.keep _ h.texts, by rw [h.isOpen], h.keepsLeading⟩

theorem meetElement (h : InStep mask s s') (tag : String) :
    InStep mask (s.meetElement isBlockTag isPreTag tag) (s'.meetElement isBlockTag isPreTag tag) := by
  rw [Scan.meetElement, Scan.meetElement]
  split
  · exact h.endLine
  · split
    · exact ⟨h.texts, rfl, rfl⟩
    · rw [h.isOpen]
      split
      · exact ⟨h.texts, rfl, rfl⟩
      · exact h

end InStep

/-- At the end of a line at the latest two passes are in step. -/
theorem InStepBefore.meetElement {tag : String} (h : InStepBefore right mask s s')
    (hright : right = .lineEnd → endsLine tag = true) :
    InStep mask (s.meetElement isBlockTag isPreTag tag) (s'.meetElement isBlockTag isPreTag tag) := by
  cases right with
  | lineEnd =>
    rw [meetElement_of_endsLine (hright rfl), meetElement_of_endsLine (hright rfl)]
    exact h
  | element => exact InStep.meetElement h tag
  | string => exact InStep.meetElement h tag

/-- After an element the pass knows what there is to know after a border of that kind. -/
theorem isAfter_meetElement (s : Scan) (tag : String) :
    IsAfter (if endsLine tag then .lineEnd else .element) (s.meetElement isBlockTag isPreTag tag) := by
  rcases hend : endsLine tag with _ | _
  · have hor : (isBlockTag tag || tag == "br") = false := hend
    rw [if_neg Bool.false_ne_true, Scan.meetElement, hor, if_neg Bool.false_ne_true]
    intro hopen
    split at hopen
    · cases hopen
    · next hvoid =>
      rw [if_neg hvoid]
      split at hopen
      · next h => rw [if_pos h]
      · next h => exact absurd hopen h
  · rw [if_pos rfl, meetElement_of_endsLine hend]
    exact ⟨rfl, rfl⟩

/-- The same on the way in, for the edge of the inside. -/
theorem isAfter_edgeBorder (s : Scan) (tag : String) :
    IsAfter (edgeBorder tag) (s.meetElement isBlockTag isPreTag tag) := by
  have h := isAfter_meetElement s tag
  rw [edgeBorder]
  rcases hblock : isBlockTag tag with _ | _
  · rcases hend : endsLine tag with _ | _
    · rw [hend] at h
      exact h
    · rw [hend] at h
      exact fun _ => h.2
  · rw [endsLine, hblock] at h
    exact h

/-- Beside a border without a string, a text that is open and does not end in a space keeps all that
it has when its line ends. -/
theorem texts_endLine_of_isAfter (hafter : IsAfter left s) (hleft : left ≠ .string)
    (hdrops : s.dropsLeading = false) : s.endLine.texts = s.texts := by
  rw [endLine]
  split
  · next hopen =>
    have hkeeps : s.keepsLeading = false := by
      cases left with
      | lineEnd => exact hafter.2
      | element => exact hafter hopen
      | string => exact absurd rfl hleft
    rw [Scan.dropsLeading, hopen, hkeeps, Bool.not_true, Bool.false_or, Bool.not_false,
      Bool.and_true] at hdrops
    exact changeLatest_of_not_endsWith hdrops
  · rfl

/-- **A text of spacing in a gap**: a pass that meets it is in step with one that does not, at the
latest when the line has ended. -/
theorem inStepBefore_space {value : Text} (h : InStep mask s s') (hafter : IsAfter left s)
    (hgap : IsGap left right) (hvalue : value.all isSpacing = true) :
    InStepBefore right (true :: mask) s (s'.meetText value) := by
  rcases squeezeAfter_of_all hvalue s'.dropsLeading with htext | ⟨hdrops, htext⟩
  · -- the text goes at once
    refine InStep.before ?_ right
    rw [meetText_eq, htext]
    exact ⟨.put h.texts, by simp [h.isOpen], h.keepsLeading⟩
  · -- one space of it is left, until the line ends
    rw [h.dropsLeading] at hdrops
    have hleft : left ≠ .lineEnd := by
      rintro rfl
      rw [Scan.dropsLeading, hafter.1, hafter.2] at hdrops
      cases hdrops
    obtain rfl : right = .lineEnd := hgap.2.2.resolve_left hleft
    have hmet : (s'.meetText value).endLine.texts = [] :: s'.texts := by
      rw [meetText_eq, htext, endLine]
      simp [Scan.changeLatest, dropTrailingSpaces, Text.trimEnd]
    refine ⟨?_, rfl, rfl⟩
    rw [texts_endLine_of_isAfter hafter hgap.1 hdrops, hmet]
    exact .put h.texts

end Scan

/-! ## Passes over both forests -/

/-- A mask says which of the texts in the second forest are put in: the passes over both are in step
for it, and texts filled up by it are put back alike. -/
structure IsMask (edge left : Border) (ns ns' : List Node) (mask : List Bool) : Prop where
  inStep : ∀ {before : List Bool} {s s' : Scan}, Scan.IsAfter left s →
    (left ≠ .string → Scan.InStep before s s') →
    Scan.InStepBefore (borderBefore edge ns) before s s' →
    Scan.InStepBefore edge (mask.reverse ++ before) (Scan.through isBlockTag isPreTag ns s)
      (Scan.through isBlockTag isPreTag ns' s')
  resettle : ∀ {more : List Bool} {ts ts' : List Text}, Filled (mask ++ more) ts ts' →
    (resettle isPreTag ns' ts').1 = (resettle isPreTag ns ts).1 ∧
      Filled more (resettle isPreTag ns ts).2 (resettle isPreTag ns' ts').2

namespace IsMask

variable {edge left : Border} {rest rest' : List Node} {mask mask' : List Bool}

theorem nil (edge left : Border) : IsMask edge left [] [] [] :=
  ⟨fun _ _ h => h, fun h => ⟨rfl, h⟩⟩

theorem text {kind : StringKind} (value : Text) (hk : kind.isText = true)
    (h : IsMask edge .string rest rest' mask) :
    IsMask edge left (.string kind value :: rest) (.string kind value :: rest') (false :: mask) where
  inStep := by
    intro before s s' _ _ hbefore
    have hstep : Scan.InStep (false :: before) (s.meetText value) (s'.meetText value) :=
      Scan.InStep.meetText hbefore value
    rw [Scan.through_string, Scan.through_string, hk, if_pos rfl, if_pos rfl, List.reverse_cons,
      List.append_assoc]
    exact h.inStep trivial (fun hne => absurd rfl hne) (hstep.before _)
  resettle := by
    intro more ts ts' hfilled
    cases hfilled with
    | keep t hfilled =>
      obtain ⟨hhere, hleft⟩ := h.resettle hfilled
      simp only [HtmlMarkdown.resettle, resettleNode, if_pos hk]
      exact ⟨by rw [hhere], hleft⟩

theorem comment {kind : StringKind} (value : Text) (hk : ¬ kind.isText = true)
    (h : IsMask edge .string rest rest' mask) :
    IsMask edge left (.string kind value :: rest) (.string kind value :: rest') mask where
  inStep := by
    intro before s s' _ _ hbefore
    have hstep : Scan.InStep before s s' := hbefore
    rw [Scan.through_string, Scan.through_string, if_neg hk, if_neg hk]
    exact h.inStep trivial (fun hne => absurd rfl hne) (hstep.before _)
  resettle := by
    intro more ts ts' hfilled
    obtain ⟨hhere, hleft⟩ := h.resettle hfilled
    rw [HtmlMarkdown.resettle, HtmlMarkdown.resettle, resettleNode.eq_def,
      resettleNode.eq_def isPreTag (.string kind value) ts]
    simp only [if_neg hk]
    exact ⟨by rw [hhere], hleft⟩

theorem space {kind : StringKind} {value : Text} {ns ns' : List Node} (hk : kind.isText = true)
    (hvalue : value.all isSpacing = true) (hgap : IsGap left (borderBefore edge ns))
    (h : IsMask edge .string ns ns' mask) :
    IsMask edge left ns (.string kind value :: ns') (true :: mask) where
  inStep := by
    intro before s s' hafter hstep _
    have hspace := Scan.inStepBefore_space (hstep hgap.1) hafter hgap hvalue
    rw [Scan.through_string, hk, if_pos rfl, List.reverse_cons, List.append_assoc]
    exact h.inStep trivial (fun hne => absurd rfl hne) hspace
  resettle := by
    intro more ts ts' hfilled
    cases hfilled with
    | put hfilled =>
      obtain ⟨hhere, hleft⟩ := h.resettle hfilled
      rw [HtmlMarkdown.resettle, resettleNode, if_pos hk]
      exact ⟨hhere, hleft⟩

section Element

variable {name : String} (attributes : Attributes)

/-- Two passes are in step after the way into an element. -/
theorem inStep_meetElement (children : List Node) {before : List Bool} {s s' : Scan}
    (h : Scan.InStepBefore (Node.element name attributes children).border before s s') :
    Scan.InStep before (s.meetElement isBlockTag isPreTag (lowerName name))
      (s'.meetElement isBlockTag isPreTag (lowerName name)) :=
  h.meetElement Node.endsLine_of_border

theorem preformatted (children : List Node) (hpre : isPreTag (lowerName name) = true)
    (h : IsMask edge (Node.element name attributes children).border rest rest' mask) :
    IsMask edge left (.element name attributes children :: rest)
      (.element name attributes children :: rest') mask where
  inStep := by
    intro before s s' _ _ hbefore
    have hstep := inStep_meetElement attributes children hbefore
    rw [Scan.through_element, Scan.through_element, if_pos hpre, if_pos hpre]
    exact h.inStep (Scan.isAfter_meetElement s _) (fun _ => hstep) (hstep.before _)
  resettle := by
    intro more ts ts' hfilled
    obtain ⟨hhere, hleft⟩ := h.resettle hfilled
    simp only [HtmlMarkdown.resettle, resettleNode, if_pos hpre]
    exact ⟨by rw [hhere], hleft⟩

theorem element {children children' : List Node} (hpre : isPreTag (lowerName name) = false)
    (hinside : IsMask (edgeBorder (lowerName name)) (edgeBorder (lowerName name)) children children'
      mask)
    (h : IsMask edge (Node.element name attributes children).border rest rest' mask') :
    IsMask edge left (.element name attributes children :: rest)
      (.element name attributes children' :: rest') (mask ++ mask') where
  inStep := by
    intro before s s' _ _ hbefore
    have hin := inStep_meetElement attributes children hbefore
    have hchildren := hinside.inStep (Scan.isAfter_edgeBorder s (lowerName name)) (fun _ => hin)
      (hin.before _)
    have hout := hchildren.meetElement endsLine_of_edgeBorder
    rw [Scan.through_element, Scan.through_element, hpre, if_neg Bool.false_ne_true,
      if_neg Bool.false_ne_true, List.reverse_append, List.append_assoc]
    exact h.inStep (Scan.isAfter_meetElement _ _) (fun _ => hout) (hout.before _)
  resettle := by
    intro more ts ts' hfilled
    rw [List.append_assoc] at hfilled
    obtain ⟨hchildren, hafter⟩ := hinside.resettle hfilled
    obtain ⟨hhere, hleft⟩ := h.resettle hafter
    simp only [HtmlMarkdown.resettle, resettleNode, hpre, if_neg Bool.false_ne_true]
    exact ⟨by rw [hchildren, hhere], hleft⟩

end Element

end IsMask

/-- **Texts of spacing put in have a mask.** -/
theorem Respaced.exists_isMask {edge left : Border} {ns ns' : List Node}
    (h : Respaced edge left ns ns') : ∃ mask, IsMask edge left ns ns' mask := by
  induction h with
  | nil edge left => exact ⟨[], .nil edge left⟩
  | string kind value _ ih =>
    obtain ⟨mask, hmask⟩ := ih
    by_cases hk : kind.isText = true
    · exact ⟨_, .text value hk hmask⟩
    · exact ⟨_, .comment value hk hmask⟩
  | preformatted attributes children hpre _ ih =>
    obtain ⟨mask, hmask⟩ := ih
    exact ⟨_, .preformatted attributes children hpre hmask⟩
  | element attributes hpre _ _ ihc ihr =>
    obtain ⟨mask, hmask⟩ := ihc
    obtain ⟨mask', hmask'⟩ := ihr
    exact ⟨_, .element attributes hpre hmask hmask'⟩
  | space hk hvalue hgap _ ih =>
    obtain ⟨mask, hmask⟩ := ih
    exact ⟨_, .space hk hvalue hgap hmask⟩

/-- **A collapse takes away all that is put in.** -/
theorem Respaced.collapseNodes_eq {ns ns' : List Node} (h : Respaced .lineEnd .lineEnd ns ns') :
    collapseNodes isBlockTag isPreTag ns' = collapseNodes isBlockTag isPreTag ns := by
  obtain ⟨mask, hmask⟩ := h.exists_isMask
  have hstart : Scan.InStep [] {} {} := ⟨.nil, rfl, rfl⟩
  have hend : Scan.InStep (mask.reverse ++ []) (Scan.through isBlockTag isPreTag ns {}).endLine
      (Scan.through isBlockTag isPreTag ns' {}).endLine :=
    hmask.inStep ⟨rfl, rfl⟩ (fun _ => hstart) (hstart.before _)
  have hfilled := hend.texts.reverse
  rw [List.append_nil, List.reverse_reverse, ← settledTexts_eq_through, ← settledTexts_eq_through,
    ← List.append_nil mask] at hfilled
  exact (hmask.resettle hfilled).1

/-! ## Conversions -/

/-- **The layout of a source does not count.** With texts of spacing put into gaps below the root of
its conversion, a document has the same tree after a collapse, and is converted alike, whatever
options this is done with. -/
theorem convertDocument_of_respaced {document ns : List Node}
    (h : Respaced .lineEnd .lineEnd (Place.root document).nodes ns) :
    collapsedRoot (withRootNodes document ns) = collapsedRoot document ∧
      ∀ o : Options, o.convertDocument (withRootNodes document ns) = o.convertDocument document := by
  have hcollapsed : collapsedRoot (withRootNodes document ns) = collapsedRoot document := by
    rw [collapsedRoot_withRootNodes h.everywhere_isOtherThan, collapsedRoot_eq, h.collapseNodes_eq]
  refine ⟨hcollapsed, fun o => ?_⟩
  simp only [Options.convertDocument, Context.convert, hcollapsed]

/-- A list without any layout, and an image after it. -/
def listAndImage : List Node := [
  .element "body" [] [
    .element "ul" [] [
      .element "li" [] [.string .plain ['a']],
      .element "li" [] [.element "img" [] [], .string .plain ['b']]],
    .element "img" [] []]]

/-- What is below its root, with a line for each element. -/
def listAndImageLines : List Node := [
  .string .plain ['\n'],
  .element "ul" [] [
    .string .plain ['\n', '\t'],
    .element "li" [] [.string .plain ['a']],
    .string .plain ['\n', '\t'],
    .element "li" [] [
      .string .plain [' '],
      .element "img" [] [],
      .string .plain ['b']],
    .string .plain ['\n']],
  .string .plain ['\n'],
  .element "img" [] [],
  .string .plain ['\r', '\n']]

theorem convertDocument_of_respaced_listAndImage :
    Respaced .lineEnd .lineEnd (Place.root listAndImage).nodes listAndImageLines ∧
    collapsedRoot [.element "body" [] listAndImageLines] = collapsedRoot listAndImage ∧
    ∀ o : Options, o.convertDocument [.element "body" [] listAndImageLines] =
      o.convertDocument listAndImage := by
  have hsecond : Respaced .lineEnd .lineEnd [.element "img" [] [], .string .plain ['b']]
      [.string .plain [' '], .element "img" [] [], .string .plain ['b']] :=
    .space rfl (by decide) (by decide) (.element [] (by decide) (.nil _ _) (.string _ _ (.nil _ _)))
  have hlist : Respaced .lineEnd .lineEnd
      [.element "li" [] [.string .plain ['a']],
        .element "li" [] [.element "img" [] [], .string .plain ['b']]]
      [.string .plain ['\n', '\t'], .element "li" [] [.string .plain ['a']],
        .string .plain ['\n', '\t'], .element "li" [] [
          .string .plain [' '], .element "img" [] [], .string .plain ['b']],
        .string .plain ['\n']] :=
    .space rfl (by decide) (by decide) (.element [] (by decide) (.string _ _ (.nil _ _))
      (.space rfl (by decide) (by decide) (.element [] (by decide) hsecond
        (.space rfl (by decide) (by decide) (.nil _ _)))))
  have h : Respaced .lineEnd .lineEnd (Place.root listAndImage).nodes listAndImageLines :=
    .space rfl (by decide) (by decide) (.element [] (by decide) hlist
      (.space rfl (by decide) (by decide) (.element [] (by decide) (.nil _ _)
        (.space rfl (by decide) (by decide) (.nil _ _)))))
  exact ⟨h, convertDocument_of_respaced h⟩

end HtmlMarkdown
