import Mathlib
import HtmlMarkdown.Proofs.Below
import HtmlMarkdown.Rule.Code

/-!
# The code that opens a block

A `pre` looks for its opening `code` among its children, and a `code` looks up whether it is the one
that opens its parent. Both see the same.

* `parent?_of_mem_children`, `parentName_of_mem_children`, `nodup_childIndex_children`: a child knows
  its parent, and its position tells it from the other children;
* `exists_parent_of_mem_descendants`: what lies below a place is a child of a place of the tree;
* `firstCode?_eq_some_iff`, `isOpeningCode_iff`, `isCodeBlockBody_iff`: opening codes from both sides;
* **`isCodeBlock_iff_exists_isCodeBlockBody`**.
-/

namespace HtmlMarkdown.Place

/-! ## Parents and children -/

/-- **A child lies in its parent.** -/
theorem parent?_of_mem_children {p c : Place} (h : c ∈ p.children) : c.parent? = some p := by
  obtain ⟨n, earlier, later, rfl, hn⟩ := mem_spread h
  have hnodes : (earlier.reverse ++ []).reverse ++ n :: later = p.nodes := by simp [hn]
  rw [parent?, hnodes]
  rcases p with _ | ⟨_ | _, _, _, _⟩
  · rfl
  · rfl
  · simp [nodes, Node.children] at hn

theorem parentName_of_mem_children {p c : Place} (h : c ∈ p.children) :
    c.parentName = p.tagName := by
  obtain ⟨n, earlier, later, rfl, hn⟩ := mem_spread h
  rcases p with _ | ⟨_ | _, _, _, _⟩
  · rfl
  · rfl
  · simp [nodes, Node.children] at hn

theorem map_childIndex_spread (outside : Surroundings) (before nodes : List Node) :
    (spread outside before nodes).map childIndex = List.range' before.length nodes.length := by
  induction nodes generalizing before with
  | nil => rfl
  | cons n rest ih => rw [spread, List.map_cons, ih, List.length_cons, List.length_cons,
      List.range'_succ, childIndex]

/-- **No two children have the same position.** -/
theorem nodup_childIndex_children (p : Place) : (p.children.map childIndex).Nodup := by
  rw [children, map_childIndex_spread]
  exact List.nodup_range'

/-- What lies below a place is a child of it or of a place below it. -/
theorem exists_parent_of_mem_descendants {p d : Place} (h : d ∈ p.descendants) :
    ∃ q, (q = p ∨ q ∈ p.descendants) ∧ d ∈ q.children := by
  induction p using inductionOnChildren with
  | step p ih =>
    obtain ⟨c, hc, rfl | hd⟩ := mem_descendants_iff.mp h
    · exact ⟨p, Or.inl rfl, hc⟩
    · obtain ⟨q, hq, hd⟩ := ih c hc hd
      refine ⟨q, Or.inr (mem_descendants_iff.mpr ⟨c, hc, hq⟩), hd⟩

/-! ## Opening codes -/

theorem not_isBlankText_of_tagName {p : Place} (h : p.tagName = "code") :
    ¬ (p.isText && p.textContent.isBlank) = true := by
  rcases p with _ | ⟨_ | _, _, _, _⟩
  · simp [isText]
  · simp [isText, Node.isText]
  · simp [tagName, Node.tagName] at h

/-- **The first code** of places has only blank text before it. -/
theorem firstCode?_eq_some_iff {ps : List Place} {code : Place} :
    firstCode? ps = some code ↔ ∃ earlier later, ps = earlier ++ code :: later ∧
      (∀ p ∈ earlier, p.isText = true ∧ p.textContent.isBlank = true) ∧ code.tagName = "code" := by
  induction ps with
  | nil => simp [firstCode?]
  | cons p ps ih =>
    rw [firstCode?]
    constructor
    · intro h
      split at h
      · next hblank =>
        obtain ⟨earlier, later, rfl, hearlier, htag⟩ := ih.mp h
        refine ⟨p :: earlier, later, rfl, List.forall_mem_cons.mpr ⟨?_, hearlier⟩, htag⟩
        rwa [Bool.and_eq_true] at hblank
      · split at h
        · next htag =>
          cases h
          exact ⟨[], ps, rfl, List.forall_mem_nil _, beq_iff_eq.mp htag⟩
        · cases h
    · rintro ⟨earlier, later, hps, hearlier, htag⟩
      rcases earlier with _ | ⟨q, earlier⟩
      · obtain ⟨rfl, rfl⟩ := List.cons.inj hps
        rw [if_neg (not_isBlankText_of_tagName htag), if_pos (beq_iff_eq.mpr htag)]
      · obtain ⟨rfl, rfl⟩ := List.cons.inj hps
        rw [List.forall_mem_cons] at hearlier
        rw [if_pos (Bool.and_eq_true_iff.mpr hearlier.1)]
        exact ih.mpr ⟨earlier, later, rfl, hearlier.2, htag⟩

theorem mem_children_of_openingCode? {p code : Place} (h : p.openingCode? = some code) :
    code ∈ p.children ∧ code.tagName = "code" := by
  obtain ⟨earlier, later, hchildren, -, htag⟩ := firstCode?_eq_some_iff.mp h
  exact ⟨hchildren ▸ List.mem_append_right _ List.mem_cons_self, htag⟩

/-- **A child opens its parent if it is what the parent opens with.** -/
theorem isOpeningCode_iff {p c : Place} (h : c ∈ p.children) :
    c.isOpeningCode = true ↔ p.openingCode? = some c := by
  rw [isOpeningCode, parent?_of_mem_children h]
  simp only [beq_iff_eq, Option.map_eq_some_iff]
  constructor
  · rintro ⟨code, hcode, hindex⟩
    -- the position tells the child from its siblings, whatever these hold
    have hsame : code = c := List.inj_on_of_nodup_map (nodup_childIndex_children p)
      (mem_children_of_openingCode? hcode).1 h hindex
    rw [hcode, hsame]
  · intro hcode
    exact ⟨c, hcode, rfl⟩

/-- A child is the code of a block if its parent is a `pre` that it opens. -/
theorem isCodeBlockBody_iff {p c : Place} (h : c ∈ p.children) :
    c.isCodeBlockBody = true ↔ p.tagName = "pre" ∧ p.openingCode? = some c := by
  rw [isCodeBlockBody, isInlineCode, parentName_of_mem_children h, ← isOpeningCode_iff h]
  by_cases htag : c.tagName = "code"
  · simp [htag]
  · have hno : c.isOpeningCode ≠ true := fun hopening =>
      htag (mem_children_of_openingCode? ((isOpeningCode_iff h).mp hopening)).2
    simp [hno]

theorem isInlineCode_eq {code : Place} (h : code.tagName = "code") :
    code.isInlineCode = !code.isCodeBlockBody := by
  rw [isCodeBlockBody, h]
  simp

theorem isCodeBlock_iff {pre : Place} (h : pre.tagName = "pre") :
    pre.isCodeBlock = true ↔ ∃ code, pre.openingCode? = some code := by
  rw [isCodeBlock, h, beq_self_eq_true, Bool.true_and, Option.isSome_iff_exists]

theorem isCodeBlock_iff_exists_mem {pre : Place} (h : pre.tagName = "pre") :
    pre.isCodeBlock = true ↔ ∃ code ∈ pre.children, code.isCodeBlockBody = true := by
  rw [isCodeBlock_iff h]
  constructor
  · rintro ⟨code, hcode⟩
    have hmem := (mem_children_of_openingCode? hcode).1
    exact ⟨code, hmem, (isCodeBlockBody_iff hmem).mpr ⟨h, hcode⟩⟩
  · rintro ⟨code, hmem, hbody⟩
    exact ⟨code, ((isCodeBlockBody_iff hmem).mp hbody).2⟩

/-- **A code block** has one code, with only blank text before it, and no other child that counts as
its code. -/
theorem exists_split_of_isCodeBlock {pre : Place} (h : pre.tagName = "pre")
    (hblock : pre.isCodeBlock = true) :
    ∃ earlier code later, pre.children = earlier ++ code :: later ∧
      pre.openingCode? = some code ∧ code.isCodeBlockBody = true ∧
      (∀ c ∈ earlier, c.isText = true ∧ c.textContent.isBlank = true) ∧
      ∀ c ∈ earlier ++ later, c.isCodeBlockBody = false := by
  obtain ⟨code, hcode⟩ := (isCodeBlock_iff h).mp hblock
  obtain ⟨earlier, later, hchildren, hearlier, -⟩ := firstCode?_eq_some_iff.mp hcode
  have hmem : code ∈ pre.children := (mem_children_of_openingCode? hcode).1
  have hnodup : pre.children.Nodup := (nodup_childIndex_children pre).of_map _
  refine ⟨earlier, code, later, hchildren, hcode, (isCodeBlockBody_iff hmem).mpr ⟨h, hcode⟩, hearlier,
    fun c hc => Bool.eq_false_iff.mpr fun hbody => ?_⟩
  have hc' : c ∈ pre.children := by
    rw [hchildren]
    exact List.perm_middle.mem_iff.mpr (List.mem_cons_of_mem _ hc)
  have hsame := ((isCodeBlockBody_iff hc').mp hbody).2
  rw [hcode, Option.some.injEq] at hsame
  rw [hchildren, List.nodup_middle, List.nodup_cons] at hnodup
  exact hnodup.1 (hsame ▸ hc)

/-! ## Codes of a tree -/

/-- A place is the opening code of a `pre` among the places of a tree. -/
def OpensBlock (tree : List Place) (code : Place) : Prop :=
  ∃ pre ∈ tree, pre.tagName = "pre" ∧ code ∈ pre.children ∧ pre.openingCode? = some code

/-- **The codes of blocks are those that open a `pre`** of the tree. -/
theorem isCodeBlockBody_iff_opensBlock {document : List Node} {code : Place}
    (h : code ∈ (Place.document document).descendants) :
    code.isCodeBlockBody = true ↔ OpensBlock (Place.document document).descendants code := by
  obtain ⟨q, hq, hmem⟩ := exists_parent_of_mem_descendants h
  constructor
  · intro hbody
    obtain ⟨hpre, hcode⟩ := (isCodeBlockBody_iff hmem).mp hbody
    have hdocument : q ≠ .document document := by
      rintro rfl
      simp [tagName] at hpre
    exact ⟨q, hq.resolve_left hdocument, hpre, hmem, hcode⟩
  · rintro ⟨pre, -, hpre, hmem', hcode⟩
    exact (isCodeBlockBody_iff hmem').mpr ⟨hpre, hcode⟩

/-- **A code block and its code know of each other.** In every document a `pre` is a code block if and
only if one of its children is the code of a block. Then just one is: its opening `code`, with only
blank text before it. Every other `code` of the document, whether it lies in a `pre` or not and
whatever comes before it there, is code within a line and not the code of a block. -/
theorem isCodeBlock_iff_exists_isCodeBlockBody (document : List Node) :
    (∀ pre ∈ (Place.document document).descendants, pre.tagName = "pre" →
      (pre.isCodeBlock = true ↔ ∃ code ∈ pre.children, code.isCodeBlockBody = true) ∧
      (pre.isCodeBlock = true → ∃ earlier code later, pre.children = earlier ++ code :: later ∧
        pre.openingCode? = some code ∧ code.isCodeBlockBody = true ∧
        (∀ c ∈ earlier, c.isText = true ∧ c.textContent.isBlank = true) ∧
        ∀ c ∈ earlier ++ later, c.isCodeBlockBody = false)) ∧
    ∀ code ∈ (Place.document document).descendants, code.tagName = "code" →
      (OpensBlock (Place.document document).descendants code →
        code.isCodeBlockBody = true ∧ code.isInlineCode = false) ∧
      (¬ OpensBlock (Place.document document).descendants code →
        code.isInlineCode = true ∧ code.isCodeBlockBody = false) := by
  refine ⟨fun pre _ hpre => ⟨isCodeBlock_iff_exists_mem hpre, exists_split_of_isCodeBlock hpre⟩,
    fun code hcode htag => ?_⟩
  rw [← isCodeBlockBody_iff_opensBlock hcode, isInlineCode_eq htag]
  cases code.isCodeBlockBody <;> simp

/-- A `pre` that opens with one `code` and holds a second one, and a `pre` whose `code` comes after
some text. -/
def codesInPre : List Node := [
  .element "pre" [] [.string .plain ['\n'], .element "code" [] [], .element "code" [] [],
    .element "pre" [] [.string .plain ['a'], .element "code" [] []]]]

theorem isCodeBlock_iff_exists_isCodeBlockBody_codesInPre :
    ∃ outer first second inner third,
      (Place.document codesInPre).elementsBelow = [outer, first, second, inner, third] ∧
      (∃ code ∈ outer.children, code.isCodeBlockBody = true) ∧
      (first.isCodeBlockBody = true ∧ first.isInlineCode = false) ∧
      (second.isInlineCode = true ∧ second.isCodeBlockBody = false) ∧
      third.isInlineCode = true ∧ third.isCodeBlockBody = false := by
  obtain ⟨hpre, hcode⟩ := isCodeBlock_iff_exists_isCodeBlockBody codesInPre
  have hbelow (e : Place) (he : e ∈ (Place.document codesInPre).elementsBelow) :
      e ∈ (Place.document codesInPre).descendants := (mem_elementsBelow.mp he).1
  have hpreTag : lowerName "pre" = "pre" := by decide
  have hcodeTag : lowerName "code" = "code" := by decide
  refine ⟨_, _, _, _, _, rfl, ?_, ?_, ?_, ?_⟩
  · exact ((hpre _ (hbelow _ (.head _)) hpreTag).1).mp (by decide)
  · refine (hcode _ (hbelow _ (.tail _ (.head _))) hcodeTag).1 ⟨_, hbelow _ (.head _), hpreTag, ?_, rfl⟩
    exact .tail _ (.head _)
  · refine (hcode _ (hbelow _ (.tail _ (.tail _ (.head _)))) hcodeTag).2 ?_
    rintro ⟨pre, -, -, hmem, hopening⟩
    cases parent?_of_mem_children hmem
    cases hopening
  · refine (hcode _ (hbelow _ (.tail _ (.tail _ (.tail _ (.tail _ (.head _)))))) hcodeTag).2 ?_
    rintro ⟨pre, -, -, hmem, hopening⟩
    cases parent?_of_mem_children hmem
    cases hopening

end HtmlMarkdown.Place
