import Mathlib
import HtmlMarkdown.Proofs.Conversion
import HtmlMarkdown.Proofs.Log

/-!
# Collapsing once more

A collapse leaves texts that another collapse leaves as they are, but for one thing: after an object
within a line, such as an image, a text keeps its leading space even if the text before it ends in
one. If nothing else follows in the line, the space of the later text goes with the end of the line,
and that of the earlier one stays there for the next collapse to take away.

* `Log.IsSqueezed`, `Log.isSqueezed_settle`: what a settled log has;
* `Log.endsTight`, **`Log.settle_eq_self_iff`**: when a squeezed log is settled once and for all;
* `Log.isApart`, `Log.endsTight_settle`: when lines end tight after one collapse;
* **`collapseNodes_eq_self_iff`**, **`collapse_collapse_eq_iff`**: when a collapse changes nothing.
-/

namespace HtmlMarkdown

/-! ## Squeezed texts -/

theorem squeezeAfter_squeezeAfter (isInRun : Bool) (t : Text) :
    squeezeAfter isInRun (squeezeAfter isInRun t) = squeezeAfter isInRun t := by
  induction t generalizing isInRun with
  | nil => rfl
  | cons c t ih =>
    by_cases hc : isSpacing c = true
    · cases isInRun
      · have hspace : isSpacing ' ' = true := rfl
        simp [squeezeAfter, hc, hspace, ih true]
      · rw [squeezeAfter, if_pos hc, if_pos rfl, ih true]
    · rw [squeezeAfter, if_neg hc, squeezeAfter, if_neg hc, ih false]

theorem length_squeezeAfter_le (isInRun : Bool) (t : Text) :
    (squeezeAfter isInRun t).length ≤ t.length := by
  induction t generalizing isInRun with
  | nil => exact Nat.le_refl _
  | cons c t ih =>
    rw [squeezeAfter]
    split
    · split
      · exact (ih true).trans (Nat.le_succ _)
      · exact Nat.succ_le_succ (ih true)
    · exact Nat.succ_le_succ (ih false)

/-- The first part of a squeezed text is squeezed. -/
theorem squeezeAfter_eq_self_of_append {isInRun : Bool} {s t : Text}
    (h : squeezeAfter isInRun (s ++ t) = s ++ t) : squeezeAfter isInRun s = s := by
  rw [squeezeAfter_append] at h
  have hlength := congrArg List.length h
  rw [List.length_append, List.length_append] at hlength
  have hs := length_squeezeAfter_le isInRun s
  have ht := length_squeezeAfter_le (runAfter isInRun s) t
  exact (List.append_inj h (by omega)).1

theorem exists_append_dropTrailingSpaces (t : Text) :
    ∃ spaces : Text, t = dropTrailingSpaces t ++ spaces :=
  ⟨t.rtakeWhile (· == ' '), List.rdropWhile_append_rtakeWhile.symm⟩

theorem endsWith_dropTrailingSpaces (t : Text) :
    Text.endsWith ' ' (dropTrailingSpaces t) = false := by
  rw [Text.endsWith, dropTrailingSpaces, Text.trimEnd, List.getLast?_reverse]
  rcases hhead : (t.reverse.dropWhile (· == ' ')).head? with _ | c
  · rfl
  · have hnot := List.head?_dropWhile_not (· == ' ') t.reverse
    rw [hhead] at hnot
    simpa using hnot

theorem eq_nil_of_squeeze {t : Text} (h : squeeze t = []) : t = [] := by
  by_contra hne
  rw [squeeze_of_all hne (all_of_squeezeAfter_eq_nil h)] at h
  cases h

namespace Log

/-- No text of the log is empty, and none has spacing that a settled one does not have. -/
def IsSqueezed : Log → Prop
  | [] => True
  | .text t :: log => t ≠ [] ∧ squeezeAfter (dropsSpace log) t = t ∧ IsSqueezed log
  | .lineEnd :: log => IsSqueezed log
  | .object :: log => IsSqueezed log
  | .edge :: log => IsSqueezed log

theorem isSqueezed_closeLine {log : Log} (h : log.IsSqueezed) : log.closeLine.IsSqueezed := by
  induction log with
  | nil => exact h
  | cons m log ih =>
    cases m with
    | text t =>
      obtain ⟨_, hsqueezed, hlog⟩ := h
      rcases hempty : (dropTrailingSpaces t).isEmpty with _ | _
      · obtain ⟨spaces, hspaces⟩ := exists_append_dropTrailingSpaces t
        rw [hspaces] at hsqueezed
        rw [closeLine, put_of_not_isEmpty hempty]
        exact ⟨List.isEmpty_eq_false_iff.mp hempty, squeezeAfter_eq_self_of_append hsqueezed, hlog⟩
      · rw [closeLine, put_of_isEmpty hempty]
        exact hlog
    | lineEnd | object => exact h
    | edge => exact ih h

/-- **The settled log is squeezed.** -/
theorem isSqueezed_settle (log : Log) : log.settle.IsSqueezed := by
  induction log with
  | nil => trivial
  | cons m log ih =>
    cases m with
    | text value =>
      rcases hempty : (squeezeAfter (dropsSpace (settle log)) value).isEmpty with _ | _
      · rw [settle, put_of_not_isEmpty hempty]
        exact ⟨List.isEmpty_eq_false_iff.mp hempty, squeezeAfter_squeezeAfter _ _, ih⟩
      · rw [settle, put_of_isEmpty hempty]
        exact ih
    | lineEnd => exact isSqueezed_closeLine ih
    | object | edge => exact ih

/-! ## Settled once and for all -/

/-- Where a line ends, the text before does not end in a space. -/
def endsTight : Log → Bool
  | [] => true
  | .lineEnd :: log => !Text.endsWith ' ' (openText log) && endsTight log
  | .text _ :: log => endsTight log
  | .object :: log => endsTight log
  | .edge :: log => endsTight log

/-- The number of characters and of other things in a log. -/
def size : Log → ℕ
  | [] => 0
  | .text t :: log => t.length + 1 + size log
  | .lineEnd :: log => size log + 1
  | .object :: log => size log + 1
  | .edge :: log => size log + 1

theorem size_put_le (t : Text) (log : Log) : size (put t log) ≤ t.length + 1 + size log := by
  rw [put]
  split
  · omega
  · exact Nat.le_refl _

theorem size_closeLine_le (log : Log) : size (closeLine log) ≤ size log := by
  induction log with
  | nil => exact Nat.le_refl _
  | cons m log ih =>
    cases m with
    | text t =>
      have hlength := (sublist_trimEnd (· == ' ') t).length_le
      exact (size_put_le _ log).trans (by rw [size, dropTrailingSpaces]; omega)
    | lineEnd | object => exact Nat.le_refl _
    | edge => exact Nat.succ_le_succ ih

theorem size_settle_le (log : Log) : size (settle log) ≤ size log := by
  induction log with
  | nil => exact Nat.le_refl _
  | cons m log ih =>
    cases m with
    | text t =>
      have hlength := length_squeezeAfter_le (dropsSpace (settle log)) t
      exact (size_put_le _ _).trans (by rw [size]; omega)
    | lineEnd => exact Nat.succ_le_succ ((size_closeLine_le _).trans ih)
    | object | edge => exact Nat.succ_le_succ ih

/-- A line that loses anything at its end gets smaller. -/
theorem closeLine_eq_self_of_size_le {log : Log} (h : size log ≤ size (closeLine log)) :
    closeLine log = log := by
  induction log with
  | nil => rfl
  | cons m log ih =>
    cases m with
    | text t =>
      rcases hempty : (dropTrailingSpaces t).isEmpty with _ | _
      · rw [closeLine, put_of_not_isEmpty hempty] at h ⊢
        have hlength : t.length ≤ (dropTrailingSpaces t).length := by
          rw [size, size] at h
          omega
        have htrim : dropTrailingSpaces t = t := (sublist_trimEnd _ t).eq_of_length_le hlength
        rw [htrim]
      · rw [closeLine, put_of_isEmpty hempty, size] at h
        omega
    | lineEnd | object => rfl
    | edge => exact congrArg (.edge :: ·) (ih (Nat.le_of_succ_le_succ h))

/-- A line loses nothing at its end if its text does not end in a space. -/
theorem closeLine_eq_self_iff {log : Log} (h : log.IsSqueezed) :
    closeLine log = log ↔ Text.endsWith ' ' (openText log) = false := by
  induction log with
  | nil => exact ⟨fun _ => rfl, fun _ => rfl⟩
  | cons m log ih =>
    cases m with
    | text t =>
      have hne : t.isEmpty = false := List.isEmpty_eq_false_iff.mpr h.1
      rw [openText, hne, if_neg Bool.false_ne_true, closeLine]
      constructor
      · intro hclosed
        rcases hempty : (dropTrailingSpaces t).isEmpty with _ | _
        · rw [put_of_not_isEmpty hempty, List.cons.injEq, Meeting.text.injEq] at hclosed
          rw [← hclosed.1, endsWith_dropTrailingSpaces]
        · rw [put_of_isEmpty hempty] at hclosed
          exact absurd hclosed.symm (List.cons_ne_self _ _)
      · intro hend
        rw [dropTrailingSpaces_of_not_endsWith hend, put_of_not_isEmpty hne]
    | lineEnd | object => exact ⟨fun _ => rfl, fun _ => rfl⟩
    | edge =>
      rw [closeLine, openText, List.cons.injEq, ih h]
      exact and_iff_right rfl

/-- What is settled with something after it is settled. -/
theorem settle_eq_self_of_cons {m : Meeting} {log : Log} (h : settle (m :: log) = m :: log) :
    settle log = log := by
  cases m with
  | text t =>
    rw [settle, put] at h
    split at h
    · have hsize := size_settle_le log
      rw [h, size] at hsize
      omega
    · exact (List.cons.inj h).2
  | lineEnd =>
    have hclosed : closeLine (settle log) = log := (List.cons.inj h).2
    have hsize := size_settle_le log
    rw [← closeLine_eq_self_of_size_le (hsize.trans_eq (congrArg size hclosed.symm)), hclosed]
  | object | edge => exact (List.cons.inj h).2

/-- **A squeezed log is settled** if and only if its lines end tight. -/
theorem settle_eq_self_iff {log : Log} (h : log.IsSqueezed) :
    settle log = log ↔ endsTight log = true := by
  induction log with
  | nil => exact ⟨fun _ => rfl, fun _ => rfl⟩
  | cons m log ih =>
    cases m with
    | text t =>
      rw [endsTight, ← ih h.2.2]
      refine ⟨settle_eq_self_of_cons, fun hlog => ?_⟩
      rw [settle, hlog, h.2.1, put_of_not_isEmpty (List.isEmpty_eq_false_iff.mpr h.1)]
    | lineEnd =>
      have hlog : IsSqueezed log := h
      rw [endsTight, Bool.and_eq_true, ← ih hlog, Bool.not_eq_true', ← closeLine_eq_self_iff hlog]
      constructor
      · intro hsettled
        have hrest := settle_eq_self_of_cons hsettled
        rw [settle, hrest] at hsettled
        exact ⟨(List.cons.inj hsettled).2, hrest⟩
      · rintro ⟨hclosed, hrest⟩
        rw [settle, hrest, hclosed]
    | object | edge =>
      rw [endsTight, ← ih h]
      exact ⟨settle_eq_self_of_cons, fun hlog => by rw [settle, hlog]⟩

/-! ## Texts that are apart -/

/-- The latest text that is not empty ends in spacing, and nothing but texts comes after it. -/
def afterSpacing : Log → Bool
  | [] => false
  | .text t :: log => if t.isEmpty then afterSpacing log else runAfter false t
  | .lineEnd :: _ => false
  | .object :: _ => false
  | .edge :: _ => false

/-- No text of spacing comes right after a text that ends in spacing. -/
def isApart : Log → Bool
  | [] => true
  | .text t :: log => !(!t.isEmpty && t.all isSpacing && afterSpacing log) && isApart log
  | .lineEnd :: log => isApart log
  | .object :: log => isApart log
  | .edge :: log => isApart log

theorem endsTight_closeLine (log : Log) : endsTight (closeLine log) = endsTight log := by
  induction log with
  | nil => rfl
  | cons m log ih =>
    cases m with
    | text t =>
      rw [closeLine, put]
      split <;> rfl
    | lineEnd | object => rfl
    | edge => exact ih

/-- A space that is kept after a space is kept after a text that ends in spacing. -/
theorem afterSpacing_of_keepsSpace {log : Log} (hkeeps : keepsSpace (settle log) = true)
    (hend : Text.endsWith ' ' (openText (settle log)) = true) : afterSpacing log = true := by
  induction log with
  | nil => cases hkeeps
  | cons m log ih =>
    cases m with
    | text value =>
      have hrun := runAfter_eq (dropsSpace (settle log)) value
      rcases hempty : (squeezeAfter (dropsSpace (settle log)) value).isEmpty with _ | _
      · rw [settle, put_of_not_isEmpty hempty, openText, hempty, if_neg Bool.false_ne_true] at hend
        rw [hempty, if_neg Bool.false_ne_true, hend] at hrun
        rcases value with _ | ⟨c, value⟩
        · cases hempty
        · exact hrun
      · rw [settle, put_of_isEmpty hempty] at hkeeps hend
        have hdrops : dropsSpace (settle log) = false := by
          rw [dropsSpace, hkeeps, Bool.not_true, Bool.and_false]
        rw [hdrops, List.isEmpty_iff] at hempty
        rw [eq_nil_of_squeeze hempty]
        exact ih hkeeps hend
    | lineEnd | object => cases hend
    | edge =>
      rw [settle, keepsSpace, Bool.and_eq_true, List.isEmpty_iff] at hkeeps
      rw [settle, openText, hkeeps.2] at hend
      cases hend

/-- **Where texts are apart**, no line that ends in a settled log leaves a space before its end. -/
theorem endsWith_openText_closeLine {log : Log} (h : isApart log = true) :
    Text.endsWith ' ' (openText (closeLine (settle log))) = false := by
  induction log with
  | nil => rfl
  | cons m log ih =>
    cases m with
    | text value =>
      rw [isApart, Bool.and_eq_true, Bool.not_eq_true'] at h
      have hall := dropTrailingSpaces_squeezeAfter_isEmpty (dropsSpace (settle log)) value
      rcases hempty : (squeezeAfter (dropsSpace (settle log)) value).isEmpty with _ | _
      · rw [settle, put_of_not_isEmpty hempty, closeLine, put]
        split
        · next hgone =>
          -- Spacing that is not dropped here: so there is no space before it, or one of a text.
          rw [hall] at hgone
          have hdrops : dropsSpace (settle log) = false := by
            rcases squeezeAfter_of_all hgone (dropsSpace (settle log)) with hnil | ⟨hdrops, _⟩
            · rw [hnil] at hempty
              cases hempty
            · exact hdrops
          have hne : value.isEmpty = false := by
            rcases value with _ | _
            · cases hempty
            · rfl
          rw [hne, hgone, Bool.not_false, Bool.true_and, Bool.true_and] at h
          by_contra hend
          rw [Bool.not_eq_false] at hend
          rw [dropsSpace, hend, Bool.or_true, Bool.true_and, Bool.not_eq_false'] at hdrops
          rw [afterSpacing_of_keepsSpace hdrops hend] at h
          cases h.1
        · next hleft => rw [openText, if_neg hleft, endsWith_dropTrailingSpaces]
      · rw [settle, put_of_isEmpty hempty]
        exact ih h.2
    | lineEnd | object => rfl
    | edge => exact ih h

/-- **The lines of a settled log end tight** where texts are apart. -/
theorem endsTight_settle {log : Log} (h : isApart log = true) : endsTight (settle log) = true := by
  induction log with
  | nil => rfl
  | cons m log ih =>
    cases m with
    | text value =>
      rw [isApart, Bool.and_eq_true] at h
      rw [settle, put]
      split
      · exact ih h.2
      · exact ih h.2
    | lineEnd =>
      have hlog : isApart log = true := h
      rw [settle, endsTight, endsWith_openText_closeLine hlog, endsTight_closeLine, ih hlog]
      rfl
    | object | edge => exact ih h

end Log

/-! ## Collapsing once more -/

mutual

theorem resettleNode_metTextsOf (pre : String → Bool) : ∀ n : Node,
    (∀ t ∈ metTextsOf pre n, t ≠ []) → (resettleNode pre n (metTextsOf pre n)).1 = [n]
  | .element name attributes children, h => by
    rw [metTextsOf] at h ⊢
    rw [resettleNode]
    split at h
    · next hpre => rw [if_pos hpre]
    · next hpre =>
      simp only [if_neg hpre, resettle_metTexts pre children h]
  | .string kind value, h => by
    rw [metTextsOf] at h ⊢
    split at h
    · next hk =>
      have hne : value.isEmpty = false :=
        List.isEmpty_eq_false_iff.mpr (h value List.mem_cons_self)
      rw [if_pos hk, resettleNode, if_pos hk]
      dsimp only
      rw [hne, if_neg Bool.false_ne_true]
    · next hk =>
      rw [if_neg hk, resettleNode.eq_def]
      simp only [if_neg hk]

/-- Nodes whose own texts are put back are as they were. -/
theorem resettle_metTexts (pre : String → Bool) : ∀ ns : List Node,
    (∀ t ∈ metTexts pre ns, t ≠ []) → (resettle pre ns (metTexts pre ns)).1 = ns
  | [], _ => rfl
  | n :: rest, h => by
    rw [metTexts] at h ⊢
    rw [resettle_cons_append rfl,
      resettleNode_metTextsOf pre n fun t ht => h t (List.mem_append_left _ ht),
      resettle_metTexts pre rest fun t ht => h t (List.mem_append_right _ ht)]
    rfl

end

section Collapse

variable (block pre : String → Bool)

theorem filterMap_logOf (ns : List Node) :
    (logOf block pre ns).filterMap Meeting.text? = (metTexts pre ns).reverse := by
  rw [logOf, List.filterMap_cons_none rfl, List.filterMap_reverse, filterMap_meetings]

/-- **A collapse changes nothing** if and only if it leaves the log as it is. -/
theorem collapseNodes_eq_self_iff (ns : List Node) :
    collapseNodes block pre ns = ns ↔ (logOf block pre ns).settle = logOf block pre ns := by
  rw [← logOf_collapseNodes]
  refine ⟨congrArg (logOf block pre), fun hlog => ?_⟩
  have hlength := (lighter_settledTexts block pre ns).length_eq
  have hmet : metTexts pre (collapseNodes block pre ns) = metTexts pre ns := by
    have htexts := congrArg (List.filterMap Meeting.text?) hlog
    rwa [filterMap_logOf, filterMap_logOf, List.reverse_inj] at htexts
  have hfilter : (settledTexts block pre ns).filter (fun t => !t.isEmpty) = metTexts pre ns := by
    rw [← hmet, collapseNodes, metTexts_resettle pre ns hlength]
  have hsettled : settledTexts block pre ns = metTexts pre ns := by
    rw [← hfilter]
    exact (List.filter_sublist.eq_of_length (by rw [hfilter, hlength])).symm
  rw [collapseNodes, hsettled]
  refine resettle_metTexts pre ns fun t ht => ?_
  rw [← hfilter, List.mem_filter, Bool.not_eq_true', List.isEmpty_eq_false_iff] at ht
  exact ht.2

theorem collapse_withNodes_collapse (p : Place) :
    (p.withNodes (p.collapse block pre)).collapse block pre =
      if pre p.tagName then p.nodes
      else collapseNodes block pre (collapseNodes block pre p.nodes) := by
  have hroot : ∀ q : Place, (∀ ns, (q.withNodes ns).tagName = q.tagName) →
      (q.withNodes (q.collapse block pre)).collapse block pre =
        if pre q.tagName then q.nodes
        else collapseNodes block pre (collapseNodes block pre q.nodes) := by
    intro q htag
    rw [Place.collapse, htag, Place.nodes_withNodes, Place.collapse]
    split <;> rfl
  have hempty : ∀ q : Place, q.nodes = [] → q.collapse block pre = [] := by
    intro q hq
    rw [Place.collapse, hq]
    split <;> rfl
  rcases p with ns | ⟨⟨name, attributes, children⟩ | ⟨kind, value⟩, before, after, outside⟩
  · exact hroot _ fun _ => rfl
  · exact hroot _ fun _ => rfl
  · rw [hempty (.node (.string kind value) before after outside) rfl,
      hempty _ (Place.nodes_withNodes _ _)]
    split <;> rfl

/-- **Collapsing once more** changes nothing if and only if the place is preformatted or no line
below it is left with a space at its end. So it is where no text of spacing comes right after a text
that ends in spacing, with no more than comments and empty texts between them. -/
theorem collapse_collapse_eq_iff (p : Place) :
    ((p.withNodes (p.collapse block pre)).collapse block pre = p.collapse block pre ↔
      pre p.tagName = true ∨ (logOf block pre (p.collapse block pre)).endsTight = true) ∧
    ((logOf block pre p.nodes).isApart = true →
      (p.withNodes (p.collapse block pre)).collapse block pre = p.collapse block pre) := by
  have hiff : (p.withNodes (p.collapse block pre)).collapse block pre = p.collapse block pre ↔
      pre p.tagName = true ∨ (logOf block pre (p.collapse block pre)).endsTight = true := by
    rw [collapse_withNodes_collapse, Place.collapse]
    split
    · next hpre => exact ⟨fun _ => Or.inl hpre, fun _ => rfl⟩
    · next hpre =>
      rw [collapseNodes_eq_self_iff, logOf_collapseNodes, or_iff_right hpre,
        Log.settle_eq_self_iff (Log.isSqueezed_settle _)]
  refine ⟨hiff, fun hapart => hiff.mpr ?_⟩
  by_cases hpre : pre p.tagName = true
  · exact Or.inl hpre
  · refine Or.inr ?_
    rw [Place.collapse, if_neg hpre, logOf_collapseNodes]
    exact Log.endsTight_settle hapart

end Collapse

/-- A paragraph with an image between two texts and a comment between texts that end and begin with
spacing. -/
def imageAndComment : List Node := [
  .element "p" [] [
    .string .plain [' ', 'a', ' '],
    .element "img" [] [],
    .string .plain [' ', 'b', '\n'],
    .string .comment ['c'],
    .string .plain [' ', 'd', ' ']]]

theorem collapse_collapse_imageAndComment :
    (logOf isBlockTag isPreTag (Place.document imageAndComment).nodes).isApart = true ∧
    ((Place.document imageAndComment).withNodes
        ((Place.document imageAndComment).collapse isBlockTag isPreTag)).collapse
          isBlockTag isPreTag =
      (Place.document imageAndComment).collapse isBlockTag isPreTag := by
  have hapart : (logOf isBlockTag isPreTag (Place.document imageAndComment).nodes).isApart = true := by
    decide
  exact ⟨hapart, (collapse_collapse_eq_iff isBlockTag isPreTag _).2 hapart⟩

/-- A paragraph with an image, and after it a text that ends in a space and a text that is one. -/
def imageBeforeSpaces : List Node := [
  .element "p" [] [
    .element "img" [] [],
    .string .plain ['a', ' '],
    .string .comment ['c'],
    .string .plain [' ']]]

/-- **After an image a space stays at the end of a line** for the next collapse to take away. -/
theorem collapse_collapse_imageBeforeSpaces_ne :
    ((Place.document imageBeforeSpaces).withNodes
        ((Place.document imageBeforeSpaces).collapse isBlockTag isPreTag)).collapse
          isBlockTag isPreTag ≠
      (Place.document imageBeforeSpaces).collapse isBlockTag isPreTag := by
  have hpre : isPreTag (Place.document imageBeforeSpaces).tagName = false := by decide
  rw [collapse_withNodes_collapse, Place.collapse, hpre, if_neg Bool.false_ne_true,
    if_neg Bool.false_ne_true, Ne, collapseNodes_eq_self_iff, logOf_collapseNodes,
    Log.settle_eq_self_iff (Log.isSqueezed_settle _)]
  decide

end HtmlMarkdown
