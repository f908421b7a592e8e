import Mathlib
import HtmlMarkdown.Proofs.Passes
import HtmlMarkdown.Proofs.Scan
import HtmlMarkdown.Proofs.Spacing

/-!
# Lines after a collapse

A collapse is one pass that goes back to the latest text whenever a line ends. It does what a
function does that looks ahead to the end of the line.

* `Mark`, `marks`: the characters and the ends of lines that a walk meets;
* `through_eq_foldl_meet`: the pass meets texts and the ends of lines;
* `settleFrom`, `settled_foldl`: it is a function with lookahead;
* `tighten`: the same on single marks;
* **`marks_collapseNodes`**: the marks of a collapsed forest are the tightened marks.
-/

namespace HtmlMarkdown

/-! ## What a walk meets -/

/-- The lines on both sides of an element with this tag are different ones. -/
def endsLine (tag : String) : Bool := isBlockTag tag || tag == "br"

/-- What a walk meets as far as lines are concerned. -/
inductive Met
  | text (value : Text)
  | lineEnd

/-- A character of a line, or its end. -/
inductive Mark
  | char (c : Char)
  | lineEnd
  deriving DecidableEq

/-- The character of a mark. -/
def Mark.char? : Mark → Option Char
  | char c => some c
  | lineEnd => none

theorem filterMap_char? (t : Text) : (t.map Mark.char).filterMap Mark.char? = t := by
  induction t with
  | nil => rfl
  | cons c t ih => rw [List.map_cons, List.filterMap_cons_some (f := Mark.char?) rfl, ih]

/-- The marks of what is met. -/
def Met.marks : Met → List Mark
  | text value => value.map Mark.char
  | lineEnd => [.lineEnd]

mutual

/-- What a walk through a node meets; it does not go into preformatted text. -/
def metOf : Node → List Met
  | .element name _ children =>
    let inside := if isPreTag (lowerName name) then [] else metIn children
    if endsLine (lowerName name) then .lineEnd :: (inside ++ [.lineEnd]) else inside
  | .string kind value => if kind.isText then [.text value] else []

/-- What a walk through nodes meets. -/
def metIn : List Node → List Met
  | [] => []
  | n :: rest => metOf n ++ metIn rest

end

/-- The marks of a node. -/
def marksOf (n : Node) : List Mark := (metOf n).flatMap Met.marks

/-- The marks of nodes, one after another. -/
def marks (ns : List Node) : List Mark := (metIn ns).flatMap Met.marks

@[simp] theorem marks_nil : marks [] = [] := rfl

@[simp] theorem marks_cons (n : Node) (rest : List Node) :
    marks (n :: rest) = marksOf n ++ marks rest := by
  rw [marks, metIn, List.flatMap_append]
  rfl

@[simp] theorem marks_append (a b : List Node) : marks (a ++ b) = marks a ++ marks b := by
  induction a with
  | nil => rfl
  | cons n a ih => rw [List.cons_append, marks_cons, marks_cons, ih, List.append_assoc]

theorem marksOf_element (name : String) (attributes : Attributes) (children : List Node) :
    marksOf (.element name attributes children) =
      let inside := if isPreTag (lowerName name) then [] else marks children
      if endsLine (lowerName name) then .lineEnd :: (inside ++ [.lineEnd]) else inside := by
  rw [marksOf, metOf]
  by_cases hpre : isPreTag (lowerName name) = true <;>
    by_cases hend : endsLine (lowerName name) = true <;>
    simp [hpre, hend, marks, Met.marks]

theorem marksOf_string (kind : StringKind) (value : Text) :
    marksOf (.string kind value) = if kind.isText then value.map Mark.char else [] := by
  rw [marksOf, metOf]
  split <;> simp [Met.marks]

/-! ## The pass as a function with lookahead -/

/-- Nothing but spacing comes before the end of the line. -/
def restIsBlank : List Met → Bool
  | [] => true
  | .lineEnd :: _ => true
  | .text t :: ms => t.all isSpacing && restIsBlank ms

/-- The texts that are met, squeezed: without spacing at the start of a line, after a space, or
before the end of a line. -/
def settleFrom : (isInRun : Bool) → List Met → List Text
  | _, [] => []
  | _, .lineEnd :: ms => settleFrom true ms
  | isInRun, .text t :: ms =>
    (if restIsBlank ms then dropTrailingSpaces (squeezeAfter isInRun t)
      else squeezeAfter isInRun t) :: settleFrom (runAfter isInRun t) ms

namespace Scan

variable {s : Scan}

/-- The pass meets a text or the end of a line. -/
def meet (s : Scan) : Met → Scan
  | .text value => s.meetText value
  | .lineEnd => s.endLine

/-- The texts of a pass, of which the latest one loses its trailing spaces if the line has no more
than spacing to come. -/
def textsBefore (s : Scan) (ms : List Met) : List Text :=
  if s.isOpen && restIsBlank ms then changeLatest dropTrailingSpaces s.texts else s.texts

theorem changeLatest_of_not_endsWith {ts : List Text} (h : Text.endsWith ' ' (latest ts) = false) :
    changeLatest dropTrailingSpaces ts = ts := by
  induction ts with
  | nil => rfl
  | cons t ts ih =>
    rw [latest] at h
    rw [changeLatest]
    split at h
    · next ht => rw [if_pos ht, ih h]
    · next ht => rw [if_neg ht, dropTrailingSpaces_of_not_endsWith h]

theorem meetText_eq (value : Text) : s.meetText value =
    { s with
      texts := squeezeAfter s.dropsLeading value :: s.texts
      isOpen := s.isOpen || !(squeezeAfter s.dropsLeading value).isEmpty } := by
  rw [meetText, squeezeAfter_eq]

/-- A text leaves the pass in a run of spacing or not. -/
theorem dropsLeading_meetText (hs : s.keepsLeading = false) (value : Text) :
    (s.meetText value).dropsLeading = runAfter s.dropsLeading value := by
  rw [runAfter_eq, meetText_eq, dropsLeading]
  simp only [hs, Bool.not_false, Bool.and_true, latest]
  by_cases h : (squeezeAfter s.dropsLeading value).isEmpty = true
  · rw [if_pos h, if_pos h, h, dropsLeading, hs]
    simp
  · rw [if_neg h, if_neg h]
    simp only [Bool.not_eq_true] at h
    simp [h]

/-- A text at which a run of spacing stands alone changes nothing before it. -/
theorem textsBefore_meetText (hs : s.keepsLeading = false) (value : Text) (ms : List Met) :
    (s.meetText value).textsBefore ms =
      (if restIsBlank ms then dropTrailingSpaces (squeezeAfter s.dropsLeading value)
        else squeezeAfter s.dropsLeading value) :: s.textsBefore (.text value :: ms) := by
  rw [meetText_eq, textsBefore, textsBefore, restIsBlank]
  generalize hd : s.dropsLeading = d
  rcases ht : squeezeAfter d value with _ | ⟨c, t⟩
  · -- the text goes: what comes before it is still the latest
    rw [all_of_squeezeAfter_eq_nil ht]
    by_cases hrest : restIsBlank ms = true
    · by_cases hopen : s.isOpen = true <;> simp [hrest, hopen, changeLatest, dropTrailingSpaces,
        Text.trimEnd]
    · simp [hrest]
  · by_cases hrest : restIsBlank ms = true
    · by_cases hvalue : value.all isSpacing = true
      · -- one space is left of the text, and none stands before it
        have hrun : d = false := by
          by_contra hrun
          rw [Bool.not_eq_false] at hrun
          rw [hrun, squeezeAfter_eq_nil_of_all hvalue] at ht
          cases ht
        have hlatest : Text.endsWith ' ' (latest s.texts) = false := by
          rw [dropsLeading, hs, hrun] at hd
          simp only [Bool.not_false, Bool.and_true, Bool.or_eq_false_iff] at hd
          exact hd.2
        simp [hrest, hvalue, changeLatest, changeLatest_of_not_endsWith hlatest]
      · simp [hrest, hvalue, changeLatest]
    · simp [hrest]

theorem keepsLeading_meet (hs : s.keepsLeading = false) (m : Met) :
    (s.meet m).keepsLeading = false := by
  cases m with
  | text value => rw [meet, meetText_eq, hs]
  | lineEnd => rfl

theorem keepsLeading_foldl (hs : s.keepsLeading = false) (ms : List Met) :
    (ms.foldl meet s).keepsLeading = false := by
  induction ms generalizing s with
  | nil => exact hs
  | cons m ms ih => exact ih (keepsLeading_meet hs m)

/-- **The pass is a function with lookahead.** -/
theorem settled_foldl (ms : List Met) (hs : s.keepsLeading = false) :
    (ms.foldl meet s).settled =
      (s.textsBefore ms).reverse ++ settleFrom s.dropsLeading ms := by
  induction ms generalizing s with
  | nil =>
    rw [List.foldl_nil, settled, textsBefore, restIsBlank, Bool.and_true, settleFrom,
      List.append_nil]
  | cons m ms ih =>
    rw [List.foldl_cons, ih (keepsLeading_meet hs m)]
    cases m with
    | lineEnd => simp [meet, endLine, textsBefore, restIsBlank, settleFrom, dropsLeading]
    | text value =>
      rw [meet, textsBefore_meetText hs, dropsLeading_meetText hs, settleFrom, List.reverse_cons,
        List.append_assoc, List.singleton_append]

theorem endLine_endLine (s : Scan) : s.endLine.endLine = s.endLine := by
  simp [endLine]

/-- Void elements end a line. -/
abbrev VoidEndsLine (n : Node) : Prop := n.isVoid = true → endsLine n.tagName = true

theorem meetElement_of_endsLine {tag : String} (h : endsLine tag = true) :
    s.meetElement isBlockTag isPreTag tag = s.endLine := by
  rw [meetElement]
  exact if_pos h

theorem isBlockTag_of_isPreTag {tag : String} (h : isPreTag tag = true) : isBlockTag tag = true := by
  rw [beq_iff_eq.mp h]
  decide

theorem isPreTag_of_not_endsLine {tag : String} (h : endsLine tag = false) :
    isPreTag tag = false := by
  by_contra hpre
  rw [Bool.not_eq_false] at hpre
  rw [endsLine, isBlockTag_of_isPreTag hpre] at h
  cases h

theorem meetElement_of_not_endsLine {tag : String} (h : endsLine tag = false)
    (hvoid : isVoidTag tag = false) (hs : s.keepsLeading = false) :
    s.meetElement isBlockTag isPreTag tag = s := by
  have hpre := isPreTag_of_not_endsLine h
  have hor : (isBlockTag tag || tag == "br") = false := h
  rw [meetElement, hor, hvoid, hpre, Bool.or_false, if_neg Bool.false_ne_true,
    if_neg Bool.false_ne_true]
  split
  · next hopen =>
    rcases s with ⟨texts, isOpen, keepsLeading⟩
    cases hs
    rfl
  · rfl

/-- **The pass meets what a walk meets**: an element within a line changes nothing. -/
theorem through_eq_foldl_meet : ∀ (ns : List Node) (s : Scan), Everywhere VoidEndsLine ns →
    s.keepsLeading = false → through isBlockTag isPreTag ns s = (metIn ns).foldl meet s
  | [], _, _, _ => rfl
  | .element name attributes children :: rest, s, h, hs => by
    rw [through_element, metIn, List.foldl_append, metOf,
      ← through_eq_foldl_meet rest _ h.2 (keepsLeading_foldl hs _)]
    congr 1
    rcases hend : endsLine (lowerName name) with _ | _
    · have hvoid : isVoidTag (lowerName name) = false := by
        by_contra hvoid
        rw [Bool.not_eq_false] at hvoid
        rw [show endsLine (lowerName name) = true from h.1.1 hvoid] at hend
        cases hend
      rw [isPreTag_of_not_endsLine hend, if_neg Bool.false_ne_true, if_neg Bool.false_ne_true,
        if_neg Bool.false_ne_true, meetElement_of_not_endsLine hend hvoid hs,
        through_eq_foldl_meet children s h.1.2 hs,
        meetElement_of_not_endsLine hend hvoid (keepsLeading_foldl hs _)]
    · rw [if_pos rfl, List.foldl_cons, List.foldl_append, List.foldl_cons, List.foldl_nil,
        meetElement_of_endsLine hend, meetElement_of_endsLine hend]
      split
      · exact (endLine_endLine s).symm
      · rw [through_eq_foldl_meet children s.endLine h.1.2 rfl]
        rfl
  | .string kind value :: rest, s, h, hs => by
    rw [through_string, metIn, List.foldl_append, metOf]
    split
    · exact through_eq_foldl_meet rest _ h.2 (keepsLeading_meet hs (.text value))
    · exact through_eq_foldl_meet rest s h.2 hs

end Scan

theorem settledTexts_eq {ns : List Node} (h : Everywhere Scan.VoidEndsLine ns) :
    settledTexts isBlockTag isPreTag ns = settleFrom true (metIn ns) := by
  rw [settledTexts_eq_through, Scan.through_eq_foldl_meet ns {} h rfl]
  exact Scan.settled_foldl (metIn ns) rfl

/-- A collapse puts back what the function with lookahead makes of what is met. -/
theorem collapseNodes_eq {ns : List Node} (h : Everywhere Scan.VoidEndsLine ns) :
    collapseNodes isBlockTag isPreTag ns =
      (resettle isPreTag ns (settleFrom true (metIn ns))).1 := by
  rw [collapseNodes, settledTexts_eq h]

/-! ## Single marks -/

/-- No character but spacing comes before the end of the line. -/
def isRestBlank : List Mark → Bool
  | [] => true
  | .lineEnd :: _ => true
  | .char c :: ms => isSpacing c && isRestBlank ms

/-- Lines with one space for every run of spacing, and none at their ends. -/
def tighten : (isInRun : Bool) → List Mark → List Mark
  | _, [] => []
  | _, .lineEnd :: ms => .lineEnd :: tighten true ms
  | isInRun, .char c :: ms =>
    if isSpacing c then
      if isInRun || isRestBlank ms then tighten true ms else .char ' ' :: tighten true ms
    else .char c :: tighten false ms

/-- The marks of what is met when other texts take the places of the texts. -/
def marksWith : List Met → List Text → List Mark
  | [], _ => []
  | .lineEnd :: ms, ts => .lineEnd :: marksWith ms ts
  | .text t :: ms, [] => t.map Mark.char ++ marksWith ms []
  | .text _ :: ms, t :: ts => t.map Mark.char ++ marksWith ms ts

theorem isRestBlank_append (t : Text) (ms : List Mark) :
    isRestBlank (t.map Mark.char ++ ms) = (t.all isSpacing && isRestBlank ms) := by
  induction t with
  | nil => rfl
  | cons c t ih => rw [List.map_cons, List.cons_append, isRestBlank, ih, List.all_cons, Bool.and_assoc]

theorem isRestBlank_marks (ms : List Met) :
    isRestBlank (ms.flatMap Met.marks) = restIsBlank ms := by
  induction ms with
  | nil => rfl
  | cons m ms ih =>
    cases m with
    | text t => rw [List.flatMap_cons, Met.marks, isRestBlank_append, ih, restIsBlank]
    | lineEnd => rfl

/-- A text of a line is tightened as it is settled. -/
theorem tighten_append (isInRun : Bool) (t : Text) (ms : List Mark) :
    tighten isInRun (t.map Mark.char ++ ms) =
      (if isRestBlank ms then dropTrailingSpaces (squeezeAfter isInRun t)
        else squeezeAfter isInRun t).map Mark.char ++ tighten (runAfter isInRun t) ms := by
  induction t generalizing isInRun with
  | nil => cases isRestBlank ms <;> rfl
  | cons c t ih =>
    rw [List.map_cons, List.cons_append, tighten, isRestBlank_append, runAfter, squeezeAfter]
    by_cases hc : isSpacing c = true
    · simp only [hc, if_true, ih true]
      cases isInRun
      · have hempty := dropTrailingSpaces_squeezeAfter_isEmpty true t
        rcases ht : t.all isSpacing with _ | _
        · rw [ht] at hempty
          cases isRestBlank ms <;>
            simp_all [dropTrailingSpaces, trimEnd_cons]
        · rw [squeezeAfter_eq_nil_of_all ht]
          cases isRestBlank ms <;> simp [dropTrailingSpaces, Text.trimEnd]
      · rfl
    · have hne : (c == ' ') = false := beq_eq_false_iff_ne.mpr (not_isSpacing_ne_space hc)
      simp only [Bool.not_eq_true] at hc
      simp only [hc, Bool.false_eq_true, if_false, ih false]
      cases isRestBlank ms <;> simp [dropTrailingSpaces, trimEnd_cons, hne]

theorem marksWith_settleFrom (isInRun : Bool) (ms : List Met) :
    marksWith ms (settleFrom isInRun ms) = tighten isInRun (ms.flatMap Met.marks) := by
  induction ms generalizing isInRun with
  | nil => rfl
  | cons m ms ih =>
    cases m with
    | lineEnd => rw [settleFrom, marksWith, ih, List.flatMap_cons]; rfl
    | text t =>
      rw [settleFrom, marksWith, ih, List.flatMap_cons, Met.marks, tighten_append,
        isRestBlank_marks]

/-! ## The tree with its texts replaced -/

/-- The text that is met. -/
def Met.text? : Met → Option Text
  | text value => some value
  | lineEnd => none

mutual

theorem filterMap_metOf : ∀ n : Node, (metOf n).filterMap Met.text? = metTextsOf isPreTag n
  | .element name _ children => by
    rw [metOf, metTextsOf]
    by_cases hpre : isPreTag (lowerName name) = true
    · simp only [hpre, if_true]
      split <;> rfl
    · simp only [hpre, Bool.false_eq_true, if_false, ← filterMap_metIn children]
      split
      · rw [List.filterMap_cons_none rfl, List.filterMap_append, List.filterMap_cons_none rfl,
          List.filterMap_nil, List.append_nil]
      · rfl
  | .string kind value => by
    rw [metOf, metTextsOf]
    split <;> rfl

theorem filterMap_metIn : ∀ ns : List Node, (metIn ns).filterMap Met.text? = metTexts isPreTag ns
  | [] => rfl
  | n :: rest => by
    rw [metIn, metTexts, List.filterMap_append, filterMap_metOf n, filterMap_metIn rest]

end

theorem marksWith_append {a b : List Met} {us us' : List Text}
    (h : us.length = (a.filterMap Met.text?).length) :
    marksWith (a ++ b) (us ++ us') = marksWith a us ++ marksWith b us' := by
  induction a generalizing us with
  | nil => rw [List.length_eq_zero_iff.mp h]; rfl
  | cons m a ih =>
    cases m with
    | lineEnd => rw [List.cons_append, marksWith, marksWith, ih h, List.cons_append]
    | text t =>
      rcases us with _ | ⟨u, us⟩
      · cases h
      · rw [List.cons_append, List.cons_append, marksWith, marksWith,
          ih (Nat.succ.inj h), List.append_assoc]

mutual

theorem marks_resettleNode : ∀ (n : Node) {ts : List Text},
    ts.length = (metTextsOf isPreTag n).length →
    marks (resettleNode isPreTag n ts).1 = marksWith (metOf n) ts
  | .element name attributes children, ts, h => by
    rw [metTextsOf] at h
    rw [resettleNode, metOf]
    by_cases hpre : isPreTag (lowerName name) = true
    · rw [if_pos hpre] at h
      rw [List.length_eq_zero_iff.mp h]
      simp only [hpre, if_true, marks_cons, marks_nil, marksOf_element, List.append_nil]
      split <;> rfl
    · rw [if_neg hpre] at h
      have hinside := marks_resettle children h
      simp only [hpre, Bool.false_eq_true, if_false, marks_cons, marks_nil, marksOf_element,
        List.append_nil, hinside]
      split
      · have hlength : ts.length = ((metIn children).filterMap Met.text?).length := by
          rw [filterMap_metIn, h]
        have happend : marksWith (metIn children ++ [.lineEnd]) (ts ++ []) =
            marksWith (metIn children) ts ++ marksWith [.lineEnd] [] := marksWith_append hlength
        rw [List.append_nil] at happend
        rw [marksWith, happend]
        rfl
      · rfl
  | .string kind value, ts, h => by
    rw [metTextsOf] at h
    rw [metOf]
    split at h
    · next hk =>
      obtain ⟨t, rfl⟩ := List.length_eq_one_iff.mp h
      rw [if_pos hk, resettleNode, if_pos hk]
      rcases t with _ | ⟨c, t⟩
      · rfl
      · simp [marksOf_string, hk, marksWith]
    · next hk =>
      rw [List.length_eq_zero_iff.mp h, resettleNode.eq_def]
      simp [marksOf_string, hk, marksWith]

theorem marks_resettle : ∀ (ns : List Node) {ts : List Text},
    ts.length = (metTexts isPreTag ns).length →
    marks (resettle isPreTag ns ts).1 = marksWith (metIn ns) ts
  | [], ts, h => by
    rw [List.length_eq_zero_iff.mp h]
    rfl
  | n :: rest, ts, h => by
    rw [metTexts, List.length_append] at h
    obtain ⟨us, us', rfl, hu, hu'⟩ := exists_append_of_length_eq h
    rw [resettle_cons_append hu, marks_append, marks_resettleNode n hu, marks_resettle rest hu',
      metIn, marksWith_append (by rw [filterMap_metOf, hu])]

end

/-- **The marks of a collapsed forest are the tightened marks**, if all void elements in it end a
line. -/
theorem marks_collapseNodes {ns : List Node} (h : Everywhere Scan.VoidEndsLine ns) :
    marks (collapseNodes isBlockTag isPreTag ns) = tighten true (marks ns) := by
  have hlength := (lighter_settledTexts isBlockTag isPreTag ns).length_eq
  rw [collapseNodes, marks_resettle ns hlength, settledTexts_eq h, marksWith_settleFrom, marks]

end HtmlMarkdown
