import Mathlib
import HtmlMarkdown.Proofs.Segment

/-!
# The log of a collapse

What the pass over a forest meets makes up a log. The collapsed forest has the same log, but for its
texts: each of them depends on no more than the settled log before it, and loses its trailing spaces
where its line ends.

* `Meeting`, `meetings`, `Scan.through_eq_foldl_encounter`: what the pass meets;
* `Log`, `Scan.after`, `logOf`: what it has met, and what it knows after that;
* `Log.withTexts`, `meetings_resettle`: a log with other texts in it;
* `Log.settle`, `Scan.tracks_after`: the settled log, and what the pass knows of it;
* **`logOf_collapseNodes`**.
-/

namespace HtmlMarkdown

/-! ## What the pass meets -/

/-- What the pass meets: a text, the end of a line, an object within a line, or the edge of an
element within a line. -/
inductive Meeting
  | text (value : Text)
  | lineEnd
  | object
  | edge
  deriving DecidableEq

namespace Meeting

/-- What an element with this tag is to the pass. -/
def ofTag (block pre : String → Bool) (tag : String) : Meeting :=
  if block tag || tag == "br" then .lineEnd
  else if isVoidTag tag || pre tag then .object
  else .edge

/-- The text that is met. -/
def text? : Meeting → Option Text
  | text value => some value
  | _ => none

end Meeting

/-- What the pass has met, the latest first. -/
abbrev Log := List Meeting

section Meetings

variable (block pre : String → Bool)

mutual

/-- What the pass meets at a node; it does not go into elements with a tag in `pre`. -/
def meetingsOf : Node → List Meeting
  | .element name _ children =>
    let here := Meeting.ofTag block pre (lowerName name)
    if pre (lowerName name) then [here] else here :: (meetings children ++ [here])
  | .string kind value => if kind.isText then [.text value] else []

/-- What the pass meets at nodes. -/
def meetings : List Node → List Meeting
  | [] => []
  | n :: rest => meetingsOf n ++ meetings rest

end

theorem meetings_append (a b : List Node) :
    meetings block pre (a ++ b) = meetings block pre a ++ meetings block pre b := by
  induction a with
  | nil => rfl
  | cons n a ih => rw [List.cons_append, meetings, meetings, ih, List.append_assoc]

theorem text?_ofTag (tag : String) : (Meeting.ofTag block pre tag).text? = none := by
  rw [Meeting.ofTag]
  split
  · rfl
  · split <;> rfl

mutual

theorem filterMap_meetingsOf : ∀ n : Node,
    (meetingsOf block pre n).filterMap Meeting.text? = metTextsOf pre n
  | .element name _ children => by
    rw [meetingsOf, metTextsOf]
    have htag := text?_ofTag block pre (lowerName name)
    split
    · rw [List.filterMap_cons_none htag, List.filterMap_nil]
    · rw [List.filterMap_cons_none htag, List.filterMap_append, List.filterMap_cons_none htag,
        List.filterMap_nil, List.append_nil, filterMap_meetings children]
  | .string kind value => by
    rw [meetingsOf, metTextsOf]
    split <;> rfl

theorem filterMap_meetings : ∀ ns : List Node,
    (meetings block pre ns).filterMap Meeting.text? = metTexts pre ns
  | [] => rfl
  | n :: rest => by
    rw [meetings, metTexts, List.filterMap_append, filterMap_meetingsOf n, filterMap_meetings rest]

end

end Meetings

namespace Scan

variable {block pre : String → Bool}

/-- The pass meets something. -/
def encounter (s : Scan) : Meeting → Scan
  | .text value => s.meetText value
  | .lineEnd => s.endLine
  | .object => { s with isOpen := false, keepsLeading := true }
  | .edge => if s.isOpen then { s with keepsLeading := false } else s

theorem meetElement_eq_encounter (s : Scan) (tag : String) :
    s.meetElement block pre tag = s.encounter (.ofTag block pre tag) := by
  rw [meetElement, Meeting.ofTag]
  split
  · rfl
  · split <;> rfl

/-- **The pass over nodes** is what it does with all that it meets there, one after another. -/
theorem through_eq_foldl_encounter : ∀ (ns : List Node) (s : Scan),
    through block pre ns s = (meetings block pre ns).foldl encounter s
  | [], _ => rfl
  | .element name attributes children :: rest, s => by
    rw [through_element, through_eq_foldl_encounter rest, meetings, List.foldl_append, meetingsOf,
      meetElement_eq_encounter]
    congr 1
    split
    · rfl
    · rw [meetElement_eq_encounter, through_eq_foldl_encounter children, List.foldl_cons,
        List.foldl_append]
      rfl
  | .string kind value :: rest, s => by
    rw [through_string, through_eq_foldl_encounter rest, meetings, List.foldl_append, meetingsOf]
    congr 1
    split <;> rfl

/-- What the pass knows after a log of what it has met, the latest first. -/
def after (log : Log) : Scan := log.foldr (fun m s => s.encounter m) {}

theorem after_cons (m : Meeting) (log : Log) :
    after (m :: log) = (after log).encounter m := rfl

end Scan

/-- The log of the whole pass over nodes: at its end a line ends. -/
def logOf (block pre : String → Bool) (ns : List Node) : Log :=
  .lineEnd :: (meetings block pre ns).reverse

theorem settledTexts_eq_after (block pre : String → Bool) (ns : List Node) :
    settledTexts block pre ns = (Scan.after (logOf block pre ns)).texts.reverse := by
  rw [settledTexts_eq_through, Scan.through_eq_foldl_encounter, logOf, Scan.after_cons, Scan.after,
    List.foldr_reverse]
  rfl

/-! ## A log with other texts -/

namespace Log

/-- A log with a text before it, unless the text is empty. -/
def put (t : Text) (log : Log) : Log := if t.isEmpty then log else .text t :: log

/-- What is met when other texts take the places of the texts. -/
def withTexts : Log → List Text → Log
  | [], _ => []
  | .text t :: log, [] => .text t :: withTexts log []
  | .text _ :: log, t :: ts => put t (withTexts log ts)
  | .lineEnd :: log, ts => .lineEnd :: withTexts log ts
  | .object :: log, ts => .object :: withTexts log ts
  | .edge :: log, ts => .edge :: withTexts log ts

theorem put_of_isEmpty {t : Text} (ht : t.isEmpty = true) (log : Log) : put t log = log := by
  rw [put, if_pos ht]

theorem put_of_not_isEmpty {t : Text} (ht : t.isEmpty = false) (log : Log) :
    put t log = .text t :: log := by
  rw [put, ht, if_neg Bool.false_ne_true]

theorem put_append (t : Text) (a b : Log) : put t a ++ b = put t (a ++ b) := by
  rw [put, put]
  split <;> rfl

theorem withTexts_cons {m : Meeting} (hm : m.text? = none) (log : Log) (ts : List Text) :
    withTexts (m :: log) ts = m :: withTexts log ts := by
  cases m with
  | text t => cases hm
  | lineEnd | object | edge => rfl

theorem withTexts_append {a b : Log} {us us' : List Text}
    (h : us.length = (a.filterMap Meeting.text?).length) :
    withTexts (a ++ b) (us ++ us') = withTexts a us ++ withTexts b us' := by
  induction a generalizing us with
  | nil => rw [List.length_eq_zero_iff.mp h]; rfl
  | cons m a ih =>
    rcases hm : m.text? with _ | t
    · rw [List.filterMap_cons_none hm] at h
      rw [List.cons_append, withTexts_cons hm, withTexts_cons hm, ih h, List.cons_append]
    · cases m with
      | text t =>
        rcases us with _ | ⟨u, us⟩
        · cases h
        · rw [List.cons_append, List.cons_append, withTexts, withTexts, ih (Nat.succ.inj h),
            put_append]
      | lineEnd | object | edge => cases hm

theorem withTexts_concat {m : Meeting} (hm : m.text? = none) {log : Log} {ts : List Text}
    (h : ts.length = (log.filterMap Meeting.text?).length) :
    withTexts (log ++ [m]) ts = withTexts log ts ++ [m] := by
  have happend := @withTexts_append log [m] ts [] h
  rwa [List.append_nil, withTexts_cons hm] at happend

theorem withTexts_reverse {log : Log} {ts : List Text}
    (h : ts.length = (log.filterMap Meeting.text?).length) :
    withTexts log.reverse ts.reverse = (withTexts log ts).reverse := by
  induction log generalizing ts with
  | nil => rfl
  | cons m log ih =>
    have hlength : ∀ us : List Text, us.length = (log.filterMap Meeting.text?).length →
        us.reverse.length = (log.reverse.filterMap Meeting.text?).length := fun us hus => by
      rw [List.length_reverse, hus, List.filterMap_reverse, List.length_reverse]
    rcases hm : m.text? with _ | t
    · rw [List.filterMap_cons_none hm] at h
      rw [List.reverse_cons, withTexts_concat hm (hlength ts h), ih h, withTexts_cons hm,
        List.reverse_cons]
    · cases m with
      | text t =>
        rcases ts with _ | ⟨u, ts⟩
        · cases h
        · have hts : ts.length = (log.filterMap Meeting.text?).length := Nat.succ.inj h
          rw [List.reverse_cons, List.reverse_cons, withTexts_append (hlength ts hts), ih hts,
            withTexts, withTexts, withTexts, put, put]
          split
          · rw [List.append_nil]
          · rw [List.reverse_cons]
      | lineEnd | object | edge => cases hm

end Log

section Meetings

variable (block pre : String → Bool)

mutual

theorem meetings_resettleNode : ∀ (n : Node) {ts : List Text},
    ts.length = (metTextsOf pre n).length →
    meetings block pre (resettleNode pre n ts).1 = Log.withTexts (meetingsOf block pre n) ts
  | .element name attributes children, ts, h => by
    have htag := text?_ofTag block pre (lowerName name)
    rw [metTextsOf] at h
    rw [resettleNode, meetingsOf]
    split at h
    · next hpre =>
      rw [if_pos hpre, if_pos hpre, meetings, meetingsOf, if_pos hpre, Log.withTexts_cons htag]
      rfl
    · next hpre =>
      rw [if_neg hpre, if_neg hpre, Log.withTexts_cons htag,
        Log.withTexts_concat htag (by rw [filterMap_meetings, h]), ← meetings_resettle children h]
      simp only [meetings, meetingsOf, if_neg hpre, List.append_nil]
  | .string kind value, ts, h => by
    rw [metTextsOf] at h
    rw [meetingsOf]
    split at h
    · next hk =>
      obtain ⟨t, rfl⟩ := List.length_eq_one_iff.mp h
      rw [if_pos hk, resettleNode, if_pos hk]
      rcases t with _ | ⟨c, t⟩
      · rfl
      · simp [meetings, meetingsOf, hk, Log.withTexts, Log.put]
    · next hk =>
      rw [List.length_eq_zero_iff.mp h, resettleNode.eq_def]
      simp [meetings, meetingsOf, hk, Log.withTexts]

/-- **What is met in nodes with other texts** is what was met, with those texts. -/
theorem meetings_resettle : ∀ (ns : List Node) {ts : List Text},
    ts.length = (metTexts pre ns).length →
    meetings block pre (resettle pre ns ts).1 = Log.withTexts (meetings block pre ns) ts
  | [], ts, h => by
    rw [List.length_eq_zero_iff.mp h]
    rfl
  | n :: rest, ts, h => by
    rw [metTexts, List.length_append] at h
    obtain ⟨us, us', rfl, hu, hu'⟩ := exists_append_of_length_eq h
    rw [resettle_cons_append hu, meetings_append, meetings_resettleNode n hu,
      meetings_resettle rest hu', meetings,
      Log.withTexts_append (by rw [filterMap_meetingsOf, hu])]

end

end Meetings

/-! ## What a collapse makes of the log -/

namespace Log

/-- The latest text in a line that goes on. -/
def openText : Log → Text
  | [] => []
  | .text t :: log => if t.isEmpty then openText log else t
  | .edge :: log => openText log
  | .lineEnd :: _ => []
  | .object :: _ => []

/-- An object protects the space at the head of the next text, up to the first edge of an element
after a text. -/
def keepsSpace : Log → Bool
  | [] => false
  | .text _ :: log => keepsSpace log
  | .edge :: log => keepsSpace log && (openText log).isEmpty
  | .lineEnd :: _ => false
  | .object :: _ => true

/-- A space at the head of the next text adds nothing. -/
def dropsSpace (log : Log) : Bool :=
  ((openText log).isEmpty || Text.endsWith ' ' (openText log)) && !keepsSpace log

/-- The log when the line ends: its latest text loses its trailing spaces. -/
def closeLine : Log → Log
  | [] => []
  | .text t :: log => put (dropTrailingSpaces t) log
  | .edge :: log => .edge :: closeLine log
  | .lineEnd :: log => .lineEnd :: log
  | .object :: log => .object :: log

/-- The log with all texts settled. -/
def settle : Log → Log
  | [] => []
  | .text value :: log => put (squeezeAfter (dropsSpace (settle log)) value) (settle log)
  | .lineEnd :: log => .lineEnd :: closeLine (settle log)
  | .object :: log => .object :: settle log
  | .edge :: log => .edge :: settle log

end Log

namespace Scan

/-- The pass knows of a log what it needs to know. -/
structure Tracks (s : Scan) (log : Log) : Prop where
  isOpen : s.isOpen = !log.openText.isEmpty
  latest : s.isOpen = true → Scan.latest s.texts = log.openText
  keepsLeading : s.keepsLeading = log.keepsSpace

theorem Tracks.dropsLeading {s : Scan} {log : Log} (h : s.Tracks log) :
    s.dropsLeading = log.dropsSpace := by
  rw [Scan.dropsLeading, Log.dropsSpace, h.keepsLeading]
  congr 1
  have hisOpen := h.isOpen
  rcases hempty : log.openText.isEmpty with _ | _
  · rw [hempty] at hisOpen
    rw [h.latest hisOpen, hisOpen]
    rfl
  · rw [hempty] at hisOpen
    rw [hisOpen]
    rfl

/-- The pass knows of the settled log what it needs to know. -/
theorem tracks_after (log : Log) : (after log).Tracks log.settle := by
  induction log with
  | nil => exact ⟨rfl, fun _ => rfl, rfl⟩
  | cons m log ih =>
    rw [after_cons]
    cases m with
    | text value =>
      rw [encounter, meetText_eq, ih.dropsLeading, Log.settle, Log.put]
      split
      · next hempty =>
        refine ⟨?_, fun hisOpen => ?_, ih.keepsLeading⟩
        · rw [hempty, Bool.not_true, Bool.or_false, ih.isOpen]
        · dsimp only at hisOpen ⊢
          rw [hempty, Bool.not_true, Bool.or_false] at hisOpen
          rw [Scan.latest, if_pos hempty, ih.latest hisOpen]
      · next hne =>
        have hopen : Log.openText (.text (squeezeAfter (Log.dropsSpace (Log.settle log)) value) ::
            Log.settle log) = squeezeAfter (Log.dropsSpace (Log.settle log)) value := by
          rw [Log.openText, if_neg hne]
        refine ⟨?_, fun _ => ?_, ih.keepsLeading⟩
        · rw [hopen]
          simp [hne]
        · rw [hopen, Scan.latest, if_neg hne]
    | lineEnd => exact ⟨rfl, fun h => absurd h Bool.false_ne_true, rfl⟩
    | object => exact ⟨rfl, fun h => absurd h Bool.false_ne_true, rfl⟩
    | edge =>
      have hisOpen := ih.isOpen
      rw [encounter, Log.settle]
      split
      · next hopen =>
        rw [hopen, Bool.true_eq, Bool.not_eq_true'] at hisOpen
        refine ⟨ih.isOpen, ih.latest, ?_⟩
        rw [Log.keepsSpace, hisOpen, Bool.and_false]
      · next hclosed =>
        rw [Bool.not_eq_true] at hclosed
        rw [hclosed, Bool.false_eq, Bool.not_eq_false'] at hisOpen
        refine ⟨ih.isOpen, ih.latest, ?_⟩
        rw [Log.keepsSpace, hisOpen, Bool.and_true, ih.keepsLeading]

/-- A line ends in the log as it does in the pass. -/
theorem withTexts_endLine (log : Log) :
    log.withTexts (after log).endLine.texts = (log.withTexts (after log).texts).closeLine := by
  induction log with
  | nil => rfl
  | cons m log ih =>
    rw [after_cons]
    cases m with
    | text value =>
      rw [encounter, meetText_eq, endLine]
      dsimp only
      rcases hempty : (squeezeAfter (after log).dropsLeading value).isEmpty with _ | _
      · rw [Bool.not_false, Bool.or_true, if_pos rfl, changeLatest, hempty,
          if_neg Bool.false_ne_true, Log.withTexts, Log.withTexts, Log.put_of_not_isEmpty hempty,
          Log.closeLine]
      · rw [Bool.not_true, Bool.or_false, changeLatest, if_pos hempty, Log.withTexts,
          Log.put_of_isEmpty hempty, ← ih, endLine]
        dsimp only
        split <;> rw [Log.withTexts, Log.put_of_isEmpty hempty]
    | lineEnd => rfl
    | object => rfl
    | edge =>
      have hedge : ((after log).encounter .edge).endLine.texts = (after log).endLine.texts := by
        rw [encounter]
        split <;> rfl
      have htexts : ((after log).encounter .edge).texts = (after log).texts := by
        rw [encounter]
        split <;> rfl
      rw [hedge, htexts, Log.withTexts, Log.withTexts, ih, Log.closeLine]

/-- **The settled log** is the log with the texts that the pass has after it. -/
theorem withTexts_after (log : Log) : log.withTexts (after log).texts = log.settle := by
  induction log with
  | nil => rfl
  | cons m log ih =>
    rw [after_cons]
    cases m with
    | text value =>
      rw [encounter, meetText_eq, Log.withTexts, Log.settle, ih, (tracks_after log).dropsLeading]
    | lineEnd => rw [encounter, Log.withTexts, withTexts_endLine, ih, Log.settle]
    | object => rw [encounter, Log.withTexts, ih, Log.settle]
    | edge =>
      rw [encounter, Log.withTexts, Log.settle, ← ih]
      split <;> rfl

end Scan

/-- **The log of a collapsed forest** is that of the forest, settled. -/
theorem logOf_collapseNodes (block pre : String → Bool) (ns : List Node) :
    logOf block pre (collapseNodes block pre ns) = (logOf block pre ns).settle := by
  have hlength := (lighter_settledTexts block pre ns).length_eq
  have hreverse : Log.withTexts (meetings block pre ns).reverse (settledTexts block pre ns).reverse =
      (Log.withTexts (meetings block pre ns) (settledTexts block pre ns)).reverse :=
    Log.withTexts_reverse (by rw [filterMap_meetings, hlength])
  have htexts : (settledTexts block pre ns).reverse = (Scan.after (logOf block pre ns)).texts := by
    rw [settledTexts_eq_after, List.reverse_reverse]
  rw [collapseNodes, logOf, meetings_resettle block pre ns hlength, ← hreverse, htexts,
    ← Scan.withTexts_after]
  rfl

end HtmlMarkdown
