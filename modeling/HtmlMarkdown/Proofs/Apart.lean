import Mathlib
import HtmlMarkdown.Proofs.Conversion
import HtmlMarkdown.Proofs.Line

/-!
# Spaces that stand apart

After both passes over white space every space stands between two characters that are none.

* `Mark.isInk`, `Apart`: what may stand beside a space;
* `isChain_tighten`: tightened lines;
* `Spared`, `spared_rebuildNodes`: removing blank nodes takes nothing but spaces away;
* **`isChain_marks_foldedRoot`**: what is folded.
-/

namespace HtmlMarkdown

/-! ## Marks beside a space -/

/-- A character that is no white space. -/
def Mark.isInk : Mark → Bool
  | char c => !isBlank c
  | lineEnd => false

/-- Two marks may stand side by side: if one is a space the other one is ink. -/
def Apart (a b : Mark) : Prop :=
  (a = .char ' ' → b.isInk = true) ∧ (b = .char ' ' → a.isInk = true)

theorem isInk_space : (Mark.char ' ').isInk = false := by decide

theorem apart_of_isInk {a b : Mark} (ha : a.isInk = true) (hb : b.isInk = true) : Apart a b :=
  ⟨fun _ => hb, fun _ => ha⟩

/-- All white space among marks is spacing. -/
def OnlySpacing (ms : List Mark) : Prop :=
  ∀ c, Mark.char c ∈ ms → isBlank c = true → isSpacing c = true

theorem OnlySpacing.tail {m : Mark} {ms : List Mark} (h : OnlySpacing (m :: ms)) :
    OnlySpacing ms := fun c hc => h c (List.mem_cons_of_mem m hc)

theorem OnlySpacing.isInk {c : Char} {ms : List Mark} (h : OnlySpacing (.char c :: ms))
    (hc : ¬ isSpacing c = true) : (Mark.char c).isInk = true := by
  rw [Mark.isInk, Bool.not_eq_true']
  by_contra hblank
  rw [Bool.not_eq_false] at hblank
  exact hc (h c List.mem_cons_self hblank)

/-! ## Tightened lines -/

/-- A line does not start with a space. -/
theorem head_tighten_ne_space (ms : List Mark) : ∀ m ∈ (tighten true ms).head?, m ≠ .char ' ' := by
  induction ms with
  | nil => simp [tighten]
  | cons m ms ih =>
    cases m with
    | lineEnd => simp [tighten]
    | char c =>
      rw [tighten]
      by_cases hc : isSpacing c = true
      · rw [if_pos hc, Bool.true_or, if_pos rfl]
        exact ih
      · rw [if_neg hc]
        simp [not_isSpacing_ne_space hc]

/-- If a line is not over, its next character is ink. -/
theorem head_tighten_isInk {ms : List Mark} (hms : OnlySpacing ms) (h : isRestBlank ms = false) :
    ∀ m ∈ (tighten true ms).head?, m.isInk = true := by
  induction ms with
  | nil => cases h
  | cons m ms ih =>
    cases m with
    | lineEnd => cases h
    | char c =>
      rw [tighten]
      by_cases hc : isSpacing c = true
      · rw [isRestBlank, hc, Bool.true_and] at h
        rw [if_pos hc, Bool.true_or, if_pos rfl]
        exact ih hms.tail h
      · rw [if_neg hc]
        simp [hms.isInk hc]

/-- **In tightened lines the spaces stand apart.** -/
theorem isChain_tighten {ms : List Mark} (hms : OnlySpacing ms) (isInRun : Bool) :
    (tighten isInRun ms).IsChain Apart := by
  induction ms generalizing isInRun with
  | nil => exact List.IsChain.nil
  | cons m ms ih =>
    cases m with
    | lineEnd =>
      rw [tighten]
      refine (ih hms.tail true).cons fun m hm => ⟨fun h => (by cases h), fun hspace => ?_⟩
      exact absurd hspace (head_tighten_ne_space ms m hm)
    | char c =>
      rw [tighten]
      by_cases hc : isSpacing c = true
      · rw [if_pos hc]
        split
        · exact ih hms.tail true
        · next hmore =>
          rw [Bool.or_eq_true, not_or, Bool.not_eq_true, Bool.not_eq_true] at hmore
          refine (ih hms.tail true).cons fun m hm => ?_
          have hink := head_tighten_isInk hms.tail hmore.2 m hm
          refine ⟨fun _ => hink, ?_⟩
          rintro rfl
          rw [isInk_space] at hink
          cases hink
      · rw [if_neg hc]
        refine (ih hms.tail false).cons fun m _ => ⟨fun heq => ?_, fun _ => hms.isInk hc⟩
        exact absurd (Mark.char.inj heq) (not_isSpacing_ne_space hc)

/-- All white space in tightened lines is a space. -/
theorem eq_space_of_mem_tighten {ms : List Mark} (hms : OnlySpacing ms) {isInRun : Bool} {c : Char}
    (hc : .char c ∈ tighten isInRun ms) (hblank : isBlank c = true) : c = ' ' := by
  induction ms generalizing isInRun with
  | nil => cases hc
  | cons m ms ih =>
    cases m with
    | lineEnd =>
      rw [tighten, List.mem_cons] at hc
      exact ih hms.tail (hc.resolve_left fun h => by cases h)
    | char d =>
      rw [tighten] at hc
      by_cases hd : isSpacing d = true
      · rw [if_pos hd] at hc
        split at hc
        · exact ih hms.tail hc
        · rcases List.mem_cons.mp hc with heq | hc
          · exact Mark.char.inj heq
          · exact ih hms.tail hc
      · rw [if_neg hd] at hc
        rcases List.mem_cons.mp hc with heq | hc
        · cases heq
          exact absurd (hms c List.mem_cons_self hblank) hd
        · exact ih hms.tail hc

/-! ## Spaces taken away -/

/-- Marks that are left of others when some spaces are taken away. -/
inductive Spared : List Mark → List Mark → Prop
  | nil : Spared [] []
  | keep (m : Mark) {ms ms' : List Mark} : Spared ms ms' → Spared (m :: ms) (m :: ms')
  | drop {ms ms' : List Mark} : Spared ms ms' → Spared (.char ' ' :: ms) ms'

namespace Spared

theorem refl : ∀ ms : List Mark, Spared ms ms
  | [] => .nil
  | m :: ms => .keep m (refl ms)

theorem append {a a' b b' : List Mark} (h : Spared a a') (h' : Spared b b') :
    Spared (a ++ b) (a' ++ b') := by
  induction h with
  | nil => exact h'
  | keep m _ ih => exact .keep m ih
  | drop _ ih => exact .drop ih

theorem of_spaces {t : Text} (h : ∀ c ∈ t, c = ' ') : Spared (t.map Mark.char) [] := by
  induction t with
  | nil => exact .nil
  | cons c t ih =>
    rw [h c List.mem_cons_self]
    exact .drop (ih fun d hd => h d (List.mem_cons_of_mem c hd))

/-- A mark may stand before what is left if it may stand before all. -/
theorem isChain_cons {ms ms' : List Mark} (h : Spared ms ms') {m : Mark}
    (hms : (m :: ms).IsChain Apart) : (m :: ms').IsChain Apart := by
  induction h generalizing m with
  | nil => exact hms
  | keep a _ ih =>
    rw [List.isChain_cons_cons] at hms ⊢
    exact ⟨hms.1, ih hms.2⟩
  | @drop ms _ _ ih =>
    -- the marks on both sides of the space are ink
    rw [List.isChain_cons_cons] at hms
    have hm : m.isInk = true := hms.1.2 rfl
    obtain ⟨hspace, hrest⟩ := List.isChain_cons.mp hms.2
    exact ih (hrest.cons fun b hb => apart_of_isInk hm ((hspace b hb).1 rfl))

theorem isChain {ms ms' : List Mark} (h : Spared ms ms') (hms : ms.IsChain Apart) :
    ms'.IsChain Apart := by
  induction h with
  | nil => exact hms
  | keep m h _ => exact isChain_cons h hms
  | drop _ ih => exact ih hms.tail

end Spared

/-! ## Blank nodes taken away -/

/-- Text without white space but spaces has no breaks at its ends. -/
theorem dropBreaks_of_only_spaces {value : Text}
    (h : ∀ c ∈ value, isBlank c = true → c = ' ') : dropBreaks value = value := by
  have hhead : dropHeadBreak value = value := by
    rcases value with _ | ⟨c, t⟩
    · rfl
    · rw [dropHeadBreak, if_neg]
      intro hbreak
      have hblank : isBlank c = true := by
        simp only [isHeadBreak, Bool.or_eq_true, beq_iff_eq] at hbreak
        rcases hbreak with ((rfl | rfl) | rfl) | rfl <;> decide
      rw [h c List.mem_cons_self hblank] at hbreak
      exact absurd hbreak (by decide)
  rw [dropBreaks, hhead, dropTailBreak, if_neg]
  intro hbreak
  obtain ⟨c, hc, hbreak⟩ := List.any_eq_true.mp hbreak
  have hmem : c ∈ value := List.mem_reverse.mp ((List.takeWhile_sublist _).subset hc)
  rw [h c hmem (List.mem_takeWhile_imp hc)] at hbreak
  exact absurd hbreak (by decide)

/-- What becomes of a string, if its text has no white space but spaces. -/
theorem spared_string {kind : StringKind} {value : Text} {before after : List Node}
    {outside : Surroundings}
    (h : ∀ c, .char c ∈ marksOf (.string kind value) → isBlank c = true → c = ' ') :
    Spared (marksOf (.string kind value))
      (marks (Place.rebuildNode outside before after (.string kind value))) := by
  rw [marksOf_string] at h ⊢
  rw [Place.rebuildNode, Place.fate]
  rcases hk : kind.isText with _ | _
  · exact .nil
  · have hvalue : ∀ c ∈ value, isBlank c = true → c = ' ' := fun c hc =>
      h c (by rw [hk, if_pos rfl]; exact List.mem_map_of_mem hc)
    have hkeep : marks [.string kind value] = value.map Mark.char := by
      rw [marks_cons, marksOf_string, hk, if_pos rfl, marks_nil, List.append_nil]
    simp only [Bool.not_true, Bool.false_eq_true, if_false, if_true]
    rcases outside.anyTag isPreformattedTag with _ | _
    · rcases hblank : value.isBlank with _ | _
      · simp only [dropBreaks_of_only_spaces hvalue, if_true, Bool.false_eq_true, if_false, hkeep]
        exact .refl _
      · rcases meetsInline before && meetsInline after with _ | _
        · refine .of_spaces fun c hc => hvalue c hc ?_
          rw [Text.isBlank, List.all_eq_true] at hblank
          exact hblank c hc
        · simp only [Bool.false_eq_true, if_false, if_true, hkeep]
          exact .refl _
    · simp only [if_true, hkeep]
      exact .refl _

mutual

theorem spared_rebuildNode (outside : Surroundings) (before after : List Node) : ∀ n : Node,
    (∀ c, .char c ∈ marksOf n → isBlank c = true → c = ' ') →
    Spared (marksOf n) (marks (Place.rebuildNode outside before after n))
  | .element name attributes children, h => by
    rw [Place.rebuildNode, marks_cons, marks_nil, List.append_nil]
    rw [marksOf_element] at h ⊢
    rw [marksOf_element]
    rcases hpre : isPreTag (lowerName name) with _ | _
    · simp only [hpre, Bool.false_eq_true, if_false] at h ⊢
      split at h
      · next hend =>
        rw [if_pos hend, if_pos hend]
        have hinside := spared_rebuildNodes
          (.element name attributes before after outside) [] children fun c hc => h c (by simp [hc])
        exact .keep _ (hinside.append (.refl _))
      · next hend =>
        rw [if_neg hend, if_neg hend]
        exact spared_rebuildNodes _ [] children h
    · exact .refl _
  | .string kind value, h => spared_string h

/-- **Removing blank nodes takes nothing but spaces away**, if there is no other white space. -/
theorem spared_rebuildNodes (outside : Surroundings) (before : List Node) : ∀ ns : List Node,
    (∀ c, .char c ∈ marks ns → isBlank c = true → c = ' ') →
    Spared (marks ns) (marks (Place.rebuildNodes outside before ns))
  | [], _ => .nil
  | n :: rest, h => by
    rw [marks_cons] at h ⊢
    rw [Place.rebuildNodes, marks_append]
    exact (spared_rebuildNode outside before rest n fun c hc =>
      h c (List.mem_append_left _ hc)).append
      (spared_rebuildNodes outside (n :: before) rest fun c hc => h c (List.mem_append_right _ hc))

end

/-! ## What is folded -/

/-- **In what is folded the spaces stand apart**, if all void elements of the document end a line and
its text has no white space but spacing. -/
theorem isChain_marks_foldedRoot {document : List Node}
    (hvoid : Everywhere Scan.VoidEndsLine (Place.root document).nodes)
    (hspacing : OnlySpacing (marks (Place.root document).nodes)) :
    (marks (foldedRoot document).nodes).IsChain Apart := by
  have hmarks := marks_collapseNodes hvoid
  rw [nodes_foldedRoot]
  refine (spared_rebuildNodes _ [] _ fun c hc => ?_).isChain ?_
  · rw [hmarks] at hc
    exact eq_space_of_mem_tighten hspacing hc
  · rw [hmarks]
    exact isChain_tighten hspacing true

end HtmlMarkdown
