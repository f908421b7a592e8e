import Mathlib
import HtmlMarkdown.Proofs.Line

/-!
# The lines of a forest

A collapse makes of each line what it would make of a text that stands alone.

* `Text.spaced`, `squeeze_eq_spaced`: a text with every run of spacing as one space;
* `dropTrailingSpaces_squeezeAfter_true`: what is left of a line;
* `lineTexts`, `splitOn_tighten`: the texts of lines, which are tightened one by one;
* `metTexts_resettle`: the texts that are put back are those that are not empty;
* **`lineTexts_collapse`**: the lines of a collapsed forest.
-/

namespace HtmlMarkdown

/-! ## Runs of spacing -/

/-- A text cut into its runs of spacing and what stands between them. -/
def Text.runs (t : Text) : List Text := t.splitBy fun a b => isSpacing a == isSpacing b

/-- A text with every run of spacing as one space. -/
def Text.spaced (t : Text) : Text :=
  t.runs.flatMap fun run => if run.all isSpacing then [' '] else run

/-- A text without one space at its start and without one at its end. -/
def Text.dropEndSpaces (t : Text) : Text :=
  let rest := if Text.startsWith ' ' t then t.drop 1 else t
  if Text.endsWith ' ' rest then rest.dropLast else rest

theorem squeezeAfter_append (isInRun : Bool) (s t : Text) :
    squeezeAfter isInRun (s ++ t) =
      squeezeAfter isInRun s ++ squeezeAfter (runAfter isInRun s) t := by
  induction s generalizing isInRun with
  | nil => rfl
  | cons c s ih =>
    rw [List.cons_append, squeezeAfter, squeezeAfter, runAfter, ih true, ih false]
    by_cases hc : isSpacing c = true
    · cases isInRun <;> simp [hc]
    · simp [hc]

/-- A text that begins with no spacing is squeezed alike inside a run and outside. -/
theorem squeezeAfter_of_head {t : Text} (ht : ∀ c ∈ t.head?, isSpacing c = false)
    (isInRun : Bool) : squeezeAfter isInRun t = squeeze t := by
  rcases t with _ | ⟨c, t⟩
  · rfl
  · have hc : isSpacing c = false := ht c rfl
    simp [squeeze, squeezeAfter, hc]

theorem squeeze_of_none {run : Text} (hnone : ∀ c ∈ run, isSpacing c = false) :
    squeeze run = run ∧ runAfter false run = false := by
  induction run with
  | nil => exact ⟨rfl, rfl⟩
  | cons c run ih =>
    have hc : isSpacing c = false := hnone c List.mem_cons_self
    obtain ⟨hrest, hafter⟩ := ih fun d hd => hnone d (List.mem_cons_of_mem c hd)
    rw [squeeze] at hrest
    rw [squeeze, squeezeAfter, hc, if_neg Bool.false_ne_true, hrest, runAfter, hc]
    exact ⟨rfl, hafter⟩

/-- A text begins with a run: characters that are all spacing or all none, and then one that is
different. -/
theorem exists_run (c : Char) (t : Text) :
    ∃ run rest, c :: t = run ++ rest ∧ run ≠ [] ∧ (∀ d ∈ run, isSpacing d = isSpacing c) ∧
      ∀ d ∈ rest.head?, isSpacing d ≠ isSpacing c := by
  refine ⟨(c :: t).takeWhile fun d => isSpacing d == isSpacing c,
    (c :: t).dropWhile fun d => isSpacing d == isSpacing c, (List.takeWhile_append_dropWhile).symm,
    by simp, fun d hd => ?_, fun d hd => ?_⟩
  · simpa using List.mem_takeWhile_imp hd
  · have hnot := List.head?_dropWhile_not (fun d => isSpacing d == isSpacing c) (c :: t)
    rw [Option.mem_def.mp hd] at hnot
    simpa using hnot

/-- A run is cut off from what comes after it. -/
theorem spaced_append_of_run {run rest : Text} {c : Char} (hne : run ≠ [])
    (hrun : ∀ d ∈ run, isSpacing d = isSpacing c)
    (hrest : ∀ d ∈ rest.head?, isSpacing d ≠ isSpacing c) :
    Text.spaced (run ++ rest) = (if run.all isSpacing then [' '] else run) ++ Text.spaced rest := by
  have hchain : run.IsChain fun a b => (isSpacing a == isSpacing b) = true := by
    refine List.Pairwise.isChain (List.pairwise_of_forall_mem_list fun a ha b hb => ?_)
    rw [hrun a ha, hrun b hb, beq_self_eq_true]
  have hcut : Text.runs (run ++ rest) = run :: Text.runs rest := by
    rw [Text.runs, List.splitBy_append, List.splitBy_of_isChain hne hchain]
    · rfl
    · intro a ha b hb
      rw [hrun a (List.mem_of_mem_getLast? ha)]
      exact beq_eq_false_iff_ne.mpr (Ne.symm (hrest b hb))
  rw [Text.spaced, hcut, List.flatMap_cons, Text.spaced]

/-- **Squeezing a text makes one space of every run of spacing.** -/
theorem squeeze_eq_spaced (t : Text) : squeeze t = t.spaced := by
  induction hn : t.length using Nat.strong_induction_on generalizing t with
  | _ n ih =>
    subst hn
    rcases t with _ | ⟨c, t⟩
    · rfl
    · obtain ⟨run, rest, hsplit, hne, hrun, hrest⟩ := exists_run c t
      have hlength : 0 < run.length := List.length_pos_iff.mpr hne
      have hih : squeeze rest = Text.spaced rest := by
        refine ih rest.length ?_ rest rfl
        rw [hsplit, List.length_append]
        omega
      rw [hsplit, spaced_append_of_run hne hrun hrest, ← hih, squeeze, squeezeAfter_append]
      rcases hc : isSpacing c with _ | _
      · rw [hc] at hrun
        obtain ⟨d, hd⟩ := List.exists_mem_of_ne_nil run hne
        have hnotAll : run.all isSpacing = false :=
          List.all_eq_false.mpr ⟨d, hd, by simp [hrun d hd]⟩
        obtain ⟨hkept, hafter⟩ := squeeze_of_none hrun
        rw [hafter, hnotAll, ← squeeze, ← squeeze, hkept]
        rfl
      · rw [hc] at hrun hrest
        have hall : run.all isSpacing = true := List.all_eq_true.mpr hrun
        have hhead : ∀ d ∈ rest.head?, isSpacing d = false := fun d hd => by
          simpa using hrest d hd
        rw [squeezeAfter_of_head hhead, hall, ← squeeze, squeeze_of_all hne hall]
        rfl

/-! ## Spaces at the ends of a line -/

theorem dropTrailingSpaces_cons {c : Char} {t : Text}
    (ht : dropTrailingSpaces t = if Text.endsWith ' ' t then t.dropLast else t)
    (hc : c = ' ' → dropTrailingSpaces t = [] → t = []) :
    dropTrailingSpaces (c :: t) =
      if Text.endsWith ' ' (c :: t) then (c :: t).dropLast else c :: t := by
  rw [dropTrailingSpaces, trimEnd_cons, endsWith_cons, ← dropTrailingSpaces]
  rcases t with _ | ⟨d, t⟩
  · by_cases hspace : c = ' '
    · simp [hspace, dropTrailingSpaces, Text.trimEnd]
    · simp [hspace, dropTrailingSpaces, Text.trimEnd]
  · have hkept : ¬ ((dropTrailingSpaces (d :: t)).isEmpty && c == ' ') = true := by
      rw [Bool.and_eq_true, List.isEmpty_iff, beq_iff_eq]
      rintro ⟨hnil, hspace⟩
      exact List.cons_ne_nil d t (hc hspace hnil)
    rw [if_neg hkept, ht, List.isEmpty_cons, if_neg Bool.false_ne_true]
    split <;> rfl

/-- At the end of a squeezed text stands at most one space. -/
theorem dropTrailingSpaces_squeezeAfter_eq (isInRun : Bool) (t : Text) :
    dropTrailingSpaces (squeezeAfter isInRun t) =
      if Text.endsWith ' ' (squeezeAfter isInRun t) then (squeezeAfter isInRun t).dropLast
      else squeezeAfter isInRun t := by
  induction t generalizing isInRun with
  | nil => rfl
  | cons c t ih =>
    rw [squeezeAfter]
    by_cases hc : isSpacing c = true
    · rw [if_pos hc]
      cases isInRun
      · refine dropTrailingSpaces_cons (ih true) fun _ hnil => ?_
        have hall := dropTrailingSpaces_squeezeAfter_isEmpty true t
        rw [hnil] at hall
        exact squeezeAfter_eq_nil_of_all hall.symm
      · exact ih true
    · rw [if_neg hc]
      exact dropTrailingSpaces_cons (ih false) fun hspace =>
        absurd hspace (not_isSpacing_ne_space hc)

/-- **What is left of a line**: one space for every run of spacing, and none at the ends. -/
theorem dropTrailingSpaces_squeezeAfter_true (t : Text) :
    dropTrailingSpaces (squeezeAfter true t) = t.spaced.dropEndSpaces := by
  rw [dropTrailingSpaces_squeezeAfter_eq, squeezeAfter_eq, Bool.true_and, Text.dropEndSpaces,
    squeeze_eq_spaced]

/-! ## Lines, one by one -/

/-- The texts of the lines of nodes: what a walk meets, cut wherever a line ends. An element that
starts a new line ends one on the way in and one on the way out, and so does a break; the inside of
preformatted text is in no line. -/
def lineTexts (ns : List Node) : List Text :=
  ((marks ns).splitOn .lineEnd).map fun line => line.filterMap Mark.char?

/-- **Induction on lines**: the last one, and one before others. -/
theorem inductionOnLines {motive : List Mark → Prop} (last : ∀ t : Text, motive (t.map .char))
    (line : ∀ (t : Text) (ms : List Mark), motive ms → motive (t.map .char ++ .lineEnd :: ms))
    (ms : List Mark) : motive ms := by
  have key : ∀ t : Text, motive (t.map Mark.char ++ ms) := by
    induction ms with
    | nil => exact fun t => by simpa using last t
    | cons m ms ih =>
      intro t
      cases m with
      | char c => simpa using ih (t ++ [c])
      | lineEnd => exact line t ms (ih [])
  exact key []

theorem splitOn_map_char (t : Text) : (t.map Mark.char).splitOn .lineEnd = [t.map .char] := by
  refine List.splitOnP_eq_singleton fun m hm => ?_
  obtain ⟨c, _, rfl⟩ := List.mem_map.mp hm
  rfl

theorem splitOn_lineEnd (t : Text) (ms : List Mark) :
    (t.map Mark.char ++ .lineEnd :: ms).splitOn .lineEnd = t.map .char :: ms.splitOn .lineEnd := by
  have hend : (Mark.lineEnd == Mark.lineEnd) = true := rfl
  have hcut := List.splitOnP_append_cons (p := fun m => m == Mark.lineEnd) (t.map Mark.char) ms hend
  have hline := splitOn_map_char t
  rw [List.splitOn] at hline ⊢
  rw [hcut, hline]
  rfl

/-- Lines are tightened one by one. -/
theorem splitOn_tighten (ms : List Mark) : (tighten true ms).splitOn .lineEnd =
    (ms.splitOn .lineEnd).map fun line =>
      (Text.spaced (line.filterMap Mark.char?)).dropEndSpaces.map Mark.char := by
  induction ms using inductionOnLines with
  | last t =>
    have htighten := tighten_append true t []
    rw [List.append_nil, isRestBlank, if_pos rfl, tighten, List.append_nil,
      dropTrailingSpaces_squeezeAfter_true] at htighten
    rw [htighten, splitOn_map_char, splitOn_map_char, List.map_singleton, filterMap_char?]
  | line t ms ih =>
    rw [tighten_append, isRestBlank, if_pos rfl, tighten, dropTrailingSpaces_squeezeAfter_true,
      splitOn_lineEnd, splitOn_lineEnd, ih, List.map_cons, filterMap_char?]

/-! ## Texts that are put back -/

theorem metTexts_append (pre : String → Bool) (a b : List Node) :
    metTexts pre (a ++ b) = metTexts pre a ++ metTexts pre b := by
  induction a with
  | nil => rfl
  | cons n a ih => rw [List.cons_append, metTexts, metTexts, ih, List.append_assoc]

mutual

theorem metTexts_resettleNode (pre : String → Bool) : ∀ (n : Node) {ts : List Text},
    ts.length = (metTextsOf pre n).length →
    metTexts pre (resettleNode pre n ts).1 = ts.filter fun t => !t.isEmpty
  | .element name attributes children, ts, h => by
    rw [metTextsOf] at h
    rw [resettleNode]
    split at h
    · next hpre =>
      rw [if_pos hpre, List.length_eq_zero_iff.mp h, metTexts, metTextsOf, if_pos hpre]
      rfl
    · next hpre =>
      rw [if_neg hpre, metTexts, metTextsOf, if_neg hpre, metTexts, List.append_nil]
      exact metTexts_resettle pre children h
  | .string kind value, ts, h => by
    rw [metTextsOf] at h
    split at h
    · next hk =>
      obtain ⟨t, rfl⟩ := List.length_eq_one_iff.mp h
      rw [resettleNode, if_pos hk]
      rcases t with _ | ⟨c, t⟩
      · rfl
      · simp [metTexts, metTextsOf, hk]
    · next hk =>
      rw [List.length_eq_zero_iff.mp h, resettleNode.eq_def]
      simp [metTexts, metTextsOf, hk]

/-- **The texts that are put back are those that are not empty.** -/
theorem metTexts_resettle (pre : String → Bool) : ∀ (ns : List Node) {ts : List Text},
    ts.length = (metTexts pre ns).length →
    metTexts pre (resettle pre ns ts).1 = ts.filter fun t => !t.isEmpty
  | [], ts, h => by
    rw [List.length_eq_zero_iff.mp h]
    rfl
  | n :: rest, ts, h => by
    rw [metTexts, List.length_append] at h
    obtain ⟨us, us', rfl, hu, hu'⟩ := exists_append_of_length_eq h
    rw [resettle_cons_append hu, metTexts_append, metTexts_resettleNode pre n hu,
      metTexts_resettle pre rest hu', List.filter_append]

end

/-! ## Collapsed lines -/

/-- A void element is a break or a rule. -/
def Node.IsVoidOnlyAsBreak (n : Node) : Prop :=
  n.isVoid = true → n.tagName = "br" ∨ n.tagName = "hr"

instance : DecidablePred Node.IsVoidOnlyAsBreak := fun n =>
  inferInstanceAs (Decidable (n.isVoid = true → n.tagName = "br" ∨ n.tagName = "hr"))

theorem Node.IsVoidOnlyAsBreak.voidEndsLine {n : Node} (h : n.IsVoidOnlyAsBreak) :
    Scan.VoidEndsLine n := by
  intro hvoid
  rcases h hvoid with htag | htag <;> rw [htag] <;> decide

/-- **The lines of a collapsed forest.** If breaks and rules are the only void elements below a
place that is not preformatted, then a collapse makes one space of every run of spacing in each
line, takes one space away at the start and one at the end of the line, and leaves no empty text
outside preformatted text. -/
theorem lineTexts_collapse {p : Place} (hpre : isPreTag p.tagName = false)
    (hvoid : Everywhere Node.IsVoidOnlyAsBreak p.nodes) :
    lineTexts (p.collapse isBlockTag isPreTag) =
        (lineTexts p.nodes).map (fun line => line.spaced.dropEndSpaces) ∧
      ∀ t ∈ metTexts isPreTag (p.collapse isBlockTag isPreTag), t ≠ [] := by
  have hcollapse : p.collapse isBlockTag isPreTag = collapseNodes isBlockTag isPreTag p.nodes := by
    rw [Place.collapse, hpre, if_neg Bool.false_ne_true]
  rw [hcollapse]
  constructor
  · have hmarks := marks_collapseNodes (hvoid.imp fun _ h => h.voidEndsLine)
    rw [lineTexts, hmarks, splitOn_tighten, lineTexts, List.map_map, List.map_map]
    exact List.map_congr_left fun line _ => filterMap_char? _
  · have hlength := (lighter_settledTexts isBlockTag isPreTag p.nodes).length_eq
    rw [collapseNodes, metTexts_resettle isPreTag p.nodes hlength]
    intro t ht
    simpa using (List.mem_filter.mp ht).2

/-- A paragraph of two lines, with spacing inside and around its emphasis. -/
def emphasisBetweenBreaks : List Node := [
  .string .plain ['\n'],
  .element "p" [] [
    .string .plain [' ', 'a', '\n'],
    .element "em" [] [.string .plain [' ', 'b', ' ']],
    .element "br" [] [],
    .string .plain ['\t', 'c']]]

theorem lineTexts_collapse_emphasisBetweenBreaks :
    isPreTag (Place.document emphasisBetweenBreaks).tagName = false ∧
    Everywhere Node.IsVoidOnlyAsBreak emphasisBetweenBreaks ∧
    lineTexts ((Place.document emphasisBetweenBreaks).collapse isBlockTag isPreTag) =
      [[], ['a', ' ', 'b'], [], ['c'], []] := by
  have hpre : isPreTag (Place.document emphasisBetweenBreaks).tagName = false := by decide
  have hvoid : Everywhere Node.IsVoidOnlyAsBreak emphasisBetweenBreaks := by decide
  refine ⟨hpre, hvoid, ?_⟩
  rw [(lineTexts_collapse hpre hvoid).1]
  decide

end HtmlMarkdown
