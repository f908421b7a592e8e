import Mathlib
import HtmlMarkdown.Proofs.CodeBlock

/-!
# Indented code in quotations

With the rules of plain Markdown a code block is indented by four spaces. The quotation right around
it trims its content first, so that the indentation of the first line is lost; all other lines keep
theirs behind the marks of all quotations.

* `Node.inQuotations`, `Text.quotationMarks`, `iterate_quotation`: quotations to any depth;
* `limitBreaksAfter_of_isChain`, `isChain_prefixLines`: indented lines have no adjacent line feeds;
* `markdownOfNode_inQuotations`: what the rules make of a node in quotations;
* `trimmedLines`, **`lines_trim_join`**: lines with ink are trimmed in the first and the last one;
* `CodeBlock.indentedLines`: the indented lines of a code block, trimmed;
* **`CodeBlock.convert_inQuotations`**: the lines that a code block in quotations is converted to;
* **`CodeBlock.convert_inQuotations_of_inked`**: these lines, if no line of the code is blank;
* `CodeBlock.not_indented_quotedLetter`: its first line is not indented.
-/

namespace HtmlMarkdown

/-! ## Quotations in quotations -/

/-- A node in quotations with these attributes, the first one outermost. -/
def Node.inQuotations (quotes : List Attributes) (n : Node) : Node :=
  quotes.foldr (fun attributes inner => .element "blockquote" attributes [inner]) n

/-- The marks before a line in a number of quotations. -/
def Text.quotationMarks (depth : ℕ) : Text := (List.replicate depth "> ".toList).flatten

theorem not_mem_quotationMarks (depth : ℕ) : '\n' ∉ Text.quotationMarks depth := by
  rw [Text.quotationMarks, List.mem_flatten]
  rintro ⟨mark, hmark, hbreak⟩
  rw [List.eq_of_mem_replicate hmark] at hbreak
  exact absurd hbreak (by decide)

/-- Quoted again and again, each line has all marks before it. -/
theorem iterate_quotation (depth : ℕ) (t : Text) : Text.quotation^[depth] t =
    Text.join ['\n'] (t.lines.map (Text.quotationMarks depth ++ ·)) := by
  induction depth with
  | zero =>
    have hid : t.lines.map (Text.quotationMarks 0 ++ ·) = t.lines := List.map_id _
    rw [Function.iterate_zero_apply, hid, Text.join_lines]
  | succ depth ih =>
    have hlines : (Text.join ['\n'] (t.lines.map (Text.quotationMarks depth ++ ·))).lines =
        t.lines.map (Text.quotationMarks depth ++ ·) := by
      obtain ⟨first, rest, hcons⟩ := Text.exists_lines_eq t
      refine Text.lines_join (fun line hline => ?_) (by rw [hcons]; simp)
      obtain ⟨l, hl, rfl⟩ := List.mem_map.mp hline
      rw [List.mem_append, not_or]
      exact ⟨not_mem_quotationMarks depth, Text.not_mem_of_mem_lines hl⟩
    rw [Function.iterate_succ_apply', ih, Text.quotation, hlines, List.map_map]
    rfl

/-- A text that ends with ink is solid in quotations. -/
theorem isSolid_iterate_quotation {t : Text} (hne : t ≠ []) (hink : Side.right.InkText t)
    (depth : ℕ) : (Text.quotation^[depth + 1] t).IsSolid := by
  induction depth with
  | zero => exact isSolid_quotation hne hink
  | succ depth ih =>
    rw [Function.iterate_succ_apply']
    exact isSolid_quotation ih.ne_nil (ih.ink .right)

theorem Node.IsSettled.inQuotations {n : Node} (h : n.IsSettled) (quotes : List Attributes) :
    (n.inQuotations quotes).IsSettled := by
  induction quotes with
  | nil => exact h
  | cons attributes quotes ih => exact ih.element (by decide) attributes

section Recursion

variable {gfm : Bool} {policy : Policy} {n : Node} {content : Text}

/-- **What the rules make of a node in quotations**: its trimmed content with all marks before each
line. -/
theorem markdownOfNode_inQuotations
    (hnode : ∀ outside before after,
      (Context.builtIn gfm policy).markdownOfNode outside before after n = .ok content)
    (hblank : content.isBlank = false) {t : Text}
    (ht : limitBreaks (Text.trim isBlank content) = t) (hne : t ≠ []) (hink : Side.right.InkText t)
    (quote : Attributes) (quotes : List Attributes) (outside : Surroundings)
    (before after : List Node) :
    (Context.builtIn gfm policy).markdownOfNode outside before after
        (n.inQuotations (quote :: quotes)) =
      .ok (asBlock (Text.quotation^[quotes.length + 1] t)) := by
  induction quotes generalizing quote outside before after with
  | nil =>
    have hchildren := Context.markdownOfNodes_singleton
      (hnode (.element "blockquote" quote before after outside) [] [])
    rw [← ht]
    exact markdownOfNode_quotation gfm policy hchildren hblank
  | cons inner quotes ih =>
    have hsolid := isSolid_iterate_quotation hne hink quotes.length
    have hinner := Context.markdownOfNodes_singleton
      (ih inner (.element "blockquote" quote before after outside) [] [])
    have hsome : Text.isBlank (asBlock (Text.quotation^[quotes.length + 1] t)) = false := by
      rw [isBlank_asBlock, hsolid.isBlank_eq_false]
    have hquote := markdownOfNode_quotation gfm policy hinner hsome
    rw [trim_asBlock, trim_of_inkText hsolid.ink, hsolid.limitBreaks_eq] at hquote
    rw [List.length_cons, Function.iterate_succ_apply']
    exact hquote

/-- Quotations of nothing are left out. -/
theorem markdownOfNode_inQuotations_of_nil
    (hnode : ∀ outside before after,
      (Context.builtIn gfm policy).markdownOfNode outside before after n = .ok [])
    (quotes : List Attributes) (outside : Surroundings) (before after : List Node) :
    (Context.builtIn gfm policy).markdownOfNode outside before after (n.inQuotations quotes) =
      .ok [] := by
  induction quotes generalizing outside before after with
  | nil => exact hnode outside before after
  | cons quote quotes ih =>
    have htag : (Place.node (.element "blockquote" quote [n.inQuotations quotes])
        before after outside).tagName = "blockquote" :=
      (by decide : lowerName "blockquote" = "blockquote")
    have hinner := Context.markdownOfNodes_singleton
      (ih (.element "blockquote" quote before after outside) [] [])
    rw [Node.inQuotations, List.foldr_cons]
    refine (Context.markdownOfNode_element _ hinner).trans ?_
    exact convertElement_blockquote gfm policy [] htag

end Recursion

/-! ## Indented lines -/

/-- Line feeds are kept if no two of them are adjacent, nor the first one to one before the text. -/
theorem limitBreaksAfter_of_isChain {t : Text} {n : ℕ} (hn : n ≤ 1)
    (h : t.IsChain fun c d => c = '\n' → d ≠ '\n') (hhead : n = 1 → ∀ c ∈ t.head?, c ≠ '\n') :
    limitBreaksAfter n t = t := by
  induction t generalizing n with
  | nil => rfl
  | cons c t ih =>
    obtain ⟨hnext, htail⟩ := List.isChain_cons.mp h
    rw [limitBreaksAfter]
    split
    · next hc =>
      have hzero : n = 0 := by
        have hone : n ≠ 1 := fun hone => hhead hone c rfl hc
        omega
      rw [hzero, if_pos (by decide), hc, ih le_rfl htail fun _ d hd => hnext d hd hc]
    · rw [ih (by omega) htail fun hone => absurd hone (by decide)]

/-- Between two line feeds of indented lines there are four spaces at least. -/
theorem isChain_prefixLines (s : Text) :
    (prefixLines "    ".toList s).IsChain fun c d => c = '\n' → d ≠ '\n' := by
  have hafter : ∀ t : Text, ∀ c ∈ "    ".toList.getLast?, ∀ d ∈ t.head?, c = '\n' → d ≠ '\n' := by
    rintro t c ⟨⟩ d _ hc
    exact absurd hc (by decide)
  have hlines : (Text.replaceChar '\n' ('\n' :: "    ".toList) s).IsChain
      fun c d => c = '\n' → d ≠ '\n' := by
    rw [Text.replaceChar]
    induction s with
    | nil => exact List.isChain_nil
    | cons c s ih =>
      rw [List.flatMap_cons]
      split
      · exact List.isChain_append.mpr ⟨by decide, ih, hafter _⟩
      · next hc => exact List.IsChain.cons ih fun d _ h => absurd h hc
  exact List.isChain_append.mpr ⟨by decide, hlines, hafter _⟩

theorem isBlank_prefixLines (s : Text) :
    Text.isBlank (prefixLines "    ".toList s) = s.isBlank := by
  have hspaces : Text.isBlank "    ".toList = true := by decide
  have hstart : Text.isBlank ('\n' :: "    ".toList) = true := by decide
  rw [prefixLines, isBlank_append, hspaces, Bool.true_and, Text.replaceChar]
  induction s with
  | nil => rfl
  | cons c s ih =>
    rw [List.flatMap_cons, isBlank_append, ih]
    split
    · next hc => rw [hstart, hc, isBlank_cons_of_isBlank (by decide), Bool.true_and]
    · rw [← isBlank_append, List.singleton_append]

/-! ## Trimmed lines -/

/-- Lines without the white space at the start of the first one and at the end of the last one. -/
def trimmedLines (lines : List Text) : List Text :=
  (lines.modifyHead (Text.trimStart isBlank)).modifyLast (Text.trimEnd isBlank)

section Trimmed

variable {t : Text} (h : t.isBlank = false)

include h

theorem trimStart_join (rest : List Text) : Text.trimStart isBlank (Text.join ['\n'] (t :: rest)) =
    Text.join ['\n'] (Text.trimStart isBlank t :: rest) := by
  rw [join_cons, join_cons,
    Text.trimStart_append_of_ink (fun _ hc => hc) (Text.ink_ne_nil_iff.mpr h)]

theorem trimEnd_join (init : List Text) : Text.trimEnd isBlank (Text.join ['\n'] (init ++ [t])) =
    Text.join ['\n'] (init ++ [Text.trimEnd isBlank t]) := by
  have hsplit : ∃ before : Text, ∀ last, Text.join ['\n'] (init ++ [last]) = before ++ last := by
    rcases init with _ | ⟨first, init⟩
    · exact ⟨[], fun last => join_singleton _ last⟩
    · refine ⟨first ++ stacked init ++ ['\n'], fun last => ?_⟩
      rw [List.cons_append, join_cons, stacked_append, stacked_cons, stacked_nil]
      simp
  obtain ⟨before, hbefore⟩ := hsplit
  rw [hbefore, hbefore, Text.trimEnd_append_of_ink (fun _ hc => hc) (Text.ink_ne_nil_iff.mpr h)]

theorem isBlank_trimStart : (Text.trimStart isBlank t).isBlank = false := by
  rw [← h, Bool.eq_iff_iff, ← Text.ink_eq_nil_iff, ← Text.ink_eq_nil_iff,
    Text.ink_trimStart fun _ hc => hc]

end Trimmed

/-- **Lines with ink are trimmed** at the start of the first one and at the end of the last one. -/
theorem lines_trim_join {lines : List Text} (hne : lines ≠ [])
    (h : ∀ line ∈ lines, '\n' ∉ line ∧ line.isBlank = false) :
    (Text.trim isBlank (Text.join ['\n'] lines)).lines = trimmedLines lines := by
  obtain ⟨first, rest, rfl⟩ := List.exists_cons_of_ne_nil hne
  rw [List.forall_mem_cons] at h
  have hstart : ∀ line ∈ Text.trimStart isBlank first :: rest,
      '\n' ∉ line ∧ line.isBlank = false := by
    have hsuffix := Place.trimStart_suffix isBlank first
    rw [List.forall_mem_cons]
    exact ⟨⟨fun hbreak => h.1.1 (hsuffix.subset hbreak), isBlank_trimStart h.1.2⟩, h.2⟩
  rw [Text.trim, trimStart_join h.1.2, trimmedLines, List.modifyHead_cons]
  obtain ⟨init, last, hsplit⟩ :=
    (List.eq_nil_or_concat' (Text.trimStart isBlank first :: rest)).resolve_left (List.cons_ne_nil _ _)
  rw [hsplit, List.forall_mem_append, List.forall_mem_singleton] at hstart
  obtain ⟨hinit, hlast⟩ := hstart
  rw [hsplit, trimEnd_join hlast.2, List.modifyLast_concat]
  refine Text.lines_join ?_ (by simp)
  rw [List.forall_mem_append, List.forall_mem_singleton]
  have hkept := Place.trimEnd_prefix isBlank last
  exact ⟨fun line hline => (hinit line hline).1, fun hbreak => hlast.1 (hkept.subset hbreak)⟩

/-! ## Conversions -/

namespace CodeBlock

variable (b : CodeBlock)

/-- The code of a block indented by four spaces, without the white space around it. -/
def trimmed : Text :=
  Text.trim isBlank (Text.join ['\n'] (b.code.lines.map ("    ".toList ++ ·)))

/-- The lines of a code block indented by four spaces, without the white space around them. -/
def indentedLines : List Text := b.trimmed.lines

theorem trimmed_eq : b.trimmed = Text.trim isBlank (prefixLines "    ".toList b.code) := by
  rw [trimmed, prefixLines_eq]

theorem limitBreaks_trimmed : limitBreaks b.trimmed = b.trimmed := by
  have hstart := Place.trimStart_suffix isBlank (prefixLines "    ".toList b.code)
  have hend := Place.trimEnd_prefix isBlank
    (Text.trimStart isBlank (prefixLines "    ".toList b.code))
  have hchain := List.IsChain.infix (isChain_prefixLines b.code)
    (hend.isInfix.trans hstart.isInfix)
  rw [trimmed_eq]
  exact limitBreaksAfter_of_isChain (by decide) hchain fun hone => absurd hone (by decide)

theorem inkText_trimmed : Side.right.InkText b.trimmed := by
  rw [trimmed]
  exact getLast?_trimEnd

theorem trimmed_ne_nil (h : b.code.isBlank = false) : b.trimmed ≠ [] := by
  intro hnil
  have hink : Text.ink b.trimmed = Text.ink (prefixLines "    ".toList b.code) := by
    rw [trimmed_eq]
    exact Text.ink_trim (fun _ hc => hc) _
  rw [hnil, Text.ink_nil] at hink
  rw [← isBlank_prefixLines, Text.ink_eq_nil_iff.mp hink.symm] at h
  cases h

/-- What the rules make of a code block in quotations. -/
theorem contentBelow_inQuotations (policy : Policy) (quote : Attributes)
    (quotes : List Attributes) :
    (Context.builtIn false policy).contentBelow
        (foldedRoot [b.node.inQuotations (quote :: quotes)]) =
      .ok (if b.code.isBlank then []
        else asBlock (Text.quotation^[quotes.length + 1] b.trimmed)) := by
  rw [foldedRoot_of_isSettled (b.isSettled_node.inQuotations _), Context.contentBelow_of_nodes_eq rfl]
  rcases hblank : b.code.isBlank with _ | _
  · have hnode : ∀ outside before after, (Context.builtIn false policy).markdownOfNode outside before
        after b.node = .ok (asBlock (prefixLines "    ".toList b.code)) := by
      intro outside before after
      rw [markdownOfNode_plain, hblank, if_neg Bool.false_ne_true]
    refine markdownOfNode_inQuotations hnode ?_ ?_ (b.trimmed_ne_nil hblank) b.inkText_trimmed quote
      quotes .document [] []
    · rw [isBlank_asBlock, isBlank_prefixLines, hblank]
    · rw [trim_asBlock, ← trimmed_eq, limitBreaks_trimmed]
  · refine markdownOfNode_inQuotations_of_nil (fun outside before after => ?_) _ .document [] []
    rw [markdownOfNode_plain, hblank, if_pos rfl]

theorem exists_run_convert_plain_iff {policy : Policy} {quote : Attributes}
    {quotes : List Attributes} {s : Progress} {text : Text} :
    (∃ s', ((Context.builtIn false policy).convert [b.node.inQuotations (quote :: quotes)]).run s =
        .ok text s') ↔
      text = if b.code.isBlank then []
        else Text.join ['\n'] (b.indentedLines.map (Text.quotationMarks (quotes.length + 1) ++ ·)) := by
  rw [Context.exists_run_convert_iff, contentBelow_inQuotations]
  simp only [Except.ok.injEq, exists_eq_left']
  rcases hblank : b.code.isBlank with _ | _
  · have hsolid := isSolid_iterate_quotation (b.trimmed_ne_nil hblank) b.inkText_trimmed quotes.length
    rw [if_neg Bool.false_ne_true, if_neg Bool.false_ne_true,
      normalize_asBlock_of_closed hsolid.closed hsolid.ink, iterate_quotation]
    rfl
  · rw [if_pos rfl, if_pos rfl, normalize_eq_nil_iff.mpr (by rfl : Text.tidyEnds [] = [])]

/-- **A code block in quotations is converted to its lines behind the marks of all quotations.** The
lines are indented by four spaces, but the white space before the first one, its indentation with it,
and the white space after the last one are lost. A block of blank code is left out. -/
theorem convert_inQuotations (policy : Policy) (quote : Attributes) (quotes : List Attributes)
    (s : Progress) :
    ∃ s', ((Context.builtIn false policy).convert [b.node.inQuotations (quote :: quotes)]).run s =
      .ok (if b.code.isBlank then []
        else Text.join ['\n']
          (b.indentedLines.map (Text.quotationMarks (quotes.length + 1) ++ ·))) s' :=
  b.exists_run_convert_plain_iff.mpr rfl

/-- White space at the ends is all that the lines of code lose if each of them has ink. -/
theorem indentedLines_eq (h : ∀ line ∈ b.code.lines, line.isBlank = false) :
    b.indentedLines = trimmedLines (b.code.lines.map ("    ".toList ++ ·)) := by
  obtain ⟨first, rest, hlines⟩ := Text.exists_lines_eq b.code
  refine lines_trim_join (by rw [hlines]; simp) ?_
  rw [List.forall_mem_map]
  intro line hline
  rw [List.mem_append, not_or, isBlank_append, h line hline, Bool.and_false]
  exact ⟨⟨by decide, Text.not_mem_of_mem_lines hline⟩, rfl⟩

/-- **Code without blank lines keeps all its lines in quotations**, indented by four spaces behind the
marks of all quotations. Only the white space at the start of the first line, its indentation with
it, and the white space at the end of the last one are lost. -/
theorem convert_inQuotations_of_inked (policy : Policy) (quote : Attributes)
    (quotes : List Attributes) (h : ∀ line ∈ b.code.lines, line.isBlank = false) (s : Progress) :
    ∃ s', ((Context.builtIn false policy).convert [b.node.inQuotations (quote :: quotes)]).run s =
      .ok (Text.join ['\n'] ((trimmedLines (b.code.lines.map ("    ".toList ++ ·))).map
        (Text.quotationMarks (quotes.length + 1) ++ ·))) s' := by
  have hblank : b.code.isBlank = false := by
    obtain ⟨first, rest, hlines⟩ := Text.exists_lines_eq b.code
    rw [← Text.join_lines b.code, hlines, join_cons, isBlank_append,
      h first (by rw [hlines]; exact List.mem_cons_self), Bool.false_and]
  refine b.exists_run_convert_plain_iff.mpr ?_
  rw [hblank, if_neg Bool.false_ne_true, indentedLines_eq b h]

/-- Three lines of code, with more white space at the start of each one and a space at the end. -/
def threeLines : CodeBlock where
  attributes := []
  codeAttributes := []
  code := "\ta\n  b\n c ".toList

theorem convert_inQuotations_of_inked_threeLines :
    (∀ line ∈ threeLines.code.lines, line.isBlank = false) ∧
    ∃ s', ((Context.builtIn false .passthrough).convert
      [threeLines.node.inQuotations [[], []]]).run {} =
        .ok "> > a\n> >       b\n> >      c".toList s' := by
  have hinked : ∀ line ∈ threeLines.code.lines, line.isBlank = false := by decide
  have hlines : Text.join ['\n'] ((trimmedLines (threeLines.code.lines.map ("    ".toList ++ ·))).map
      (Text.quotationMarks 2 ++ ·)) = "> > a\n> >       b\n> >      c".toList := by
    decide +kernel
  obtain ⟨s', hrun⟩ := threeLines.convert_inQuotations_of_inked .passthrough [] [[]] hinked {}
  exact ⟨hinked, s', hlines ▸ hrun⟩

/-- A single letter of code. -/
def letter : CodeBlock where
  attributes := []
  codeAttributes := []
  code := ['x']

/-- In a quotation a letter of code is not indented. -/
theorem not_indented_quotedLetter :
    ¬ ∃ s', ((Context.builtIn false .passthrough).convert [letter.node.inQuotations [[]]]).run {} =
      .ok ("> ".toList ++ "    x".toList) s' := by
  intro h
  have heq := letter.exists_run_convert_plain_iff.mp h
  exact absurd heq (by decide)

end CodeBlock

end HtmlMarkdown
