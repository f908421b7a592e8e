import Mathlib
import HtmlMarkdown.Proofs.Kept
import HtmlMarkdown.Proofs.LineHead
import HtmlMarkdown.Proofs.ListMarker
import HtmlMarkdown.Proofs.Phrasing

/-!
# The heads of the lines of a document

A document is skimmed, node by node, for what its lines begin with, whatever elements they run
through. White space may go on the way to Markdown, and so may elements without ink; so neither
counts for anything, but after the digits and the period that may begin a line there is to be no white
space that becomes a space, and no line feed that may go.

* `LineHead.skim`: the characters of a text;
* `Setting`, `Node.setting`: how the content of an element stands in its lines;
* `Node.skim`, `skimNodes`: nodes; `asEscaped`: a text that stands in the markup is taken as escaped;
  `isMarkerFree`: all nodes of a document;
* `Node.isSure`: the elements that are not left out; `skimNodes_le`: what may be left out promises
  nothing new;
* `leads_of_skim`: a text without line feeds is written as it is skimmed;
* **`skimNodes_foldedRoot`**: both passes over white space leave a document as it was skimmed;
  `isUnbroken_foldedRoot`: and no line feeds in its texts.
-/

namespace HtmlMarkdown

open Text

/-! ## Texts -/

namespace LineHead

/-- White space that becomes a space or goes. -/
def pause : LineHead → Option LineHead
  | fresh => some fresh
  | number => some number
  | guarded => some guarded
  | period | edge => none

/-- A line feed that is written or goes. -/
def soften : LineHead → Option LineHead
  | fresh | guarded => some fresh
  | number => some number
  | period | edge => none

/-- The line feeds at the start or the end of a block, which go if the block may be left out. -/
def part (isSure : Bool) (s : LineHead) : Option LineHead := if isSure then s.feed else s.soften

/-- A line break is written, behind two spaces or, in GitHub-flavoured Markdown, without them. -/
def breakLine (gfm : Bool) (s : LineHead) : Option LineHead :=
  if gfm then s.feed else s.space.bind feed

/-- The edge of an element whose marks guard what comes after white space at its edge. -/
def shift : LineHead → LineHead
  | period | edge => edge
  | fresh | number | guarded => guarded

/-- A character of a document is met. -/
def meet (s : LineHead) (c : Char) : Option LineHead :=
  if isSpacing c then s.pause
  else if isBlank c then some s
  else s.write c

/-- A text of a document is met. -/
def skim (s : LineHead) (t : Text) : Option LineHead := t.foldlM meet s

end LineHead

/-! ## Nodes -/

/-- How the content of an element stands in its lines: a line break has none; in a quotation and in
an item of an unordered list every line has a mark or an indent; a heading and a cell begin with a
mark; rows and their sections are blocks or not; a block stands apart; what is marked stands between
marks; and anything else runs on. -/
inductive Setting
  | lineBreak
  | quotation
  | item
  | heading
  | cell
  | row
  | block
  | marked
  | running
  deriving DecidableEq

namespace Setting

/-- The setting for a tag that no rule marks. -/
def ofTag (tag : String) : Setting :=
  if tag = "br" then lineBreak
  else if tag = "blockquote" then quotation
  else if tag = "li" then item
  else if tag ∈ Markdown.headingTags then heading
  else if tag ∈ ["th", "td"] then cell
  else if tag ∈ ["tr", "thead", "tbody", "tfoot"] then row
  else if isBlockTag tag then block
  else running

/-- The lines of the content may begin with a marker. -/
def isOpen : Setting → Bool
  | lineBreak | quotation | item => false
  | heading | cell | row | block | marked | running => true

/-- The head at the start of the content. `isSure` says that the element is not left out. -/
def enter (gfm isSure : Bool) (s : LineHead) : Setting → Option LineHead
  | lineBreak => if isSure then s.breakLine gfm else s.soften
  | row => s.soften
  | quotation | item | block => s.part isSure
  | heading => (s.part isSure).map fun inner => if isSure then .guarded else inner
  | cell => s.soften.map fun _ => .guarded
  | marked => some s.shift
  | running => some s

/-- The head after the element, by the one before it and the one at the end of its content. -/
def leave (isSure : Bool) (s last : LineHead) : Setting → Option LineHead
  | lineBreak | running => some last
  | quotation => some (if isSure then .fresh else last)
  | item => some (if isSure then .guarded else last)
  | heading | block => last.part isSure
  | cell => last.soften.bind fun _ => s.soften
  | row => last.soften
  | marked => some (if isSure then .guarded else s)

end Setting

/-- How the content of an element stands in its lines. -/
def Node.setting (gfm : Bool) (n : Node) : Setting :=
  if n.isMarked gfm then .marked else .ofTag n.tagName

/-- The element is not left out: there is ink in it, or it is of a kind that is always kept and lies
in nothing that is left out. -/
def Node.isSure (isKept : Bool) (n : Node) : Bool :=
  !(textOf n.children).isBlank || isKept && (isVoidTag n.tagName || isAlwaysRendered n.tagName)

mutual

/-- A node is met, each text of it as what `judge` takes it for. `isKept` says that what the node lies
in is not left out. -/
def Node.skim (gfm : Bool) (judge : Text → Text) : (isKept : Bool) → Node → LineHead → Option LineHead
  | _, .string kind value, s => if kind.isText then s.skim (judge value) else some s
  | isKept, .element name attributes children, s =>
    let setting := (Node.element name attributes children).setting gfm
    let isSure := (Node.element name attributes children).isSure isKept
    (setting.enter gfm isSure s).bind fun inner =>
      (if setting.isOpen then skimNodes gfm judge isSure children inner
        else some inner).bind fun last => setting.leave isSure s last

/-- Nodes are met, one after another. -/
def skimNodes (gfm : Bool) (judge : Text → Text) :
    (isKept : Bool) → List Node → LineHead → Option LineHead
  | _, [], s => some s
  | isKept, n :: rest, s =>
    (n.skim gfm judge isKept s).bind fun s' => skimNodes gfm judge isKept rest s'

end

/-- **An element is met** by its start, its content, if its lines are open, and its end. -/
theorem Node.skim_element_eq_some_iff {gfm isKept : Bool} {judge : Text → Text} {name : String}
    {attributes : Attributes} {children : List Node} {s s' : LineHead} :
    (Node.element name attributes children).skim gfm judge isKept s = some s' ↔
      let setting := (Node.element name attributes children).setting gfm
      let isSure := (Node.element name attributes children).isSure isKept
      ∃ inner last, setting.enter gfm isSure s = some inner ∧
        (if setting.isOpen then skimNodes gfm judge isSure children inner
          else some inner) = some last ∧
        setting.leave isSure s last = some s' := by
  simp only [Node.skim, Option.bind_eq_some_iff]
  constructor
  · rintro ⟨inner, hinner, last, hlast, hleave⟩
    exact ⟨inner, last, hinner, hlast, hleave⟩
  · rintro ⟨inner, last, hinner, hlast, hleave⟩
    exact ⟨inner, hinner, last, hlast, hleave⟩

/-- What a text of a document is taken for: if it stands in the markup as it is, then with a backslash
before every period between a digit and a space. -/
def asEscaped (markup t : Text) : Text := if t <:+: markup then escapeAfter false t else t

/-- **Escaped markup has these backslashes.** -/
theorem asEscaped_escapeListMarkers (markup : Text) : asEscaped (escapeListMarkers markup) = id := by
  funext t
  rw [asEscaped]
  split
  · next h => exact escapeAfter_of_isInfix h
  · rfl

/-- No marker is skimmed in the nodes below the root of a document that comes from some markup. -/
def isMarkerFree (gfm : Bool) (markup : Text) (ns : List Node) : Bool :=
  (skimNodes gfm (asEscaped markup) true ns .fresh).isSome

/-- In escaped markup the texts are skimmed as they are. -/
theorem isMarkerFree_escapeListMarkers (gfm : Bool) (markup : Text) (ns : List Node) :
    isMarkerFree gfm (escapeListMarkers markup) ns =
      (skimNodes gfm id true ns .fresh).isSome := by
  rw [isMarkerFree, asEscaped_escapeListMarkers]

/-! ## White space counts for nothing -/

namespace LineHead

variable {s s' : LineHead} {c : Char} {t u : Text}

@[simp] theorem skim_nil (s : LineHead) : s.skim [] = some s := rfl

@[simp] theorem skim_cons (s : LineHead) (c : Char) (t : Text) :
    s.skim (c :: t) = (s.meet c).bind fun r => r.skim t := rfl

theorem skim_append (s : LineHead) (t u : Text) :
    s.skim (t ++ u) = (s.skim t).bind fun r => r.skim u := List.foldlM_append

theorem eq_of_meet (hc : isBlank c = true) (h : s.meet c = some s') : s' = s := by
  rw [meet, if_pos hc] at h
  split at h
  · have hpause : ∀ s s' : LineHead, s.pause = some s' → s' = s := by decide
    exact hpause s s' h
  · exact (Option.some.inj h).symm

/-- White space leaves the head as it is. -/
theorem eq_of_skim (ht : t.isBlank = true) (h : s.skim t = some s') : s' = s := by
  induction t with
  | nil => exact (Option.some.inj h).symm
  | cons c t ih =>
    rw [Text.isBlank, List.all_cons, Bool.and_eq_true] at ht
    rw [skim_cons, Option.bind_eq_some_iff] at h
    obtain ⟨r, hr, hrest⟩ := h
    obtain rfl := eq_of_meet ht.1 hr
    exact ih ht.2 hrest

theorem skim_of_blank_append (ht : t.isBlank = true) (h : s.skim (t ++ u) = some s') :
    s.skim u = some s' := by
  rw [skim_append, Option.bind_eq_some_iff] at h
  obtain ⟨r, hr, hrest⟩ := h
  obtain rfl := eq_of_skim ht hr
  exact hrest

theorem skim_of_append_blank (hu : u.isBlank = true) (h : s.skim (t ++ u) = some s') :
    s.skim t = some s' := by
  rw [skim_append, Option.bind_eq_some_iff] at h
  obtain ⟨r, hr, hrest⟩ := h
  obtain rfl := eq_of_skim hu hrest
  exact hr

section Trim

variable {p : Char → Bool} (hp : ∀ c, p c = true → isBlank c = true)

include hp

theorem skim_trimStart (h : s.skim t = some s') : s.skim (trimStart p t) = some s' := by
  rw [← List.takeWhile_append_dropWhile (p := p) (l := t)] at h
  exact skim_of_blank_append
    (List.all_eq_true.mpr fun c hc => hp c (List.mem_takeWhile_imp hc)) h

theorem skim_trimEnd (h : s.skim t = some s') : s.skim (trimEnd p t) = some s' := by
  rw [← List.rdropWhile_append_rtakeWhile (p := p) (l := t)] at h
  exact skim_of_append_blank
    (List.all_eq_true.mpr fun c hc => hp c (List.mem_rtakeWhile_imp hc)) h

end Trim

theorem skim_dropBreaks (h : s.skim t = some s') : s.skim (dropBreaks t) = some s' := by
  have hstart : s.skim (dropHeadBreak t) = some s' := by
    rw [dropHeadBreak.eq_def]
    split
    · exact h
    · split
      · exact skim_trimStart (fun _ hc => hc) h
      · exact h
  rw [dropBreaks, dropTailBreak]
  split
  · exact skim_trimEnd (fun _ hc => hc) hstart
  · exact hstart

theorem skim_squeezeAfter (h : s.skim t = some s') (isInRun : Bool) :
    s.skim (squeezeAfter isInRun t) = some s' := by
  induction t generalizing s isInRun with
  | nil => exact h
  | cons c t ih =>
    rw [skim_cons, Option.bind_eq_some_iff] at h
    obtain ⟨r, hr, hrest⟩ := h
    rw [squeezeAfter]
    split
    · next hc =>
      -- spacing leaves the head as it is, whether it goes or becomes a space
      obtain rfl := eq_of_meet (isBlank_of_isSpacing c hc) hr
      split
      · exact ih hrest true
      · rw [meet, if_pos hc] at hr
        have hspace : r.meet ' ' = some r := hr
        rw [skim_cons, hspace]
        exact ih hrest true
    · rw [skim_cons, hr]
      exact ih hrest false

theorem leads_of_meet (hc : c ≠ '\n') (h : s.meet c = some s') : s.Leads [c] s' := by
  have hone : ∀ {r : LineHead}, s.write c = some r → s' ≤ r → s.Leads [c] s' := fun hr hle =>
    ⟨_, by rw [after_cons, hr]; rfl, hle⟩
  rw [meet] at h
  split at h
  · next hspacing =>
    have hspace : ∀ s s' : LineHead, s.pause = some s' → ∃ r, s.space = some r ∧ s' ≤ r := by decide
    have htab : ∀ s s' : LineHead, s.pause = some s' → ∃ r, s.tab = some r ∧ s' ≤ r := by decide
    simp only [isSpacing, Bool.or_eq_true, beq_iff_eq, hc, or_false] at hspacing
    rcases hspacing with (rfl | rfl) | rfl
    · obtain ⟨r, hr, hle⟩ := hspace s s' h
      exact hone hr hle
    · obtain ⟨r, hr, hle⟩ := htab s s' h
      exact hone hr hle
    · obtain ⟨r, hr, hle⟩ := htab s s' h
      exact hone hr hle
  · next hspacing =>
    split at h
    · next hblank =>
      have hpoint : c ≠ '.' := by
        rintro rfl
        exact absurd hblank (by decide)
      have hplain : isPlain c = true := by
        rw [isPlain, Bool.eq_false_iff.mpr hspacing, not_isDecimalDigit_of_isBlank hblank,
          bne_iff_ne.mpr hpoint]
        rfl
      exact hone (write_of_isPlain hplain s) (le_guarded s')
    · exact hone h le_rfl

/-- **A text without line feeds is written as it is skimmed.** -/
theorem leads_of_skim (ht : '\n' ∉ t) (h : s.skim t = some s') : s.Leads t s' := by
  induction t generalizing s with
  | nil =>
    obtain rfl := Option.some.inj h
    exact .nil s
  | cons c t ih =>
    rw [List.mem_cons, not_or] at ht
    rw [skim_cons, Option.bind_eq_some_iff] at h
    obtain ⟨r, hr, hrest⟩ := h
    exact (leads_of_meet (Ne.symm ht.1) hr).append (ih ht.2 hrest)

end LineHead

/-! ## Both passes over white space -/

/-- A text that is lighter than another, without line feeds, and leads wherever the other one does. -/
structure Text.IsSettled (t v : Text) : Prop where
  lighter : t.Lighter v
  noBreak : '\n' ∉ t
  skim : ∀ s s' : LineHead, s.skim v = some s' → s.skim t = some s'

theorem not_mem_squeezeAfter (isInRun : Bool) (t : Text) : '\n' ∉ squeezeAfter isInRun t := by
  induction t generalizing isInRun with
  | nil => exact List.not_mem_nil
  | cons c t ih =>
    rw [squeezeAfter]
    split
    · split
      · exact ih true
      · rw [List.mem_cons, not_or]
        exact ⟨by decide, ih true⟩
    · next hc =>
      rw [List.mem_cons, not_or]
      refine ⟨?_, ih false⟩
      rintro rfl
      exact hc rfl

/-- **The texts of a collapse are settled.** -/
theorem isSettled_settledTexts (ns : List Node) :
    List.Forall₂ Text.IsSettled (settledTexts isBlockTag isPreTag ns) (metTexts isPreTag ns) := by
  refine forall₂_settledTexts (fun t v h => ?trim) (fun t v h => ?space) fun v _ => ?squeeze
  case trim =>
    exact ⟨(lighter_dropTrailingSpaces t).trans h.lighter,
      fun hmem => h.noBreak ((sublist_trimEnd _ t).subset hmem),
      fun s s' hs => LineHead.skim_trimEnd isBlank_of_eq_space (h.skim s s' hs)⟩
  case space =>
    exact ⟨(lighter_cons_space t).trans h.lighter, List.not_mem_of_not_mem_cons h.noBreak,
      fun s s' hs => LineHead.skim_of_blank_append (t := [' ']) rfl (h.skim s s' hs)⟩
  case squeeze =>
    exact ⟨lighter_squeeze v, not_mem_squeezeAfter false v,
      fun s s' hs => LineHead.skim_squeezeAfter hs false⟩

section Passes

variable {gfm isKept : Bool} {s s' : LineHead}

theorem isBlank_textOf_of_thinned {ns ns' : List Node} (h : Thinned ns ns') :
    (textOf ns').isBlank = (textOf ns).isBlank := by
  rw [Bool.eq_iff_iff, ← ink_eq_nil_iff, ← ink_eq_nil_iff, ink_textOf_of_thinned h]

/-- An element leads where it did if its content does, and has ink if it had. -/
theorem skim_element_congr {name : String} {attributes : Attributes} {children children' : List Node}
    (hthin : Thinned children children')
    (hchildren : ∀ isSure r r', skimNodes gfm id isSure children r = some r' →
      skimNodes gfm id isSure children' r = some r')
    (h : (Node.element name attributes children).skim gfm id isKept s = some s') :
    (Node.element name attributes children').skim gfm id isKept s = some s' := by
  have hsetting : (Node.element name attributes children').setting gfm =
      (Node.element name attributes children).setting gfm := rfl
  have hsure : (Node.element name attributes children').isSure isKept =
      (Node.element name attributes children).isSure isKept := by
    rw [Node.isSure, Node.isSure, Node.children, Node.children, isBlank_textOf_of_thinned hthin]
    rfl
  rw [Node.skim_element_eq_some_iff] at h ⊢
  rw [hsetting, hsure]
  obtain ⟨inner, last, hinner, hlast, h⟩ := h
  refine ⟨inner, last, hinner, ?_, h⟩
  split at hlast
  · next hopen =>
    rw [if_pos hopen]
    exact hchildren _ inner last hlast
  · next hopen =>
    rw [if_neg hopen]
    exact hlast

theorem skimNodes_cons_of {n : Node} {rest ns : List Node}
    (hn : ∀ r, n.skim gfm id isKept s = some r → skimNodes gfm id isKept rest r = some s' →
      skimNodes gfm id isKept ns s = some s')
    (h : skimNodes gfm id isKept (n :: rest) s = some s') : skimNodes gfm id isKept ns s = some s' := by
  rw [skimNodes, Option.bind_eq_some_iff] at h
  obtain ⟨r, hr, hrest⟩ := h
  exact hn r hr hrest

/-- **A collapse leaves nodes as they were skimmed.** -/
theorem skimNodes_of_retexted {ns ns' : List Node} (h : Retexted isPreTag Text.IsSettled ns ns')
    (hs : skimNodes gfm id isKept ns s = some s') : skimNodes gfm id isKept ns' s = some s' := by
  induction h generalizing isKept s s' with
  | nil => exact hs
  | preformatted attributes children _ _ ih =>
    refine skimNodes_cons_of (fun r hr hrest => ?_) hs
    rw [skimNodes, hr]
    exact ih hrest
  | element attributes _ hchildren _ ihc ihr =>
    refine skimNodes_cons_of (fun r hr hrest => ?_) hs
    rw [skimNodes, skim_element_congr (hchildren.mono fun _ _ ht => ht.lighter).thinned
      (fun _ _ _ => ihc) hr]
    exact ihr hrest
  | comment value _ _ ih =>
    refine skimNodes_cons_of (fun r hr hrest => ?_) hs
    rw [skimNodes, hr]
    exact ih hrest
  | text hkind _ ht _ ih =>
    refine skimNodes_cons_of (fun r hr hrest => ?_) hs
    rw [Node.skim, if_pos hkind] at hr
    rw [skimNodes, Node.skim, if_pos hkind, id, ht.skim _ _ hr]
    exact ih hrest
  | gone hkind ht _ ih =>
    refine skimNodes_cons_of (fun r hr hrest => ?_) hs
    rw [Node.skim, if_pos hkind] at hr
    obtain rfl := Option.some.inj (ht.skim _ _ hr)
    exact ih hrest

theorem skimNodes_append (ns ns' : List Node) (s : LineHead) :
    skimNodes gfm id isKept (ns ++ ns') s =
      (skimNodes gfm id isKept ns s).bind fun r => skimNodes gfm id isKept ns' r := by
  induction ns generalizing s with
  | nil => rfl
  | cons n ns ih => simp only [List.cons_append, skimNodes, ih, Option.bind_assoc]

mutual

theorem skimNodes_rebuildNode (outside : Surroundings) (before after : List Node) :
    ∀ {n : Node} {isKept : Bool} {s s' : LineHead}, n.skim gfm id isKept s = some s' →
      skimNodes gfm id isKept (Place.rebuildNode outside before after n) s = some s'
  | .element name attributes children, _, s, s', h => by
    rw [Place.rebuildNode, skimNodes, skim_element_congr (thinned_rebuildNodes _ [] children)
      (fun _ _ _ => skimNodes_rebuildNodes _ []) h]
    rfl
  | .string kind value, isKept, s, s', h => by
    have hsame : skimNodes gfm id isKept [.string kind value] s = some s' := by
      rw [skimNodes, h]
      rfl
    rw [rebuildNode_string]
    rw [Node.skim] at h
    split at h
    · next hkind =>
      rw [id] at h
      simp only [hkind, Bool.not_true, Bool.false_eq_true, if_false]
      split_ifs with hpre hblank
      · exact hsame
      · exact hsame
      · rw [LineHead.eq_of_skim hblank h]
        rfl
      · rw [skimNodes, Node.skim, if_pos hkind, id, LineHead.skim_dropBreaks h]
        rfl
    · next hkind =>
      simp only [hkind, Bool.not_false, if_true]
      exact h

theorem skimNodes_rebuildNodes (outside : Surroundings) (before : List Node) :
    ∀ {ns : List Node} {isKept : Bool} {s s' : LineHead}, skimNodes gfm id isKept ns s = some s' →
      skimNodes gfm id isKept (Place.rebuildNodes outside before ns) s = some s'
  | [], _, _, _, h => h
  | n :: rest, _, s, s', h => by
    rw [skimNodes, Option.bind_eq_some_iff] at h
    obtain ⟨r, hr, hrest⟩ := h
    rw [Place.rebuildNodes, skimNodes_append, skimNodes_rebuildNode outside before rest hr]
    exact skimNodes_rebuildNodes outside (n :: before) hrest

end

end Passes

/-- The node is no text with a line feed. -/
def Node.IsUnbroken : Node → Prop
  | .element .. => True
  | .string kind value => kind.isText = true → '\n' ∉ value

/-- After a collapse no text outside preformatted elements has a line feed. -/
theorem isUnbroken_of_retexted {ns ns' : List Node} (h : Retexted isPreTag Text.IsSettled ns ns')
    (hpre : Everywhere (fun n => isPreTag n.tagName = false) ns) : Everywhere Node.IsUnbroken ns' := by
  induction h with
  | nil => trivial
  | preformatted attributes children hpreTag _ _ =>
    have hnot := hpre.1.here
    rw [Node.tagName, hpreTag] at hnot
    cases hnot
  | element attributes _ _ _ ihc ihr => exact ⟨⟨trivial, ihc hpre.1.children⟩, ihr hpre.2⟩
  | comment value hkind _ ih =>
    refine ⟨fun hyes => ?_, ih hpre.2⟩
    rw [hkind] at hyes
    cases hyes
  | text _ _ ht _ ih => exact ⟨fun _ => ht.noBreak, ih hpre.2⟩
  | gone _ _ _ ih => exact ih hpre.2

/-- **Both passes leave a document as it was skimmed.** -/
theorem skimNodes_foldedRoot {gfm isKept : Bool} {document : List Node} {s s' : LineHead}
    (h : skimNodes gfm id isKept (Place.root document).nodes s = some s') :
    skimNodes gfm id isKept (foldedRoot document).nodes s = some s' := by
  have hretexted := Retexted.resettle _ (isSettled_settledTexts (Place.root document).nodes)
  rw [nodes_foldedRoot]
  exact skimNodes_rebuildNodes _ [] (skimNodes_of_retexted hretexted h)

/-- Both passes leave no line feeds in the texts of a document without preformatted elements. -/
theorem isUnbroken_foldedRoot {document : List Node}
    (hpre : Everywhere (fun n => isPreTag n.tagName = false) (Place.root document).nodes) :
    Everywhere Node.IsUnbroken (foldedRoot document).nodes := by
  have hretexted := Retexted.resettle _ (isSettled_settledTexts (Place.root document).nodes)
  rw [nodes_foldedRoot]
  refine (thinned_rebuildNodes _ [] _).everywhere (fun _ _ _ _ _ _ => trivial) ?_
    (isUnbroken_of_retexted hretexted hpre)
  intro kind value value' hlighter hvalue hkind hmem
  rcases hlighter.2 _ hmem with hmem | hspace
  · exact hvalue hkind hmem
  · exact absurd hspace (by decide)

/-! ## Nodes without ink -/

namespace Setting

/-- Where an element without ink leads is no more than what it was met with, if so it is at its
end. -/
theorem leave_le {gfm : Bool} {setting : Setting} {s inner last s' : LineHead}
    (hinner : setting.enter gfm false s = some inner) (hle : last ≤ inner)
    (h : setting.leave false s last = some s') : s' ≤ s := by
  have hsoften : ∀ s inner : LineHead, s.soften = some inner → inner ≤ s := by decide
  cases setting with
  | lineBreak | quotation | item =>
    cases h
    exact hle.trans (hsoften s inner hinner)
  | heading =>
    obtain ⟨q, hq, rfl⟩ := Option.map_eq_some_iff.mp hinner
    exact (hsoften last s' h).trans (hle.trans (hsoften s q hq))
  | cell =>
    obtain ⟨_, _, hs⟩ := Option.bind_eq_some_iff.mp h
    exact hsoften s s' hs
  | row | block => exact (hsoften last s' h).trans (hle.trans (hsoften s inner hinner))
  | marked =>
    cases h
    exact le_rfl
  | running =>
    cases h
    cases hinner
    exact hle

end Setting

/-- A node without ink may be left out in what may be left out. -/
theorem Node.isSure_eq_false {n : Node} (h : n.text.isBlank = true) : n.isSure false = false := by
  cases n with
  | element name attributes children =>
    rw [Node.text_element] at h
    rw [Node.isSure, Node.children, h, Bool.false_and]
    rfl
  | string => rfl

mutual

/-- A node that may be left out leads to no greater head. -/
theorem Node.skim_le {gfm isKept : Bool} : ∀ {n : Node} {s s' : LineHead}, n.text.isBlank = true →
    n.isSure isKept = false → n.skim gfm id isKept s = some s' → s' ≤ s
  | .string kind value, s, s', hblank, _, h => by
    rw [Node.skim] at h
    rw [Node.text_string] at hblank
    split at h
    · next hkind =>
      rw [if_pos hkind] at hblank
      exact (LineHead.eq_of_skim hblank h).le
    · exact (Option.some.inj h).ge
  | .element name attributes children, s, s', hblank, hsure, h => by
    rw [Node.text_element] at hblank
    rw [Node.skim_element_eq_some_iff, hsure] at h
    obtain ⟨inner, last, hinner, hlast, h⟩ := h
    refine Setting.leave_le hinner ?_ h
    split at hlast
    · exact skimNodes_le hblank hlast
    · exact (Option.some.inj hlast).ge

/-- **Nodes without ink lead to no greater head** in what may be left out. -/
theorem skimNodes_le {gfm : Bool} : ∀ {ns : List Node} {s s' : LineHead},
    (textOf ns).isBlank = true → skimNodes gfm id false ns s = some s' → s' ≤ s
  | [], _, _, _, h => (Option.some.inj h).ge
  | n :: rest, s, s', hblank, h => by
    rw [textOf_cons, isBlank_append, Bool.and_eq_true] at hblank
    rw [skimNodes, Option.bind_eq_some_iff] at h
    obtain ⟨r, hr, hrest⟩ := h
    exact (skimNodes_le hblank.2 hrest).trans
      (Node.skim_le hblank.1 (Node.isSure_eq_false hblank.1) hr)

end

end HtmlMarkdown
