import Mathlib
import HtmlMarkdown.Proofs.Skim

/-!
# The heads of the lines that a rule writes

What a rule writes around a content stands before it in its line, or starts a line of its own.

* `Text.IsUnnumbered`, `Node.IsUnnumbered`: no marker in what is written of attributes and tags;
* `LineHead.Guards`, `Guards.frame`: texts that guard the rest of their line;
* `BuiltIn.guards`: so does what a rule makes of an element within a line;
* `leads_flank`: the spaces around it complete no marker;
* `leads_asBlock`, `isSome_after_outer`: blocks, and the own tags of an element;
* **`BuiltIn.leads`**: what a rule makes of a block leads to what is left at the end of a block.
-/

namespace HtmlMarkdown

open Text

/-! ## Attributes and tags -/

/-- In running text, no line of the text but the first one begins with a marker, also with a space
behind the text. -/
def Text.IsUnnumbered (v : Text) : Prop := (LineHead.guarded.after (v ++ [' '])).isSome = true

instance : DecidablePred Text.IsUnnumbered := fun v =>
  inferInstanceAs (Decidable ((LineHead.guarded.after (v ++ [' '])).isSome = true))

/-- The attributes that the rules write in running text. -/
def writtenKeys : List String := ["alt", "href", "src", "title"]

/-- No ordered list, no preformatted text, and no marker in what the rules write of tags and
attributes: of the tags of blocks, and of the attributes of links and images. -/
@[mk_iff]
structure Node.IsUnnumbered (n : Node) : Prop where
  notOrdered : n.tagName ≠ "ol"
  notPre : isPreTag n.tagName = false
  outer : n.isBlock = true →
    (LineHead.fresh.after ((Place.node n [] [] .document).outer [])).isSome = true
  value : n.tagName ∈ ["a", "img"] →
    ∀ key ∈ writtenKeys, ∀ v ∈ n.attribute? key, v.display.IsUnnumbered

instance : DecidablePred Node.IsUnnumbered := fun n =>
  decidable_of_iff' _ n.isUnnumbered_iff

theorem Node.IsUnnumbered.tagName_ne_pre {n : Node} (hn : n.IsUnnumbered) : n.tagName ≠ "pre" :=
  beq_eq_false_iff_ne.mp hn.notPre

theorem isUnnumbered_foldedRoot {document : List Node}
    (h : Everywhere Node.IsUnnumbered (Place.root document).nodes) :
    Everywhere Node.IsUnnumbered (foldedRoot document).nodes :=
  (thinned_foldedRoot document).everywhere
    (fun _ _ _ _ _ hn => ⟨hn.notOrdered, hn.notPre, hn.outer, hn.value⟩)
    (fun _ _ _ _ hn => ⟨hn.notOrdered, hn.notPre, hn.outer, hn.value⟩) h

namespace LineHead

variable {s s' inner last : LineHead} {t u content inside left right : Text}

/-! ## Texts that guard their line -/

/-- The text can be written after every head, and guards the rest of its last line. -/
def Guards (t : Text) : Prop := ∀ s : LineHead, s.Leads t guarded

theorem exists_leads (h : (s.after t).isSome = true) : ∃ r, s.Leads t r := by
  obtain ⟨r, hr⟩ := Option.isSome_iff_exists.mp h
  exact ⟨r, r, hr, le_rfl⟩

namespace Guards

theorem cons {c : Char} (hc : isPlain c = true) (h : guarded.Leads t guarded) : Guards (c :: t) :=
  leads_cons hc h

theorem singleton {c : Char} (hc : isPlain c = true) : Guards [c] := leads_singleton hc

/-- **What stands between texts that guard their lines** can begin as it likes. -/
theorem frame (hleft : Guards left) (hinside : (guarded.after inside).isSome = true)
    (hright : Guards right) : Guards (left ++ inside ++ right) := by
  obtain ⟨r, hr⟩ := exists_leads hinside
  exact fun s => ((hleft s).append hr).append (hright r)

end Guards

/-- A space can be written in a line that is guarded. -/
theorem leads_space : guarded.Leads [' '] guarded := ⟨guarded, rfl, le_rfl⟩

/-- The start of a text that can be written with a space behind it, and that space. -/
theorem exists_leads_space (h : t.IsUnnumbered) :
    ∃ r, guarded.Leads t r ∧ r.Leads [' '] guarded := by
  obtain ⟨r, hr⟩ := Option.isSome_iff_exists.mp (isSome_after_of_append h)
  rw [Text.IsUnnumbered, after_append, hr, Option.bind_some, after_cons, write_space] at h
  have hspace : ∀ r : LineHead, (r.space.bind fun q => q.after []).isSome = true →
      r.space = some guarded := by decide
  exact ⟨r, ⟨r, hr, le_rfl⟩, guarded, by rw [after_cons, write_space, hspace r h]; rfl, le_rfl⟩

end LineHead

open LineHead

/-! ## Elements within a line -/

/-- What a rule reads of the attributes of a link or an image is harmless in running text. -/
theorem Node.IsUnnumbered.filledAttribute? {n : Node} (hn : n.IsUnnumbered)
    {before after : List Node} {outside : Surroundings} (htag : n.tagName ∈ ["a", "img"]) :
    ∀ key ∈ writtenKeys, ∀ v ∈ (Place.node n before after outside).filledAttribute? key,
      v.display.IsUnnumbered :=
  fun key hkey v hv => hn.value htag key hkey v (Option.filter_eq_some_iff.mp hv).1

section Rules

variable {p : Place} {content out : Text}
  (hvalue : ∀ key ∈ writtenKeys, ∀ v ∈ p.filledAttribute? key, v.display.IsUnnumbered)

include hvalue

theorem isUnnumbered_attributeText (key : String) (hkey : key ∈ writtenKeys) :
    (p.attributeText key).IsUnnumbered := by
  rw [Place.attributeText]
  rcases hv : p.filledAttribute? key with _ | v
  · exact rfl
  · exact hvalue key hkey v hv

/-- A target with the title behind it, up to the closing parenthesis. -/
theorem leads_target {target : Text} (htarget : target.IsUnnumbered) :
    guarded.Leads (target ++ Markdown.titlePart p ++ [')']) guarded := by
  obtain ⟨r, hr, hspace⟩ := exists_leads_space htarget
  have hclose : Guards [')'] := .singleton (by decide)
  rw [Markdown.titlePart]
  split
  · next title htitle =>
    obtain ⟨q, hq, -⟩ := exists_leads_space (hvalue "title" (by decide) title htitle)
    have hquoted : Guards (['"'] ++ title.display ++ ['"']) :=
      .frame (.singleton (by decide)) (Option.isSome_iff_exists.mpr (hq.imp fun _ h => h.1))
        (.singleton (by decide))
    have hall := ((hr.append hspace).append (hquoted guarded)).append (hclose guarded)
    simpa using hall
  · rw [List.append_nil]
    exact hr.append (hclose r)

theorem guards_link (hlink : p.isLink = true) (h : (guarded.after content).isSome = true) :
    Guards (Markdown.link content p) := by
  rw [Place.isLink, Bool.and_eq_true] at hlink
  obtain ⟨target, htarget⟩ := Option.isSome_iff_exists.mp hlink.2
  have hwritten : Markdown.linkTarget p = target.display := by
    rcases p with _ | ⟨here, before, after, outside⟩
    · cases htarget
    · have hlookup : here.attribute? "href" = some target :=
        (Option.filter_eq_some_iff.mp htarget).1
      rw [Markdown.linkTarget, Place.attribute?, hlookup]
  have hbehind := leads_target hvalue (hvalue "href" (by decide) target htarget)
  have hright : Guards (']' :: '(' :: (target.display ++ Markdown.titlePart p ++ [')'])) :=
    .cons (by decide) (Guards.cons (by decide) hbehind guarded)
  have hall := Guards.frame (.singleton (by decide : isPlain '[' = true)) h hright
  rw [Markdown.link, hwritten]
  simpa using hall

/-- An image is nothing, or it guards its line. -/
theorem eq_nil_or_guards_image :
    Markdown.image content p = [] ∨ Guards (Markdown.image content p) := by
  rw [Markdown.image]
  split
  · exact Or.inl rfl
  · obtain ⟨r, hr, -⟩ := exists_leads_space (isUnnumbered_attributeText hvalue "alt" (by decide))
    have hbehind := leads_target hvalue (isUnnumbered_attributeText hvalue "src" (by decide))
    have hopen : Guards ['!', '['] := .cons (by decide) (Guards.singleton (by decide) guarded)
    have hall := Guards.frame hopen (Option.isSome_iff_exists.mpr (hr.imp fun _ h => h.1))
      (.cons (by decide : isPlain ']' = true)
        ((Guards.cons (by decide : isPlain '(' = true) hbehind) _))
    right
    simpa using hall

end Rules

/-- **What a rule makes of an element within a line guards the line**, unless it is nothing for an
element that cannot hold content; the code of a code block is left to the block. -/
theorem BuiltIn.guards {p : Place} {content out : Text} {result : Except Error Text}
    (hrule : BuiltIn p content result)
    (hvalue : p.tagName ∈ ["a", "img"] →
      ∀ key ∈ writtenKeys, ∀ v ∈ p.filledAttribute? key, v.display.IsUnnumbered)
    (hresult : result = .ok out) (hline : endsLine p.tagName = false)
    (hcode : p.isCodeBlockBody = false) (h : (guarded.after content).isSome = true) :
    Guards out ∨ p.isVoid = true ∧ out = [] := by
  have hno : ∀ tag, endsLine tag = true → p.tagName ≠ tag := by
    rintro _ htag rfl
    rw [htag] at hline
    cases hline
  have hnone : ∀ tags : List String, (∀ tag ∈ tags, endsLine tag = true) → p.tagName ∉ tags :=
    fun tags htags hmem => hno _ (htags _ hmem) rfl
  have hmarked : ∀ mark : Text, Guards mark → Guards (mark ++ content ++ mark) :=
    fun _ hmark => .frame hmark h hmark
  have hpair : ∀ {c : Char}, isPlain c = true → Guards [c, c] := fun hc =>
    .cons hc (Guards.singleton hc guarded)
  cases hrule with
  | emphasis =>
    cases hresult
    exact Or.inl (hmarked ['_'] (.singleton (by decide)))
  | strong =>
    cases hresult
    exact Or.inl (hmarked ['*', '*'] (hpair (by decide)))
  | inlineCode =>
    cases hresult
    exact Or.inl (hmarked [Char.ofNat 0x60] (.singleton (by decide)))
  | strikethrough =>
    cases hresult
    exact Or.inl (hmarked ['~', '~'] (hpair (by decide)))
  | link hlink =>
    cases hresult
    have htag : p.tagName ∈ ["a", "img"] := by
      rw [Place.isLink, Bool.and_eq_true, beq_iff_eq] at hlink
      rw [hlink.1]
      decide
    exact Or.inl (guards_link (hvalue htag) hlink h)
  | image htag =>
    cases hresult
    have himage : p.tagName ∈ ["a", "img"] := by
      rw [htag]
      decide
    refine (eq_nil_or_guards_image (hvalue himage)).symm.imp_right fun hnil => ⟨?_, hnil⟩
    rw [Place.isVoid, htag]
    decide
  | checkbox =>
    cases hresult
    rw [Gfm.checkbox]
    split
    · exact Or.inl (.cons (by decide) ⟨guarded, by decide, le_rfl⟩)
    · exact Or.inl (.cons (by decide) ⟨guarded, by decide, le_rfl⟩)
  | codeBlockBody hbody =>
    rw [hbody] at hcode
    cases hcode
  | paragraph htag | lineBreak _ htag | horizontalRule htag | blockquote htag | listItem htag
  | tableRow htag | table htag | highlightWrapper htag => exact absurd htag (hno _ (by decide))
  | heading _ htag | list htag | cell htag | tableSection htag =>
    exact absurd htag (hnone _ (by decide))
  | codeBlock _ hpre =>
    exact absurd (List.mem_singleton.mp (p.tagName_of_isCodeBlock hpre)) (hno _ (by decide))
  | highlighted hpre =>
    simp only [Place.isHighlightedPre, Bool.and_eq_true, beq_iff_eq] at hpre
    exact absurd hpre.1.1 (hno _ (by decide))
  | block hblock =>
    rw [Place.isBlock] at hblock
    rw [endsLine, hblock] at hline
    cases hline

/-! ## Spaces around an element -/

section Flank

variable {p : Place} {content middle : Text} {s last : LineHead}

theorem isInfix_flank_content (p : Place) (content : Text) :
    (p.flank content).content <:+: content := by
  rw [Place.flank]
  split
  · exact List.infix_rfl
  · have hleft : (p.flankLeft content).content <:+: content := by
      rcases p.flankLeft_eq content with h | h
      · rw [h]
      · rw [h]
        exact (Place.trimStart_suffix isSpacing content).isInfix
    rcases p.flankRight_eq (p.flankLeft content) with h | h
    · rwa [h]
    · rw [h]
      exact (Place.trimEnd_prefix isSpacing _).isInfix.trans hleft

theorem flank_trailing (p : Place) (content : Text) :
    (p.flank content).trailing = [] ∨ (p.flank content).trailing = [' '] := by
  rw [Place.flank]
  split
  · exact Or.inl rfl
  · rcases p.flankRight_eq (p.flankLeft content) with h | h
    · rw [h]
      left
      rcases p.flankLeft_eq content with h | h <;> rw [h]
    · rw [h]
      exact Or.inr rfl

/-- A space is written before an element only for spacing at the start of its content. -/
theorem flank_leading (p : Place) (content : Text) : (p.flank content).leading = [] ∨
    (p.flank content).leading = [' '] ∧ ∃ c t, content = c :: t ∧ isSpacing c = true := by
  have hleft : (p.flankLeft content).leading = [] ∨
      (p.flankLeft content).leading = [' '] ∧ ∃ c t, content = c :: t ∧ isSpacing c = true := by
    rw [Place.flankLeft]
    split
    · next hcond =>
      rw [Bool.and_eq_true] at hcond
      rcases content with _ | ⟨c, t⟩
      · cases hcond.1
      · exact Or.inr ⟨rfl, c, t, rfl, hcond.1⟩
    · exact Or.inl rfl
  rw [Place.flank]
  split
  · exact Or.inl rfl
  · rcases p.flankRight_eq (p.flankLeft content) with h | h <;> rw [h] <;> exact hleft

/-- **The spaces around an element complete no marker**: after one, no spacing is met at the edge. -/
theorem leads_flank (hcontent : s.shift.Leads content last) (hmiddle : Guards middle) :
    s.Leads ((p.flank content).leading ++ middle ++ (p.flank content).trailing) guarded := by
  have htrailing : guarded.Leads (p.flank content).trailing guarded := by
    rcases flank_trailing p content with h | h <;> rw [h]
    · exact .nil guarded
    · exact leads_space
  refine Leads.append ?_ htrailing
  rcases flank_leading p content with h | ⟨h, c, t, rfl, hc⟩ <;> rw [h]
  · exact hmiddle s
  · obtain ⟨r, hr, -⟩ := hcontent
    rw [after_cons, Option.bind_eq_some_iff] at hr
    obtain ⟨q, hq, -⟩ := hr
    have hspace : ∀ s q : LineHead, (s.shift.feed = some q → s.space = some guarded) ∧
        (s.shift.space = some q → s.space = some guarded) ∧
        (s.shift.tab = some q → s.space = some guarded) := by decide
    obtain ⟨hfeed, hblank, htab⟩ := hspace s q
    have hs : s.space = some guarded := by
      simp only [isSpacing, Bool.or_eq_true, beq_iff_eq] at hc
      rcases hc with ((rfl | rfl) | rfl) | rfl
      · exact hblank hq
      · exact htab hq
      · exact htab hq
      · exact hfeed hq
    exact Leads.append ⟨guarded, by rw [after_cons, write_space, hs]; rfl, le_rfl⟩ (hmiddle guarded)

end Flank

/-! ## Blocks -/

section Blocks

variable {s s' inner last : LineHead} {t content : Text} {isSure : Bool}

/-- Before and after a block there may be no edge of an element whose white space may move. -/
theorem ne_edge_of_part (h : s.part isSure = some s') : s ≠ edge ∧ s' ≤ fresh := by
  have hparts : ∀ s : LineHead, ∀ isSure, ∀ s', s.part isSure = some s' → s ≠ edge ∧ s' ≤ fresh := by
    decide
  exact hparts s isSure s' h

theorem ne_edge_of_soften (h : s.soften = some s') : s ≠ edge ∧ s' ≤ fresh ∧ s' ≤ s := by
  have hsoft : ∀ s s' : LineHead, s.soften = some s' → s ≠ edge ∧ s' ≤ fresh ∧ s' ≤ s := by decide
  exact hsoft s s' h

/-- **A block starts a line of its own**, and what follows it another one. -/
theorem leads_asBlock (hs : s ≠ edge) (h : (fresh.after t).isSome = true) :
    s.Leads (asBlock t) fresh := by
  obtain ⟨r, hr⟩ := Option.isSome_iff_exists.mp h
  have hend : r.Leads ['\n', '\n'] fresh :=
    leads_feed (ne_edge_of_after (by decide) hr) (leads_feed (by decide) (.nil fresh))
  exact leads_feed hs (leads_feed (by decide) (Leads.append ⟨r, hr, le_rfl⟩ hend))

/-- What stands between two tags is put between them, wherever they are. -/
theorem replaceFirst_tags (s : Text) :
    (∀ content, replaceFirst ['>', '<'] ('>' :: content ++ ['<']) s = s) ∨
      ∃ start rest, ∀ content, replaceFirst ['>', '<'] ('>' :: content ++ ['<']) s =
        start ++ (['>'] ++ content ++ ['<']) ++ rest := by
  -- where the two tags meet does not depend on what is put between them
  induction s with
  | nil => exact Or.inl fun _ => rfl
  | cons c s ih =>
    rcases hdrop : dropStart? ['>', '<'] (c :: s) with _ | rest
    · have hnext : ∀ content, replaceFirst ['>', '<'] ('>' :: content ++ ['<']) (c :: s) =
          c :: replaceFirst ['>', '<'] ('>' :: content ++ ['<']) s := fun _ => by
        rw [replaceFirst, hdrop]
      rcases ih with ih | ⟨start, rest, ih⟩
      · exact Or.inl fun content => by rw [hnext, ih]
      · exact Or.inr ⟨c :: start, rest, fun content => by rw [hnext, ih]; rfl⟩
    · exact Or.inr ⟨[], rest, fun content => by rw [replaceFirst, hdrop]; rfl⟩

theorem outerTags_splice (name : String) (attributes : Attributes) :
    (∀ content, outerTags name attributes content = outerTags name attributes []) ∨
      ∃ start rest, ∀ content, outerTags name attributes content =
        start ++ (['>'] ++ content ++ ['<']) ++ rest := by
  simp only [outerTags]
  split
  · exact Or.inl fun _ => rfl
  · rcases replaceFirst_tags (shell (isVoidTag (lowerName name)) name attributes) with h | h
    · exact Or.inl fun content => by rw [h content, h []]
    · exact Or.inr h

/-- **An element's own tags stand around a content** that can be written behind other ink. -/
theorem isSome_after_outer {name : String} {attributes : Attributes}
    (h : (fresh.after (outerTags name attributes [])).isSome = true)
    (hcontent : (guarded.after content).isSome = true) :
    (fresh.after (outerTags name attributes content)).isSome = true := by
  rcases outerTags_splice name attributes with hsame | ⟨start, rest, hsplice⟩
  · rwa [hsame]
  · rw [hsplice] at h ⊢
    have hframe : ∀ {t : Text}, (guarded.after t).isSome = true → Guards (['>'] ++ t ++ ['<']) :=
      fun ht => .frame (.singleton (by decide)) ht (.singleton (by decide))
    obtain ⟨r, hr⟩ := exists_leads (isSome_after_of_append (isSome_after_of_append h))
    obtain ⟨q, hq⟩ := exists_leads (isSome_after_of_isInfix (List.suffix_append _ rest).isInfix h)
    obtain ⟨r', hr', -⟩ := (hr.append (hframe hcontent r)).append hq
    rw [hr', Option.isSome_some]

end Blocks

/-! ## Rules for blocks -/

namespace Setting

/-- The element is a block whose lines may begin with a marker. -/
def isOpenBlock : Setting → Bool
  | heading | cell | row | block => true
  | lineBreak | quotation | item | marked | running => false

variable {setting : Setting} {gfm isSure : Bool} {s s' inner last : LineHead}

/-- Blocks stand in lines of their own. -/
theorem ne_edge_of_isOpenBlock (hopen : setting.isOpenBlock = true)
    (henter : setting.enter gfm isSure s = some inner)
    (hleave : setting.leave isSure s last = some s') : s ≠ edge ∧ s' ≤ fresh := by
  cases setting with
  | lineBreak | quotation | item | marked | running => cases hopen
  | heading =>
    obtain ⟨q, hq, -⟩ := Option.map_eq_some_iff.mp henter
    exact ⟨(ne_edge_of_part hq).1, (ne_edge_of_part hleave).2⟩
  | cell =>
    obtain ⟨_, _, hs⟩ := Option.bind_eq_some_iff.mp hleave
    exact ⟨(ne_edge_of_soften hs).1, (ne_edge_of_soften hs).2.1⟩
  | row => exact ⟨(ne_edge_of_soften henter).1, (ne_edge_of_soften hleave).2.1⟩
  | block => exact ⟨(ne_edge_of_part henter).1, (ne_edge_of_part hleave).2⟩

end Setting

section BlockRules

variable {p : Place} {content out : Text} {s s' inner last : LineHead}
  {gfm isSure : Bool}

/-- A text of spaces and ink, without digits and periods. -/
def isInert (t : Text) : Bool := t.all fun c => c == ' ' || isPlain c

theorem isInert_append {t u : Text} : isInert (t ++ u) = (isInert t && isInert u) := List.all_append

/-- Such a text begins no marker, and after its first character the line is guarded. -/
theorem leads_of_isInert {t : Text} (h : isInert t = true) (hs : fresh ≤ s) :
    ∃ r, s.after t = some r ∧ fresh ≤ r ∧ (t ≠ [] → r = guarded) := by
  have hspace : ∀ s : LineHead, fresh ≤ s → s.space = some guarded := by decide
  induction t generalizing s with
  | nil => exact ⟨s, rfl, hs, fun hne => absurd rfl hne⟩
  | cons c t ih =>
    rw [isInert, List.all_cons, Bool.and_eq_true, Bool.or_eq_true, beq_iff_eq] at h
    have hwrite : s.write c = some guarded := by
      rcases h.1 with rfl | hc
      · exact hspace s hs
      · exact write_of_isPlain hc s
    obtain ⟨r, hr, hle, hguarded⟩ := ih h.2 (le_guarded fresh)
    refine ⟨r, by rw [after_cons, hwrite]; exact hr, hle, fun _ => ?_⟩
    rcases t with _ | ⟨d, t⟩
    · exact (Option.some.inj hr).symm
    · exact hguarded (List.cons_ne_nil d t)

/-- A heading begins with its signs and a space. -/
theorem isSome_after_heading (level : ℕ) (h : (guarded.after content).isSome = true) :
    (fresh.after (List.replicate level '#' ++ ' ' :: content)).isSome = true := by
  have hsigns : isInert (List.replicate level '#' ++ [' ']) = true := by
    rw [isInert_append, isInert, List.all_replicate]
    split_ifs <;> decide
  obtain ⟨q, hq, -, hline⟩ := leads_of_isInert hsigns le_rfl
  obtain rfl := hline (List.append_ne_nil_of_right_ne_nil _ (List.cons_ne_nil _ _))
  rw [List.append_cons, after_append, hq]
  exact h

/-- The borders of a table have neither digits nor periods. -/
theorem isInert_border {text : Text} (h : Gfm.border p = .ok text) : isInert text = true := by
  rw [Gfm.border] at h
  rcases halign : p.lowerAttribute "align" with e | align
  · rw [halign] at h
    cases h
  · rw [halign] at h
    have hcell : Gfm.cell (Gfm.alignBorder align) p = .ok text := h
    have hline : isInert (Gfm.alignBorder align) = true := by
      rw [Gfm.alignBorder]
      split_ifs <;> decide
    rw [Gfm.cell] at hcell
    rcases hindex : p.indexAmongNodes with e | index
    · rw [hindex] at hcell
      cases hcell
    · rw [hindex] at hcell
      cases hcell
      have hbar : isInert (if index = 0 then ['|', ' '] else [' ']) = true := by
        split_ifs <;> decide
      have hclose : isInert [' ', '|'] = true := by decide
      rw [isInert_append, isInert_append, hbar, hline, hclose]
      rfl

theorem isInert_borders {below : Text} (h : Gfm.borders p = .ok below) : isInert below = true := by
  rw [Gfm.borders] at h
  split at h
  · rcases hpart : p.requirePart "children" with e | _
    · rw [hpart] at h
      cases h
    · rcases hborders : p.elementChildren.mapM Gfm.border with e | texts
      · rw [hpart, hborders] at h
        cases h
      · rw [hpart, hborders] at h
        cases h
        have hall := mapM_eq_ok_iff.mp hborders
        clear hborders
        generalize p.elementChildren = cells at hall
        induction hall with
        | nil => rfl
        | cons hborder _ ih =>
          rw [List.flatten_cons, isInert_append, isInert_border hborder, ih]
          rfl
  · cases h
    rfl

/-- A cell is a part of a line, between bars. -/
theorem leads_cell (henter : Setting.cell.enter gfm isSure s = some inner)
    (hcontent : inner.Leads content last) (hleave : Setting.cell.leave isSure s last = some s')
    (h : Gfm.cell content p = .ok out) : s.Leads out s' := by
  have hspace : ∀ s q : LineHead, s.soften = some q → s.space = some guarded := by decide
  obtain ⟨_, hs, rfl⟩ := Option.map_eq_some_iff.mp henter
  obtain ⟨_, hlast, _⟩ := Option.bind_eq_some_iff.mp hleave
  rw [Gfm.cell] at h
  rcases hindex : p.indexAmongNodes with e | index
  · rw [hindex] at h
    cases h
  · rw [hindex] at h
    cases h
    have hopen : s.Leads (if index = 0 then ['|', ' '] else [' ']) guarded := by
      split
      · exact leads_cons (by decide) leads_space s
      · exact ⟨guarded, by rw [after_cons, write_space, hspace s _ hs]; rfl, le_rfl⟩
    have hclose : last.Leads [' ', '|'] guarded :=
      ⟨guarded, by rw [after_cons, write_space, hspace last _ hlast]; rfl, le_rfl⟩
    exact ((hopen.append hcontent).append hclose).weaken (le_guarded s')

/-- A row is a line of its own, and so are the borders under it. -/
theorem leads_tableRow (henter : Setting.row.enter gfm isSure s = some inner)
    (hcontent : inner.Leads content last) (hleave : Setting.row.leave isSure s last = some s')
    (h : Gfm.tableRow content p = .ok out) : s.Leads out s' := by
  obtain ⟨hs, hinner, -⟩ := ne_edge_of_soften henter
  obtain ⟨-, hfresh, hlast⟩ := ne_edge_of_soften hleave
  obtain ⟨r, hr, hle⟩ := hcontent.of_le hinner
  have hline : s.Leads ('\n' :: content) r := leads_feed hs ⟨r, hr, le_rfl⟩
  rw [Gfm.tableRow] at h
  rcases hbelow : Gfm.borders p with e | below
  · rw [hbelow] at h
    cases h
  · rw [hbelow] at h
    cases h
    dsimp only
    split
    · exact hline.weaken (hlast.trans hle)
    · obtain ⟨q, hq, hq', -⟩ := leads_of_isInert (isInert_borders hbelow) le_rfl
      have hborders : r.Leads ('\n' :: below) fresh :=
        leads_feed (ne_edge_of_after (by decide) hr) ⟨q, hq, hq'⟩
      exact (hline.append hborders).weaken hfresh

/-- **What a built-in rule makes of a block** can be written if the content can, and leads to what the
setting of the block says. -/
theorem BuiltIn.leads {result : Except Error Text} (hrule : BuiltIn p content result)
    (hresult : result = .ok out) (hopen : (Setting.ofTag p.tagName).isOpenBlock = true)
    (houter : ∀ {t : Text}, (guarded.after t).isSome = true →
      (fresh.after (p.outer t)).isSome = true)
    (hnotPre : p.tagName ≠ "pre") (hparent : p.parentName ≠ "li")
    (henter : (Setting.ofTag p.tagName).enter gfm isSure s = some inner)
    (hcontent : inner.Leads content last)
    (hleave : (Setting.ofTag p.tagName).leave isSure s last = some s') : s.Leads out s' := by
  obtain ⟨hs, hs'⟩ := Setting.ne_edge_of_isOpenBlock hopen henter hleave
  have hguarded := hcontent.isSome_guarded
  have halone : ∀ {t : Text}, (fresh.after t).isSome = true → s.Leads (asBlock t) s' := fun ht =>
    (leads_asBlock hs ht).weaken hs'
  have hblock : Setting.ofTag p.tagName = .block → (fresh.after content).isSome = true := by
    intro hset
    rw [hset] at henter
    obtain ⟨r, hr, -⟩ := hcontent.of_le (ne_edge_of_part henter).2
    rw [hr, Option.isSome_some]
  have hclosed : ∀ tags : List String, (∀ tag ∈ tags, (Setting.ofTag tag).isOpenBlock = false) →
      p.tagName ∉ tags := fun tags htags hmem => by
    rw [htags _ hmem] at hopen
    cases hopen
  have hother : ∀ tag, (Setting.ofTag tag).isOpenBlock = false → p.tagName ≠ tag := by
    rintro _ htag rfl
    rw [htag] at hopen
    cases hopen
  cases hrule with
  | paragraph htag | table htag | highlightWrapper htag =>
    cases hresult
    refine halone (hblock ?_)
    rw [htag]
    decide
  | heading level =>
    cases hresult
    exact halone (isSome_after_heading level hguarded)
  | horizontalRule =>
    cases hresult
    exact halone (by decide)
  | list htag =>
    cases hresult
    have hset : ∀ tag ∈ ["ul", "ol"], Setting.ofTag tag = .block := by decide
    rw [Markdown.list, if_neg hparent]
    refine halone ?_
    have hbreak : ∀ c, (c == '\n') = true → isLeadingBreak c = true := fun c hc => by
      rw [beq_iff_eq.mp hc]
      decide
    rw [after_trimStart hbreak]
    exact hblock (hset _ htag)
  | block =>
    cases hresult
    exact halone (houter hguarded)
  | cell htag =>
    have hset : ∀ tag ∈ ["th", "td"], Setting.ofTag tag = .cell := by decide
    rw [hset _ htag] at henter hleave
    exact leads_cell henter hcontent hleave hresult
  | tableRow htag =>
    rw [htag] at henter hleave
    exact leads_tableRow henter hcontent hleave hresult
  | tableSection htag =>
    cases hresult
    have hset : ∀ tag ∈ ["thead", "tbody", "tfoot"], Setting.ofTag tag = .row := by decide
    rw [hset _ htag] at henter hleave
    exact (hcontent.of_le (ne_edge_of_soften henter).2.2).weaken (ne_edge_of_soften hleave).2.2
  | codeBlock _ hpre => exact absurd (List.mem_singleton.mp (p.tagName_of_isCodeBlock hpre)) hnotPre
  | highlighted hpre =>
    simp only [Place.isHighlightedPre, Bool.and_eq_true, beq_iff_eq] at hpre
    exact absurd hpre.1.1 hnotPre
  | lineBreak _ htag | blockquote htag | listItem htag | image htag | checkbox htag =>
    exact absurd htag (hother _ (by decide))
  | emphasis htag | strong htag | strikethrough htag => exact absurd htag (hclosed _ (by decide))
  | inlineCode hcode =>
    rw [Place.isInlineCode, Bool.and_eq_true, beq_iff_eq] at hcode
    exact absurd hcode.1 (hother _ (by decide))
  | codeBlockBody hcode =>
    rw [Place.isCodeBlockBody, Bool.and_eq_true, beq_iff_eq] at hcode
    exact absurd hcode.1 (hother _ (by decide))
  | link hlink =>
    rw [Place.isLink, Bool.and_eq_true, beq_iff_eq] at hlink
    exact absurd hlink.1 (hother _ (by decide))

end BlockRules

/-! ## Quotations and items -/

section Marks

variable {p : Place} {content out : Text} {s : LineHead}

/-- **Every line of a quotation has a mark.** -/
theorem leads_blockquote (hs : s ≠ edge) (content : Text) (p : Place) :
    s.Leads (Markdown.blockquote content p) fresh := by
  refine leads_asBlock hs ?_
  obtain ⟨r, hr, -⟩ := (Guards.cons (by decide : isPlain '>' = true) leads_space fresh).append
    (leads_replaceChar (by decide : fresh.after ['>', ' '] = some guarded)
      (limitBreaks (trim isBlank content)))
  rw [prefixLines, hr, Option.isSome_some]

/-- **Every line of an item has a star or an indent**, outside ordered lists. -/
theorem leads_listItem (hs : s ≠ edge) (hparent : p.parentName ≠ "ol")
    (h : Markdown.listItem content p = .ok out) : s.Leads out guarded := by
  rw [Markdown.listItem, Markdown.itemMarker, if_neg hparent] at h
  cases h
  refine leads_feed hs (Leads.append ⟨guarded, by decide, le_rfl⟩ ?_)
  exact leads_replaceChar (by decide : fresh.after "    ".toList = some guarded) _

end Marks

end HtmlMarkdown
