import Mathlib
import HtmlMarkdown.Proofs.Apart
import HtmlMarkdown.Proofs.Sides
import HtmlMarkdown.Proofs.Total

/-!
# Markdown as faithful as its marks

* `Faithful`: a text has ink at a side if its marks have, and is empty only if there are none;
* `BuiltIn.eq_of_not_endsLine`, `BuiltIn.eq_or_isFramed`: a rule for an element within a line keeps
  its content or frames it;
* `Node.IsOrdinary`: trees whose white space is that of a page;
* **`faithful_contentBelow`**: the recursion on ordinary trees.
-/

namespace HtmlMarkdown

/-! ## Marks and text -/

/-- Marks have ink at a side. -/
def Side.InkMark (side : Side) (ms : List Mark) : Prop := ∀ m ∈ side.edge? ms, m.isInk = true

/-- If marks have ink at a side, then a text has no white space there, and it is empty only if there
are no marks. -/
def Faithful (side : Side) (ms : List Mark) (t : Text) : Prop :=
  side.InkMark ms → side.InkText t ∧ (ms ≠ [] → t ≠ [])

namespace Faithful

variable {side : Side} {ms ms' : List Mark} {t t' : Text}

theorem join (h : Faithful side ms t) (h' : Faithful side ms' t') :
    Faithful side (side.join ms ms') (side.join t t') := by
  intro hink
  by_cases hms : ms = []
  · subst hms
    obtain ⟨ht, _⟩ := h fun m hm => by
      rw [Side.edge?_nil] at hm
      cases hm
    have hjoin : side.join [] ms' = ms' := by cases side <;> simp [Side.join]
    rw [hjoin] at hink ⊢
    obtain ⟨ht', hne'⟩ := h' hink
    refine ⟨Side.inkText_join ht fun _ => ht', fun hms' => ?_⟩
    have hnonempty := hne' hms'
    cases side <;> simp [Side.join, hnonempty]
  · obtain ⟨ht, hne⟩ := h fun m hm => hink m (by
      rw [Side.edge?_join, Option.mem_def.mp hm, Option.some_or]
      rfl)
    have hnonempty := hne hms
    refine ⟨Side.inkText_join ht fun hnone => absurd hnone hnonempty, fun _ => ?_⟩
    cases side <;> simp [Side.join, hnonempty]

theorem append (h : Faithful side ms t) (h' : Faithful side ms' t') :
    Faithful side (ms ++ ms') (t ++ t') := by
  cases side
  · exact h.join h'
  · exact h'.join h

/-- The end of a line is no ink. -/
theorem of_lineEnds (inside : List Mark) (t : Text) :
    Faithful side (.lineEnd :: (inside ++ [.lineEnd])) t := by
  intro hink
  have hend := hink .lineEnd (by
    cases side
    · rfl
    · rw [← List.cons_append, Side.edge?, List.getLast?_concat]
      rfl)
  cases hend

theorem of_text (t : Text) : Faithful side (t.map Mark.char) t := by
  intro hink
  refine ⟨fun c hc => ?_, fun hne hnil => hne (by rw [hnil]; rfl)⟩
  have hchar := hink (.char c) (by
    cases side <;> simp only [Side.edge?, List.head?_map, List.getLast?_map] at hc ⊢ <;>
      exact Option.mem_map_of_mem Mark.char hc)
  rwa [Mark.isInk, Bool.not_eq_true'] at hchar

end Faithful

/-! ## Rules for elements within a line -/

/-- A text with ink at both ends, at different characters. -/
def IsFramed (t : Text) : Prop :=
  ∃ a inside b, isBlank a = false ∧ isBlank b = false ∧ t = a :: (inside ++ [b])

theorem IsFramed.inkText {t : Text} (h : IsFramed t) (side : Side) : side.InkText t := by
  obtain ⟨a, inside, b, ha, hb, rfl⟩ := h
  intro c hc
  cases side
  · cases hc
    exact ha
  · rw [← List.cons_append, Side.edge?, List.getLast?_concat] at hc
    cases hc
    exact hb

theorem IsFramed.ne_nil {t : Text} (h : IsFramed t) : t ≠ [] := by
  obtain ⟨_, _, _, _, _, rfl⟩ := h
  exact List.cons_ne_nil _ _

/-- **A built-in rule for an element within a line** keeps its content, or marks it as emphasis, code
or a link. -/
theorem BuiltIn.eq_of_not_endsLine {p : Place} {content out : Text} {result : Except Error Text}
    (h : BuiltIn p content result) (hresult : result = .ok out)
    (hline : endsLine p.tagName = false) (hvoid : p.isVoid = false) :
    out = content ∨ out = Markdown.emphasis content p ∨ out = Markdown.strong content p ∨
      out = Markdown.inlineCode content p ∨ out = Gfm.strikethrough content p ∨
      p.isLink = true ∧ out = Markdown.link content p := by
  have hno : ∀ tag, endsLine tag = true → p.tagName ≠ tag := by
    rintro _ htag rfl
    rw [htag] at hline
    cases hline
  have hnone : ∀ tags : List String, (∀ tag ∈ tags, endsLine tag = true) → p.tagName ∉ tags :=
    fun tags htags hmem => hno _ (htags _ hmem) rfl
  have hnotVoid : ∀ tag, isVoidTag tag = true → p.tagName ≠ tag := by
    rintro _ htag rfl
    rw [Place.isVoid, htag] at hvoid
    cases hvoid
  cases h with
  | codeBlockBody | emphasis | strong | inlineCode | strikethrough =>
    cases hresult
    simp
  | link hlink =>
    cases hresult
    simp [hlink]
  | paragraph htag => exact absurd htag (hno _ (by decide))
  | lineBreak _ htag => exact absurd htag (hno _ (by decide))
  | heading _ htag => exact absurd htag (hnone _ (by decide))
  | horizontalRule htag => exact absurd htag (hno _ (by decide))
  | image htag => exact absurd htag (hnotVoid _ (by decide))
  | codeBlock _ hcode =>
    rw [Place.isCodeBlock, Bool.and_eq_true, beq_iff_eq] at hcode
    exact absurd hcode.1 (hno _ (by decide))
  | blockquote htag => exact absurd htag (hno _ (by decide))
  | listItem htag => exact absurd htag (hno _ (by decide))
  | list htag => exact absurd htag (hnone _ (by decide))
  | block hblock =>
    rw [Place.isBlock] at hblock
    rw [endsLine, hblock] at hline
    cases hline
  | checkbox htag => exact absurd htag (hnotVoid _ (by decide))
  | cell htag => exact absurd htag (hnone _ (by decide))
  | tableRow htag => exact absurd htag (hno _ (by decide))
  | table htag => exact absurd htag (hno _ (by decide))
  | tableSection htag => exact absurd htag (hnone _ (by decide))
  | highlighted hpre =>
    simp only [Place.isHighlightedPre, Bool.and_eq_true, beq_iff_eq] at hpre
    exact absurd hpre.1.1 (hno _ (by decide))
  | highlightWrapper htag => exact absurd htag (hno _ (by decide))

/-- Such a rule keeps its content or frames it. -/
theorem BuiltIn.eq_or_isFramed {p : Place} {content out : Text} {result : Except Error Text}
    (h : BuiltIn p content result) (hresult : result = .ok out)
    (hline : endsLine p.tagName = false) (hvoid : p.isVoid = false) :
    out = content ∨ IsFramed out := by
  rcases h.eq_of_not_endsLine hresult hline hvoid with rfl | rfl | rfl | rfl | rfl | ⟨_, rfl⟩
  · exact Or.inl rfl
  · exact Or.inr ⟨'_', content, '_', by decide, by decide, rfl⟩
  · exact Or.inr ⟨'*', '*' :: content ++ ['*'], '*', by decide, by decide, by simp [Markdown.strong]⟩
  · exact Or.inr ⟨Char.ofNat 0x60, content, Char.ofNat 0x60, by decide, by decide, rfl⟩
  · exact Or.inr ⟨'~', '~' :: content ++ ['~'], '~', by decide, by decide,
      by simp [Gfm.strikethrough]⟩
  · exact Or.inr ⟨'[', content ++ ']' :: '(' :: Markdown.linkTarget p ++ Markdown.titlePart p, ')',
      by decide, by decide, by simp [Markdown.link]⟩

/-- **What becomes of an element within a line has ink at a side where its content has it**, and is
not empty if its content is not. -/
theorem inkText_of_convertElement {gfm : Bool} {policy : Policy} {p : Place} {content out : Text}
    {side : Side} (he : p.isElement = true) (hline : endsLine p.tagName = false)
    (hvoid : p.isVoid = false)
    (h : (Context.builtIn gfm policy).convertElement p content = .ok out)
    (hink : side.InkText content) : side.InkText out ∧ (content ≠ [] → out ≠ []) := by
  have hblock : p.isBlock = false := by
    rw [endsLine, Bool.or_eq_false_iff] at hline
    exact hline.1
  rcases convertElement_builtIn he h with ⟨hElided, rfl⟩ | rfl | ⟨_, middle, hrule, rfl⟩
  · rw [Place.isElided, Bool.and_eq_true] at hElided
    exact ⟨Side.inkText_nil side, fun hne => absurd (hink.eq_nil_of_isBlank hElided.2) hne⟩
  · exact ⟨hink, id⟩
  · obtain ⟨hkept, hkeptNe, far, hfar, hjoin⟩ := p.flank_of_inkText hblock hink
    have hmiddle : side.InkText middle ∧ (content ≠ [] → middle ≠ []) := by
      rcases hrule.eq_or_isFramed rfl hline hvoid with rfl | hframed
      · exact ⟨hkept, hkeptNe⟩
      · exact ⟨hframed.inkText side, fun _ => hframed.ne_nil⟩
    rw [hjoin]
    refine ⟨Side.inkText_join hmiddle.1 fun hnil => ?_, fun hne hnil => ?_⟩
    · rw [hfar (not_not.mp fun hne => hmiddle.2 hne hnil)]
      exact Side.inkText_nil side
    · exact hmiddle.2 hne (Side.join_eq_nil_iff.mp hnil).1

/-! ## Ordinary trees -/

/-- An element that is no preformatted text and no void one but for breaks and rules; or a string
that is no text, or plain text without white space but spacing. -/
def Node.IsOrdinary : Node → Prop
  | .element name _ _ => lowerName name ≠ "pre" ∧
      (isVoidTag (lowerName name) = true → lowerName name = "br" ∨ lowerName name = "hr")
  | .string kind value => kind.isText = true → kind = .plain ∧ value.hasOnlySpacing = true

instance : DecidablePred Node.IsOrdinary
  | .element name _ _ => inferInstanceAs (Decidable (lowerName name ≠ "pre" ∧
      (isVoidTag (lowerName name) = true → lowerName name = "br" ∨ lowerName name = "hr")))
  | .string kind value => inferInstanceAs (Decidable
      (kind.isText = true → kind = .plain ∧ value.hasOnlySpacing = true))

/-- An ordinary node that is no comment. -/
abbrev Node.IsShown (n : Node) : Prop := n.IsOrdinary ∧ n.isComment = false

namespace Node.IsOrdinary

theorem voidEndsLine {n : Node} (h : n.IsOrdinary) : Scan.VoidEndsLine n := by
  cases n with
  | element name attributes children =>
    intro hvoid
    rcases h.2 hvoid with hname | hname
    · rw [Node.tagName, hname]
      decide
    · rw [Node.tagName, hname]
      decide
  | string =>
    intro hvoid
    rw [Node.isVoid, Node.tagName] at hvoid
    exact absurd hvoid (by decide)

theorem isPreTag_eq_false {name : String} {attributes : Attributes} {children : List Node}
    (h : (Node.element name attributes children).IsOrdinary) :
    isPreTag (lowerName name) = false := beq_eq_false_iff_ne.mpr h.1

end Node.IsOrdinary

mutual

theorem onlySpacing_marksOf : ∀ {n : Node}, n.Everywhere Node.IsOrdinary → OnlySpacing (marksOf n)
  | .element name attributes children, h => by
    intro c hc
    rw [marksOf_element, h.1.isPreTag_eq_false] at hc
    simp only [Bool.false_eq_true, if_false] at hc
    have hmem : .char c ∈ marks children := by
      split at hc
      · simpa using hc
      · exact hc
    exact onlySpacing_marks h.2 c hmem
  | .string kind value, h => by
    intro c hc
    rw [marksOf_string] at hc
    split at hc
    · next hk =>
      obtain ⟨d, hd, heq⟩ := List.mem_map.mp hc
      cases heq
      exact Text.hasOnlySpacing_iff.mp (h hk).2 c hd
    · cases hc

theorem onlySpacing_marks : ∀ {ns : List Node}, Everywhere Node.IsOrdinary ns →
    OnlySpacing (marks ns)
  | [], _ => fun _ hc => absurd hc List.not_mem_nil
  | n :: rest, h => by
    intro c hc
    rw [marks_cons] at hc
    rcases List.mem_append.mp hc with hc | hc
    · exact onlySpacing_marksOf h.1 c hc
    · exact onlySpacing_marks h.2 c hc

end

theorem hasOnlySpacing_of_lighter {t v : Text} (h : t.Lighter v) (hv : v.hasOnlySpacing = true) :
    t.hasOnlySpacing = true := by
  refine Text.hasOnlySpacing_iff.mpr fun c hc hblank => ?_
  rcases h.2 c hc with hc | rfl
  · exact Text.hasOnlySpacing_iff.mp hv c hc hblank
  · decide

theorem isOrdinary_foldedRoot {document : List Node}
    (h : Everywhere Node.IsOrdinary (Place.root document).nodes) :
    Everywhere Node.IsOrdinary (foldedRoot document).nodes := by
  refine (thinned_foldedRoot document).everywhere (fun _ _ _ _ _ h => h) ?_ h
  intro kind value value' hlighter hvalue hk
  exact ⟨(hvalue hk).1, hasOnlySpacing_of_lighter hlighter (hvalue hk).2⟩

mutual

theorem isComment_rebuildNode (outside : Surroundings) (before after : List Node) : ∀ n : Node,
    Everywhere (fun m => m.isComment = false) (Place.rebuildNode outside before after n)
  | .element name attributes children => by
    rw [Place.rebuildNode]
    exact ⟨⟨rfl, isComment_rebuildNodes _ [] children⟩, trivial⟩
  | .string kind value => by
    rw [rebuildNode_string]
    rcases hk : kind.isText with _ | _
    · trivial
    · have hkept : ∀ v : Text, Everywhere (fun m => m.isComment = false) [.string kind v] :=
        fun v => ⟨by rw [Node.Everywhere, Node.isComment, hk]; rfl, trivial⟩
      rcases outside.anyTag isPreformattedTag with _ | _
      · rcases value.isBlank with _ | _
        · exact hkept (dropBreaks value)
        · rcases meetsInline before && meetsInline after with _ | _
          · trivial
          · exact hkept value
      · exact hkept value

/-- No comment is left when blank nodes have been removed. -/
theorem isComment_rebuildNodes (outside : Surroundings) (before : List Node) : ∀ ns : List Node,
    Everywhere (fun m => m.isComment = false) (Place.rebuildNodes outside before ns)
  | [] => trivial
  | n :: rest => by
    rw [Place.rebuildNodes, everywhere_append]
    exact ⟨isComment_rebuildNode outside before rest n, isComment_rebuildNodes outside _ rest⟩

end

theorem isShown_foldedRoot {document : List Node}
    (h : Everywhere Node.IsOrdinary (Place.root document).nodes) :
    Everywhere Node.IsShown (foldedRoot document).nodes := by
  refine (isOrdinary_foldedRoot h).and ?_
  rw [nodes_foldedRoot]
  exact isComment_rebuildNodes _ [] _

theorem voidEndsLine_of_isOrdinary {ns : List Node} (h : Everywhere Node.IsOrdinary ns) :
    Everywhere Scan.VoidEndsLine ns := h.imp fun _ hn => hn.voidEndsLine

/-! ## The recursion -/

namespace Place

/-- The marks of a place. -/
def marks : Place → List Mark
  | document nodes => HtmlMarkdown.marks nodes
  | node here .. => marksOf here

theorem marks_nodes_eq (p : Place) : HtmlMarkdown.marks p.nodes = p.children.flatMap marks :=
  eq_flatMap_children (F := fun _ => HtmlMarkdown.marks) p (fun _ => rfl)
    fun _ n rest => marks_cons n rest

end Place

/-- **Markdown is as faithful as the tree is ordinary.** -/
theorem faithful_contentBelow {gfm : Bool} {policy : Policy} {p : Place} {content : Text}
    (hp : Everywhere Node.IsOrdinary p.nodes)
    (h : (Context.builtIn gfm policy).contentBelow p = .ok content) (side : Side) :
    Faithful side (marks p.nodes) content := by
  induction p using Place.inductionOnChildren generalizing content with
  | step p ih =>
    rw [Place.marks_nodes_eq]
    refine Context.contentBelow_induction
      (motive := fun ds out => Faithful side (ds.flatMap Place.marks) out) h
      (Faithful.of_text []) fun d hd ds out rest hout ihds => ?_
    rw [List.flatMap_cons]
    refine Faithful.append ?_ ihds
    obtain ⟨n, before, after, rfl, hn⟩ := Place.everywhere_of_mem_children hp hd
    cases n with
    | string kind value =>
      cases hout
      rw [Place.marks, marksOf_string]
      split
      · exact Faithful.of_text value
      · exact Faithful.of_text []
    | element name attributes children =>
      obtain ⟨below, hbelow, hout⟩ := (Context.markdownOf_eq_ok_iff _ rfl).mp hout
      have hinside := ih _ hd hn.children hbelow
      rw [Place.marks, marksOf_element, hn.here.isPreTag_eq_false]
      rcases hline : endsLine (lowerName name) with _ | _
      · have hvoid : isVoidTag (lowerName name) = false := by
          by_contra hvoid
          rw [Bool.not_eq_false] at hvoid
          have hends : endsLine (lowerName name) = true := hn.here.voidEndsLine hvoid
          rw [hends] at hline
          cases hline
        intro hink
        obtain ⟨hbelowInk, hbelowNe⟩ := hinside hink
        obtain ⟨houtInk, houtNe⟩ := inkText_of_convertElement
          (p := .node (.element name attributes children) before after p.inside) rfl hline hvoid
          hout hbelowInk
        exact ⟨houtInk, fun hne => houtNe (hbelowNe hne)⟩
      · exact Faithful.of_lineEnds _ _

end HtmlMarkdown
