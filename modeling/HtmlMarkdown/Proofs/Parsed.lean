import Mathlib
import HtmlMarkdown.Proofs.Comment
import HtmlMarkdown.Proofs.Kept
import HtmlMarkdown.Proofs.Name

/-!
# What is read from markup

Reading markup fails at a section that cannot be read, or at the number of a character with too many
digits, and in no other way. The document that is read suits the built-in rules: no type and no
alignment in it is a list of words. Nothing is in its elements that cannot hold content.

* `Builder.IsBuilt`: all that a builder holds, and will make of its open elements, has a property;
* `Builder.close_open`: an element that is closed at once has no children;
* `Builder.IsBuilt.meet`: a token keeps it so; **`everywhere_parseDocument`**: what the elements of a
  document have in common;
* `hasOneText_keptAttributes`: an attribute that is not kept as words is one text;
* **`isConvertible_parseDocument`**: the built-in rules can read what they ask for;
* **`isEmptyIfVoid_parseDocument`**: elements that cannot hold content have none;
* `parseDocument_eq_error`: why markup cannot be read;
* **`outcome_convert_eq_error`**: why markup cannot be converted.
-/

namespace HtmlMarkdown

/-! ## Building -/

namespace Builder

variable {P : Node → Prop} {b : Builder}

/-- All nodes that a builder holds have a property, and so will have its open elements, whatever
their children are. -/
structure IsBuilt (P : Node → Prop) (b : Builder) : Prop where
  nodes : Everywhere P b.nodes
  children : ∀ e ∈ b.stack, Everywhere P e.children
  element : ∀ e ∈ b.stack, ∀ children, P (.element e.name e.attributes children)

/-- The property is one of strings, and of elements with names and attributes as they are kept, and
without children if they are closed at once. -/
structure Suits (P : Node → Prop) : Prop where
  string : ∀ kind value, P (.string kind value)
  element : ∀ name raw children,
    (emptyElements.contains (keptName name) = true → children = []) →
      P (.element (keptName name) (keptAttributes (keptName name) raw) children)

theorem pieces_flush (b : Builder) : b.flush.pieces = [] := by
  rw [Builder.flush]
  split
  · next h => exact h
  · rfl

theorem flush_eq_self (h : b.pieces = []) : b.flush = b := by
  rw [Builder.flush, h]

/-- **An element that is closed at once** has no children. -/
theorem close_open (b : Builder) (name : String) (attributes : List RawAttribute) :
    (b.open name attributes).close name =
      b.flush.add (.element name (keptAttributes name attributes) []) := by
  have hflush : (b.open name attributes).flush = b.open name attributes :=
    flush_eq_self b.pieces_flush
  have hany : (b.open name attributes).stack.any (·.name == name) = true := by
    rw [Builder.open, List.any_cons, beq_self_eq_true, Bool.true_or]
  have hhead : ((b.open name attributes).stack.head?.map (·.name) == some name) = true :=
    beq_self_eq_true (some name)
  have hlength : (b.open name attributes).stack.length = b.flush.stack.length + 1 := rfl
  rw [Builder.close, hflush, if_pos hany, hlength, Builder.closeThrough, if_pos hhead]
  rfl

namespace IsBuilt

theorem add {n : Node} (h : b.IsBuilt P) (hn : n.Everywhere P) : (b.add n).IsBuilt P := by
  rw [Builder.add]
  rcases hstack : b.stack with _ | ⟨e, stack⟩
  · exact ⟨⟨hn, h.nodes⟩, by simp, by simp⟩
  · have hchildren := h.children
    have helement := h.element
    rw [hstack, List.forall_mem_cons] at hchildren helement
    exact ⟨h.nodes, List.forall_mem_cons.mpr ⟨⟨hn, hchildren.1⟩, hchildren.2⟩,
      List.forall_mem_cons.mpr helement⟩

theorem flush (hP : Suits P) (h : b.IsBuilt P) : b.flush.IsBuilt P := by
  rw [Builder.flush]
  split
  · exact h
  · have hstring : (Node.string b.textKind (b.keptString b.pieces.reverse.flatten)).Everywhere P :=
      hP.string _ _
    have hadded := h.add hstring
    exact ⟨hadded.nodes, hadded.children, hadded.element⟩

theorem closeInnermost (h : b.IsBuilt P) : b.closeInnermost.IsBuilt P := by
  rw [Builder.closeInnermost]
  rcases hstack : b.stack with _ | ⟨e, stack⟩
  · exact h
  · have hchildren := h.children
    have helement := h.element
    rw [hstack, List.forall_mem_cons] at hchildren helement
    have hrest : ({ b with stack } : Builder).IsBuilt P := ⟨h.nodes, hchildren.2, helement.2⟩
    exact hrest.add ⟨helement.1 _, everywhere_reverse hchildren.1⟩

theorem closeThrough (name : String) (count : ℕ) (h : b.IsBuilt P) :
    (Builder.closeThrough name count b).IsBuilt P := by
  induction count generalizing b with
  | zero => exact h
  | succ count ih =>
    rw [Builder.closeThrough]
    split
    · exact h.closeInnermost
    · exact ih h.closeInnermost

theorem close (hP : Suits P) (name : String) (h : b.IsBuilt P) : (b.close name).IsBuilt P := by
  rw [Builder.close]
  split
  · exact (h.flush hP).closeThrough name _
  · exact h.flush hP

theorem «open» (hP : Suits P) {name : Text} (attributes : List RawAttribute)
    (hname : emptyElements.contains (keptName name) = false) (h : b.IsBuilt P) :
    (b.open (keptName name) attributes).IsBuilt P := by
  have hflush := h.flush hP
  have helement : ∀ children,
      P (.element (keptName name) (keptAttributes (keptName name) attributes) children) :=
    fun children => hP.element name attributes children fun hyes => by
      rw [hname] at hyes
      cases hyes
  exact ⟨hflush.nodes, List.forall_mem_cons.mpr ⟨trivial, hflush.children⟩,
    List.forall_mem_cons.mpr ⟨helement, hflush.element⟩⟩

/-- **A token keeps it so.** -/
theorem meet (hP : Suits P) (h : b.IsBuilt P) {t : Token} (ht : t.IsNamed) : (b.meet t).IsBuilt P := by
  cases t with
  | text s => exact ⟨h.nodes, h.children, h.element⟩
  | startTag name attributes isClosed =>
    obtain ⟨name, rfl⟩ := ht
    have hclosed : ((b.open (keptName name) attributes).close (keptName name)).IsBuilt P := by
      rw [close_open]
      exact (h.flush hP).add ⟨hP.element name attributes [] fun _ => rfl, trivial⟩
    rw [Builder.meet]
    dsimp only
    split
    · exact hclosed
    · split
      · exact ⟨hclosed.nodes, hclosed.children, hclosed.element⟩
      · next hname => exact h.open hP attributes (Bool.eq_false_iff.mpr hname)
  | endTag name =>
    rw [Builder.meet, Builder.meetEnd]
    split
    · exact ⟨h.nodes, h.children, h.element⟩
    · exact h.close hP name
  | string kind value => exact (h.flush hP).add (hP.string _ _)

theorem closeAll (count : ℕ) (h : b.IsBuilt P) : (Builder.closeAll count b).IsBuilt P := by
  induction count generalizing b with
  | zero => exact h
  | succ count ih => exact ih h.closeInnermost

end IsBuilt

end Builder

/-- **What the elements of a document have in common**: what any element has whose name and
attributes are kept as they are read, and which has no children if it is closed at once. -/
theorem everywhere_parseDocument {P : Node → Prop} (hP : Builder.Suits P) {markup : Text}
    {document : List Node} (h : parseDocument markup = .ok document) : Everywhere P document := by
  rw [parseDocument] at h
  rcases htokens : Token.ofText markup with err | tokens
  · rw [htokens] at h
    cases h
  · rw [htokens] at h
    cases h
    have hbuilt : (tokens.foldl Builder.meet {}).IsBuilt P := by
      have hnamed := isNamed_ofText htokens
      clear htokens
      induction tokens using List.reverseRecOn with
      | nil => exact ⟨trivial, by simp, by simp⟩
      | append_singleton tokens t ih =>
        rw [List.forall_mem_append, List.forall_mem_singleton] at hnamed
        rw [List.foldl_append]
        exact (ih hnamed.1).meet hP hnamed.2
    exact everywhere_reverse ((hbuilt.flush hP).closeAll _).nodes

/-! ## Attributes that are one text -/

section Attributes

variable {key : String} {kept : Attributes}

theorem lookup_set (k : String) (v : AttributeValue) (kept : Attributes) :
    (kept.set k v).lookup key = if key = k then some v else kept.lookup key := by
  induction kept with
  | nil =>
    rw [Attributes.set, List.lookup_cons]
    rcases decEq key k with hk | hk
    · rw [if_neg hk, beq_eq_false_iff_ne.mpr hk]
    · rw [if_pos hk, beq_iff_eq.mpr hk]
  | cons entry rest ih =>
    obtain ⟨k', v'⟩ := entry
    rw [Attributes.set]
    by_cases hsame : k' = k
    · rw [if_pos hsame, List.lookup_cons, List.lookup_cons, hsame]
      rcases decEq key k with hk | hk
      · rw [if_neg hk, beq_eq_false_iff_ne.mpr hk]
      · rw [if_pos hk, beq_iff_eq.mpr hk]
    · rw [if_neg hsame, List.lookup_cons, List.lookup_cons, ih]
      rcases decEq key k' with hk | hk
      · rw [beq_eq_false_iff_ne.mpr hk]
      · rw [beq_iff_eq.mpr hk]
        exact (if_neg fun h => hsame (hk.symm.trans h)).symm

/-- The attribute is one text, if it is there. -/
def Attributes.HasOneText (key : String) (kept : Attributes) : Prop :=
  (kept.lookup key).all (fun v => v.text?.isSome) = true

theorem Attributes.HasOneText.set (h : kept.HasOneText key) {k : String} {v : AttributeValue}
    (hv : key = k → v.text?.isSome = true) : (kept.set k v).HasOneText key := by
  rw [HasOneText, lookup_set]
  split
  · next hk => exact hv hk
  · exact h

theorem Attributes.HasOneText.markEncoding (h : kept.HasOneText key) (element : String) :
    (HtmlMarkdown.markEncoding element kept).HasOneText key := by
  rw [HtmlMarkdown.markEncoding]
  split
  · split
    · exact h.set fun _ => rfl
    · split
      · split
        · exact h.set fun _ => rfl
        · exact h
      · exact h
  · exact h

/-- **An attribute that is not kept as words is one text.** -/
theorem hasOneText_keptAttributes {element : String} (hkey : holdsWords element key = false)
    (raw : List RawAttribute) : (keptAttributes element raw).HasOneText key := by
  refine Attributes.HasOneText.markEncoding ?_ element
  induction raw using List.reverseRecOn with
  | nil => rfl
  | append_singleton raw entry ih =>
    rw [List.foldl_append]
    refine ih.set fun hk => ?_
    rw [← hk, hkey]
    rfl

end Attributes

theorem holdsWords_type (element : String) : holdsWords element "type" = false := by
  simp [holdsWords]

theorem holdsWords_align (element : String) : holdsWords element "align" = false := by
  simp [holdsWords]

mutual

theorem Node.Everywhere.isConvertible : ∀ {n : Node},
    n.Everywhere (fun m => m.HasOneText "type" ∧ m.HasOneText "align") →
      n.Everywhere Node.IsConvertible
  | .element .., h =>
    ⟨⟨fun _ => h.1.1, fun _ _ hm => (everywhere_iff_forall_mem.mp h.2 _ hm).here.2⟩,
      Everywhere.isConvertible h.2⟩
  | .string .., h => ⟨fun _ => h.1, fun _ _ hm => nomatch hm⟩

theorem Everywhere.isConvertible : ∀ {ns : List Node},
    Everywhere (fun m => m.HasOneText "type" ∧ m.HasOneText "align") ns →
      Everywhere Node.IsConvertible ns
  | [], _ => trivial
  | _ :: _, h => ⟨Node.Everywhere.isConvertible h.1, Everywhere.isConvertible h.2⟩

end

/-- **The built-in rules can read what they ask for** in a document that has been read. -/
theorem isConvertible_parseDocument {markup : Text} {document : List Node}
    (h : parseDocument markup = .ok document) : Everywhere Node.IsConvertible document := by
  refine Everywhere.isConvertible (everywhere_parseDocument ⟨fun _ _ => ⟨rfl, rfl⟩, ?_⟩ h)
  exact fun _ raw _ _ => ⟨hasOneText_keptAttributes (holdsWords_type _) raw,
    hasOneText_keptAttributes (holdsWords_align _) raw⟩

/-- **Elements that cannot hold content have none** in a document that has been read. -/
theorem isEmptyIfVoid_parseDocument {markup : Text} {document : List Node}
    (h : parseDocument markup = .ok document) : Everywhere Node.IsEmptyIfVoid document := by
  have hclosed : ∀ tag ∈ voidTags, emptyElements.contains tag = true := by decide
  refine everywhere_parseDocument ⟨fun _ _ _ => rfl, fun name raw children hnone hvoid => ?_⟩ h
  rw [Node.isVoid, Node.tagName, lowerName_keptName] at hvoid
  rw [Node.children, hnone (hclosed _ (List.contains_iff_mem.mp hvoid))]
  rfl

/-! ## Markup that cannot be read -/

theorem bind_eq_error {α β : Type} {x : Except Error α} {f : α → Except Error β} {err : Error}
    (h : (x >>= f) = .error err) : x = .error err ∨ ∃ a, x = .ok a ∧ f a = .error err := by
  rcases x with err' | a
  · cases h
    exact Or.inl rfl
  · exact Or.inr ⟨a, rfl, h⟩

theorem map_eq_error_iff {α β : Type} {x : Except Error α} {f : α → β} {err : Error} :
    x.map f = .error err ↔ x = .error err := by
  rcases x with err' | a <;> simp [Except.map]

/-- The errors of markup that cannot be read. -/
def Error.isOfMarkup : Error → Bool
  | .markupRejected | .tooManyDigits _ => true
  | _ => false

/-- No error of markup is reported. -/
theorem Error.isReported_of_isOfMarkup {err : Error} (h : err.isOfMarkup = true) :
    err.isReported = false := by
  cases err <;> first | rfl | cases h

theorem readSection_eq_error {s : Text} {err : Error} (h : readSection s = .error err) :
    err.isOfMarkup = true := by
  rcases s with _ | ⟨c, rest⟩
  · cases h
  · rw [readSection] at h
    split at h
    · cases h
      rfl
    · split at h
      · cases h
      · dsimp only at h
        split at h
        · cases h
        · split at h
          · cases h
          · cases h
            rfl

theorem readDeclaration_eq_error {s : Text} {err : Error} (h : readDeclaration s = .error err) :
    err.isOfMarkup = true := by
  rw [readDeclaration.eq_def] at h
  split at h
  · cases h
  · exact readSection_eq_error h
  · split at h <;> cases h

theorem readDecimal_eq_error {digits : Text} {err : Error}
    (h : Reference.readDecimal digits = .error err) : err.isOfMarkup = true := by
  rw [Reference.readDecimal] at h
  split at h
  · cases h
    rfl
  · cases h

theorem numberInValue?_eq_error {digits rest : Text} {read : Text → Except Error Nat} {err : Error}
    (h : Reference.numberInValue? digits rest read = .error err) : read digits = .error err := by
  rw [Reference.numberInValue?] at h
  split at h
  · cases h
  · exact map_eq_error_iff.mp h

theorem inValue?_eq_error {s : Text} {err : Error} (h : Reference.inValue? s = .error err) :
    err.isOfMarkup = true := by
  rw [Reference.inValue?.eq_def] at h
  dsimp only at h
  split at h
  · cases numberInValue?_eq_error h
  · cases numberInValue?_eq_error h
  · exact readDecimal_eq_error (numberInValue?_eq_error h)
  · split at h <;> cases h

theorem unescapeWith_eq_error {fuel : ℕ} {s : Text} {err : Error}
    (h : Reference.unescapeWith fuel s = .error err) : err.isOfMarkup = true := by
  induction fuel generalizing s with
  | zero => cases h
  | succ fuel ih =>
    rcases s with _ | ⟨c, s⟩
    · cases h
    · rw [Reference.unescapeWith] at h
      split at h
      · rcases bind_eq_error h with hvalue | ⟨found, _, h⟩
        · exact inValue?_eq_error hvalue
        · split at h
          all_goals
            rcases bind_eq_error h with hrest | ⟨_, _, h⟩
            · exact ih hrest
            · cases h
      · exact ih (map_eq_error_iff.mp h)

theorem unescapeAttributes_eq_error {attributes : List RawAttribute} {err : Error}
    (h : unescapeAttributes attributes = .error err) : err.isOfMarkup = true := by
  induction attributes with
  | nil => cases h
  | cons first rest ih =>
    rw [unescapeAttributes, List.mapM_cons] at h
    rcases bind_eq_error h with hhere | ⟨_, _, h⟩
    · have hvalue := map_eq_error_iff.mp hhere
      rw [unescape] at hvalue
      split at hvalue
      · exact unescapeWith_eq_error hvalue
      · cases hvalue
    · rcases bind_eq_error h with hrest | ⟨_, _, h⟩
      · exact ih hrest
      · cases h

theorem readMarkup_eq_error {fuel : ℕ} {raw : Option String} {s : Text} {err : Error}
    (h : readMarkup fuel raw s = .error err) : err.isOfMarkup = true := by
  rw [readMarkup.eq_def] at h
  dsimp only at h
  split at h
  · cases h
  · cases h
  · cases h
  · exact readDeclaration_eq_error (map_eq_error_iff.mp h)
  · split at h
    · split at h
      · exact unescapeAttributes_eq_error (map_eq_error_iff.mp h)
      · exact unescapeAttributes_eq_error (map_eq_error_iff.mp h)
      · cases h
    · cases h

theorem endedNumber?_eq_error {read : Text → Except Error Nat} {parts : Text × Text} {err : Error}
    (h : endedNumber? read parts = .error err) : ∃ digits, read digits = .error err := by
  rw [endedNumber?.eq_def] at h
  split at h
  · split at h
    · cases h
    · exact ⟨_, map_eq_error_iff.mp h⟩
  · cases h

theorem readReferenceNumber?_eq_error {s : Text} {err : Error}
    (h : readReferenceNumber? s = .error err) : err.isOfMarkup = true := by
  rw [readReferenceNumber?.eq_def] at h
  dsimp only at h
  split at h
  · obtain ⟨digits, hread⟩ := endedNumber?_eq_error h
    cases hread
  · obtain ⟨digits, hread⟩ := endedNumber?_eq_error h
    cases hread
  · obtain ⟨digits, hread⟩ := endedNumber?_eq_error h
    exact readDecimal_eq_error hread

theorem readReference_eq_error {isLast : Bool} {s : Text} {err : Error}
    (h : readReference isLast s = .error err) : err.isOfMarkup = true := by
  rw [readReference.eq_def] at h
  split at h
  · cases h
  · exact readReferenceNumber?_eq_error (map_eq_error_iff.mp h)
  · split at h
    · split at h <;> cases h
    · cases h

theorem readRound_eq_error {isLast : Bool} {fuel : ℕ} {r : Reading} {err : Error}
    (h : readRound isLast fuel r = .error err) : err.isOfMarkup = true := by
  induction fuel generalizing r with
  | zero => cases h
  | succ fuel ih =>
    rw [readRound.eq_def] at h
    dsimp only at h
    split at h
    · cases h
    · split at h
      · cases h
      · rcases bind_eq_error h with hmarkup | ⟨next?, _, h⟩
        · exact readMarkup_eq_error hmarkup
        · split at h
          · exact ih h
          · split at h
            · exact ih h
            · cases h
      · rcases bind_eq_error h with hreference | ⟨reading, _, h⟩
        · exact readReference_eq_error hreference
        · split at h
          · exact ih h
          · cases h

/-- **Markup that cannot be read** has a section that cannot be read, or a number of a character with
too many digits. -/
theorem parseDocument_eq_error {markup : Text} {err : Error}
    (h : parseDocument markup = .error err) : err.isOfMarkup = true := by
  rcases htokens : Token.ofText markup with err' | tokens
  · rw [parseDocument, htokens] at h
    cases h
    rw [Token.ofText] at htokens
    rcases bind_eq_error htokens with hfirst | ⟨first, _, htokens⟩
    · exact readRound_eq_error hfirst
    · rcases bind_eq_error htokens with hlast | ⟨last, _, htokens⟩
      · exact readRound_eq_error hlast
      · cases htokens
  · rw [parseDocument, htokens] at h
    cases h

/-! ## Markup that cannot be converted -/

theorem everywhere_root {P : Node → Prop} {document : List Node} (h : Everywhere P document) :
    Everywhere P (Place.root document).nodes := by
  rw [Place.root]
  rcases hfind : (Place.document document).descendants.find? (Place.isNamed "body") with _ | d
  · exact h
  · obtain ⟨n, before, after, outside, rfl, hn⟩ :=
      Place.everywhere_of_mem_descendants h (List.mem_of_find?_eq_some hfind)
    exact hn.children

/-- With the built-in rules an element fails itself only if no rule selects it and its content must
not be kept. -/
theorem failsItself_builtIn {gfm : Bool} {policy : Policy} {e : Place} {err : Error}
    (helement : e.isElement = true) (he : ∃ n before after outside,
      e = .node n before after outside ∧ n.IsConvertible)
    (h : (Context.builtIn gfm policy).FailsItself e err) :
    policy = .error ∧ err = .unmatchedElement e.tagName := by
  obtain ⟨n, before, after, outside, rfl, hn⟩ := he
  obtain ⟨_, content, _, _, hfails⟩ := h
  cases hfails with
  | search hr =>
    obtain ⟨found, hfound⟩ := exists_findRule hn before after outside gfm
    cases hr.symm.trans hfound
  | unmatched _ hpolicy => exact ⟨hpolicy, rfl⟩
  | rule hr htext =>
    cases n with
    | string => cases helement
    | element name attributes children =>
      obtain ⟨hmem, hholds⟩ := mem_of_findRule hr
      obtain ⟨text, hok⟩ := exists_of_builtIn (builtIn_of_holds rfl hmem hholds _) hn
      cases htext.symm.trans hok

/-- Markup that cannot be read cannot be converted. -/
theorem outcome_convert_of_parse_eq_error {gfm : Bool} {policy : Policy} {markup : Text}
    {s : Progress} {err : Error} (h : parseDocument (escapeListMarkers markup) = .error err) :
    (({ gfm, unmatched := policy } : Options).convert (.text markup)).outcome s = .error err := by
  rcases markup with _ | ⟨c, markup⟩
  · have hnothing : parseDocument [] = .ok [] := rfl
    rw [escapeListMarkers, hnothing] at h
    cases h
  · rw [Run.outcome, Options.convert, context_builtIn, h]
    · rfl
    · exact List.cons_ne_nil c markup

/-- **Why markup cannot be converted** by the built-in rules: it cannot be read, or no rule selects
one of its elements and a strict conversion refuses it. -/
theorem outcome_convert_eq_error {gfm : Bool} {policy : Policy} {markup : Text} {s : Progress}
    {err : Error}
    (h : (({ gfm, unmatched := policy } : Options).convert (.text markup)).outcome s = .error err) :
    parseDocument (escapeListMarkers markup) = .error err ∧ err.isOfMarkup = true ∨
      policy = .error ∧ ∃ tag, err = .unmatchedElement tag := by
  rcases markup with _ | ⟨c, markup⟩
  · cases h
  · rcases hparse : parseDocument (escapeListMarkers (c :: markup)) with err' | document
    · left
      rw [Run.outcome, Options.convert, context_builtIn, hparse] at h
      · cases h
        exact ⟨rfl, parseDocument_eq_error hparse⟩
      · exact List.cons_ne_nil c markup
    · right
      rw [Run.outcome, Options.run_convert_text _ (List.cons_ne_nil c markup) hparse,
        Options.convertDocument, context_builtIn] at h
      change ((Context.builtIn gfm policy).convert document).outcome s = .error err at h
      rw [Context.outcome_convert] at h
      rcases Context.run_fold (Context.builtIn gfm policy) (foldedRoot document) s with
        ⟨text, s', hrun, _⟩ | ⟨err', s', hrun, hstop⟩
      · rw [Run.outcome, hrun] at h
        cases h
      · rw [Run.outcome, hrun] at h
        cases h
        obtain ⟨earlier, e, later, horder, hfails, _⟩ := hstop.exists_failsItself
        have he : e ∈ (foldedRoot document).elementsBelow :=
          Place.mem_levelOrder.mp (by simp [horder])
        have hconv : Everywhere Node.IsConvertible (foldedRoot document).nodes :=
          isConvertible_foldedRoot (everywhere_root (isConvertible_parseDocument hparse))
        obtain ⟨hmem, helement⟩ := Place.mem_elementsBelow.mp he
        obtain ⟨n, before, after, outside, hplace, hn⟩ :=
          Place.everywhere_of_mem_descendants hconv hmem
        obtain ⟨hpolicy, rfl⟩ :=
          failsItself_builtIn helement ⟨n, before, after, outside, hplace, hn.here⟩ hfails
        exact ⟨hpolicy, e.tagName, rfl⟩

end HtmlMarkdown
