import Mathlib
import HtmlMarkdown.Proofs.Comment
import HtmlMarkdown.Proofs.Phrase

/-!
# White space and comments between blocks

A document that is laid out well may have any white space and any comments between its nodes: the
passes over white space take them away again.

* `Padded`: nodes with texts of spacing among them, at any depth;
* `MeetsEnd`, `Padded.restIsBlank_append`: what comes before the end of a line;
* **`Padded.exists_settleFrom`**: what a collapse settles puts the nodes back without the spacing;
* **`foldedRoot_of_padded`**, `foldedRoot_of_padded_of_commented`: both passes over white space leave
  the document without its padding;
* `foldedRoot_of_isLaidOut`: they leave it as it is if there is none.
-/

namespace HtmlMarkdown

/-! ## Spacing among nodes -/

/-- Nodes and the same nodes with texts of spacing among them, at any depth. -/
inductive Padded : List Node → List Node → Prop
  | nil : Padded [] []
  | element (name : String) (attributes : Attributes) {children children' rest rest' : List Node} :
      Padded children children' → Padded rest rest' →
      Padded (.element name attributes children :: rest) (.element name attributes children' :: rest')
  | string (kind : StringKind) (value : Text) {rest rest' : List Node} :
      Padded rest rest' → Padded (.string kind value :: rest) (.string kind value :: rest')
  | space {kind : StringKind} {value : Text} {rest rest' : List Node} :
      kind.isText = true → value.all isSpacing = true → Padded rest rest' →
      Padded rest (.string kind value :: rest')

/-! ## The collapse -/

/-- The line ends before anything else is met. -/
def MeetsEnd (ms : List Met) : Prop := ∀ m ∈ ms.head?, m = .lineEnd

theorem MeetsEnd.restIsBlank {ms : List Met} (h : MeetsEnd ms) : restIsBlank ms = true := by
  rcases ms with _ | ⟨m, ms⟩
  · rfl
  · rw [h m rfl]
    rfl

/-- A new line starts at its end, whatever was there before. -/
theorem MeetsEnd.settleFrom {ms : List Met} (h : MeetsEnd ms) (isInRun : Bool) :
    settleFrom isInRun ms = settleFrom true ms := by
  rcases ms with _ | ⟨m, ms⟩
  · rfl
  · rw [h m rfl]
    rfl

theorem metOf_of_isBlockTag {name : String} (hblock : isBlockTag (lowerName name) = true)
    (hcode : isPreformattedTag (lowerName name) = false) (attributes : Attributes)
    (children : List Node) :
    metOf (.element name attributes children) = .lineEnd :: (metIn children ++ [.lineEnd]) := by
  rw [metOf, isPreTag_of_not_isPreformattedTag hcode, endsLine_of_isBlockTag hblock, if_pos rfl,
    if_neg Bool.false_ne_true]

namespace Padded

variable {ns ns' : List Node} {ms : List Met}

theorem refl : ∀ ns : List Node, Padded ns ns
  | [] => .nil
  | .element name attributes children :: rest =>
    .element name attributes (refl children) (refl rest)
  | .string kind value :: rest => .string kind value (refl rest)

/-- What holds of all nodes holds of all with spacing among them, if it does not depend on children
and holds of strings. -/
theorem everywhere {P : Node → Prop} (h : Padded ns ns') (hns : Everywhere P ns)
    (hstring : ∀ kind value, P (.string kind value))
    (helement : ∀ name attributes children children', P (.element name attributes children) →
      P (.element name attributes children')) : Everywhere P ns' := by
  induction h with
  | nil => trivial
  | element name attributes _ _ ihc ihr =>
    exact ⟨⟨helement _ _ _ _ hns.1.1, ihc hns.1.2⟩, ihr hns.2⟩
  | string kind value _ ih => exact ⟨hstring kind value, ih hns.2⟩
  | space _ _ _ ih => exact ⟨hstring _ _, ih hns⟩

/-- Only spacing comes before the end of the line where no text comes next. -/
theorem restIsBlank_append (h : Padded ns ns') (hlaid : Everywhere Node.IsLaidOut ns)
    (hhead : ∀ n ∈ ns.head?, n.isText = false) (hms : MeetsEnd ms) :
    restIsBlank (metIn ns' ++ ms) = true := by
  induction h with
  | nil => exact hms.restIsBlank
  | element name attributes =>
    obtain ⟨hblock, hcode, _⟩ := hlaid.1.here
    rw [metIn, metOf_of_isBlockTag hblock hcode]
    rfl
  | string kind value =>
    have hkind : kind.isText = false := hhead _ rfl
    rw [hlaid.1.here.1] at hkind
    cases hkind
  | space hk hvalue _ ih =>
    rw [metIn, metOf, if_pos hk, List.singleton_append, List.cons_append, restIsBlank, hvalue,
      ih hlaid hhead, Bool.and_true]

/-- **What a collapse settles of nodes with spacing among them** puts the nodes back without it. -/
theorem exists_settleFrom (h : Padded ns ns') (hlaid : Everywhere Node.IsLaidOut ns)
    (hchain : ns.IsChain Node.NotBothText) (hms : MeetsEnd ms) {isInRun : Bool}
    (hstart : isInRun = true ∨ ∀ n ∈ ns.head?, n.isText = false) :
    ∃ ts, settleFrom isInRun (metIn ns' ++ ms) = ts ++ settleFrom true ms ∧
      ∀ more, resettle isPreTag ns' (ts ++ more) = (ns, more) := by
  induction h generalizing ms isInRun with
  | nil => exact ⟨[], hms.settleFrom isInRun, fun more => rfl⟩
  | @element name attributes children children' rest rest' _ _ ihc ihr =>
    obtain ⟨hblock, hcode, _, hinside⟩ := hlaid.1.here
    have hend : MeetsEnd (.lineEnd :: (metIn rest' ++ ms)) := fun m hm => (Option.some.inj hm).symm
    obtain ⟨ts, hts, hput⟩ := ihc hlaid.1.children hinside hend (Or.inl rfl)
    obtain ⟨us, hus, hputRest⟩ := ihr hlaid.2 hchain.tail hms (Or.inl rfl)
    refine ⟨ts ++ us, ?_, fun more => ?_⟩
    · rw [metIn, metOf_of_isBlockTag hblock hcode, List.append_assoc, List.cons_append, settleFrom,
        List.append_assoc, List.singleton_append, hts, settleFrom, hus, List.append_assoc]
    · rw [resettle, resettleNode, isPreTag_of_not_isPreformattedTag hcode, List.append_assoc, hput]
      simp only [Bool.false_eq_true, if_false, hputRest, List.singleton_append]
  | @string kind value rest rest' _ ih =>
    obtain ⟨hk, hvalue⟩ := hlaid.1.here
    have hrun : isInRun = true := hstart.resolve_right fun hhead => by
      have hkind : kind.isText = false := hhead _ rfl
      rw [hk] at hkind
      cases hkind
    have hnext : runAfter true value = true ∨ ∀ n ∈ rest.head?, n.isText = false :=
      Or.inr fun n hn => ((List.isChain_cons.mp hchain).1 n hn).resolve_left (by simp [Node.isText, hk])
    obtain ⟨ts, hts, hput⟩ := ih hlaid.2 hchain.tail hms hnext
    refine ⟨value :: ts, ?_, fun more => ?_⟩
    · rw [metIn, metOf, if_pos hk, List.singleton_append, List.cons_append, hrun, settleFrom,
        hvalue.squeezeAfter_eq, hvalue.dropTrailingSpaces_eq, ite_self, hts, List.cons_append]
    · have hne : value.isEmpty = false := by simpa using hvalue.ne_nil
      rw [List.cons_append, resettle, resettleNode, if_pos hk]
      simp only [hne, Bool.false_eq_true, if_false, hput, List.singleton_append]
  | @space kind value rest rest' hk hvalue hrest ih =>
    have hsettled : (if restIsBlank (metIn rest' ++ ms) then
        dropTrailingSpaces (squeezeAfter isInRun value) else squeezeAfter isInRun value) = [] := by
      split
      · rw [← List.isEmpty_iff, dropTrailingSpaces_squeezeAfter_isEmpty, hvalue]
      · next hmore =>
        -- a text comes next in the line, so that the spacing is at its start
        rcases hstart with rfl | hhead
        · exact squeezeAfter_eq_nil_of_all hvalue
        · exact absurd (hrest.restIsBlank_append hlaid hhead hms) hmore
    have hnext : runAfter isInRun value = true ∨ ∀ n ∈ rest.head?, n.isText = false := by
      refine hstart.imp_left fun hrun => ?_
      rw [runAfter_eq, hrun, squeezeAfter_eq_nil_of_all hvalue]
      rfl
    obtain ⟨ts, hts, hput⟩ := ih hlaid hchain hms hnext
    refine ⟨[] :: ts, ?_, fun more => ?_⟩
    · rw [metIn, metOf, if_pos hk, List.singleton_append, List.cons_append, settleFrom, hsettled, hts,
        List.cons_append]
    · rw [List.cons_append, resettle, resettleNode, if_pos hk]
      simp only [List.isEmpty_nil, if_true, hput, List.nil_append]

/-- **A collapse takes the spacing away** from between the nodes. -/
theorem collapseNodes_eq (h : Padded ns ns') (hlaid : Everywhere Node.IsLaidOut ns)
    (hchain : ns.IsChain Node.NotBothText) : collapseNodes isBlockTag isPreTag ns' = ns := by
  have hend : MeetsEnd [] := fun _ hm => by cases hm
  have hvoid : Everywhere Scan.VoidEndsLine ns' :=
    h.everywhere (hlaid.imp fun _ hn => hn.voidEndsLine)
      (fun _ _ hvoid => absurd hvoid (by decide : ¬ isVoidTag "" = true)) fun _ _ _ _ hn => hn
  obtain ⟨ts, hts, hput⟩ := h.exists_settleFrom hlaid hchain hend (Or.inl rfl)
  rw [List.append_nil] at hts
  rw [HtmlMarkdown.collapseNodes_eq hvoid, hts]
  exact congrArg Prod.fst (hput (settleFrom true []))

/-- Spacing among the nodes does not move the root of a conversion. -/
theorem root_eq (h : Padded ns ns') (hlaid : Everywhere Node.IsLaidOut ns) :
    Place.root ns' = .document ns' :=
  Place.root_of_none (h.everywhere (hlaid.imp fun _ hn => hn.isOtherThan_body) (fun _ _ => trivial)
    fun _ _ _ _ hn => hn)

end Padded

/-! ## Both passes -/

/-- **Both passes over white space take spacing away** from between the nodes. -/
theorem foldedRoot_of_padded {clean padded : List Node} (h : Padded clean padded)
    (hlaid : Everywhere Node.IsLaidOut clean) (hchain : clean.IsChain Node.NotBothText) :
    foldedRoot padded = .document clean := by
  have hroot := h.root_eq hlaid
  have hrebuilt : Place.rebuildNodes .document [] clean = clean :=
    rebuildNodes_of_isLaidOut rfl [] hlaid
  rw [foldedRoot_eq, hroot, Place.nodes, h.collapseNodes_eq hlaid hchain, Place.inside, hrebuilt]
  rfl

/-- **Both passes over white space leave phrases between block elements as they are.** -/
theorem foldedRoot_of_isLaidOut {document : List Node} (h : Everywhere Node.IsLaidOut document)
    (hchain : document.IsChain Node.NotBothText) : foldedRoot document = .document document :=
  foldedRoot_of_padded (.refl document) h hchain

/-- They take comments away with it, among the nodes and the texts of spacing. -/
theorem foldedRoot_of_padded_of_commented {clean padded document : List Node}
    (h : Padded clean padded) (hcomments : Commented padded document)
    (hlaid : Everywhere Node.IsLaidOut clean) (hchain : clean.IsChain Node.NotBothText) :
    foldedRoot document = .document clean := by
  have hroot := h.root_eq hlaid
  have hnodes : Commented (Place.root padded).nodes document := by
    rw [hroot]
    exact hcomments
  have hdocument : withRootNodes padded document = document := by
    rw [withRootNodes, hroot]
    rfl
  rw [← hdocument, foldedRoot_withRootNodes_of_commented hnodes, foldedRoot_of_padded h hlaid hchain]

end HtmlMarkdown
