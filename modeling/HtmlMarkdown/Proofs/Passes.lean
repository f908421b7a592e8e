import Mathlib
import HtmlMarkdown.Convert
import HtmlMarkdown.Proofs.Below
import HtmlMarkdown.Proofs.Ink
import HtmlMarkdown.Proofs.Marked
import HtmlMarkdown.Proofs.Scan

/-!
# What the two passes over white space leave

* `Text.Lighter`: a text with the same ink and, apart from spaces, no new characters;
* `Thinned`: the same elements around lighter strings, some blank text and comments left out;
* `metTexts`, **`forall₂_settledTexts`**: the texts of a collapse, one by one;
* `Retexted`, `Retexted.resettle`: nodes with other texts in the places of theirs;
* `rebuildNode_string`: what is left of a string without blank text and comments;
* **`thinned_collapse`**, **`thinned_removeBlank`**: both passes only thin a tree.
-/

namespace HtmlMarkdown

/-! ## Lighter texts -/

/-- A text with the same ink, in which only spaces are new. -/
def Text.Lighter (t v : Text) : Prop := t.ink = v.ink ∧ ∀ c ∈ t, c ∈ v ∨ c = ' '

namespace Text.Lighter

theorem refl (t : Text) : t.Lighter t := ⟨rfl, fun _ hc => Or.inl hc⟩

theorem trans {t u v : Text} (h : t.Lighter u) (h' : u.Lighter v) : t.Lighter v := by
  refine ⟨h.1.trans h'.1, fun c hc => ?_⟩
  rcases h.2 c hc with hu | hspace
  · exact h'.2 c hu
  · exact Or.inr hspace

theorem of_sublist {t v : Text} (h : t.Sublist v) (hink : t.ink = v.ink) : t.Lighter v :=
  ⟨hink, fun _ hc => Or.inl (h.subset hc)⟩

theorem isBlank {t v : Text} (h : t.Lighter v) (ht : t.isBlank = true) : v.isBlank = true := by
  rw [← ink_eq_nil_iff] at ht ⊢
  rw [← h.1, ht]

end Text.Lighter

theorem sublist_trimEnd (p : Char → Bool) (s : Text) : (Text.trimEnd p s).Sublist s := by
  have h := (List.dropWhile_sublist p (l := s.reverse)).reverse
  rwa [List.reverse_reverse] at h

theorem sublist_dropHeadBreak (s : Text) : (dropHeadBreak s).Sublist s := by
  unfold dropHeadBreak
  split
  · exact List.Sublist.refl _
  · split
    · exact List.dropWhile_sublist _
    · exact List.Sublist.refl _

theorem sublist_dropTailBreak (s : Text) : (dropTailBreak s).Sublist s := by
  unfold dropTailBreak
  split
  · exact sublist_trimEnd _ _
  · exact List.Sublist.refl _

theorem lighter_dropBreaks (s : Text) : (dropBreaks s).Lighter s :=
  .of_sublist ((sublist_dropTailBreak _).trans (sublist_dropHeadBreak s)) (ink_dropBreaks s)

theorem lighter_dropTrailingSpaces (s : Text) : (dropTrailingSpaces s).Lighter s :=
  .of_sublist (sublist_trimEnd _ s) (ink_dropTrailingSpaces s)

theorem mem_squeezeAfter {isInRun : Bool} {s : Text} {c : Char} (h : c ∈ squeezeAfter isInRun s) :
    c ∈ s ∨ c = ' ' := by
  induction s generalizing isInRun with
  | nil => cases h
  | cons d s ih =>
    rw [squeezeAfter] at h
    split at h
    · split at h
      · exact (ih h).imp_left (List.mem_cons_of_mem d)
      · rcases List.mem_cons.mp h with hc | h
        · exact Or.inr hc
        · exact (ih h).imp_left (List.mem_cons_of_mem d)
    · rcases List.mem_cons.mp h with rfl | h
      · exact Or.inl List.mem_cons_self
      · exact (ih h).imp_left (List.mem_cons_of_mem d)

theorem lighter_squeeze (s : Text) : (squeeze s).Lighter s := ⟨ink_squeeze s, fun _ => mem_squeezeAfter⟩

theorem lighter_cons_space (s : Text) : Text.Lighter s (' ' :: s) :=
  .of_sublist (List.sublist_cons_self _ _) (Text.ink_cons_of_isBlank (by decide) s).symm

/-! ## Thinned nodes -/

/-- Nodes that are left of others when strings get lighter and some of them go: comments, and text
that is blank. -/
inductive Thinned : List Node → List Node → Prop
  | nil : Thinned [] []
  | element (name : String) (attributes : Attributes) {children children' rest rest' : List Node} :
      Thinned children children' → Thinned rest rest' →
      Thinned (.element name attributes children :: rest) (.element name attributes children' :: rest')
  | keep (kind : StringKind) {value value' : Text} {rest rest' : List Node} :
      value'.Lighter value → Thinned rest rest' →
      Thinned (.string kind value :: rest) (.string kind value' :: rest')
  | drop (kind : StringKind) (value : Text) {rest rest' : List Node} :
      (kind.isText = true → value.isBlank = true) → Thinned rest rest' →
      Thinned (.string kind value :: rest) rest'

namespace Thinned

mutual

theorem reflNode : ∀ (n : Node) {rest rest' : List Node}, Thinned rest rest' →
    Thinned (n :: rest) (n :: rest')
  | .element name attributes children, _, _, h => .element name attributes (refl children) h
  | .string kind value, _, _, h => .keep kind (.refl value) h

theorem refl : ∀ ns : List Node, Thinned ns ns
  | [] => .nil
  | n :: rest => reflNode n (refl rest)

end

theorem trans {ns ns' ns'' : List Node} (h : Thinned ns ns') (h' : Thinned ns' ns'') :
    Thinned ns ns'' := by
  induction h generalizing ns'' with
  | nil => exact h'
  | element name attributes _ _ ihc ihr =>
    cases h' with
    | element _ _ hc hr => exact .element name attributes (ihc hc) (ihr hr)
  | keep kind hv _ ih =>
    cases h' with
    | keep _ hv' hr => exact .keep kind (hv'.trans hv) (ih hr)
    | drop _ _ hb hr => exact .drop kind _ (fun hk => hv.isBlank (hb hk)) (ih hr)
  | drop kind value hb _ ih => exact .drop kind value hb (ih h')

theorem append {a a' b b' : List Node} (h : Thinned a a') (h' : Thinned b b') :
    Thinned (a ++ b) (a' ++ b') := by
  induction h with
  | nil => exact h'
  | element name attributes hc _ _ ih => exact .element name attributes hc ih
  | keep kind hv _ ih => exact .keep kind hv ih
  | drop kind value hb _ ih => exact .drop kind value hb ih

/-- What all nodes have, all nodes have that are left of them. -/
theorem everywhere {P : Node → Prop} {ns ns' : List Node} (h : Thinned ns ns')
    (helement : ∀ name attributes children children', Thinned children children' →
      P (.element name attributes children) → P (.element name attributes children'))
    (hstring : ∀ kind value value', value'.Lighter value →
      P (.string kind value) → P (.string kind value'))
    (hns : Everywhere P ns) : Everywhere P ns' := by
  induction h with
  | nil => trivial
  | element name attributes hc _ ihc ihr =>
    obtain ⟨⟨hhere, hchildren⟩, hrest⟩ := hns
    exact ⟨⟨helement name attributes _ _ hc hhere, ihc hchildren⟩, ihr hrest⟩
  | keep kind hv _ ih => exact ⟨hstring kind _ _ hv hns.1, ih hns.2⟩
  | drop _ _ _ _ ih => exact ih hns.2

end Thinned

/-! ## The texts of a collapse -/

mutual

/-- The texts of a node that lie outside elements with a tag in `pre`. -/
def metTextsOf (pre : String → Bool) : Node → List Text
  | .element name _ children => if pre (lowerName name) then [] else metTexts pre children
  | .string kind value => if kind.isText then [value] else []

/-- The texts of nodes that lie outside elements with a tag in `pre`, in document order. -/
def metTexts (pre : String → Bool) : List Node → List Text
  | [] => []
  | n :: rest => metTextsOf pre n ++ metTexts pre rest

end

section Texts

/-! What the pass knows of a text that it has met is a relation `R` between the text as it is now and
as it was met. -/

variable {block pre : String → Bool} {R : Text → Text → Prop}

namespace Scan

variable {s : Scan} {vs : List Text} (htrim : ∀ t v, R t v → R (dropTrailingSpaces t) v)

include htrim

theorem forall₂_changeLatest {ts : List Text} (h : List.Forall₂ R ts vs) :
    List.Forall₂ R (changeLatest dropTrailingSpaces ts) vs := by
  induction h with
  | nil => exact .nil
  | @cons t v ts vs ht hts ih =>
    rw [changeLatest]
    split
    · exact .cons ht ih
    · exact .cons (htrim t v ht) hts

theorem forall₂_endLine (h : List.Forall₂ R s.texts vs) : List.Forall₂ R s.endLine.texts vs := by
  simp only [endLine]
  split
  · exact forall₂_changeLatest htrim h
  · exact h

theorem forall₂_meetElement (h : List.Forall₂ R s.texts vs) (tag : String) :
    List.Forall₂ R (s.meetElement block pre tag).texts vs := by
  unfold meetElement
  split
  · exact forall₂_endLine htrim h
  · split
    · exact h
    · split <;> exact h

omit htrim

variable (hspace : ∀ t v, R (' ' :: t) v → R t v)

include hspace

theorem forall₂_meetText (h : List.Forall₂ R s.texts vs) {value : Text}
    (hvalue : R (squeeze value) value) : List.Forall₂ R (s.meetText value).texts (value :: vs) := by
  simp only [meetText]
  refine .cons ?_ h
  split
  · next hs =>
    rw [Bool.and_eq_true, Text.startsWith, beq_iff_eq] at hs
    obtain ⟨rest, hrest⟩ := List.head?_eq_some_iff.mp hs.2
    rw [hrest] at hvalue ⊢
    exact hspace rest value hvalue
  · exact hvalue

include htrim

/-- **What is so of every text that is met and squeezed**, and stays so when spaces at its ends go,
is so at the end of the pass. -/
theorem forall₂_through : ∀ (ns : List Node) (s : Scan) (vs : List Text),
    (∀ v ∈ metTexts pre ns, R (squeeze v) v) → List.Forall₂ R s.texts vs →
    List.Forall₂ R (through block pre ns s).texts ((metTexts pre ns).reverse ++ vs)
  | [], _, _, _, h => h
  | .element name attributes children :: rest, s, vs, hmet, h => by
    rw [metTexts, metTextsOf, List.forall_mem_append] at hmet
    rw [through_element, metTexts, metTextsOf, List.reverse_append, List.append_assoc]
    refine forall₂_through rest _ _ hmet.2 ?_
    split at hmet
    · next hpre =>
      rw [if_pos hpre, if_pos hpre]
      exact forall₂_meetElement htrim h _
    · next hpre =>
      rw [if_neg hpre, if_neg hpre]
      refine forall₂_meetElement htrim (forall₂_through children _ vs hmet.1 ?_) _
      exact forall₂_meetElement htrim h _
  | .string kind value :: rest, s, vs, hmet, h => by
    rw [metTexts, metTextsOf, List.forall_mem_append] at hmet
    rw [through_string, metTexts, metTextsOf, List.reverse_append, List.append_assoc]
    refine forall₂_through rest _ _ hmet.2 ?_
    split at hmet
    · next hk =>
      rw [if_pos hk, if_pos hk]
      exact forall₂_meetText hspace h (hmet.1 value List.mem_cons_self)
    · next hk =>
      rw [if_neg hk, if_neg hk]
      exact h

end Scan

variable {ns : List Node} (htrim : ∀ t v, R t v → R (dropTrailingSpaces t) v)
  (hspace : ∀ t v, R (' ' :: t) v → R t v)

include htrim hspace

/-- **The settled texts and the texts met**, one by one. -/
theorem forall₂_settledTexts (hmet : ∀ v ∈ metTexts pre ns, R (squeeze v) v) :
    List.Forall₂ R (settledTexts block pre ns) (metTexts pre ns) := by
  have h : List.Forall₂ R (Scan.through block pre ns {}).endLine.texts
      ((metTexts pre ns).reverse ++ []) :=
    Scan.forall₂_endLine htrim (Scan.forall₂_through htrim hspace ns {} [] hmet .nil)
  rw [List.append_nil] at h
  rw [settledTexts_eq_through, ← List.reverse_reverse (metTexts pre ns), List.forall₂_reverse_iff]
  exact h

omit htrim hspace

/-- **What all squeezed texts have and no text loses with spaces at its ends**, all settled texts
have. -/
theorem forall_mem_settledTexts {P : Text → Prop} (htrim : ∀ t, P t → P (dropTrailingSpaces t))
    (hspace : ∀ t, P (' ' :: t) → P t) (hmet : ∀ v ∈ metTexts pre ns, P (squeeze v)) :
    ∀ t ∈ settledTexts block pre ns, P t :=
  ((List.forall₂_and_left _ _).mp
    (forall₂_settledTexts (R := fun t _ => P t ∧ True) (fun t _ h => ⟨htrim t h.1, trivial⟩)
      (fun t _ h => ⟨hspace t h.1, trivial⟩) fun v hv => ⟨hmet v hv, trivial⟩)).1

end Texts

/-- **The settled texts are the texts met, made lighter.** -/
theorem lighter_settledTexts (block pre : String → Bool) (ns : List Node) :
    List.Forall₂ Text.Lighter (settledTexts block pre ns) (metTexts pre ns) :=
  forall₂_settledTexts (fun t _ h => (lighter_dropTrailingSpaces t).trans h)
    (fun t _ h => (lighter_cons_space t).trans h) fun v _ => lighter_squeeze v

/-! ## The texts put back -/

theorem exists_append_of_forall₂ {R : Text → Text → Prop} {ts vs ws : List Text}
    (h : List.Forall₂ R ts (vs ++ ws)) :
    ∃ us us', ts = us ++ us' ∧ List.Forall₂ R us vs ∧ List.Forall₂ R us' ws :=
  ⟨_, _, (List.take_append_drop vs.length ts).symm, List.forall₂_take_append _ _ _ h,
    List.forall₂_drop_append _ _ _ h⟩

theorem exists_append_of_length_eq {α : Type} {ts : List α} {m n : ℕ} (h : ts.length = m + n) :
    ∃ us us', ts = us ++ us' ∧ us.length = m ∧ us'.length = n := by
  refine ⟨ts.take m, ts.drop m, (List.take_append_drop m ts).symm, ?_, ?_⟩
  · rw [List.length_take, h]
    omega
  · rw [List.length_drop, h]
    omega

mutual

theorem resettleNode_append (pre : String → Bool) : ∀ (n : Node) {ts : List Text},
    ts.length = (metTextsOf pre n).length → ∀ more : List Text,
    resettleNode pre n (ts ++ more) = ((resettleNode pre n ts).1, more)
  | .element name attributes children, ts, h, more => by
    rw [metTextsOf] at h
    rw [resettleNode, resettleNode]
    split at h
    · next hpre =>
      rw [if_pos hpre, if_pos hpre, List.length_eq_zero_iff.mp h]
      rfl
    · next hpre => rw [if_neg hpre, if_neg hpre, resettle_append pre children h more]
  | .string kind value, ts, h, more => by
    rw [metTextsOf] at h
    split at h
    · next hk =>
      obtain ⟨t, rfl⟩ := List.length_eq_one_iff.mp h
      rw [List.singleton_append, resettleNode, resettleNode, if_pos hk, if_pos hk]
    · next hk =>
      rw [List.length_eq_zero_iff.mp h, List.nil_append, resettleNode.eq_def,
        resettleNode.eq_def pre (.string kind value) []]
      simp only [if_neg hk]

/-- **Texts that are enough for some nodes** are put into them, and further ones are left over. -/
theorem resettle_append (pre : String → Bool) : ∀ (ns : List Node) {ts : List Text},
    ts.length = (metTexts pre ns).length → ∀ more : List Text,
    resettle pre ns (ts ++ more) = ((resettle pre ns ts).1, more)
  | [], ts, h, more => by
    rw [List.length_eq_zero_iff.mp h]
    rfl
  | n :: rest, ts, h, more => by
    rw [metTexts, List.length_append] at h
    obtain ⟨us, us', rfl, hu, hu'⟩ := exists_append_of_length_eq h
    rw [resettle, resettle, List.append_assoc, resettleNode_append pre n hu,
      resettleNode_append pre n hu]
    simp only [resettle_append pre rest hu']

end

/-- The texts of a node come before those of the nodes after it. -/
theorem resettle_cons_append {pre : String → Bool} {n : Node} {rest : List Node}
    {us us' : List Text} (h : us.length = (metTextsOf pre n).length) :
    (resettle pre (n :: rest) (us ++ us')).1 =
      (resettleNode pre n us).1 ++ (resettle pre rest us').1 := by
  rw [resettle, resettleNode_append pre n h]

/-- Nodes with other texts outside elements with a tag in `pre`, where `R` relates each text to the
one whose place it takes. A text that would be empty is left out. -/
inductive Retexted (pre : String → Bool) (R : Text → Text → Prop) : List Node → List Node → Prop
  | nil : Retexted pre R [] []
  | preformatted {name : String} (attributes : Attributes) (children : List Node)
      {rest rest' : List Node} : pre (lowerName name) = true → Retexted pre R rest rest' →
      Retexted pre R (.element name attributes children :: rest)
        (.element name attributes children :: rest')
  | element {name : String} (attributes : Attributes) {children children' rest rest' : List Node} :
      pre (lowerName name) = false → Retexted pre R children children' →
      Retexted pre R rest rest' → Retexted pre R (.element name attributes children :: rest)
        (.element name attributes children' :: rest')
  | comment {kind : StringKind} (value : Text) {rest rest' : List Node} : kind.isText = false →
      Retexted pre R rest rest' →
      Retexted pre R (.string kind value :: rest) (.string kind value :: rest')
  | text {kind : StringKind} {value text : Text} {rest rest' : List Node} : kind.isText = true →
      text ≠ [] → R text value → Retexted pre R rest rest' →
      Retexted pre R (.string kind value :: rest) (.string kind text :: rest')
  | gone {kind : StringKind} {value : Text} {rest rest' : List Node} : kind.isText = true →
      R [] value → Retexted pre R rest rest' → Retexted pre R (.string kind value :: rest) rest'

namespace Retexted

variable {pre : String → Bool} {R : Text → Text → Prop}

theorem append {a a' b b' : List Node} (h : Retexted pre R a a') (h' : Retexted pre R b b') :
    Retexted pre R (a ++ b) (a' ++ b') := by
  induction h with
  | nil => exact h'
  | preformatted attributes children hpre _ ih => exact .preformatted attributes children hpre ih
  | element attributes hpre hchildren _ _ ih => exact .element attributes hpre hchildren ih
  | comment value hk _ ih => exact .comment value hk ih
  | text hk hne ht _ ih => exact .text hk hne ht ih
  | gone hk ht _ ih => exact .gone hk ht ih

mutual

theorem resettleNode : ∀ (n : Node) {ts : List Text}, List.Forall₂ R ts (metTextsOf pre n) →
    Retexted pre R [n] (HtmlMarkdown.resettleNode pre n ts).1
  | .element name attributes children, ts, h => by
    rw [metTextsOf] at h
    rw [HtmlMarkdown.resettleNode]
    split at h
    · next hpre =>
      rw [if_pos hpre]
      exact .preformatted attributes children hpre .nil
    · next hpre =>
      rw [if_neg hpre]
      exact .element attributes (Bool.eq_false_iff.mpr hpre) (resettle children h) .nil
  | .string kind value, ts, h => by
    rw [metTextsOf] at h
    split at h
    · next hk =>
      obtain ⟨t, ts', ht, hts, rfl⟩ := List.forall₂_cons_right_iff.mp h
      cases hts
      rw [HtmlMarkdown.resettleNode, if_pos hk]
      dsimp only
      split
      · next he => exact .gone hk (List.isEmpty_iff.mp he ▸ ht) .nil
      · next hne => exact .text hk (fun he => hne (List.isEmpty_iff.mpr he)) ht .nil
    · next hk =>
      cases h
      rw [HtmlMarkdown.resettleNode.eq_def]
      simp only [if_neg hk]
      exact .comment value (Bool.eq_false_iff.mpr hk) .nil

/-- **Texts that are related one by one to the texts of nodes** are put in their places. -/
theorem resettle : ∀ (ns : List Node) {ts : List Text}, List.Forall₂ R ts (metTexts pre ns) →
    Retexted pre R ns (HtmlMarkdown.resettle pre ns ts).1
  | [], ts, h => by
    cases h
    exact .nil
  | n :: rest, ts, h => by
    obtain ⟨us, us', rfl, hu, hu'⟩ := exists_append_of_forall₂ h
    rw [resettle_cons_append hu.length_eq]
    exact (resettleNode n hu).append (resettle rest hu')

end

/-- What all nodes have, all nodes have after that, if it does not depend on texts below. -/
theorem everywhere {P : Node → Prop} {ns ns' : List Node} (h : Retexted pre R ns ns')
    (helement : ∀ name attributes children children',
      P (.element name attributes children) → P (.element name attributes children'))
    (htext : ∀ kind value text, R text value → P (.string kind value) → P (.string kind text))
    (hns : Everywhere P ns) : Everywhere P ns' := by
  induction h with
  | nil => trivial
  | preformatted attributes children _ _ ih => exact ⟨hns.1, ih hns.2⟩
  | element attributes _ _ _ ihc ihr =>
    obtain ⟨⟨hhere, hchildren⟩, hrest⟩ := hns
    exact ⟨⟨helement _ attributes _ _ hhere, ihc hchildren⟩, ihr hrest⟩
  | comment value _ _ ih => exact ⟨hns.1, ih hns.2⟩
  | text _ _ ht _ ih => exact ⟨htext _ _ _ ht hns.1, ih hns.2⟩
  | gone _ _ _ ih => exact ih hns.2

theorem mono {R' : Text → Text → Prop} {ns ns' : List Node} (hR : ∀ t v, R t v → R' t v)
    (h : Retexted pre R ns ns') : Retexted pre R' ns ns' := by
  induction h with
  | nil => exact .nil
  | preformatted attributes children hpre _ ih => exact .preformatted attributes children hpre ih
  | element attributes hpre _ _ ihc ihr => exact .element attributes hpre ihc ihr
  | comment value hk _ ih => exact .comment value hk ih
  | text hk hne ht _ ih => exact .text hk hne (hR _ _ ht) ih
  | gone hk ht _ ih => exact .gone hk (hR _ _ ht) ih

theorem thinned {ns ns' : List Node} (h : Retexted pre Text.Lighter ns ns') : Thinned ns ns' := by
  induction h with
  | nil => exact .nil
  | preformatted attributes children _ _ ih => exact .reflNode _ ih
  | element attributes _ _ _ ihc ihr => exact .element _ attributes ihc ihr
  | comment value _ _ ih => exact .keep _ (.refl value) ih
  | text _ _ ht _ ih => exact .keep _ ht ih
  | gone _ ht _ ih => exact .drop _ _ (fun _ => ht.isBlank rfl) ih

end Retexted

/-- **A collapse only thins the nodes below a place.** -/
theorem thinned_collapse (block pre : String → Bool) (p : Place) :
    Thinned p.nodes (p.collapse block pre) := by
  rw [Place.collapse]
  split
  · exact .refl _
  · exact (Retexted.resettle p.nodes (lighter_settledTexts block pre p.nodes)).thinned

/-! ## The fates of strings -/

theorem meetsInline_cons_of_isComment {n : Node} (hn : n.isComment = true) (rest : List Node) :
    meetsInline (n :: rest) = meetsInline rest := by
  rw [meetsInline, List.dropWhile_cons_of_pos hn, meetsInline]

theorem meetsInline_cons_of_not_isComment {n : Node} (hn : n.isComment = false)
    (rest : List Node) : meetsInline (n :: rest) = n.isInline := by
  rw [meetsInline, List.dropWhile_cons_of_neg (by simp [hn])]
  rfl

/-- **What is left of a string.** -/
theorem rebuildNode_string (outside : Surroundings) (before after : List Node) (kind : StringKind)
    (value : Text) : Place.rebuildNode outside before after (.string kind value) =
      if !kind.isText then []
      else if outside.anyTag isPreformattedTag then [.string kind value]
      else if value.isBlank then
        if meetsInline before && meetsInline after then [.string kind value] else []
      else [.string kind (dropBreaks value)] := by
  rw [Place.rebuildNode, Place.fate]
  rcases kind.isText with _ | _
  · rfl
  rcases outside.anyTag isPreformattedTag with _ | _
  · rcases value.isBlank with _ | _
    · by_cases hsame : dropBreaks value = value
      · simp [hsame]
      · simp [hsame]
    · rcases meetsInline before && meetsInline after with _ | _ <;> rfl
  · rfl

mutual

theorem thinned_rebuildNode (outside : Surroundings) (before after : List Node) :
    ∀ n : Node, Thinned [n] (Place.rebuildNode outside before after n)
  | .element name attributes children => by
    rw [Place.rebuildNode]
    exact .element name attributes (thinned_rebuildNodes _ [] children) .nil
  | .string kind value => by
    rw [rebuildNode_string]
    cases hk : kind.isText
    · exact .drop kind value (fun h => by rw [hk] at h; cases h) .nil
    cases hpre : outside.anyTag isPreformattedTag
    · cases hblank : value.isBlank
      · exact .keep kind (lighter_dropBreaks value) .nil
      · cases hmeets : meetsInline before && meetsInline after
        · exact .drop kind value (fun _ => hblank) .nil
        · exact .refl _
    · exact .refl _

theorem thinned_rebuildNodes (outside : Surroundings) (before : List Node) :
    ∀ ns : List Node, Thinned ns (Place.rebuildNodes outside before ns)
  | [] => .nil
  | n :: rest => (thinned_rebuildNode outside before rest n).append
      (thinned_rebuildNodes outside (n :: before) rest)

end

/-- **Removing blank nodes only thins the nodes below a place.** -/
theorem thinned_removeBlank (p : Place) : Thinned p.nodes p.removeBlank := by
  rw [Place.removeBlank_eq_rebuildNodes]
  exact thinned_rebuildNodes _ [] p.nodes

end HtmlMarkdown
