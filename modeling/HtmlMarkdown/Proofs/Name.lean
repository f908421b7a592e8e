import Mathlib
import HtmlMarkdown.Markup.Document

/-!
# Names that are read from markup

Names are kept in lower case, and a text in lower case is its own lower-case form. So an element that
is read has its name for a tag.

* `CaseTable.mapped_mapped`: what a code is mapped to is mapped to itself;
* `IsLower`, **`Text.lower_lower`**: texts in lower case;
* `lowerName_keptName`: names that are kept;
* `Token.IsNamed`, **`isNamed_ofText`**: the names in start tags.
-/

namespace HtmlMarkdown

/-! ## Lower case -/

namespace CaseTable

/-- The images of one run stand apart from another run: before it, behind it, or between its codes. -/
def isApart (r r' : Nat × Nat × Nat × Nat) : Bool :=
  r.2.2.2 + (r.2.1 - r.1) < r'.1 || r'.2.1 < r.2.2.2 ||
    (r.2.2.1 == 2 || r.1 == r.2.1) && r'.2.2.1 == 2 && (r.2.2.2 + r'.1) % 2 == 1

theorem isApart_lowerRuns : (lowerRuns.all fun r => lowerRuns.all (isApart r)) = true := by
  decide +kernel

/-- A run maps a code. -/
def Holds (r : Nat × Nat × Nat × Nat) (n : Nat) : Prop :=
  r.1 ≤ n ∧ n ≤ r.2.1 ∧ (n - r.1) % r.2.2.1 = 0

variable {runs : List (Nat × Nat × Nat × Nat)} {n : Nat}

theorem mapped_eq_self (h : ∀ r ∈ runs, ¬ Holds r n) : mapped runs n = n := by
  induction runs with
  | nil => rfl
  | cons r runs ih =>
    rw [List.forall_mem_cons] at h
    have hno : (r.1 ≤ n && n ≤ r.2.1 && (n - r.1) % r.2.2.1 == 0) = false := by
      rw [Bool.eq_false_iff]
      intro hyes
      simp only [Bool.and_eq_true, decide_eq_true_eq, beq_iff_eq] at hyes
      exact h.1 ⟨hyes.1.1, hyes.1.2, hyes.2⟩
    rw [mapped, hno, if_neg Bool.false_ne_true]
    exact ih h.2

/-- A code is mapped by a run that it is in, or to itself. -/
theorem mapped_cases (runs : List (Nat × Nat × Nat × Nat)) (n : Nat) :
    mapped runs n = n ∨ ∃ r ∈ runs, Holds r n ∧ mapped runs n = r.2.2.2 + (n - r.1) := by
  induction runs with
  | nil => exact Or.inl rfl
  | cons r runs ih =>
    rw [mapped]
    split
    · next hyes =>
      simp only [Bool.and_eq_true, decide_eq_true_eq, beq_iff_eq] at hyes
      exact Or.inr ⟨r, List.mem_cons_self, ⟨hyes.1.1, hyes.1.2, hyes.2⟩, rfl⟩
    · rcases ih with h | ⟨r', hr', h⟩
      · exact Or.inl h
      · exact Or.inr ⟨r', List.mem_cons_of_mem r hr', h⟩

/-- **What a code is mapped to is mapped to itself.** -/
theorem mapped_mapped (n : Nat) : mapped lowerRuns (mapped lowerRuns n) = mapped lowerRuns n := by
  rcases mapped_cases lowerRuns n with h | ⟨r, hr, ⟨hfirst, hlast, hstep⟩, h⟩
  · rw [h, h]
  · rw [h]
    refine mapped_eq_self fun r' hr' ⟨hfirst', hlast', hstep'⟩ => ?_
    have hapart := List.all_eq_true.mp (List.all_eq_true.mp isApart_lowerRuns r hr) r' hr'
    simp only [isApart, Bool.or_eq_true, Bool.and_eq_true, decide_eq_true_eq, beq_iff_eq] at hapart
    rcases hapart with (hbefore | hbehind) | ⟨⟨heven, htwo⟩, hodd⟩
    · omega
    · omega
    · rw [htwo] at hstep'
      rcases heven with heven | hone
      · rw [heven] at hstep
        omega
      · omega

end CaseTable

/-- The character is in lower case, wherever it stands. -/
def IsLower (c : Char) : Prop := c ≠ capitalSigma ∧ lowerChar c = [c]

instance : DecidablePred IsLower := fun c =>
  inferInstanceAs (Decidable (c ≠ capitalSigma ∧ lowerChar c = [c]))

/-- One of the first characters has a form in lower case, and is in lower case itself unless its code
is mapped elsewhere. -/
theorem toLower_of_lt {c : Char} (h : c.toNat < 0x80) : IsLower c.toLower ∧
    (c.toLower = c ∨ CaseTable.mapped CaseTable.lowerRuns c.toNat ≠ c.toNat) := by
  have hcodes : ∀ n < 0x80, IsLower (Char.ofNat n).toLower ∧
      ((Char.ofNat n).toLower = Char.ofNat n ∨
        CaseTable.mapped CaseTable.lowerRuns n ≠ n) := by decide +kernel
  have hcode := hcodes c.toNat h
  rwa [Char.ofNat_toNat] at hcode

/-- A code that is mapped to itself is one of a character in lower case. -/
theorem isLower_of_mapped {c : Char} (h : CaseTable.mapped CaseTable.lowerRuns c.toNat = c.toNat)
    (hdotted : c.toNat ≠ 0x130) : IsLower c := by
  have hsigma : CaseTable.mapped CaseTable.lowerRuns capitalSigma.toNat ≠ capitalSigma.toNat := by
    decide +kernel
  refine ⟨fun hc => hsigma (hc ▸ h), ?_⟩
  rw [lowerChar, if_neg hdotted]
  split
  · next hsmall => rw [(toLower_of_lt hsmall).2.resolve_right (not_not.mpr h)]
  · rw [h, Char.ofNat_toNat]

/-- The images of a run are codes of characters, and none is the one of a dotted capital. -/
def CaseTable.hasImages (r : Nat × Nat × Nat × Nat) : Bool :=
  (r.2.2.2 + (r.2.1 - r.1) < 0xD800 || 0xDFFF < r.2.2.2) && r.2.2.2 + (r.2.1 - r.1) < 0x110000 &&
    (r.2.2.2 + (r.2.1 - r.1) < 0x130 || 0x130 < r.2.2.2)

theorem CaseTable.hasImages_lowerRuns : lowerRuns.all hasImages = true := by decide +kernel

/-- **The lower-case form of a character is in lower case.** -/
theorem isLower_of_mem_lowerChar {c d : Char} (h : d ∈ lowerChar c) : IsLower d := by
  have hdotless : ∀ d ∈ ['i', Char.ofNat 0x307], IsLower d := by
    rw [List.forall_mem_cons, List.forall_mem_singleton]
    exact ⟨isLower_of_mapped (by decide +kernel) (by decide),
      isLower_of_mapped (by decide +kernel) (by decide)⟩
  rw [lowerChar] at h
  split_ifs at h with hsmall hdotted
  · rw [List.mem_singleton.mp h]
    exact (toLower_of_lt hsmall).1
  · exact hdotless d h
  · obtain rfl := List.mem_singleton.mp h
    rcases CaseTable.mapped_cases CaseTable.lowerRuns c.toNat with hsame | ⟨r, hr, hin, himage⟩
    · rw [hsame, Char.ofNat_toNat]
      exact isLower_of_mapped hsame hdotted
    · have hlast := hin.2.1
      have himages := List.all_eq_true.mp CaseTable.hasImages_lowerRuns r hr
      simp only [CaseTable.hasImages, Bool.and_eq_true, Bool.or_eq_true, decide_eq_true_eq]
        at himages
      have hcode : (Char.ofNat (CaseTable.mapped CaseTable.lowerRuns c.toNat)).toNat =
          CaseTable.mapped CaseTable.lowerRuns c.toNat := by
        rw [Char.toNat_ofNat, if_pos]
        rw [himage]
        omega
      refine isLower_of_mapped (by rw [hcode, CaseTable.mapped_mapped]) ?_
      rw [hcode, himage]
      omega

namespace Text

theorem isLower_of_mem_lowerAfter {before s : Text} : ∀ c ∈ lowerAfter before s, IsLower c := by
  have hsigma : IsLower (Char.ofNat 0x3C2) ∧ IsLower (Char.ofNat 0x3C3) :=
    ⟨isLower_of_mapped (by decide +kernel) (by decide),
      isLower_of_mapped (by decide +kernel) (by decide)⟩
  induction s generalizing before with
  | nil => exact fun c hc => absurd hc List.not_mem_nil
  | cons d s ih =>
    rw [lowerAfter, List.forall_mem_append]
    refine ⟨fun c hc => ?_, ih⟩
    split_ifs at hc with _ hfinal
    · rw [List.mem_singleton.mp hc]
      exact hsigma.1
    · rw [List.mem_singleton.mp hc]
      exact hsigma.2
    · exact isLower_of_mem_lowerChar hc

/-- A text in lower case is its own lower-case form. -/
theorem lowerAfter_of_isLower {before s : Text} (h : ∀ c ∈ s, IsLower c) :
    lowerAfter before s = s := by
  induction s generalizing before with
  | nil => rfl
  | cons c s ih =>
    rw [List.forall_mem_cons] at h
    rw [lowerAfter, if_neg h.1.1, h.1.2, ih h.2]
    rfl

/-- **The lower-case form of a text is in lower case.** -/
theorem lower_lower (s : Text) : lower (lower s) = lower s :=
  lowerAfter_of_isLower isLower_of_mem_lowerAfter

end Text

/-- **An element with a name that is kept has this name for its tag.** -/
theorem lowerName_keptName (name : Text) : lowerName (keptName name) = keptName name := by
  rw [lowerName, keptName, String.toList_ofList, Text.lower_lower]

/-! ## Tokens -/

/-- If the token is a start tag, its name is one that is kept. -/
def Token.IsNamed : Token → Prop
  | .startTag name .. => ∃ s, name = keptName s
  | _ => True

section Tokens

variable {t : Token} {rest : Text}

theorem isNamed_sectionToken (content : Text) : (sectionToken content).IsNamed := by
  rw [sectionToken]
  split <;> trivial

theorem isNamed_of_map {parts : Option (Text × Text)} {make : Text × Text → Token × Text}
    (h : parts.map make = some (t, rest)) (hmake : ∀ part, (make part).1.IsNamed) : t.IsNamed := by
  obtain ⟨part, -, heq⟩ := Option.map_eq_some_iff.mp h
  have hpart := hmake part
  rwa [heq] at hpart

theorem isNamed_readSection {s : Text} (h : readSection s = .ok (some (t, rest))) : t.IsNamed := by
  rcases s with _ | ⟨c, s⟩
  · cases h
  · rw [readSection] at h
    dsimp only at h
    split_ifs at h
    · cases h
    · exact isNamed_of_map (Except.ok.inj h) fun _ => isNamed_sectionToken _
    · exact isNamed_of_map (Except.ok.inj h) fun _ => isNamed_sectionToken _

theorem isNamed_readDeclaration {s : Text} (h : readDeclaration s = .ok (some (t, rest))) :
    t.IsNamed := by
  rw [readDeclaration.eq_def] at h
  split at h
  · exact isNamed_of_map (Except.ok.inj h) fun _ => trivial
  · exact isNamed_readSection h
  · split_ifs at h
    · exact isNamed_of_map (Except.ok.inj h) fun _ => trivial
    · exact isNamed_of_map (Except.ok.inj h) fun _ => trivial

theorem isNamed_readEndTag {raw : Option String} {s : Text} {r : Reading}
    (h : readEndTag raw s = some r) : ∀ t ∈ r.tokens, t.IsNamed := by
  rw [readEndTag.eq_def] at h
  split at h
  · cases h
  · split at h
    · cases h
      exact List.forall_mem_singleton.mpr trivial
    · split_ifs at h <;> cases h <;> exact List.forall_mem_singleton.mpr trivial
    · cases h
      exact List.forall_mem_singleton.mpr trivial
    · split at h
      · dsimp only at h
        split_ifs at h
        · obtain ⟨_, -, rfl⟩ := Option.map_eq_some_iff.mp h
          exact List.forall_mem_singleton.mpr trivial
        · cases h
          exact fun t ht => absurd ht List.not_mem_nil
        · cases h
          exact List.forall_mem_singleton.mpr trivial
      · cases h

/-- The name of a start tag is kept. -/
theorem exists_keptName_of_readStartTag {fuel : ℕ} {s rest : Text} {name : String}
    {attributes : List RawAttribute} {isClosed : Bool}
    (h : readStartTag fuel s = .complete name attributes isClosed rest) :
    ∃ t, name = keptName t := by
  rw [readStartTag] at h
  dsimp only at h
  split at h
  · cases h
  · cases h
    exact ⟨_, rfl⟩
  · cases h
    exact ⟨_, rfl⟩
  · split_ifs at h

/-- What is read for one token. -/
theorem forall_isNamed_of_map {found : Option (Token × Text)} {make : Token × Text → Reading}
    {r : Reading} (h : found.map make = some r) (hmake : ∀ part, (make part).tokens = [part.1])
    (hfound : ∀ t rest, found = some (t, rest) → t.IsNamed) : ∀ t ∈ r.tokens, t.IsNamed := by
  obtain ⟨⟨t, rest⟩, ht, rfl⟩ := Option.map_eq_some_iff.mp h
  rw [hmake]
  exact List.forall_mem_singleton.mpr (hfound t rest ht)

theorem isNamed_readMarkup {fuel : ℕ} {raw : Option String} {s : Text} {r : Reading}
    (h : readMarkup fuel raw s = .ok (some r)) : ∀ t ∈ r.tokens, t.IsNamed := by
  rw [readMarkup.eq_def] at h
  dsimp only at h
  split at h
  · cases h
  · exact isNamed_readEndTag (Except.ok.inj h)
  · refine forall_isNamed_of_map (Except.ok.inj h) (fun _ => rfl) fun t rest ht => ?_
    exact isNamed_of_map ht fun _ => trivial
  · next s =>
    rcases hfound : readDeclaration s with err | found
    · rw [hfound] at h
      cases h
    · rw [hfound] at h
      refine forall_isNamed_of_map (Except.ok.inj h) (fun _ => rfl) fun t rest ht => ?_
      exact isNamed_readDeclaration (hfound.trans (congrArg _ ht))
  · split at h
    · split at h
      · next name attributes _ _ htag =>
        rcases hvalues : unescapeAttributes attributes with err | values
        · rw [hvalues] at h
          cases h
        · rw [hvalues] at h
          cases h
          exact List.forall_mem_singleton.mpr (exists_keptName_of_readStartTag htag)
      · next attributes _ _ =>
        rcases hvalues : unescapeAttributes attributes with err | values
        · rw [hvalues] at h
          cases h
        · rw [hvalues] at h
          cases h
          exact List.forall_mem_singleton.mpr trivial
      · cases h
    · cases h
      exact List.forall_mem_singleton.mpr trivial

theorem isNamed_textTokens (s : Text) : ∀ t ∈ textTokens s, t.IsNamed := by
  rw [textTokens]
  split
  · exact fun t ht => absurd ht List.not_mem_nil
  · exact List.forall_mem_singleton.mpr trivial

/-- A round keeps it so. -/
theorem isNamed_readRound {isLast : Bool} {fuel : ℕ} {r r' : Reading}
    (hr : ∀ t ∈ r.tokens, t.IsNamed) (h : readRound isLast fuel r = .ok r') :
    ∀ t ∈ r'.tokens, t.IsNamed := by
  induction fuel generalizing r with
  | zero =>
    cases h
    exact hr
  | succ fuel ih =>
    rw [readRound.eq_def] at h
    dsimp only at h
    split at h
    · cases h
      exact hr
    · next text rest _ =>
      have htext : ∀ t ∈ textTokens text ++ r.tokens, t.IsNamed :=
        List.forall_mem_append.mpr ⟨isNamed_textTokens text, hr⟩
      split at h
      · cases h
        exact htext
      · next s _ =>
        rcases hmarkup : readMarkup fuel r.raw s with err | _ | next
        · rw [hmarkup] at h
          cases h
        · rw [hmarkup] at h
          simp only [bind, Except.bind] at h
          split at h
          · exact ih (List.forall_mem_cons.mpr ⟨trivial, htext⟩) h
          · cases h
            exact htext
        · rw [hmarkup] at h
          refine ih (List.forall_mem_append.mpr ⟨?_, htext⟩) h
          exact fun t ht => isNamed_readMarkup hmarkup t (List.mem_reverse.mp ht)
      · next s _ _ =>
        rcases hreference : readReference isLast s with err | ⟨text', rest'⟩ | ⟨text', rest'⟩
        · rw [hreference] at h
          cases h
        · rw [hreference] at h
          exact ih (List.forall_mem_append.mpr ⟨isNamed_textTokens text', htext⟩) h
        · rw [hreference] at h
          cases h
          exact List.forall_mem_append.mpr ⟨isNamed_textTokens text', htext⟩

/-- **The names in start tags are kept ones.** -/
theorem isNamed_ofText {s : Text} {tokens : List Token} (h : Token.ofText s = .ok tokens) :
    ∀ t ∈ tokens, t.IsNamed := by
  rw [Token.ofText] at h
  rcases hfirst : readRound false (s.length + 1) ⟨[], none, s⟩ with err | first
  · rw [hfirst] at h
    cases h
  · rcases hlast : readRound true (first.rest.length + 1) first with err | last
    · rw [hfirst] at h
      simp only [bind, Except.bind, hlast] at h
      cases h
    · rw [hfirst] at h
      simp only [bind, Except.bind, hlast] at h
      cases h
      have hnamed := isNamed_readRound
        (isNamed_readRound (fun t ht => absurd ht List.not_mem_nil) hfirst) hlast
      intro t ht
      rw [List.mem_reverse, List.mem_append] at ht
      rcases ht with ht | ht
      · split at ht
        · exact isNamed_textTokens _ t ht
        · exact absurd ht List.not_mem_nil
      · exact hnamed t ht

end Tokens

end HtmlMarkdown
