import Mathlib
import HtmlMarkdown.Proofs.Reading
import HtmlMarkdown.Source.FileName

/-!
# White space around an address

A source is judged as it stands when it is announced, and without the white space around it when it
is read. Control characters and spaces before an address make no difference, other white space before
it does; white space behind it makes a difference only if it becomes part of the host.

* `Text.leadingBlank`, `Text.trailingBlank`: the white space around a text;
* `Address.cleaned`, `Address.schemeOf`, `Address.behindScheme`, `Address.hostOf`: the parts of a
  text read as an address; `isPageAddress_eq_true_iff`: the addresses of pages by these parts;
* `splitScheme_append`, `splitHost_append`, `isOk_check_append`: the parts with white space behind;
* `isPageAddress_of_mem_leadingBlank`, `hostOf_of_forall_leadingBlank`: white space before;
* `IsMisjudged`, **`isPageAddress_iff_trim_iff`**: where the white space makes a difference.
-/

namespace HtmlMarkdown

/-! ## White space at the ends of a text -/

namespace Text

/-- The white space at the head of a text. -/
def leadingBlank (s : Text) : Text := s.takeWhile HtmlMarkdown.isBlank

/-- The white space at the end of a text, behind anything else. -/
def trailingBlank (s : Text) : Text :=
  (trimStart HtmlMarkdown.isBlank s).rtakeWhile HtmlMarkdown.isBlank

theorem leadingBlank_append_trim_append_trailingBlank (s : Text) :
    s.leadingBlank ++ (trim HtmlMarkdown.isBlank s ++ s.trailingBlank) = s := by
  have hend (t : Text) :
      trimEnd HtmlMarkdown.isBlank t ++ t.rtakeWhile HtmlMarkdown.isBlank = t := by
    rw [trimEnd, List.rtakeWhile, ← List.reverse_append, List.takeWhile_append_dropWhile,
      List.reverse_reverse]
  rw [trim, trailingBlank, hend, leadingBlank, trimStart, List.takeWhile_append_dropWhile]

theorem isBlank_of_mem_leadingBlank {s : Text} {c : Char} (h : c ∈ s.leadingBlank) :
    HtmlMarkdown.isBlank c = true :=
  List.mem_takeWhile_imp h

theorem isBlank_of_mem_trailingBlank {s : Text} {c : Char} (h : c ∈ s.trailingBlank) :
    HtmlMarkdown.isBlank c = true :=
  List.mem_takeWhile_imp (List.mem_reverse.mp h)

theorem isBlank_of_mem_filter_trailingBlank {s : Text} {p : Char → Bool} {c : Char}
    (h : c ∈ s.trailingBlank.filter p) : HtmlMarkdown.isBlank c = true :=
  isBlank_of_mem_trailingBlank (List.mem_of_mem_filter h)

end Text

/-! ## White space in an address -/

theorem ne_of_isBlank {c d : Char} (h : isBlank c = true) (hd : isBlank d = false) : c ≠ d := by
  rintro rfl
  rw [h] at hd
  cases hd

theorem isAlphanum_of_isBlank {c : Char} (h : isBlank c = true) : c.isAlphanum = false := by
  simp only [isBlank, Char.isAlphanum, Char.isAlpha, Char.isUpper, Char.isLower, Char.isDigit,
    UInt32.le_iff_toNat_le] at h ⊢
  simp
  grind

theorem isSchemeChar_of_isBlank {c : Char} (h : isBlank c = true) : isSchemeChar c = false := by
  have hplus : c ≠ '+' := ne_of_isBlank h (by decide)
  have hhyphen : c ≠ '-' := ne_of_isBlank h (by decide)
  have hperiod : c ≠ '.' := ne_of_isBlank h (by decide)
  simp [isSchemeChar, isAlphanum_of_isBlank h, hplus, hhyphen, hperiod]

theorem endsHost_of_isBlank {c : Char} (h : isBlank c = true) : endsHost c = false := by
  have hslash : c ≠ '/' := ne_of_isBlank h (by decide)
  have hquestion : c ≠ '?' := ne_of_isBlank h (by decide)
  have hnumber : c ≠ '#' := ne_of_isBlank h (by decide)
  simp [endsHost, hslash, hquestion, hnumber]

/-- No character in disguise is white space. -/
theorem not_disguised_of_isBlank {c : Char} (h : isBlank c = true) :
    disguisedCodes.contains c.toNat = false := by
  have hcodes : ∀ n ∈ disguisedCodes, isBlank (Char.ofNat n) = false := by decide
  rw [← Bool.not_eq_true, List.contains_iff_mem]
  intro hmem
  have hink := hcodes _ hmem
  rw [Char.ofNat_toNat, h] at hink
  cases hink

theorem isAddressMargin_of_isLayout {c : Char} (h : isLayout c = true) :
    isAddressMargin c = true := by
  simp only [isLayout, Bool.or_eq_true, beq_iff_eq] at h
  rcases h with (rfl | rfl) | rfl <;> decide

/-! ## The parts of an address -/

namespace Address

/-- A text as addresses are read: without the margin before it, and without layout. -/
def cleaned (s : Text) : Text := (s.dropWhile isAddressMargin).filter fun c => !isLayout c

/-- The scheme of a text, if it has one. -/
def schemeOf (s : Text) : Text := (splitScheme (cleaned s)).1

/-- What follows the scheme of a text. -/
def behindScheme (s : Text) : Text := (splitScheme (cleaned s)).2

/-- The host of a text, if it has one. -/
def hostOf (s : Text) : Text := (splitHost (behindScheme s)).1

/-- The schemes of pages on the web. -/
def IsWebScheme (scheme : Text) : Prop := scheme = "http".toList ∨ scheme = "https".toList

/-- A host that the address of a page may have. -/
def IsPageHost (host : Text) : Prop := host ≠ [] ∧ Host.check host = .ok ()

end Address

open Address

/-- **The addresses of pages** have a scheme of the web and a host. -/
theorem isPageAddress_eq_true_iff {s : Text} :
    isPageAddress s = .ok true ↔ IsWebScheme (schemeOf s) ∧ IsPageHost (hostOf s) := by
  have hread : isPageAddress s = (Host.check (hostOf s)).map fun _ =>
      (schemeOf s == "http".toList || schemeOf s == "https".toList) && !(hostOf s).isEmpty := by
    rw [isPageAddress, Address.read]
    change Except.map _ ((Host.check (hostOf s)).bind _) = _
    rcases Host.check (hostOf s) with err | _ <;> rfl
  rw [hread, IsPageHost, IsWebScheme]
  rcases Host.check (hostOf s) with err | _
  · simp [Except.map]
  · simp [Except.map]

/-! ## White space behind -/

section Behind

variable {w : Text} (hw : ∀ c ∈ w, isBlank c = true)

include hw

theorem head?_ne_of_isBlank {d : Char} (hd : isBlank d = false) (rest : Text) : w ≠ d :: rest := by
  rintro rfl
  exact ne_of_isBlank (hw d List.mem_cons_self) hd rfl

/-- White space behind a text is no part of its scheme. -/
theorem splitScheme_append (s : Text) :
    splitScheme (s ++ w) = ((splitScheme s).1, (splitScheme s).2 ++ w) := by
  obtain ⟨name, rest, hspan⟩ : ∃ name rest, s.span isSchemeChar = (name, rest) := ⟨_, _, rfl⟩
  obtain ⟨hs, hname, hrest⟩ := Text.span_eq_iff.mp hspan
  have hspan' : (s ++ w).span isSchemeChar = (name, rest ++ w) := by
    refine Text.span_eq_iff.mpr ⟨by rw [hs, List.append_assoc], hname, fun c hc => ?_⟩
    rw [List.head?_append, Option.mem_def, Option.or_eq_some_iff] at hc
    rcases hc with hc | ⟨-, hc⟩
    · exact hrest c hc
    · exact isSchemeChar_of_isBlank (hw c (List.mem_of_head? hc))
  rw [splitScheme, splitScheme, hspan, hspan']
  rcases name with _ | ⟨c, name⟩
  · rfl
  · rcases rest with _ | ⟨d, rest⟩
    · rcases w with _ | ⟨e, w⟩
      · simp
      · have he : e ≠ ':' := ne_of_isBlank (hw e List.mem_cons_self) (by decide)
        simp [he]
    · by_cases hd : d = ':'
      · subst hd
        by_cases hc : c.isAlpha = true <;> simp [hc]
      · simp [hd]

omit hw in
theorem splitHost_of_ne {s : Text} (h : ∀ t, s ≠ '/' :: '/' :: t) : splitHost s = ([], s) := by
  rw [splitHost.eq_def]
  split
  · exact absurd rfl (h _)
  · rfl

omit hw in
theorem splitHost_slashes {t host rest : Text}
    (h : t.span (fun c => !endsHost c) = (host, rest)) :
    splitHost ('/' :: '/' :: t) = (host, rest) := h

/-- **White space behind a text becomes part of its host** if nothing else follows the host. -/
theorem splitHost_append (s : Text) :
    (splitHost (s ++ w)).1 =
      if s = '/' :: '/' :: (splitHost s).1 then (splitHost s).1 ++ w else (splitHost s).1 := by
  have hslash : isBlank '/' = false := by decide
  by_cases h : ∃ t, s = '/' :: '/' :: t
  · obtain ⟨t, rfl⟩ := h
    obtain ⟨host, rest, hspan⟩ : ∃ host rest, t.span (fun c => !endsHost c) = (host, rest) :=
      ⟨_, _, rfl⟩
    obtain ⟨rfl, hhost, hrest⟩ := Text.span_eq_iff.mp hspan
    rw [splitHost_slashes hspan, List.cons_append, List.cons_append]
    rcases rest with _ | ⟨c, rest⟩
    · have hspan' : (host ++ [] ++ w).span (fun c => !endsHost c) = (host ++ w, []) := by
        refine Text.span_eq_iff.mpr
          ⟨by simp, List.forall_mem_append.mpr ⟨hhost, fun c hc => ?_⟩, ?_⟩
        · rw [endsHost_of_isBlank (hw c hc)]
          rfl
        · simp
      rw [splitHost_slashes hspan', List.append_nil, if_pos rfl]
    · have hspan' : (host ++ c :: rest ++ w).span (fun c => !endsHost c) = (host, c :: rest ++ w) :=
        Text.span_eq_iff.mpr ⟨by simp, hhost, by simpa using hrest⟩
      rw [splitHost_slashes hspan', if_neg (by simp)]
  · have hs : ∀ t, s ≠ '/' :: '/' :: t := not_exists.mp h
    have hsw : ∀ t, s ++ w ≠ '/' :: '/' :: t := by
      intro t heq
      rcases s with _ | ⟨a, _ | ⟨b, s⟩⟩
      · exact head?_ne_of_isBlank hw hslash _ heq
      · exact head?_ne_of_isBlank hw hslash _ (List.cons.inj heq).2
      · simp only [List.cons_append, List.cons.injEq] at heq
        exact hs s (by rw [heq.1, heq.2.1])
    rw [splitHost_of_ne hs, splitHost_of_ne hsw, if_neg (hs _)]

omit hw in
/-- A host without an opening bracket is refused for a closing one or a character in disguise. -/
theorem check_of_not_mem {host : Text} (h : '[' ∉ host) : Host.check host =
    if ']' ∈ host then .error .invalidHost
    else if host.any fun c => disguisedCodes.contains c.toNat then .error (.disguisedHost host)
    else .ok () := by
  have hopen : host.elem '[' = false := by simpa using h
  rw [Host.check, hopen]
  by_cases hclose : ']' ∈ host
  · simp [hclose]
    rfl
  · simp [hclose]
    rfl

/-- White space behind a host without brackets makes no difference to whether it is refused. -/
theorem isOk_check_append {host : Text} (hbracket : '[' ∉ host) :
    (Host.check (host ++ w)).isOk = (Host.check host).isOk := by
  have hnot {d : Char} (hd : isBlank d = false) : d ∉ w :=
    fun hmem => ne_of_isBlank (hw d hmem) hd rfl
  have hopen : '[' ∉ host ++ w := by simpa [hbracket] using hnot (by decide)
  have hclose : ']' ∈ host ++ w ↔ ']' ∈ host := by simp [hnot (d := ']') (by decide)]
  have hdisguise : (w.any fun c => disguisedCodes.contains c.toNat) = false := by
    rw [List.any_eq_false]
    exact fun c hc => Bool.eq_false_iff.mp (not_disguised_of_isBlank (hw c hc))
  rw [check_of_not_mem hbracket, check_of_not_mem hopen, List.any_append, hdisguise, Bool.or_false,
    if_congr hclose rfl rfl]
  split_ifs <;> rfl

end Behind

/-! ## White space before -/

theorem not_isWebScheme_nil : ¬ IsWebScheme [] := by
  rintro (h | h) <;> cases h

/-- Nothing but layout is left out behind the margin of a text. -/
theorem cleaned_eq_nil_iff {s : Text} : cleaned s = [] ↔ ∀ c ∈ s, isAddressMargin c = true := by
  rw [cleaned, ← List.dropWhile_eq_nil_iff]
  constructor
  · intro h
    rcases hdrop : s.dropWhile isAddressMargin with _ | ⟨c, rest⟩
    · rfl
    · have hmargin : isAddressMargin c = false := by
        simpa [hdrop] using List.head?_dropWhile_not isAddressMargin s
      have hlayout : isLayout c = true := by
        rw [hdrop, List.filter_eq_nil_iff] at h
        simpa using h c List.mem_cons_self
      rw [isAddressMargin_of_isLayout hlayout] at hmargin
      cases hmargin
  · intro h
    rw [h, List.filter_nil]

theorem cleaned_append_of_forall {s : Text} (h : ∀ c ∈ s, isAddressMargin c = true) (t : Text) :
    cleaned (s ++ t) = cleaned t := by
  rw [cleaned, List.dropWhile_append_of_pos h, cleaned]

theorem schemeOf_of_cleaned_eq_nil {s : Text} (h : cleaned s = []) : schemeOf s = [] := by
  rw [schemeOf, h]
  rfl

/-- White space alone has no scheme. -/
theorem schemeOf_of_forall_isBlank {s : Text} (h : ∀ c ∈ s, isBlank c = true) :
    schemeOf s = [] := by
  have hcleaned : ∀ c ∈ cleaned s, isBlank c = true := fun c hc =>
    h c ((List.dropWhile_sublist _).subset (List.mem_of_mem_filter hc))
  have hsplit := splitScheme_append hcleaned []
  rw [List.nil_append] at hsplit
  rw [schemeOf, hsplit]
  rfl

/-- White space before a text that is no margin is read as part of its address, which then has no
scheme. -/
theorem schemeOf_of_mem_leadingBlank {s : Text} {c : Char} (hc : c ∈ s.leadingBlank)
    (hmargin : isAddressMargin c = false) : schemeOf s = [] := by
  obtain ⟨d, rest, hdrop⟩ : ∃ d rest, s.leadingBlank.dropWhile isAddressMargin = d :: rest := by
    refine List.exists_cons_of_ne_nil fun hnil => ?_
    rw [List.dropWhile_eq_nil_iff.mp hnil c hc] at hmargin
    cases hmargin
  have hd : isAddressMargin d = false := by
    simpa [hdrop] using List.head?_dropWhile_not isAddressMargin s.leadingBlank
  have hlayout : isLayout d = false :=
    Bool.eq_false_iff.mpr fun h => Bool.eq_false_iff.mp hd (isAddressMargin_of_isLayout h)
  have hscheme : isSchemeChar d = false :=
    isSchemeChar_of_isBlank (Text.isBlank_of_mem_leadingBlank
      ((List.dropWhile_sublist _).subset (hdrop ▸ List.mem_cons_self)))
  obtain ⟨tail, hcleaned⟩ : ∃ tail, cleaned s = d :: tail := by
    rw [cleaned, ← Text.leadingBlank_append_trim_append_trailingBlank s, List.dropWhile_append,
      hdrop]
    simp [hlayout]
  rw [schemeOf, hcleaned, splitScheme, List.span_eq_takeWhile_dropWhile,
    List.takeWhile_cons_of_neg (Bool.eq_false_iff.mp hscheme)]

/-- **White space before a text that is no margin** keeps it from being the address of a page. -/
theorem isPageAddress_of_mem_leadingBlank {s : Text} {c : Char} (hc : c ∈ s.leadingBlank)
    (hmargin : isAddressMargin c = false) : isPageAddress s ≠ .ok true := by
  rw [ne_eq, isPageAddress_eq_true_iff, schemeOf_of_mem_leadingBlank hc hmargin]
  exact fun h => not_isWebScheme_nil h.1

section Margin

variable {s : Text} (hlead : ∀ c ∈ s.leadingBlank, isAddressMargin c = true)

include hlead

/-- A margin before a text makes no difference, and white space behind it loses its layout. -/
theorem cleaned_of_forall_leadingBlank (h : cleaned (Text.trim isBlank s) ≠ []) :
    cleaned s = cleaned (Text.trim isBlank s) ++ s.trailingBlank.filter fun c => !isLayout c := by
  have hcore : (Text.trim isBlank s).dropWhile isAddressMargin ≠ [] := by
    intro hnil
    rw [cleaned, hnil] at h
    exact h rfl
  conv_lhs => rw [← Text.leadingBlank_append_trim_append_trailingBlank s]
  rw [cleaned_append_of_forall hlead, cleaned, List.dropWhile_append, if_neg (by simpa using hcore),
    List.filter_append, cleaned]

theorem schemeOf_of_forall_leadingBlank : schemeOf s = schemeOf (Text.trim isBlank s) := by
  by_cases h : cleaned (Text.trim isBlank s) = []
  · have hcleaned : cleaned s = cleaned s.trailingBlank := by
      conv_lhs => rw [← Text.leadingBlank_append_trim_append_trailingBlank s]
      rw [cleaned_append_of_forall hlead, cleaned_append_of_forall (cleaned_eq_nil_iff.mp h)]
    have htrailing := schemeOf_of_forall_isBlank fun c => Text.isBlank_of_mem_trailingBlank (s := s)
    rw [schemeOf, hcleaned, schemeOf_of_cleaned_eq_nil h]
    exact htrailing
  · rw [schemeOf, schemeOf, cleaned_of_forall_leadingBlank hlead h,
      splitScheme_append fun _ => Text.isBlank_of_mem_filter_trailingBlank]

/-- **White space around an address** with a margin before it. -/
theorem hostOf_of_forall_leadingBlank (h : cleaned (Text.trim isBlank s) ≠ []) :
    hostOf s =
      if behindScheme (Text.trim isBlank s) = '/' :: '/' :: hostOf (Text.trim isBlank s) then
        hostOf (Text.trim isBlank s) ++ s.trailingBlank.filter fun c => !isLayout c
      else hostOf (Text.trim isBlank s) := by
  have hw : ∀ c ∈ s.trailingBlank.filter fun c => !isLayout c, isBlank c = true :=
    fun _ => Text.isBlank_of_mem_filter_trailingBlank
  have hbehind : behindScheme s =
      behindScheme (Text.trim isBlank s) ++ s.trailingBlank.filter fun c => !isLayout c := by
    rw [behindScheme, behindScheme, cleaned_of_forall_leadingBlank hlead h, splitScheme_append hw]
  rw [hostOf, hbehind, splitHost_append hw, hostOf]

end Margin

/-! ## Where white space makes a difference -/

/-- A source that is the address of a page either as it stands or without the white space around it,
but not both. -/
inductive IsMisjudged (source : Text) : Prop
  /-- White space before the address is taken for a part of it, so that it has no scheme. -/
  | hidden {c : Char} : isPageAddress (Text.trim isBlank source) = .ok true →
      c ∈ source.leadingBlank → isAddressMargin c = false → IsMisjudged source
  /-- White space stands where the host is missing. -/
  | noHost {c : Char} : (∀ d ∈ source.leadingBlank, isAddressMargin d = true) →
      IsWebScheme (schemeOf (Text.trim isBlank source)) →
      behindScheme (Text.trim isBlank source) = ['/', '/'] →
      c ∈ source.trailingBlank → isLayout c = false → IsMisjudged source
  /-- White space stands behind a host with brackets, and only with it or only without it the host
  may be one. -/
  | bracketed : (∀ d ∈ source.leadingBlank, isAddressMargin d = true) →
      IsWebScheme (schemeOf (Text.trim isBlank source)) →
      behindScheme (Text.trim isBlank source) = '/' :: '/' :: hostOf (Text.trim isBlank source) →
      '[' ∈ hostOf (Text.trim isBlank source) →
      (Host.check (hostOf (Text.trim isBlank source) ++
          source.trailingBlank.filter fun c => !isLayout c)).isOk ≠
        (Host.check (hostOf (Text.trim isBlank source))).isOk →
      IsMisjudged source

theorem isPageHost_iff {host : Text} :
    IsPageHost host ↔ host ≠ [] ∧ (Host.check host).isOk = true := by
  rw [IsPageHost]
  rcases Host.check host with err | _ <;> simp [Except.isOk, Except.toBool]

section Margin

variable {s : Text} (hlead : ∀ c ∈ s.leadingBlank, isAddressMargin c = true)
  (hweb : IsWebScheme (schemeOf (Text.trim isBlank s)))

include hlead hweb

/-- With a margin before its address a source is misjudged for the white space behind a host at its
end, which is missing or has brackets. -/
theorem isMisjudged_iff_of_isWebScheme : IsMisjudged s ↔
    behindScheme (Text.trim isBlank s) = '/' :: '/' :: hostOf (Text.trim isBlank s) ∧
      (hostOf (Text.trim isBlank s) = [] ∧ (s.trailingBlank.filter fun c => !isLayout c) ≠ [] ∨
        '[' ∈ hostOf (Text.trim isBlank s) ∧
          (Host.check (hostOf (Text.trim isBlank s) ++
              s.trailingBlank.filter fun c => !isLayout c)).isOk ≠
            (Host.check (hostOf (Text.trim isBlank s))).isOk) := by
  constructor
  · intro h
    cases h with
    | hidden _ hc hmargin =>
      rw [hlead _ hc] at hmargin
      cases hmargin
    | @noHost c _ _ hbehind hc hlayout =>
      have hhost : hostOf (Text.trim isBlank s) = [] := by
        rw [hostOf, hbehind]
        rfl
      have hmem : c ∈ s.trailingBlank.filter fun c => !isLayout c :=
        List.mem_filter.mpr ⟨hc, by rw [hlayout]; rfl⟩
      exact ⟨by rw [hbehind, hhost], .inl ⟨hhost, List.ne_nil_of_mem hmem⟩⟩
    | bracketed _ _ hbehind hbracket hcheck => exact ⟨hbehind, .inr ⟨hbracket, hcheck⟩⟩
  · rintro ⟨hbehind, ⟨hhost, htrailing⟩ | ⟨hbracket, hcheck⟩⟩
    · obtain ⟨c, hc⟩ := List.exists_mem_of_ne_nil _ htrailing
      obtain ⟨hmem, hlayout⟩ := List.mem_filter.mp hc
      exact .noHost hlead hweb (by rw [hbehind, hhost]) hmem (by simpa using hlayout)
    · exact .bracketed hlead hweb hbehind hbracket hcheck

/-- The host decides about an address with a margin before it. -/
theorem isPageHost_iff_trim_iff :
    (IsPageHost (hostOf s) ↔ IsPageHost (hostOf (Text.trim isBlank s))) ↔ ¬ IsMisjudged s := by
  have hcleaned : cleaned (Text.trim isBlank s) ≠ [] := by
    intro h
    rw [schemeOf_of_cleaned_eq_nil h] at hweb
    exact not_isWebScheme_nil hweb
  have hw : ∀ c ∈ s.trailingBlank.filter fun c => !isLayout c, isBlank c = true :=
    fun _ => Text.isBlank_of_mem_filter_trailingBlank
  rw [isMisjudged_iff_of_isWebScheme hlead hweb, hostOf_of_forall_leadingBlank hlead hcleaned]
  generalize hostOf (Text.trim isBlank s) = host
  generalize (s.trailingBlank.filter fun c => !isLayout c) = w at hw
  by_cases hbehind : behindScheme (Text.trim isBlank s) = '/' :: '/' :: host
  · rw [if_pos hbehind, isPageHost_iff, isPageHost_iff]
    by_cases hbracket : '[' ∈ host
    · have hhost : host ≠ [] := List.ne_nil_of_mem hbracket
      have hboth : host ++ w ≠ [] := List.append_ne_nil_of_left_ne_nil hhost w
      simp only [hbehind, hbracket, hhost, hboth, true_and, false_and, false_or, ne_eq,
        not_false_eq_true, not_not, Bool.coe_iff_coe]
    · rw [isOk_check_append hw hbracket]
      rcases host with _ | ⟨c, host⟩
      · have hnone : (Host.check []).isOk = true := rfl
        simp [hbehind, hnone]
      · simp [hbracket]
  · rw [if_neg hbehind]
    exact iff_of_true Iff.rfl fun h => hbehind h.1

end Margin

/-- **Where white space makes a difference**: a source is the address of a page as it stands if and
only if it is one without the white space around it, unless it is misjudged. -/
theorem isPageAddress_iff_trim_iff (s : Text) :
    (isPageAddress s = .ok true ↔ isPageAddress (Text.trim isBlank s) = .ok true) ↔
      ¬ IsMisjudged s := by
  by_cases hlead : ∀ c ∈ s.leadingBlank, isAddressMargin c = true
  · rw [isPageAddress_eq_true_iff, isPageAddress_eq_true_iff, schemeOf_of_forall_leadingBlank hlead]
    by_cases hweb : IsWebScheme (schemeOf (Text.trim isBlank s))
    · simp only [hweb, true_and, isPageHost_iff_trim_iff hlead hweb]
    · refine iff_of_true (by simp only [hweb, false_and]) fun h => ?_
      cases h with
      | hidden hpage => exact hweb (isPageAddress_eq_true_iff.mp hpage).1
      | noHost _ hweb' => exact hweb hweb'
      | bracketed _ hweb' => exact hweb hweb'
  · obtain ⟨c, hc, hmargin⟩ : ∃ c ∈ s.leadingBlank, isAddressMargin c = false := by
      simpa using hlead
    have hpage := isPageAddress_of_mem_leadingBlank hc hmargin
    have hmisjudged : IsMisjudged s ↔ isPageAddress (Text.trim isBlank s) = .ok true := by
      constructor
      · intro h
        cases h with
        | hidden hpage => exact hpage
        | noHost hlead' => exact absurd hlead' hlead
        | bracketed hlead' => exact absurd hlead' hlead
      · exact fun h => .hidden h hc hmargin
    rw [hmisjudged]
    exact ⟨fun h hcore => hpage (h.mpr hcore), fun h => iff_of_false hpage h⟩

end HtmlMarkdown
