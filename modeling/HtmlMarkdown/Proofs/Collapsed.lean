import Mathlib
import HtmlMarkdown.Proofs.Words

/-!
# What a collapse leaves alone

A collapse takes spacing out of texts. Elements and their attributes, comments and all preformatted
text stay as they are, and so does the order of everything.

* `Text.HasSingleSpaces`, `Text.IsCollapseOf`: what becomes of a text;
* `isCollapseOf_squeeze`, `Text.IsCollapseOf.of_append`: it does when the text is squeezed, and when
  it loses spaces at its ends;
* **`retexted_collapse`**: what becomes of a tree.
-/

namespace HtmlMarkdown

namespace Text

/-- No two spaces stand side by side. -/
def HasSingleSpaces (t : Text) : Prop := t.IsChain fun c d => ¬ (c = ' ' ∧ d = ' ')

/-- A text with the same characters apart from spacing, and no spacing but single spaces. -/
structure IsCollapseOf (t v : Text) : Prop where
  kept : (t.filter fun c => !isSpacing c) = v.filter fun c => !isSpacing c
  onlySpaces : t.HasOnlySpaces
  singleSpaces : t.HasSingleSpaces

/-- Spaces at the ends of a text may go. -/
theorem IsCollapseOf.of_append (before after : Text) {t v : Text} (hbefore : ∀ c ∈ before, c = ' ')
    (hafter : ∀ c ∈ after, c = ' ') (h : (before ++ t ++ after).IsCollapseOf v) :
    t.IsCollapseOf v := by
  have hnone {s : Text} (hs : ∀ c ∈ s, c = ' ') : (s.filter fun c => !isSpacing c) = [] := by
    rw [List.filter_eq_nil_iff]
    intro c hc
    rw [hs c hc]
    decide
  refine ⟨?_, h.onlySpaces.of_sublist (List.infix_append before t after).sublist, ?_⟩
  · have hkept := h.kept
    rwa [List.filter_append, List.filter_append, hnone hbefore, hnone hafter, List.nil_append,
      List.append_nil] at hkept
  · exact h.singleSpaces.left_of_append.right_of_append

end Text

/-! ## Squeezed texts -/

theorem filter_squeezeAfter (isInRun : Bool) (t : Text) :
    ((squeezeAfter isInRun t).filter fun c => !isSpacing c) = t.filter fun c => !isSpacing c := by
  induction t generalizing isInRun with
  | nil => rfl
  | cons c t ih =>
    have hspace : isSpacing ' ' = true := rfl
    rw [squeezeAfter, List.filter_cons]
    rcases hc : isSpacing c with _ | _
    · simp [hc, ih]
    · cases isInRun
      · simp [hspace, ih]
      · simp [ih]

/-- **A squeezed text** has single spaces, also behind the space of a run. -/
theorem hasSingleSpaces_squeezeAfter (t : Text) :
    (squeezeAfter false t).HasSingleSpaces ∧ Text.HasSingleSpaces (' ' :: squeezeAfter true t) := by
  induction t with
  | nil => exact ⟨.nil, .singleton _⟩
  | cons c t ih =>
    obtain ⟨ihOutside, ihInside⟩ := ih
    rw [squeezeAfter, squeezeAfter]
    rcases hc : isSpacing c with _ | _
    · have hne : c ≠ ' ' := not_isSpacing_ne_space (by rw [hc]; exact Bool.false_ne_true)
      have hcons : Text.HasSingleSpaces (c :: squeezeAfter false t) :=
        List.isChain_cons.mpr ⟨fun d _ hboth => hne hboth.1, ihOutside⟩
      exact ⟨hcons, List.isChain_cons_cons.mpr ⟨fun hboth => hne hboth.2, hcons⟩⟩
    · exact ⟨ihInside, ihInside⟩

theorem isCollapseOf_squeeze (v : Text) : (squeeze v).IsCollapseOf v :=
  ⟨filter_squeezeAfter false v, hasOnlySpaces_squeezeAfter false v,
    (hasSingleSpaces_squeezeAfter v).1⟩

theorem Text.IsCollapseOf.dropTrailingSpaces {t v : Text} (h : t.IsCollapseOf v) :
    (HtmlMarkdown.dropTrailingSpaces t).IsCollapseOf v := by
  have hsplit : HtmlMarkdown.dropTrailingSpaces t ++ t.rtakeWhile (· == ' ') = t :=
    List.rdropWhile_append_rtakeWhile
  rw [← hsplit] at h
  exact of_append [] _ (List.forall_mem_nil _)
    (fun c hc => by simpa using List.mem_rtakeWhile_imp hc) h

/-! ## Trees -/

/-- **A collapse leaves everything alone but spacing.** Nothing changes below a preformatted place.
Elsewhere elements, attributes, comments and preformatted text are the same and in the same order.
So are the other texts, each with its characters apart from spacing and with no spacing but single
spaces, and none of them is empty; the texts that are left out had no character but spacing. -/
theorem retexted_collapse (block pre : String → Bool) (p : Place) :
    if pre p.tagName then p.collapse block pre = p.nodes
    else Retexted pre Text.IsCollapseOf p.nodes (p.collapse block pre) := by
  rw [Place.collapse]
  split
  · rfl
  · refine .resettle p.nodes (forall₂_settledTexts (fun t v h => h.dropTrailingSpaces)
      (fun t v h => ?_) fun v _ => isCollapseOf_squeeze v)
    refine .of_append [' '] [] (List.forall_mem_singleton.mpr rfl) (List.forall_mem_nil _) ?_
    rwa [List.append_nil, List.singleton_append]

end HtmlMarkdown
