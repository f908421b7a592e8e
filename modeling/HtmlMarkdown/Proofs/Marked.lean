import Mathlib
import HtmlMarkdown.Proofs.Below
import HtmlMarkdown.Proofs.Ink
import HtmlMarkdown.Whitespace.Blank

/-!
# Marks and fates

Blank nodes are removed in two steps. The marks are found with a stack, each by the path of its
string; then the strings go or change one after another, in a tree that is another one after each of
them. Both steps together come to one recursion over the tree as it was.

* `Place.exists_at?_of_mem_descendants`, `Place.eq_of_path_eq`: a path leads to one place only;
* `Place.perm_markFrom`: the stack meets every node below its places once;
* `Marks.changes`, **`Place.mem_changes_markBlank_iff`**: the marks are the fates of the strings below;
* `Held.settleAll`, `Held.alter_eq`, `Held.settleAll_settleAll`: changes one by one, or all at once;
* `Place.rebuildNodes`: nodes after the fates of all strings in them;
* **`Place.removeBlank_eq_rebuildNodes`**.
-/

namespace HtmlMarkdown

/-! ## Paths -/

theorem Surroundings.path_eq (s : Surroundings) (inner : List Nat) :
    s.path inner = s.path [] ++ inner := by
  induction s generalizing inner with
  | document => rfl
  | element name attributes before after outside ih =>
    rw [path, path, ih, ih [before.length], List.append_assoc]
    rfl

namespace Place

theorem getElem?_spread (outside : Surroundings) (before earlier : List Node) (n : Node)
    (later : List Node) : (spread outside before (earlier ++ n :: later))[earlier.length]? =
      some (node n (earlier.reverse ++ before) later outside) := by
  induction earlier generalizing before with
  | nil => rfl
  | cons m earlier ih =>
    rw [List.cons_append, spread, List.length_cons, List.getElem?_cons_succ, ih,
      List.reverse_cons, List.append_assoc]
    rfl

theorem getElem?_childIndex {p c : Place} (h : c ∈ p.children) :
    p.children[c.childIndex]? = some c := by
  obtain ⟨n, earlier, later, rfl, hn⟩ := mem_spread h
  rw [children, hn, childIndex, List.append_nil, List.length_reverse, getElem?_spread,
    List.append_nil]

theorem path_of_mem_children {p c : Place} (h : c ∈ p.children) :
    c.path = p.path ++ [c.childIndex] := by
  obtain ⟨n, earlier, later, rfl, hn⟩ := mem_spread h
  rcases p with ns | ⟨⟨⟩ | _, _, _, _⟩
  · rfl
  · rw [path, path, inside, Surroundings.path, Surroundings.path_eq,
      Surroundings.path_eq _ [List.length _], List.append_assoc]
    rfl
  · simp [nodes, Node.children] at hn

theorem path_inside_of_mem_children {p c : Place} (h : c ∈ p.children) (way : List Nat) :
    p.inside.path way = p.path ++ way := by
  obtain ⟨n, earlier, later, -, hn⟩ := mem_spread h
  rcases p with ns | ⟨⟨⟩ | _, _, _, _⟩
  · rfl
  · rw [path, inside, Surroundings.path, Surroundings.path_eq, Surroundings.path_eq _ [_],
      List.append_assoc]
    rfl
  · simp [nodes, Node.children] at hn

/-- **A path leads back to its place.** -/
theorem exists_at?_of_mem_descendants {p d : Place} (h : d ∈ p.descendants) :
    ∃ way ≠ [], d.path = p.path ++ way ∧ p.at? way = some d := by
  induction p using inductionOnChildren with
  | step p ih =>
    obtain ⟨c, hc, hd⟩ := mem_descendants_iff.mp h
    have hat : ∀ way, p.at? (c.childIndex :: way) = c.at? way := fun way => by
      rw [at?, getElem?_childIndex hc, Option.bind_some]
    rcases hd with rfl | hd
    · exact ⟨[d.childIndex], List.cons_ne_nil _ _, path_of_mem_children hc, hat []⟩
    · obtain ⟨way, -, hpath, hway⟩ := ih c hc hd
      refine ⟨c.childIndex :: way, List.cons_ne_nil _ _, ?_, (hat way).trans hway⟩
      rw [hpath, path_of_mem_children hc, List.append_assoc]
      rfl

theorem eq_of_path_eq {p d d' : Place} (h : d ∈ p.descendants) (h' : d' ∈ p.descendants)
    (heq : d.path = d'.path) : d = d' := by
  obtain ⟨way, -, hpath, hd⟩ := exists_at?_of_mem_descendants h
  obtain ⟨way', -, hpath', hd'⟩ := exists_at?_of_mem_descendants h'
  rw [hpath, hpath', List.append_cancel_left_eq] at heq
  rw [heq, hd'] at hd
  exact (Option.some.inj hd).symm

/-! ## The stack -/

/-- What is below a place is its children and what is below the elements among these. -/
theorem perm_flatMap_descendants {α : Type} (p : Place) (g : Place → List α) :
    (p.descendants.flatMap g).Perm
      (p.children.flatMap g ++ p.elementChildren.flatMap fun c => c.descendants.flatMap g) := by
  rw [descendants_eq, List.flatMap_assoc, ← flatMap_children_eq]
  · simp only [List.flatMap_cons]
    exact (List.flatMap_append_perm p.children g fun c => c.descendants.flatMap g).symm
  · intro c hc h
    rw [descendants_of_not_isElement hc h, List.flatMap_nil]

section Stack

variable {α : Type} {reading : Marks → List α} {part : Place → List α}
  (hmeet : ∀ m c, (reading (m.meet c)).Perm (reading m ++ part c))

include hmeet

theorem perm_foldl_meet (cs : List Place) (m : Marks) :
    (reading (cs.foldl Marks.meet m)).Perm (reading m ++ cs.flatMap part) := by
  induction cs generalizing m with
  | nil => rw [List.foldl_nil, List.flatMap_nil, List.append_nil]
  | cons c cs ih =>
    rw [List.foldl_cons, List.flatMap_cons, ← List.append_assoc]
    exact (ih _).trans ((hmeet m c).append_right _)

/-- **The stack meets every node below its places once**: what is read off the marks is what was
there before and the parts of these nodes. -/
theorem perm_markFrom (stack : List Place) (m : Marks) :
    (reading (markFrom stack m)).Perm
      (reading m ++ stack.flatMap fun p => p.descendants.flatMap part) := by
  induction stack, m using markFrom.induct with
  | case1 m => rw [markFrom, List.flatMap_nil, List.append_nil]
  | case2 p stack m ih =>
    rw [markFrom, List.flatMap_cons]
    refine ih.trans (((perm_foldl_meet hmeet p.children m).append_right _).trans ?_)
    rw [List.flatMap_append, List.append_assoc, ← List.append_assoc (p.children.flatMap part)]
    refine (List.Perm.append_right _ ?_).append_left _
    exact ((List.reverse_perm _).flatMap_right _).append_left _ |>.trans
      (perm_flatMap_descendants p part).symm

theorem perm_markBlank (p : Place) (hnone : reading {} = []) :
    (reading p.markBlank).Perm (p.descendants.flatMap part) := by
  have h := perm_markFrom hmeet [p] {}
  rwa [hnone, List.nil_append, List.flatMap_singleton] at h

end Stack

end Place

/-! ## Marks as changes -/

/-- All changes that the marks ask for, in the order in which they are carried out. -/
def Marks.changes (m : Marks) : List (List Nat × Fate) :=
  m.doomed.toList.map (fun path => (path, .drop)) ++
    m.values.toList.map fun (path, text) => (path, if text.isEmpty then .drop else .become text)

/-- The change that a place is marked with. -/
def Place.change (d : Place) : List (List Nat × Fate) :=
  match d.fate with
  | .keep => []
  | fate => [(d.path, fate)]

theorem dropBreaks_ne_nil {value : Text} (h : value.isBlank = false) : dropBreaks value ≠ [] := by
  intro hnil
  have hink := ink_dropBreaks value
  rw [hnil, Text.ink_nil, eq_comm, Text.ink_eq_nil_iff, h] at hink
  cases hink

/-- No string gets an empty value. -/
theorem Place.ne_nil_of_fate_eq_become {d : Place} {text : Text} (h : d.fate = .become text) :
    text ≠ [] := by
  rw [fate.eq_def] at h
  split at h
  · split at h
    · cases h
    · split at h
      · cases h
      · split at h
        · split at h <;> cases h
        · next hblank =>
          dsimp only at h
          split at h
          · cases h
          · cases h
            exact dropBreaks_ne_nil (by simpa using hblank)
  · cases h

theorem Marks.perm_changes_meet (m : Marks) (c : Place) :
    (m.meet c).changes.Perm (m.changes ++ c.change) := by
  rw [meet, Place.change]
  rcases hfate : c.fate with _ | _ | text
  · rw [List.append_nil]
  · simp only [changes, Array.toList_push, List.map_append, List.append_assoc]
    exact List.perm_append_comm.append_left _
  · simp [changes, Place.ne_nil_of_fate_eq_become hfate]

namespace Place

theorem mem_change_iff {d : Place} {path : List Nat} {fate : Fate} :
    (path, fate) ∈ d.change ↔ d.path = path ∧ d.fate = fate ∧ fate ≠ .keep := by
  rw [change]
  rcases d.fate with _ | _ | text <;> grind

/-- **The marks are the fates** of the strings below a place that do not just stay. -/
theorem mem_changes_markBlank_iff {p : Place} {path : List Nat} {fate : Fate} :
    (path, fate) ∈ p.markBlank.changes ↔
      ∃ d ∈ p.descendants, d.path = path ∧ d.fate = fate ∧ fate ≠ .keep := by
  rw [(perm_markBlank Marks.perm_changes_meet p rfl).mem_iff, List.mem_flatMap]
  exact exists_congr fun d => and_congr_right' mem_change_iff

end Place

/-! ## Changes one by one, and all at once -/

/-- One fate after another. -/
def Fate.andThen : Fate → Fate → Fate
  | .keep, next => next
  | .drop, _ => .drop
  | .become text, .keep => .become text
  | .become _, next => next

theorem Fate.andThen_self (x : Fate) : x.andThen x = x := by cases x <;> rfl

/-- What a fate makes of a node. -/
def Fate.make : Fate → Held → List Held
  | .keep, h => [h]
  | .drop, _ => []
  | .become text, h => [h.withValue text]

/-- The fate of one path only. -/
def Fate.only (x : Fate) (path : List Nat) : List Nat → Fate := fun way =>
  if way = path then x else .keep

namespace Held

mutual

/-- A node after the fates of all paths from it on. -/
def settleIn (fates : List Nat → Fate) : Held → List Held
  | element index name attributes children =>
    match fates [index] with
    | .drop => []
    | _ => [element index name attributes (settleAll (fun way => fates (index :: way)) children)]
  | string index kind value => (fates [index]).make (string index kind value)

/-- Nodes after the fates of all paths that lead to them and on. -/
def settleAll (fates : List Nat → Fate) : List Held → List Held
  | [] => []
  | h :: rest => settleIn fates h ++ settleAll fates rest

end

theorem settleAll_append (fates : List Nat → Fate) (a b : List Held) :
    settleAll fates (a ++ b) = settleAll fates a ++ settleAll fates b := by
  induction a with
  | nil => rfl
  | cons h a ih => rw [List.cons_append, settleAll, settleAll, ih, List.append_assoc]

mutual

theorem settleIn_of_keep {fates : List Nat → Fate} (hkeep : ∀ way ≠ [], fates way = .keep) :
    ∀ h : Held, settleIn fates h = [h]
  | element index name attributes children => by
    rw [settleIn, hkeep _ (List.cons_ne_nil _ _),
      settleAll_of_keep (fun way _ => hkeep (index :: way) (List.cons_ne_nil _ _))]
  | string index kind value => by
    rw [settleIn, hkeep _ (List.cons_ne_nil _ _)]
    rfl

/-- Nodes stay as they are if no path to them or on has another fate. -/
theorem settleAll_of_keep {fates : List Nat → Fate} (hkeep : ∀ way ≠ [], fates way = .keep) :
    ∀ hs : List Held, settleAll fates hs = hs
  | [] => rfl
  | h :: rest => by
    rw [settleAll, settleIn_of_keep hkeep h, settleAll_of_keep hkeep rest, List.singleton_append]

end

mutual

theorem settleAll_settleIn (fates next : List Nat → Fate) : ∀ h : Held,
    settleAll next (settleIn fates h) = settleIn (fun way => (fates way).andThen (next way)) h
  | element index name attributes children => by
    have hchildren := settleAll_settleAll (fun way => fates (index :: way))
      (fun way => next (index :: way)) children
    rw [settleIn, settleIn]
    rcases hhere : fates [index] with _ | _ | text
    · rw [settleAll, settleIn, hchildren, settleAll, List.append_nil]
      rfl
    · rfl
    · rw [settleAll, settleIn, hchildren, settleAll, List.append_nil]
      rcases next [index] with _ | _ | _ <;> rfl
  | string index kind value => by
    rw [settleIn, settleIn]
    rcases fates [index] with _ | _ | text
    · rw [Fate.make, settleAll, settleIn, settleAll, List.append_nil]
      rfl
    · rfl
    · rw [Fate.make, settleAll, withValue, settleIn, settleAll, List.append_nil]
      rcases next [index] with _ | _ | _ <;> rfl

/-- **Fates one after another** are fates all at once. -/
theorem settleAll_settleAll (fates next : List Nat → Fate) : ∀ hs : List Held,
    settleAll next (settleAll fates hs) = settleAll (fun way => (fates way).andThen (next way)) hs
  | [] => rfl
  | h :: rest => by
    rw [settleAll, settleAll_append, settleAll_settleIn fates next h,
      settleAll_settleAll fates next rest, settleAll]

end

theorem only_cons_eq_keep (x : Fate) {i index : Nat} (path way : List Nat) (h : index ≠ i) :
    x.only (i :: path) (index :: way) = .keep :=
  if_neg fun heq => h (List.cons.inj heq).1

theorem settleIn_only_of_ne {x : Fate} {i : Nat} {path : List Nat} {h : Held} (hne : h.index ≠ i) :
    settleIn (x.only (i :: path)) h = [h] := by
  have hkeep := fun way => only_cons_eq_keep x path way hne
  cases h with
  | element own name attributes children =>
    rw [Held.index] at hkeep
    rw [settleIn, hkeep, settleAll_of_keep fun way _ => hkeep way]
  | string own kind value =>
    rw [Held.index] at hkeep
    rw [settleIn, hkeep]
    rfl

theorem settleIn_only_here (x : Fate) (h : Held) : settleIn (x.only [h.index]) h = x.make h := by
  cases h with
  | element own name attributes children =>
    have hkeep : ∀ way ≠ [], x.only [own] (own :: way) = .keep := fun way hway =>
      if_neg fun heq => hway (List.cons.inj heq).2
    rw [Held.index, settleIn, settleAll_of_keep hkeep, Fate.only, if_pos rfl]
    rcases x with _ | _ | _ <;> rfl
  | string own kind value => rw [Held.index, settleIn, Fate.only, if_pos rfl]

theorem settleIn_only_cons (x : Fate) (h : Held) (j : Nat) (path : List Nat) :
    settleIn (x.only (h.index :: j :: path)) h = [h.onChildren (settleAll (x.only (j :: path)))] := by
  have hhere : ∀ own, x.only (own :: j :: path) [own] = .keep := fun own =>
    if_neg fun heq => List.cons_ne_nil j path (List.cons.inj heq).2.symm
  cases h with
  | element own name attributes children =>
    have hbelow : (fun way => x.only (own :: j :: path) (own :: way)) = x.only (j :: path) := by
      funext way
      simp only [Fate.only, List.cons.injEq, true_and]
    rw [Held.index, settleIn, hhere, hbelow, onChildren]
  | string own kind value =>
    rw [Held.index, settleIn, hhere]
    rfl

/-- **The change of what a path leads to** is the fate of that path. -/
theorem alter_eq (x : Fate) : ∀ {path : List Nat}, path ≠ [] → ∀ hs : List Held,
    alter x.make path hs = settleAll (x.only path) hs
  | [], hpath, _ => absurd rfl hpath
  | [i], _, hs => by
    rw [alter]
    induction hs with
    | nil => rfl
    | cons h rest ih =>
      rw [List.flatMap_cons, settleAll, ih]
      split
      · next hindex => rw [← hindex, settleIn_only_here]
      · next hindex => rw [settleIn_only_of_ne hindex]
  | i :: j :: path, _, hs => by
    have hbelow := alter_eq x (List.cons_ne_nil j path)
    rw [alter]
    induction hs with
    | nil => rfl
    | cons h rest ih =>
      rw [List.map_cons, settleAll, ih, funext hbelow]
      split
      · next hindex =>
        rw [← hindex, settleIn_only_cons]
        rfl
      · next hindex =>
        rw [settleIn_only_of_ne hindex]
        rfl
    · exact List.cons_ne_nil j path

end Held

/-! ## The marks carried out -/

theorem Marks.apply_eq (m : Marks) (depth : Nat) (hs : List Held) :
    m.apply depth hs = (m.changes.map fun change => (change.1.drop depth, change.2)).foldl
      (fun hs change => Held.alter change.2.make change.1 hs) hs := by
  rw [apply, changes, List.map_append, List.foldl_append, List.map_map, List.map_map,
    List.foldl_map, List.foldl_map, Array.foldl_toList, Array.foldl_toList]
  refine congrArg₂ (fun f hs => m.values.foldl f hs) ?_ rfl
  funext hs ⟨path, text⟩
  rw [settle]
  simp only [Function.comp_apply]
  split <;> rfl

theorem Held.foldl_alter {changes : List (List Nat × Fate)} (hne : ∀ change ∈ changes, change.1 ≠ [])
    (fates : List Nat → Fate) (hs : List Held) :
    changes.foldl (fun hs change => alter change.2.make change.1 hs) (settleAll fates hs) =
      settleAll (fun way => changes.foldl (fun y change => y.andThen (change.2.only change.1 way))
        (fates way)) hs := by
  induction changes generalizing fates with
  | nil => rfl
  | cons change changes ih =>
    rw [List.foldl_cons, alter_eq _ (hne change List.mem_cons_self), settleAll_settleAll,
      ih fun c hc => hne c (List.mem_cons_of_mem _ hc)]
    rfl

/-- Changes of which all to one path are the same come to this one. -/
theorem Fate.foldl_andThen {way : List Nat} {x : Fate} {changes : List (List Nat × Fate)}
    (hsame : ∀ y, (way, y) ∈ changes → y = x) (start : Fate)
    (hstart : start = x ∨ start = .keep ∧ (x = .keep ∨ (way, x) ∈ changes)) :
    changes.foldl (fun y change => y.andThen (change.2.only change.1 way)) start = x := by
  induction changes generalizing start with
  | nil =>
    rcases hstart with h | ⟨h, hx | hmem⟩
    · exact h
    · exact h.trans hx.symm
    · cases hmem
  | cons change changes ih =>
    obtain ⟨path, z⟩ := change
    rw [List.foldl_cons, only]
    refine ih (fun y hy => hsame y (List.mem_cons_of_mem _ hy)) _ ?_
    split
    · next hway =>
      -- the change is to this path, so it is the one that all of them are
      obtain rfl := hsame z (hway ▸ List.mem_cons_self)
      rcases hstart with rfl | ⟨rfl, -⟩
      · exact Or.inl start.andThen_self
      · exact Or.inl rfl
    · next hway =>
      have hkeep : start.andThen .keep = start := by cases start <;> rfl
      rw [hkeep]
      refine hstart.imp_right (And.imp_right (Or.imp_right fun hmem => ?_))
      rcases List.mem_cons.mp hmem with heq | hmem
      · exact absurd (Prod.mk.inj heq).1 hway
      · exact hmem

namespace Place

/-! ## The tree after the fates -/

mutual

/-- The nodes that stand for one node after the fates of all strings in it. -/
def rebuildNode (outside : Surroundings) (before after : List Node) : Node → List Node
  | .element name attributes children =>
    [.element name attributes
      (rebuildNodes (.element name attributes before after outside) [] children)]
  | .string kind value =>
    match fate (.node (.string kind value) before after outside) with
    | .keep => [.string kind value]
    | .drop => []
    | .become text => [.string kind text]

/-- Nodes after the fates of all strings in them. -/
def rebuildNodes (outside : Surroundings) (before : List Node) : List Node → List Node
  | [] => []
  | n :: rest => rebuildNode outside before rest n ++ rebuildNodes outside (n :: before) rest

end

theorem toNodes_append (a b : List Held) :
    Held.toNodes (a ++ b) = Held.toNodes a ++ Held.toNodes b := by
  induction a with
  | nil => rfl
  | cons h a ih => rw [List.cons_append, Held.toNodes, Held.toNodes, ih, List.cons_append]

/-- Nodes after the fates of all paths, if each path from the place that they are below has the fate
of the place that it leads to. -/
theorem toNodes_settleAll : ∀ (ns : List Node) {outside : Surroundings} (before : List Node)
    (fates : List Nat → Fate), (∀ d ∈ allDescendants outside before ns [],
      ∀ way, d.path = outside.path way → fates way = d.fate) →
    Held.toNodes (Held.settleAll fates (Held.ofNodes before.length ns)) =
      rebuildNodes outside before ns
  | [], _, _, _, _ => rfl
  | .element name attributes children :: rest, outside, before, fates, h => by
    obtain ⟨hhere, hbelow, hrest⟩ := forall_mem_allDescendants_cons.mp h
    have hchildren := toNodes_settleAll children [] (fun way => fates (before.length :: way))
      fun d hd way hway => hbelow d hd (before.length :: way) hway
    have hafter := toNodes_settleAll rest _ fates hrest
    rw [List.length_cons] at hafter
    rw [Held.ofNodes, Held.ofNode, Held.settleAll, Held.settleIn, hhere _ rfl, toNodes_append,
      hafter, rebuildNodes, rebuildNode]
    exact congrArg (fun ns => Node.element name attributes ns ::
      rebuildNodes outside (.element name attributes children :: before) rest) hchildren
  | .string kind value :: rest, outside, before, fates, h => by
    obtain ⟨hhere, hrest⟩ := forall_mem_allDescendants_string.mp h
    have hafter := toNodes_settleAll rest _ fates hrest
    rw [List.length_cons] at hafter
    rw [Held.ofNodes, Held.ofNode, Held.settleAll, Held.settleIn, hhere _ rfl, toNodes_append,
      hafter, rebuildNodes, rebuildNode]
    rcases fate (node (.string kind value) before rest outside) with _ | _ | _ <;> rfl

/-- The marks below a place, each with the path from there. -/
theorem mem_map_changes_markBlank_iff {p : Place} {way : List Nat} {x : Fate} :
    (way, x) ∈ p.markBlank.changes.map (fun change => (change.1.drop p.path.length, change.2)) ↔
      ∃ d ∈ p.descendants, d.path = p.path ++ way ∧ d.fate = x ∧ x ≠ .keep := by
  rw [List.mem_map]
  constructor
  · rintro ⟨⟨path, y⟩, hmem, heq⟩
    obtain ⟨rfl, rfl⟩ := Prod.mk.inj heq
    obtain ⟨d, hd, rfl, hfate⟩ := mem_changes_markBlank_iff.mp hmem
    obtain ⟨way, -, hpath, -⟩ := exists_at?_of_mem_descendants hd
    exact ⟨d, hd, by rw [hpath, List.drop_left], hfate⟩
  · rintro ⟨d, hd, hpath, hfate⟩
    refine ⟨(d.path, x), mem_changes_markBlank_iff.mpr ⟨d, hd, rfl, hfate⟩, ?_⟩
    rw [hpath, List.drop_left]

/-- **Marking and then carrying out the marks** comes to the fates of all strings where they stand.
-/
theorem removeBlank_eq_rebuildNodes (p : Place) :
    p.removeBlank = rebuildNodes p.inside [] p.nodes := by
  have hne : ∀ change ∈ p.markBlank.changes.map
      (fun change => (change.1.drop p.path.length, change.2)), change.1 ≠ [] := by
    rintro ⟨way, x⟩ hmem
    obtain ⟨d, hd, hpath, -⟩ := mem_map_changes_markBlank_iff.mp hmem
    obtain ⟨way', hway', hpath', -⟩ := exists_at?_of_mem_descendants hd
    rw [hpath', List.append_cancel_left_eq] at hpath
    exact hpath ▸ hway'
  rw [removeBlank, Marks.apply_eq, ← Held.settleAll_of_keep (fun _ _ => rfl) (Held.ofNodes 0 _),
    Held.foldl_alter hne]
  refine toNodes_settleAll p.nodes [] _ fun d hd way hway => ?_
  obtain ⟨c, hc, -⟩ := mem_descendants_iff.mp hd
  rw [path_inside_of_mem_children hc] at hway
  refine Fate.foldl_andThen (fun x hx => ?_) .keep (Or.inr ⟨rfl, ?_⟩)
  · obtain ⟨d', hd', hpath, hfate, -⟩ := mem_map_changes_markBlank_iff.mp hx
    rw [← hfate, eq_of_path_eq hd' hd (hpath.trans hway.symm)]
  · refine or_iff_not_imp_left.mpr fun hkeep => ?_
    exact mem_map_changes_markBlank_iff.mpr ⟨d, hd, hway, rfl, hkeep⟩

end Place

end HtmlMarkdown
