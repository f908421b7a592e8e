import Mathlib
import HtmlMarkdown.Proofs.LevelOrder

/-!
# Levels

The elements below a place lie on levels, and level order is the first level, then the second, and so
on to the last.

* `Place.depth`, `Place.level`: the elements so many levels below a place, in document order;
* `level_succ`, `level_succ_eq_flatMap`: a level is made of the children of the one above it;
* `drain_append`: when the front of a queue is done, the children of the front are at its back;
* `drain_level`: the queue that holds a level goes through all levels from there on;
* `mem_later_of_mem_elementsBelow`: in level order an element comes before all elements below it;
* **`levelOrder_eq_flatMap_level`**.
-/

namespace HtmlMarkdown

/-! ## Depth -/

/-- The number of elements around. -/
def Surroundings.depth : Surroundings → Nat
  | document => 0
  | element _ _ _ _ outside => outside.depth + 1

namespace Place

/-- The number of steps down from the document to a place. -/
def depth : Place → Nat
  | document _ => 0
  | node _ _ _ outside => outside.depth + 1

theorem depth_of_mem_children {p c : Place} (h : c ∈ p.children) : c.depth = p.depth + 1 := by
  obtain ⟨n, _, _, rfl, hn⟩ := mem_spread h
  rcases p with _ | ⟨_ | _, _, _, _⟩
  · rfl
  · rfl
  · simp [nodes, Node.children] at hn

theorem depth_of_mem_elementChildren {p c : Place} (h : c ∈ p.elementChildren) :
    c.depth = p.depth + 1 :=
  depth_of_mem_children (List.mem_filter.mp h).1

/-- **The elements below a place lie deeper than the place.** -/
theorem depth_lt_of_mem_elementsBelow {p e : Place} (h : e ∈ p.elementsBelow) :
    p.depth < e.depth := by
  induction p using inductionOnChildren with
  | step p ih =>
    rw [elementsBelow_eq, List.mem_flatMap] at h
    obtain ⟨c, hc, he⟩ := h
    have hdepth := depth_of_mem_elementChildren hc
    rcases List.mem_cons.mp he with rfl | he
    · omega
    · have hbelow := ih c (List.mem_filter.mp hc).1 he
      omega

/-! ## Levels -/

/-- The places that are `n` levels below a place, in document order: the place itself for none, and
elements otherwise. -/
def level (n : Nat) (p : Place) : List Place :=
  (p :: p.elementsBelow).filter fun e => e.depth = p.depth + n

theorem level_zero (p : Place) : p.level 0 = [p] := by
  have hbelow : p.elementsBelow.filter (fun e => e.depth = p.depth + 0) = [] := by
    refine List.filter_eq_nil_iff.mpr fun e he => ?_
    have hlt := depth_lt_of_mem_elementsBelow he
    simp only [decide_eq_true_eq]
    omega
  rw [level, List.filter_cons_of_pos (by simp), hbelow]

/-- The elements of a level are those that lie one level less below the children. -/
theorem level_succ (n : Nat) (p : Place) : p.level (n + 1) = p.elementChildren.flatMap (level n) := by
  rw [level, List.filter_cons_of_neg (by simp), elementsBelow_eq, List.filter_flatMap]
  refine List.flatMap_congr fun c hc => ?_
  rw [level]
  refine List.filter_congr fun e _ => ?_
  have hdepth := depth_of_mem_elementChildren hc
  rw [decide_eq_decide]
  omega

/-- **The elements of a level are the children of those of the level above.** -/
theorem level_succ_eq_flatMap (n : Nat) (p : Place) :
    p.level (n + 1) = (p.level n).flatMap elementChildren := by
  induction n generalizing p with
  | zero =>
    rw [level_succ, level_zero, List.flatMap_singleton,
      List.flatMap_congr fun c _ => level_zero c, List.flatMap_singleton']
  | succ n ih =>
    calc p.level (n + 1 + 1)
        = p.elementChildren.flatMap fun c => (c.level n).flatMap elementChildren := by
          rw [level_succ]
          exact List.flatMap_congr fun c _ => ih c
      _ = (p.elementChildren.flatMap (level n)).flatMap elementChildren := by
          rw [List.flatMap_assoc]
      _ = (p.level (n + 1)).flatMap elementChildren := by rw [level_succ]

theorem level_eq_nil_of_le {n m : Nat} {p : Place} (h : p.level n = []) (hle : n ≤ m) :
    p.level m = [] := by
  induction m, hle using Nat.le_induction with
  | base => exact h
  | succ m _ ih => rw [level_succ_eq_flatMap, ih, List.flatMap_nil]

theorem exists_level_eq_nil (p : Place) : ∃ n, p.level n = [] := by
  refine ⟨(p.elementsBelow.map depth).sum + 1, List.filter_eq_nil_iff.mpr fun e he => ?_⟩
  simp only [decide_eq_true_eq]
  rcases List.mem_cons.mp he with rfl | he
  · omega
  · have hle := List.le_sum_of_mem (List.mem_map_of_mem (f := depth) he)
    omega

/-- There is a last level. -/
theorem exists_height (p : Place) : ∃ height, ∀ n, p.level n = [] ↔ height < n := by
  classical
  obtain ⟨height, hheight⟩ : ∃ height, Nat.find p.exists_level_eq_nil = height + 1 := by
    refine Nat.exists_eq_succ_of_ne_zero fun h0 => ?_
    have hnil := Nat.find_spec p.exists_level_eq_nil
    rw [h0, level_zero] at hnil
    cases hnil
  refine ⟨height, fun n => ⟨fun hn => ?_, fun hlt => ?_⟩⟩
  · have hle := Nat.find_min' p.exists_level_eq_nil hn
    omega
  · exact level_eq_nil_of_le (Nat.find_spec p.exists_level_eq_nil) (by omega)

/-! ## The queue, level by level -/

/-- **When the front of a queue is done, the children of the front are at its back.** -/
theorem drain_append (done waiting : List Place) :
    drain (done ++ waiting) [] = done ++ drain (waiting ++ done.flatMap elementChildren) [] := by
  induction done generalizing waiting with
  | nil => simp
  | cons p done ih =>
    rw [List.cons_append, drain_cons, List.append_assoc, ih, List.flatMap_cons, List.append_assoc,
      List.cons_append]

/-- The queue that holds a level goes through this level and then holds the next one. -/
theorem drain_level (n : Nat) (p : Place) :
    drain (p.level n) [] = p.level n ++ drain (p.level (n + 1)) [] := by
  have h := drain_append (p.level n) []
  rwa [List.append_nil, List.nil_append, ← level_succ_eq_flatMap] at h

/-- The queue that holds a level goes through as many levels as there are. -/
theorem drain_level_eq (n count : Nat) (p : Place) :
    drain (p.level n) [] =
      ((List.range count).flatMap fun i => p.level (n + i)) ++ drain (p.level (n + count)) [] := by
  induction count with
  | zero => rfl
  | succ count ih =>
    rw [ih, drain_level, List.range_succ, List.flatMap_append, List.flatMap_singleton,
      List.append_assoc, Nat.add_assoc]

/-! ## Level order -/

theorem levelOrder_eq_drain_level (p : Place) : p.levelOrder = drain (p.level 1) [] := by
  rw [levelOrder_eq, level_succ_eq_flatMap, level_zero, List.flatMap_singleton]

theorem levelOrder_of_height {p : Place} {height : Nat} (h : p.level (height + 1) = []) :
    p.levelOrder = (List.range height).flatMap fun n => p.level (n + 1) := by
  rw [levelOrder_eq_drain_level, drain_level_eq 1 height, Nat.add_comm 1 height, h, drain_nil,
    List.append_nil]
  simp only [Nat.add_comm 1]

theorem depth_of_mem_level {n : Nat} {p e : Place} (h : e ∈ p.level n) : e.depth = p.depth + n := by
  simpa using (List.mem_filter.mp h).2

/-- **Depths never decrease along levels.** -/
theorem pairwise_depth_flatMap_level (p : Place) (count : Nat) :
    ((List.range count).flatMap fun n => p.level (n + 1)).Pairwise fun d e => d.depth ≤ e.depth := by
  refine List.pairwise_flatMap.mpr ⟨fun n _ => ?_, ?_⟩
  · refine List.pairwise_of_forall_mem_list fun d hd e he => ?_
    rw [depth_of_mem_level hd, depth_of_mem_level he]
  · refine List.pairwise_lt_range.imp fun {n m} hlt d hd e he => ?_
    rw [depth_of_mem_level hd, depth_of_mem_level he]
    omega

/-- **In level order an element comes before all elements below it.** -/
theorem mem_later_of_mem_elementsBelow {p e d : Place} {earlier later : List Place}
    (h : p.levelOrder = earlier ++ e :: later) (hd : d ∈ e.elementsBelow) : d ∈ later := by
  induction e using inductionOnChildren generalizing earlier later with
  | step e ih =>
    rw [elementsBelow_eq, List.mem_flatMap] at hd
    obtain ⟨c, hc, hd⟩ := hd
    have hlater := mem_later_of_levelOrder_eq h c hc
    rcases List.mem_cons.mp hd with rfl | hd
    · exact hlater
    · obtain ⟨between, rest, rfl⟩ := List.append_of_mem hlater
      have hsplit : p.levelOrder = (earlier ++ e :: between) ++ c :: rest := by simp [h]
      have hrest := ih c (List.mem_filter.mp hc).1 hsplit hd
      exact List.mem_append_right _ (List.mem_cons_of_mem _ hrest)

/-- **Level order is the levels, one after another**: first the elements one level below the place in
document order, then those two levels below, and so on to the last level. So it has every element
below the place once, and the place never; depths do not decrease along it, and backwards every
element comes after all elements below it. -/
theorem levelOrder_eq_flatMap_level (p : Place) :
    (∃ height, (∀ n, p.level n = [] ↔ height < n) ∧
      p.levelOrder = (List.range height).flatMap fun n => p.level (n + 1)) ∧
    p.levelOrder.Perm p.elementsBelow ∧ (p.levelOrder.map address).Nodup ∧ p ∉ p.levelOrder ∧
    (p.levelOrder.Pairwise fun d e => d.depth ≤ e.depth) ∧
    ∀ earlier e later, p.levelOrder.reverse = earlier ++ e :: later →
      ∀ d ∈ e.elementsBelow, d ∈ earlier := by
  obtain ⟨height, hheight⟩ := p.exists_height
  have horder := levelOrder_of_height ((hheight (height + 1)).mpr (Nat.lt_succ_self height))
  refine ⟨⟨height, hheight, horder⟩, perm_levelOrder p, nodup_address_levelOrder p, fun hp => ?_, ?_,
    fun earlier e later hsplit d hd => ?_⟩
  · exact Nat.lt_irrefl _ (depth_lt_of_mem_elementsBelow (mem_levelOrder.mp hp))
  · rw [horder]
    exact pairwise_depth_flatMap_level p height
  · have hforwards : p.levelOrder = later.reverse ++ e :: earlier.reverse := by
      rw [← List.reverse_reverse p.levelOrder, hsplit]
      simp
    exact List.mem_reverse.mp (mem_later_of_mem_elementsBelow hforwards hd)

end Place

end HtmlMarkdown
