import Mathlib
import HtmlMarkdown.Node.Shell
import HtmlMarkdown.Proofs.Reading

/-!
# An element's own tags around a content

* `unescapeMarkup`, `readTag?`: a reader of start tags, values between quotes;
* `unescapeMarkup_flatMap`: what each character is written as can be read back;
* `readQuoted?_quoteAttribute`: so can a value, whatever its quotes;
* `readTag?_startTag`: so can a start tag;
* `not_mem_startTag`: nor does it end inside a value;
* **`Place.outer_element`**: the tags of an element stand around the content.
-/

namespace HtmlMarkdown

open Text

/-! ## A reader of start tags -/

/-- A value with its references read. -/
def unescapeMarkup : Text → Text
  | '&' :: 'a' :: 'm' :: 'p' :: ';' :: s => '&' :: unescapeMarkup s
  | '&' :: 'l' :: 't' :: ';' :: s => '<' :: unescapeMarkup s
  | '&' :: 'g' :: 't' :: ';' :: s => '>' :: unescapeMarkup s
  | '&' :: 'q' :: 'u' :: 'o' :: 't' :: ';' :: s => '"' :: unescapeMarkup s
  | c :: s => c :: unescapeMarkup s
  | [] => []

/-- A text between two quotes of one kind, and what follows it. -/
def readQuoted? : Text → Option (Text × Text)
  | [] => none
  | quote :: s => if quote = '"' ∨ quote = '\'' then splitAt? quote s else none

/-- A character of a key. -/
def isKeyChar (c : Char) : Bool := !isBlank c && c != '=' && c != '"' && c != '\''

/-- A key with its value, white space before it, and what follows them. -/
def readKeyed? : Text → Option ((Text × Text) × Text)
  | [] => none
  | c :: s =>
    match s.span isKeyChar with
    | (d :: key, '=' :: s) =>
      if isBlank c then
        (readQuoted? s).map fun (value, rest) => ((d :: key, unescapeMarkup value), rest)
      else none
    | _ => none

theorem readQuoted?_eq_some_iff {s value rest : Text} :
    readQuoted? s = some (value, rest) ↔
      ∃ quote, (quote = '"' ∨ quote = '\'') ∧ s = quote :: (value ++ quote :: rest) ∧
        quote ∉ value := by
  rcases s with _ | ⟨quote, s⟩
  · simp [readQuoted?]
  · simp only [readQuoted?, Option.ite_none_right_eq_some, splitAt?_eq_some_iff, List.cons.injEq]
    constructor
    · rintro ⟨hquote, hs, hmem⟩
      exact ⟨quote, hquote, ⟨rfl, hs⟩, hmem⟩
    · rintro ⟨_, hquote, ⟨rfl, hs⟩, hmem⟩
      exact ⟨hquote, hs, hmem⟩

theorem readKeyed?_eq_some_iff {s key value rest : Text} :
    readKeyed? s = some ((key, value), rest) ↔
      ∃ c t quoted, s = c :: (key ++ '=' :: t) ∧ isBlank c = true ∧ key ≠ [] ∧
        (∀ d ∈ key, isKeyChar d = true) ∧ readQuoted? t = some (quoted, rest) ∧
        unescapeMarkup quoted = value := by
  constructor
  · intro h
    rcases s with _ | ⟨c, s⟩
    · cases h
    · rw [readKeyed?] at h
      split at h
      · next d key' t hspan =>
        obtain ⟨hs, hkey, -⟩ := span_eq_iff.mp hspan
        obtain ⟨hc, hmap⟩ := Option.ite_none_right_eq_some.mp h
        obtain ⟨⟨quoted, _⟩, hread, hpair⟩ := Option.map_eq_some_iff.mp hmap
        cases hpair
        exact ⟨c, t, quoted, congrArg _ hs, hc, List.cons_ne_nil _ _, hkey, hread, rfl⟩
      · cases h
  · rintro ⟨c, t, quoted, rfl, hc, hne, hkey, hread, rfl⟩
    have hspan : (key ++ '=' :: t).span isKeyChar = (key, '=' :: t) :=
      span_eq_iff.mpr ⟨rfl, hkey, by simp [isKeyChar]⟩
    obtain ⟨d, key, rfl⟩ := List.exists_cons_of_ne_nil hne
    rw [readKeyed?, hspan]
    simp [hread, hc]

theorem readKeyed?_length {s rest : Text} {a : Text × Text} (h : readKeyed? s = some (a, rest)) :
    rest.length < s.length := by
  obtain ⟨c, t, quoted, rfl, -, -, -, hread, -⟩ := readKeyed?_eq_some_iff.mp h
  obtain ⟨quote, -, rfl, -⟩ := readQuoted?_eq_some_iff.mp hread
  simp only [List.length_append, List.length_cons]
  omega

/-- Keys with their values up to the end of a tag. -/
def readAllKeyed? (s : Text) : Option (List (Text × Text)) :=
  if s.isEmpty then some []
  else match _h : readKeyed? s with
    | some (a, rest) => (readAllKeyed? rest).map (a :: ·)
    | none => none
termination_by s.length
decreasing_by exact readKeyed?_length _h

/-- The name in a start tag, and the keys after it with their values. -/
def readTag? : Text → Option (Text × List (Text × Text))
  | '<' :: s =>
    let (name, rest) := s.span fun c => !isBlank c
    (readAllKeyed? rest).map fun attributes => (name, attributes)
  | _ => none

/-! ## Values -/

theorem unescapeMarkup_cons {c : Char} (h : c ≠ '&') (s : Text) :
    unescapeMarkup (c :: s) = c :: unescapeMarkup s := by
  conv_lhs => unfold unescapeMarkup
  split <;> simp_all

/-- **A text can be read back if each of its characters can.** -/
theorem unescapeMarkup_flatMap {f : Char → Text}
    (hf : ∀ c s, unescapeMarkup (f c ++ s) = c :: unescapeMarkup s) (v : Text) :
    unescapeMarkup (v.flatMap f) = v := by
  induction v with
  | nil => rfl
  | cons c v ih => rw [List.flatMap_cons, hf, ih]

theorem unescapeMarkup_escapedChar (c : Char) (s : Text) :
    unescapeMarkup (escapedChar c ++ s) = c :: unescapeMarkup s := by
  rw [escapedChar]
  split_ifs with hamp hlt hgt
  · rw [hamp]
    rfl
  · rw [hlt]
    rfl
  · rw [hgt]
    rfl
  · exact unescapeMarkup_cons hamp s

theorem unescapeMarkup_escapeMarkup (v : Text) : unescapeMarkup (escapeMarkup v) = v :=
  unescapeMarkup_flatMap unescapeMarkup_escapedChar v

/-- What is written for a character is a reference without quotes, or the character itself. -/
theorem of_mem_escapedChar {c d : Char} (h : d ∈ escapedChar c) :
    d ∈ "&ampltg;".toList ∨ d = c ∧ c ≠ '>' := by
  rw [escapedChar] at h
  split_ifs at h with hamp hlt hgt
  · exact Or.inl ((by decide : "&amp;".toList ⊆ "&ampltg;".toList) h)
  · exact Or.inl ((by decide : "&lt;".toList ⊆ "&ampltg;".toList) h)
  · exact Or.inl ((by decide : "&gt;".toList ⊆ "&ampltg;".toList) h)
  · exact Or.inr ⟨List.mem_singleton.mp h, hgt⟩

/-- A value stays readable when its double quotes are written as references too. -/
theorem unescapeMarkup_replaceChar_escapeMarkup (v : Text) :
    unescapeMarkup (replaceChar '"' "&quot;".toList (escapeMarkup v)) = v := by
  rw [replaceChar, escapeMarkup, List.flatMap_assoc]
  refine unescapeMarkup_flatMap (fun c s => ?_) v
  by_cases hquote : c = '"'
  · rw [hquote]
    rfl
  · have hnone : '"' ∉ escapedChar c := fun hmem => by
      rcases of_mem_escapedChar hmem with hmem | ⟨heq, -⟩
      · exact absurd hmem (by decide)
      · exact hquote heq.symm
    have hkept : (escapedChar c).flatMap (fun d => if d = '"' then "&quot;".toList else [d]) =
        escapedChar c := replaceChar_of_not_mem hnone _
    rw [hkept, unescapeMarkup_escapedChar]

/-- **A value between quotes can be read back**, in each of the three ways of quoting. -/
theorem readQuoted?_quoteAttribute (v rest : Text) :
    ∃ quoted, readQuoted? (quoteAttribute (escapeMarkup v) ++ rest) = some (quoted, rest) ∧
      unescapeMarkup quoted = v := by
  rw [quoteAttribute]
  split_ifs with hdouble hsingle
  · refine ⟨_, readQuoted?_eq_some_iff.mpr ⟨'"', Or.inl rfl, by simp, ?_⟩,
      unescapeMarkup_replaceChar_escapeMarkup v⟩
    exact not_mem_replaceChar (by decide) _
  · exact ⟨_, readQuoted?_eq_some_iff.mpr ⟨'\'', Or.inr rfl, by simp, by simpa using hsingle⟩,
      unescapeMarkup_escapeMarkup v⟩
  · exact ⟨_, readQuoted?_eq_some_iff.mpr ⟨'"', Or.inl rfl, by simp, by simpa using hdouble⟩,
      unescapeMarkup_escapeMarkup v⟩

/-! ## Start tags -/

/-- A name and keys that a tag keeps apart: no white space in the name; in a key no white space,
equals sign or quote, and at least one character. -/
structure IsReadable (name : String) (attributes : Attributes) : Prop where
  name : ∀ c ∈ name.toList, isBlank c = false
  keys : ∀ a ∈ attributes, a.1.toList ≠ [] ∧ ∀ c ∈ a.1.toList, isKeyChar c = true

theorem readAllKeyed?_writeAttribute {a : String × AttributeValue} (hne : a.1.toList ≠ [])
    (hkey : ∀ c ∈ a.1.toList, isKeyChar c = true) (rest : Text) :
    readAllKeyed? (writeAttribute a ++ rest) =
      (readAllKeyed? rest).map ((a.1.toList, a.2.written) :: ·) := by
  obtain ⟨quoted, hread, hvalue⟩ := readQuoted?_quoteAttribute a.2.written rest
  have hwritten : writeAttribute a ++ rest = ' ' :: (a.1.toList ++ '=' ::
      (quoteAttribute (escapeMarkup a.2.written) ++ rest)) := by
    simp [writeAttribute]
  have hkeyed := readKeyed?_eq_some_iff.mpr
    ⟨' ', _, quoted, hwritten, by decide, hne, hkey, hread, hvalue⟩
  rw [readAllKeyed?, if_neg (by simp [hwritten])]
  split
  · next h => grind
  · next h => grind

theorem readAllKeyed?_flatMap (attributes : Attributes)
    (h : ∀ a ∈ attributes, a.1.toList ≠ [] ∧ ∀ c ∈ a.1.toList, isKeyChar c = true) :
    readAllKeyed? (attributes.flatMap writeAttribute) =
      some (attributes.map fun a => (a.1.toList, a.2.written)) := by
  induction attributes with
  | nil =>
    rw [List.flatMap_nil, readAllKeyed?, List.map_nil]
    rfl
  | cons a attributes ih =>
    obtain ⟨hne, hkey⟩ := h a List.mem_cons_self
    rw [List.flatMap_cons, readAllKeyed?_writeAttribute hne hkey,
      ih fun b hb => h b (List.mem_cons_of_mem _ hb), List.map_cons]
    rfl

/-- **A start tag can be read back**: the name, and the attributes in the order of their keys. -/
theorem readTag?_startTag {name : String} {attributes : Attributes}
    (h : IsReadable name attributes) :
    readTag? (startTag name attributes) =
      some (name.toList, (sortAttributes attributes).map fun a => (a.1.toList, a.2.written)) := by
  have hspan : (name.toList ++ (sortAttributes attributes).flatMap writeAttribute).span
      (fun c => !isBlank c) = (name.toList, (sortAttributes attributes).flatMap writeAttribute) := by
    refine span_eq_iff.mpr ⟨rfl, fun c hc => by simp [h.name c hc], ?_⟩
    rcases sortAttributes attributes with _ | ⟨a, rest⟩
    · simp
    · simp [writeAttribute, show isBlank ' ' = true by decide]
  have hkeys := readAllKeyed?_flatMap (sortAttributes attributes) fun a ha =>
    h.keys a (List.mem_mergeSort.mp ha)
  rw [startTag, List.cons_append, readTag?, hspan]
  dsimp only
  rw [hkeys, Option.map_some]

theorem not_mem_quoteAttribute {s : Text} (h : '>' ∉ s) : '>' ∉ quoteAttribute s := by
  have hreplaced : '>' ∉ replaceChar '"' "&quot;".toList s := by
    rw [replaceChar, List.mem_flatMap]
    rintro ⟨c, hc, hmem⟩
    split_ifs at hmem
    · exact absurd hmem (by decide)
    · exact h (List.mem_singleton.mp hmem ▸ hc)
  rw [quoteAttribute]
  split_ifs
  · simpa using hreplaced
  · simpa using h
  · simpa using h

/-- **A start tag does not end inside a value.** -/
theorem not_mem_startTag {name : String} {attributes : Attributes} (hname : '>' ∉ name.toList)
    (hkeys : ∀ a ∈ attributes, '>' ∉ a.1.toList) : '>' ∉ startTag name attributes := by
  rw [startTag, List.cons_append, List.mem_cons, List.mem_append, List.mem_flatMap]
  rintro (h | h | ⟨a, ha, h⟩)
  · exact absurd h (by decide)
  · exact hname h
  · rw [writeAttribute, List.cons_append, List.mem_cons, List.mem_append, List.mem_cons] at h
    rcases h with h | h | h | h
    · exact absurd h (by decide)
    · exact hkeys a (List.mem_mergeSort.mp ha) h
    · exact absurd h (by decide)
    · refine not_mem_quoteAttribute (fun hmem => ?_) h
      obtain ⟨c, -, hc⟩ := List.mem_flatMap.mp hmem
      rcases of_mem_escapedChar hc with hc | ⟨heq, hne⟩
      · exact absurd hc (by decide)
      · exact hne heq.symm

theorem pairwise_sortAttributes (attributes : Attributes) :
    (sortAttributes attributes).Pairwise fun a b => a.1 ≤ b.1 := by
  have hsorted : (attributes.mergeSort fun a b => a.1 ≤ b.1).Pairwise
      fun a b => decide (a.1 ≤ b.1) = true :=
    List.pairwise_mergeSort (fun a b c => by simpa using le_trans)
      (fun a b => by simpa using le_total a.1 b.1) attributes
  exact hsorted.imp fun h => of_decide_eq_true h

/-! ## The content -/

/-- **The tags of an element stand around the content.** The start tag ends at the first `>`, and it
can be read back, its attributes in the order of their keys; an element that cannot hold content has
one tag and no content. Where an encoding is named, the one in use is written. -/
theorem Place.outer_element {name : String} {attributes : Attributes} (hname : '>' ∉ name.toList)
    (hkeys : ∀ a ∈ attributes, '>' ∉ a.1.toList) (content : Text) (children before after : List Node)
    (outside : Surroundings) :
    let tag := startTag name attributes
    let sorted := sortAttributes attributes
    (node (.element name attributes children) before after outside).outer content =
        (if isVoidTag (lowerName name) then tag ++ "/>".toList
        else tag ++ ">".toList ++ content ++ ("</".toList ++ name.toList ++ ">".toList)) ∧
      '>' ∉ tag ∧
      (IsReadable name attributes →
        readTag? tag = some (name.toList, sorted.map fun a => (a.1.toList, a.2.written))) ∧
      (∀ a ∈ attributes, (∀ s written, a.2 ≠ .encoding s written) → a.2.written = a.2.joined) ∧
      sorted.Perm attributes ∧ sorted.Pairwise fun a b => a.1 ≤ b.1 := by
  intro tag sorted
  have htag : '>' ∉ tag := not_mem_startTag hname hkeys
  refine ⟨?_, htag, readTag?_startTag, fun a _ hencoding => ?_, List.mergeSort_perm _ _,
    pairwise_sortAttributes attributes⟩
  · change outerTags name attributes content = _
    rw [outerTags, shell]
    split_ifs with hvoid
    · rfl
    · have hsplit : tag ++ '>' :: '<' :: '/' :: name.toList ++ ['>'] =
          tag ++ (['>', '<'] ++ ('/' :: name.toList ++ ['>'])) := by
        simp
      rw [hsplit, replaceFirst_append htag]
      simp
  · rcases hvalue : a.2 with s | ws | ⟨s, written⟩
    · rfl
    · rfl
    · exact absurd hvalue (hencoding s written)

/-- An element with a name that no table has, both quotes in one value and words in another. -/
def quotedNote : Attributes :=
  [("title", .text "'\"&<>".toList), ("class", .words ["x".toList, "y".toList])]

theorem Place.outer_element_quotedNote :
    ('>' ∉ "note".toList ∧ (∀ a ∈ quotedNote, '>' ∉ a.1.toList) ∧ IsReadable "note" quotedNote) ∧
      (node (.element "note" quotedNote []) [] [] .document).outer "><".toList =
        "<note class=\"x y\" title=\"'&quot;&amp;&lt;&gt;\">><</note>".toList ∧
      readTag? (startTag "note" quotedNote) =
        some ("note".toList, [("class".toList, "x y".toList),
          ("title".toList, "'\"&<>".toList)]) := by
  have hname : '>' ∉ "note".toList := by decide
  have hkeys : ∀ a ∈ quotedNote, '>' ∉ a.1.toList := by decide
  have hreadable : IsReadable "note" quotedNote :=
    ⟨by simp [isBlank], by simp [quotedNote, isKeyChar, isBlank]⟩
  have hsorted : sortAttributes quotedNote = quotedNote.reverse := by
    simp [sortAttributes, quotedNote, List.mergeSort, List.MergeSort.Internal.splitInTwo]
  obtain ⟨houter, -, hread, -⟩ := outer_element hname hkeys "><".toList [] [] [] .document
  refine ⟨⟨hname, hkeys, hreadable⟩, houter.trans ?_, (hread hreadable).trans ?_⟩
  · rw [startTag, hsorted]
    decide +kernel
  · rw [hsorted]
    decide +kernel

end HtmlMarkdown
