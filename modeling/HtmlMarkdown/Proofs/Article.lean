import Mathlib
import HtmlMarkdown.Proofs.Conversion
import HtmlMarkdown.Proofs.Padding
import HtmlMarkdown.Proofs.Quotation

/-!
# Articles

Paragraphs, headings, horizontal rules and quotations of all these become Markdown block by block,
with one blank line between two blocks.

* `Article`, `Article.Block`: blocks one after another, with quotations to any depth;
* `Block.node`, `Article.nodes`: the elements that they are;
* `Block.markdown`, `Article.markdown`: what they are to become;
* `Block.isSolid`, `isSolid_of_mem`: no blank line in it is there to close;
* `Block.isLaidOut`, `isLaidOut`: no white space in it is there to collapse;
* `markdownOfNode_block`, `markdownOfNodes_article`: what the rules make of blocks, at any depth;
* **`Article.convert_article`**: an article is converted block by block.
-/

namespace HtmlMarkdown

/-! ## Articles -/

mutual

/-- A block of an article. The level of a heading counts from the highest one. -/
inductive Article.Block
  | paragraph (attributes : Attributes) (phrase : Phrase)
  | heading (level : Fin 6) (attributes : Attributes) (phrase : Phrase)
  | horizontalRule (attributes : Attributes)
  | quotation (attributes : Attributes) (article : Article)

/-- Blocks one after another, at least one. -/
inductive Article
  | last (block : Article.Block)
  | cons (block : Article.Block) (rest : Article)

end

namespace Article

/-- The tag of a heading. -/
def headingTag (level : Fin 6) : String := Markdown.headingTags.get level

theorem lowerName_headingTag : ∀ level : Fin 6, lowerName (headingTag level) = headingTag level := by
  decide

theorem headingLevel_headingTag (level : Fin 6) :
    Markdown.headingLevel (headingTag level) = .ok (level + 1) := by
  fin_cases level <;> rfl

mutual

/-- The element that a block is. -/
def Block.node : Block → Node
  | .paragraph attributes phrase => .element "p" attributes [.string .plain phrase.text]
  | .heading level attributes phrase =>
    .element (headingTag level) attributes [.string .plain phrase.text]
  | .horizontalRule attributes => .element "hr" attributes []
  | .quotation attributes article => .element "blockquote" attributes article.nodes

/-- The elements that the blocks of an article are. -/
def nodes : Article → List Node
  | .last block => [block.node]
  | .cons block rest => block.node :: rest.nodes

end

mutual

/-- The Markdown of a block: a phrase for a paragraph, after as many number signs as its level has for
a heading, three stars for a horizontal rule, and the lines of the blocks in it for a quotation, each
after a mark. -/
def Block.markdown : Block → Text
  | .paragraph _ phrase => phrase.text
  | .heading level _ phrase => List.replicate (level + 1) '#' ++ ' ' :: phrase.text
  | .horizontalRule _ => "* * *".toList
  | .quotation _ article => (Text.join ['\n', '\n'] article.markdowns).quotation

/-- The Markdown of the blocks of an article. -/
def markdowns : Article → List Text
  | .last block => [block.markdown]
  | .cons block rest => block.markdown :: rest.markdowns

end

/-- The Markdown of an article: that of its blocks, with one blank line between two of them. -/
def markdown (a : Article) : Text := Text.join ['\n', '\n'] a.markdowns

/-! ## Blank lines -/

theorem markdowns_ne_nil (a : Article) : a.markdowns ≠ [] := by
  cases a <;> simp [markdowns]

theorem isSolid_phrase (phrase : Phrase) : phrase.text.IsSolid :=
  .of_not_mem phrase.isPhrase.ne_nil phrase.isPhrase.not_mem_break phrase.isPhrase.ink

/-- A text after number signs and a space is solid if it is. -/
theorem isSolid_heading (level : ℕ) (phrase : Phrase) :
    Text.IsSolid (List.replicate (level + 1) '#' ++ ' ' :: phrase.text) := by
  have hphrase := phrase.isPhrase
  refine .of_not_mem (by simp [List.replicate_succ]) (fun hbreak => ?_) fun side => ?_
  · rcases List.mem_append.mp hbreak with hbreak | hbreak
    · exact absurd (List.eq_of_mem_replicate hbreak) (by decide)
    · exact hphrase.not_mem_break ((List.mem_cons.mp hbreak).resolve_left (by decide))
  · cases side with
    | left =>
      rw [List.replicate_succ, List.cons_append]
      rintro c ⟨⟩
      decide
    | right =>
      rw [List.append_cons]
      exact Side.inkText_right_append (hphrase.ink .right) hphrase.ne_nil _

theorem isSolid_threeStars : Text.IsSolid "* * *".toList := by
  refine .of_not_mem (by decide) (by decide) fun side => ?_
  cases side <;> (rintro c ⟨⟩; decide)

mutual

/-- **The Markdown of a block has no blank lines to close**, and ink at both ends. -/
theorem Block.isSolid : ∀ b : Block, b.markdown.IsSolid
  | .paragraph _ phrase => isSolid_phrase phrase
  | .heading level _ phrase => isSolid_heading level phrase
  | .horizontalRule _ => isSolid_threeStars
  | .quotation _ article => by
    have hjoin := isSolid_join (isSolid_of_mem article) article.markdowns_ne_nil
    exact isSolid_quotation hjoin.ne_nil (hjoin.ink .right)

theorem isSolid_of_mem : ∀ a : Article, ∀ t ∈ a.markdowns, t.IsSolid
  | .last block => by
    rw [markdowns, List.forall_mem_singleton]
    exact block.isSolid
  | .cons block rest => by
    rw [markdowns, List.forall_mem_cons]
    exact ⟨block.isSolid, isSolid_of_mem rest⟩

end

/-! ## White space -/

theorem Block.isText_node (b : Block) : b.node.isText = false := by
  cases b <;> rfl

theorem isText_of_mem : ∀ a : Article, ∀ n ∈ a.nodes, n.isText = false
  | .last block => by
    rw [nodes, List.forall_mem_singleton]
    exact block.isText_node
  | .cons block rest => by
    rw [nodes, List.forall_mem_cons]
    exact ⟨block.isText_node, isText_of_mem rest⟩

theorem isLaidOut_phrase {name : String} (attributes : Attributes) (phrase : Phrase)
    (h : isBlockTag (lowerName name) = true ∧ isPreformattedTag (lowerName name) = false ∧
      name ≠ "body") :
    (Node.element name attributes [.string .plain phrase.text]).Everywhere Node.IsLaidOut :=
  ⟨⟨h.1, h.2.1, h.2.2, List.isChain_singleton _⟩, ⟨rfl, phrase.isPhrase⟩, trivial⟩

mutual

theorem Block.isLaidOut : ∀ b : Block, b.node.Everywhere Node.IsLaidOut
  | .paragraph attributes phrase => isLaidOut_phrase attributes phrase (by decide)
  | .heading level attributes phrase => by
    have htag : ∀ level : Fin 6, isBlockTag (headingTag level) = true ∧
        isPreformattedTag (headingTag level) = false ∧ headingTag level ≠ "body" := by decide
    refine isLaidOut_phrase attributes phrase ?_
    rw [lowerName_headingTag]
    exact htag level
  | .horizontalRule _ => ⟨⟨by decide, by decide, by decide, List.isChain_nil⟩, trivial⟩
  | .quotation _ article =>
    ⟨⟨by decide, by decide, by decide, Node.isChain_of_not_isText (isText_of_mem article)⟩,
      isLaidOut article⟩

/-- **An article has phrases between block elements** and nothing else. -/
theorem isLaidOut : ∀ a : Article, Everywhere Node.IsLaidOut a.nodes
  | .last block => ⟨block.isLaidOut, trivial⟩
  | .cons block rest => ⟨block.isLaidOut, isLaidOut rest⟩

end

theorem foldedRoot_nodes (a : Article) : foldedRoot a.nodes = .document a.nodes :=
  foldedRoot_of_isLaidOut a.isLaidOut (Node.isChain_of_not_isText a.isText_of_mem)

/-! ## The recursion -/

section Recursion

variable (gfm : Bool) (policy : Policy)

theorem markdownOfNode_heading (level : Fin 6) (attributes : Attributes) (phrase : Phrase)
    (outside : Surroundings) (before after : List Node) :
    (Context.builtIn gfm policy).markdownOfNode outside before after
        (.element (headingTag level) attributes [.string .plain phrase.text]) =
      .ok (asBlock (List.replicate (level + 1) '#' ++ ' ' :: phrase.text)) := by
  rw [Context.markdownOfNode_element _ (Context.markdownOfNodes_plain _ _ [] phrase.text)]
  generalize hplace : Place.node (.element (headingTag level) attributes _) before after outside = p
  have htag : p.tagName = headingTag level := by
    rw [← hplace]
    exact lowerName_headingTag level
  have hmem : p.tagName ∈ Markdown.headingTags := by
    rw [htag]
    exact List.get_mem _ _
  have hlevel : Markdown.headingLevel p.tagName = .ok (level + 1) := by
    rw [htag]
    exact headingLevel_headingTag level
  rw [convertElement_heading gfm policy phrase.text hmem hlevel, phrase.isPhrase.not_isBlank,
    if_neg Bool.false_ne_true]

mutual

/-- **What the rules make of a block**: its Markdown, with blank lines around it. -/
theorem markdownOfNode_block : ∀ (b : Block) (outside : Surroundings) (before after : List Node),
    (Context.builtIn gfm policy).markdownOfNode outside before after b.node =
      .ok (asBlock b.markdown)
  | .paragraph attributes phrase, outside, before, after => by
    have htag : (Place.node (.element "p" attributes [.string .plain phrase.text])
        before after outside).tagName = "p" := (by decide : lowerName "p" = "p")
    rw [Block.node, Block.markdown,
      Context.markdownOfNode_element _ (Context.markdownOfNodes_plain _ _ [] phrase.text),
      convertElement_paragraph gfm policy _ htag, phrase.isPhrase.not_isBlank,
      if_neg Bool.false_ne_true]
  | .heading level attributes phrase, outside, before, after =>
    markdownOfNode_heading gfm policy level attributes phrase outside before after
  | .horizontalRule attributes, outside, before, after => by
    have htag : (Place.node (.element "hr" attributes []) before after outside).tagName = "hr" :=
      (by decide : lowerName "hr" = "hr")
    rw [Block.node, Block.markdown, Context.markdownOfNode_element _ rfl,
      convertElement_horizontalRule gfm policy _ htag]
  | .quotation attributes article, outside, before, after => by
    have hsolid := article.isSolid_of_mem
    have hne := article.markdowns_ne_nil
    rw [Block.node, Block.markdown, markdownOfNode_quotation gfm policy
      (markdownOfNodes_article article _ []) (isBlank_flatMap_asBlock hsolid hne),
      limitBreaks_trim_flatMap_asBlock hsolid hne]

/-- **What the rules make of an article**: the Markdown of its blocks, each with blank lines around
it. -/
theorem markdownOfNodes_article : ∀ (a : Article) (outside : Surroundings) (before : List Node),
    (Context.builtIn gfm policy).markdownOfNodes outside before a.nodes =
      .ok (a.markdowns.flatMap asBlock)
  | .last block, outside, before => by
    rw [nodes, Context.markdownOfNodes, markdownOfNode_block block]
    simp [Context.markdownOfNodes, markdowns, Except.map]
  | .cons block rest, outside, before => by
    rw [nodes, Context.markdownOfNodes, markdownOfNode_block block,
      markdownOfNodes_article rest, markdowns, List.flatMap_cons]
    rfl

end

end Recursion

/-! ## Conversions -/

/-- **An article is converted block by block**, with one blank line between two blocks, also within
quotations. -/
theorem convert_article (gfm : Bool) (policy : Policy) (a : Article) (s : Progress) :
    ∃ s', ((Context.builtIn gfm policy).convert a.nodes).run s = .ok a.markdown s' := by
  have hcontent : (Context.builtIn gfm policy).contentBelow (.document a.nodes) =
      .ok (a.markdowns.flatMap asBlock) :=
    markdownOfNodes_article gfm policy a .document []
  rw [← foldedRoot_nodes] at hcontent
  refine Context.exists_run_convert_iff.mpr ⟨_, hcontent, ?_⟩
  rw [markdown, normalize_flatMap_asBlock a.isSolid_of_mem a.markdowns_ne_nil]

/-- A heading, and a quotation in which a horizontal rule comes before another quotation. -/
def nestedQuotations : Article :=
  .cons (.heading 1 [] ⟨['a'], Text.isPhrase_a⟩)
    (.last (.quotation [] (.cons (.horizontalRule [])
      (.last (.quotation [] (.last (.paragraph [] ⟨['b'], Text.isPhrase_b⟩)))))))

example : nestedQuotations.markdown = "## a\n\n> * * *\n> \n> > b".toList := by decide

end Article

end HtmlMarkdown
