import Mathlib
import HtmlMarkdown.Proofs.Block
import HtmlMarkdown.Proofs.Kept
import HtmlMarkdown.Proofs.Phrase
import HtmlMarkdown.Proofs.Quotation

/-!
# Code blocks

A `pre` that holds a `code` with one text, within quotations or alone.

* `resettle_nil`, `collapseNodes_of_metTexts_eq_nil`: nodes without texts outside preformatted text;
* `Node.IsSettled`, `foldedRoot_of_isSettled`: nodes that both passes over white space leave as they
  are;
* `CodeBlock`, `CodeBlock.node`, `isSettled_node`: a code block and the element that it is;
* `isCodeBlock_place`, `codeText_place`, `isInlineCode_codePlace`: what the rules see of it;
* `markdownOfNodes_code`: its code has ink for the rules if it has any;
* **`markdownOfNode_gfm`**, **`markdownOfNode_plain`**: what the rules make of it.
-/

namespace HtmlMarkdown

/-! ## Settled nodes -/

/-- There is no text in a node outside preformatted text, and nothing that is removed. -/
structure Node.IsSettled (n : Node) : Prop where
  no_texts : metTextsOf isPreTag n = []
  kept : ∀ outside before after, Place.rebuildNode outside before after n = [n]
  no_body : n.Everywhere (Node.IsOtherThan "body")

mutual

theorem resettleNode_nil (pre : String → Bool) : ∀ n : Node, resettleNode pre n [] = ([n], [])
  | .element name attributes children => by
    rw [resettleNode]
    split
    · rfl
    · simp only [resettle_nil pre children]
  | .string kind value => by
    rw [resettleNode.eq_def]
    simp only [ite_self]

/-- Nodes are left as they are where there are no texts to put into them. -/
theorem resettle_nil (pre : String → Bool) : ∀ ns : List Node, resettle pre ns [] = (ns, [])
  | [] => rfl
  | n :: rest => by
    rw [resettle, resettleNode_nil pre n]
    simp only [resettle_nil pre rest, List.singleton_append]

end

theorem collapseNodes_of_metTexts_eq_nil (block : String → Bool) {pre : String → Bool}
    {ns : List Node} (h : metTexts pre ns = []) : collapseNodes block pre ns = ns := by
  have hsettled : settledTexts block pre ns = [] := by
    have hlighter := lighter_settledTexts block pre ns
    rw [h] at hlighter
    exact List.forall₂_nil_right_iff.mp hlighter
  rw [collapseNodes, hsettled, resettle_nil]

/-- **Both passes over white space leave a settled node as it is.** -/
theorem foldedRoot_of_isSettled {n : Node} (h : n.IsSettled) : foldedRoot [n] = .document [n] := by
  have htexts : metTexts isPreTag [n] = [] := by
    rw [metTexts, h.no_texts, metTexts, List.append_nil]
  have hrebuilt : Place.rebuildNodes .document [] [n] = [n] := by
    rw [Place.rebuildNodes, h.kept, Place.rebuildNodes, List.append_nil]
  have hroot : Place.root [n] = .document [n] := Place.root_of_none ⟨h.no_body, trivial⟩
  rw [foldedRoot_eq, hroot, Place.nodes, collapseNodes_of_metTexts_eq_nil _ htexts, Place.inside,
    hrebuilt]
  rfl

/-- A settled node is settled also in an element. -/
theorem Node.IsSettled.element {n : Node} (h : n.IsSettled) {name : String}
    (hname : name ≠ "body") (attributes : Attributes) :
    (Node.element name attributes [n]).IsSettled := by
  refine ⟨?_, fun outside before after => ?_, hname, h.no_body, trivial⟩
  · rw [metTextsOf, metTexts, h.no_texts, metTexts, List.append_nil, ite_self]
  · rw [Place.rebuildNode, Place.rebuildNodes, h.kept, Place.rebuildNodes, List.append_nil]

/-! ## Code blocks -/

/-- The code of a block, and the attributes of the elements around it. -/
structure CodeBlock where
  attributes : Attributes
  codeAttributes : Attributes
  code : Text

namespace CodeBlock

variable (b : CodeBlock)

/-- The `code` of a code block. -/
def codeNode : Node := .element "code" b.codeAttributes [.string .plain b.code]

/-- The element that a code block is. -/
def node : Node := .element "pre" b.attributes [b.codeNode]

theorem isSettled_node : b.node.IsSettled := by
  have hpre : isPreTag (lowerName "pre") = true := by decide
  have hpreformatted : isPreformattedTag (lowerName "code") = true := by decide
  have hbody : "pre" ≠ "body" ∧ "code" ≠ "body" := by decide
  refine ⟨?_, fun outside before after => ?_, hbody.1, ⟨hbody.2, trivial, trivial⟩, trivial⟩
  · rw [node, metTextsOf, if_pos hpre]
  · simp [node, codeNode, Place.rebuildNode, Place.rebuildNodes, Place.fate, Surroundings.anyTag,
      hpreformatted, StringKind.isText]

section Places

variable (outside : Surroundings) (before after : List Node)

/-- What the `code` of a code block lies in. -/
def around : Surroundings := .element "pre" b.attributes before after outside

/-- The place of the `code` of a code block. -/
def codePlace : Place := .node b.codeNode [] [] (b.around outside before after)

/-- The place of a code block. -/
def place : Place := .node b.node before after outside

theorem tagName_codePlace : (b.codePlace outside before after).tagName = "code" :=
  (by decide : lowerName "code" = "code")

theorem openingCode?_place :
    (b.place outside before after).openingCode? = some (b.codePlace outside before after) := rfl

theorem isCodeBlock_place : (b.place outside before after).isCodeBlock = true := by
  rw [Place.isCodeBlock, openingCode?_place]
  rfl

theorem codeText_place : (b.place outside before after).codeText = b.code := by
  rw [Place.codeText, openingCode?_place]
  exact List.append_nil b.code

theorem isInlineCode_codePlace : (b.codePlace outside before after).isInlineCode = false := by
  have hopening : (b.codePlace outside before after).isOpeningCode = true := rfl
  have hparent : (b.codePlace outside before after).parentName = "pre" :=
    (by decide : lowerName "pre" = "pre")
  rw [Place.isInlineCode, hopening, hparent]
  simp

/-! ## What the rules make of a code block -/

theorem not_holds_codePlace :
    ∀ r ∈ markdownRules.take 9, r.filter.holds (b.codePlace outside before after) = .ok false := by
  have htag := b.tagName_codePlace outside before after
  have hsplit : markdownRules.take 9 = markdownRules.take 6 ++ (Markdown.rule "inline code"
      (.ofTest "is_inline_code" Place.isInlineCode) Markdown.inlineCode ::
        (markdownRules.drop 7).take 2) := rfl
  rw [hsplit, List.forall_mem_append, List.forall_mem_cons]
  refine ⟨?_, ?_, ?_⟩
  · exact not_holds_of_isFor (List.forall₂_take 6 isFor_markdownRules) (by rw [htag]; decide)
  · exact congrArg Except.ok (b.isInlineCode_codePlace outside before after)
  · exact not_holds_of_isFor (List.forall₂_take 2 (List.forall₂_drop 7 isFor_markdownRules))
      (by rw [htag]; decide)

/-- The `code` of a code block meets the rule that leaves it to the block. -/
theorem findRule_codePlace (gfm : Bool) :
    findRule (b.codePlace outside before after) (builtInRules gfm) =
      .ok (some (Markdown.rule "code block body"
        (.ofTest "is_code_block_body" Place.isCodeBlockBody) Markdown.codeBlockBody)) := by
  have htag := b.tagName_codePlace outside before after
  rw [findRule_builtInRules (htag ▸ by decide)]
  refine findRule_of_getElem? (i := 9) rfl (b.not_holds_codePlace outside before after) ?_ rfl
  rw [Markdown.rule, Filter.holds_ofTest, Place.isCodeBlockBody, htag,
    b.isInlineCode_codePlace outside before after]
  rfl

/-- The `code` of a code block has Markdown, and this has ink if the code has. -/
theorem markdownOfNodes_code (gfm : Bool) (policy : Policy) : ∃ content : Text,
    (Context.builtIn gfm policy).markdownOfNodes (b.around outside before after) [] [b.codeNode] =
      .ok content ∧ content.isBlank = b.code.isBlank := by
  have htag := b.tagName_codePlace outside before after
  have helided := Place.isElided_eq_isBlank b.code htag (by decide)
  have hcode : (Context.builtIn gfm policy).markdownOfNode (b.around outside before after) [] []
      b.codeNode =
        (Context.builtIn gfm policy).convertElement (b.codePlace outside before after) b.code :=
    Context.markdownOfNode_element _ (Context.markdownOfNodes_plain _ _ [] b.code)
  rw [Context.markdownOfNodes, hcode]
  rcases hblank : b.code.isBlank with _ | _
  · rw [Context.convertElement_of_rule (helided.trans hblank)
      (b.findRule_codePlace outside before after gfm), Rule.textFor_rule]
    refine ⟨_, rfl, ?_⟩
    -- spaces may be moved outside the code, but its ink stays
    have hink : Text.isBlank ((b.codePlace outside before after).flank b.code).content = false := by
      rw [← Bool.not_eq_true, ← Text.ink_eq_nil_iff, ink_flank, Text.ink_eq_nil_iff, hblank]
      exact Bool.false_ne_true
    rw [isBlank_append, isBlank_append, isBlank_append, Markdown.codeBlockBody, hink, Bool.and_false,
      Bool.false_and, Bool.false_and]
  · rw [Context.convertElement_of_isElided (helided.trans hblank)]
    exact ⟨[], rfl, rfl⟩

/-- **What the rules make of a code block**: its code, unless it is blank. -/
theorem markdownOfNode_node (gfm : Bool) (policy : Policy) :
    (Context.builtIn gfm policy).markdownOfNode outside before after b.node =
      .ok (if b.code.isBlank then [] else (b.place outside before after).codeMarkdown gfm) := by
  obtain ⟨content, hcontent, hblank⟩ := b.markdownOfNodes_code outside before after gfm policy
  have hplace := convertElement_codeBlock gfm policy content (b.isCodeBlock_place outside before after)
  rw [hblank] at hplace
  rw [node, Context.markdownOfNode_element _ hcontent]
  exact hplace

/-- **A code block becomes fenced code** with the GitHub-flavoured rules, unless it is blank. -/
theorem markdownOfNode_gfm (policy : Policy) :
    (Context.builtIn true policy).markdownOfNode outside before after b.node =
      .ok (if b.code.isBlank then [] else Gfm.fenced [] b.code) := by
  rw [markdownOfNode_node, Place.codeMarkdown, if_pos rfl, codeText_place]

/-- **A code block is indented** by four spaces with the rules of plain Markdown, unless it is
blank. -/
theorem markdownOfNode_plain (policy : Policy) :
    (Context.builtIn false policy).markdownOfNode outside before after b.node =
      .ok (if b.code.isBlank then [] else asBlock (prefixLines "    ".toList b.code)) := by
  rw [markdownOfNode_node, Place.codeMarkdown, if_neg Bool.false_ne_true, codeText_place]

end Places

end CodeBlock

end HtmlMarkdown
