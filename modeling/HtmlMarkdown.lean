import HtmlMarkdown.Main
import HtmlMarkdown.Node.Kind
import HtmlMarkdown.Proofs.Below
import HtmlMarkdown.Proofs.LevelOrder
import HtmlMarkdown.Proofs.Meaning
import HtmlMarkdown.Proofs.Steps
import HtmlMarkdown.Proofs.Fold
import HtmlMarkdown.Proofs.BuiltIn
import HtmlMarkdown.Proofs.Ink
import HtmlMarkdown.Proofs.Passes
import HtmlMarkdown.Proofs.Conversion
import HtmlMarkdown.Proofs.Total
import HtmlMarkdown.Proofs.Reading
import HtmlMarkdown.Proofs.Kept
import HtmlMarkdown.Proofs.Line
import HtmlMarkdown.Proofs.Apart
import HtmlMarkdown.Proofs.Hug
import HtmlMarkdown.Proofs.Tight
import HtmlMarkdown.Proofs.Inline
import HtmlMarkdown.Proofs.Selection
import HtmlMarkdown.Proofs.Block
import HtmlMarkdown.Proofs.Paragraph
import HtmlMarkdown.Proofs.Failure
import HtmlMarkdown.Proofs.Segment
import HtmlMarkdown.Proofs.Comment
import HtmlMarkdown.Proofs.Layout
import HtmlMarkdown.Proofs.Tidy
import HtmlMarkdown.Proofs.Shape
import HtmlMarkdown.Proofs.Words
import HtmlMarkdown.Proofs.Phrase
import HtmlMarkdown.Proofs.Padding
import HtmlMarkdown.Proofs.Stacked
import HtmlMarkdown.Proofs.Outline
import HtmlMarkdown.Proofs.Solid
import HtmlMarkdown.Proofs.Quotation
import HtmlMarkdown.Proofs.Article
import HtmlMarkdown.Proofs.Table
import HtmlMarkdown.Proofs.CodeBlock
import HtmlMarkdown.Proofs.FencedCode
import HtmlMarkdown.Proofs.IndentedCode
import HtmlMarkdown.Proofs.Strict
import HtmlMarkdown.Proofs.Idle
import HtmlMarkdown.Proofs.Parsed
import HtmlMarkdown.Proofs.Source
import HtmlMarkdown.Proofs.CommandLine
import HtmlMarkdown.Proofs.Woven
import HtmlMarkdown.Proofs.Phrasing
import HtmlMarkdown.Proofs.LineBreak
import HtmlMarkdown.Proofs.Runs
import HtmlMarkdown.Proofs.Unfailing
import HtmlMarkdown.Proofs.CodeText
import HtmlMarkdown.Proofs.Disk
import HtmlMarkdown.Proofs.Confined
import HtmlMarkdown.Proofs.Saved
import HtmlMarkdown.Proofs.Seam
import HtmlMarkdown.Proofs.Log
import HtmlMarkdown.Proofs.Settled
import HtmlMarkdown.Proofs.Cleared
import HtmlMarkdown.Proofs.Blanks
import HtmlMarkdown.Proofs.Collapsed
import HtmlMarkdown.Proofs.OuterTags
import HtmlMarkdown.Proofs.ListMarker
import HtmlMarkdown.Proofs.LineHead
import HtmlMarkdown.Proofs.Skim
import HtmlMarkdown.Proofs.Guard
import HtmlMarkdown.Proofs.Verbatim
import HtmlMarkdown.Proofs.Marker
import HtmlMarkdown.Proofs.Composition
import HtmlMarkdown.Proofs.Depth
import HtmlMarkdown.Proofs.OpeningCode
import HtmlMarkdown.Proofs.AddressMargin
import HtmlMarkdown.Proofs.Announcement
