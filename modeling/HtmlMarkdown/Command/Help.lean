import HtmlMarkdown.Text.Basic

/-!
# What the command line says about itself

* `usageText`, `helpText`: the usage lines, and the whole help.
-/

namespace HtmlMarkdown

/-- The name of the program in its messages. -/
def programName : String := "tomarkdown"

/-- The usage lines. -/
def usageText : Text := "usage: tomarkdown [-h] [-o OUTPUT] [--gfm] [--strict] [--timeout TIMEOUT] [-v]
                  [sources ...]
".toList

/-- The help after the usage lines. -/
def helpBody : Text := "
HTML to Markdown converter

Converts HTML files and web pages into Markdown and prints it,
or saves one .md file per source.

positional arguments:
  sources               HTML files or URLs to convert

options:
  -h, --help            show this help message and exit
  -o OUTPUT, --output OUTPUT
                        Save Markdown files into this directory instead of
                        printing
  --gfm                 Enable GitHub-flavoured rules: tables, strikethrough,
                        task lists, fenced code
  --strict              Fail on elements no rule converts instead of keeping
                        their text
  --timeout TIMEOUT     Seconds to wait when fetching a URL (default: 30)
  -v, --verbose         Log conversion details to stderr

Examples:
  python -m tomarkdown page.html
  python -m tomarkdown https://example.com --gfm
  python -m tomarkdown a.html b.html -o ./markdown_out
".toList

/-- The whole help. -/
def helpText : Text := usageText ++ helpBody

/-- What is printed after the help if there is nothing to convert. -/
def noInputMessage : Text := "\nNo input file".toList

end HtmlMarkdown
