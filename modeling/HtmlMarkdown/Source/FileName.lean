import HtmlMarkdown.Source.Address
import HtmlMarkdown.Text.Alphanumeric

/-!
# Names for saved Markdown

* `baseName`, `stem`: the last part of a path, and the same without its extension;
* `markdownFileName`: the name under which the Markdown of a source is saved.
-/

namespace HtmlMarkdown

/-- What follows the last slash of a path. -/
def baseName (path : Text) : Text := (path.reverse.takeWhile (· != '/')).reverse

/-- A base name without its extension: without what follows from the last period on, if anything but
periods comes before it. -/
def stem (name : Text) : Text :=
  match name.reverse.dropWhile (· != '.') with
  | _ :: before => if before.all (· == '.') then name else before.reverse
  | [] => name

/-- A text in which an underscore stands for every character but letters, numbers and those of
`safe`. -/
def safeName (safe : Text) (name : Text) : Text :=
  name.map fun c => if isAlphanumeric c || safe.elem c then c else '_'

/-- The name of a page: its host and its path. -/
def pageName (a : Address) : Text :=
  let path := (Text.trim (· == '/') a.path).map fun c => if c = '/' then '_' else c
  (a.host.map fun c => if c = '.' then '_' else c) ++
    '_' :: (if path.isEmpty then "index".toList else path)

/-- The name under which the Markdown of a source is saved. -/
def markdownFileName (source : Text) : Except Error Text := do
  let source := Text.trim isBlank source
  let address ← Address.read source
  let name :=
    if address.isPage then safeName ['-', '_'] (pageName address)
    else safeName ['-', '_', ' '] (stem (baseName source))
  return name ++ ".md".toList

end HtmlMarkdown
