import HtmlMarkdown.Source.Disk
import HtmlMarkdown.Source.FileName

/-!
# Reading sources and saving results

* `Request`, `Reply`: what is asked of the web, and what comes of it;
* `Desk`: disk, web, requests and what has been printed;
* `Errand`: a computation at a desk; what it did before it fails stays done;
* `fetchPage`, `loadFile`, `readSource`: the markup of a source;
* `saveMarkdown`: a result as a file.
-/

namespace HtmlMarkdown

/-- What is asked of the web: a page, for so long, as a browser would, redirections followed. -/
structure Request where
  url : Text
  timeout : Value
  followsRedirects : Bool
  userAgent : Text

/-- The name under which pages are asked for. -/
def browserAgent : Text :=
  "Mozilla/5.0 (Windows NT 10.0; Win64; x64) ".toList ++
    "AppleWebKit/537.36 (KHTML, like Gecko) Chrome/120.0.0.0 Safari/537.36".toList

/-- How long a page is waited for, unless told otherwise: thirty seconds. -/
def defaultTimeout : Value := .int 30

/-- What comes of a request. -/
inductive Reply
  /-- The text of a page. -/
  | page (text : Text)
  /-- The request fails in one of the ways that requests are known to fail in: no way to the host, no
  answer in time, a status that says so. -/
  | refused (reason : Text)
  /-- The request breaks off in any other way, such as over a time that is no time to wait, a host
  that has no name, or a page that is no text. -/
  | broken (message : Text)

/-- What comes of each request. -/
abbrev Web := Request → Reply

/-- A disk, the web, an output that may have texts which it cannot write, and the record of what was
asked and printed. -/
structure Desk where
  disk : Disk := {}
  web : Web := fun _ => .refused []
  /-- Why the output cannot write a text, if it cannot. -/
  obstacle? : Text → Option Text := fun _ => none
  requests : Array Request := #[]
  output : Text := []
  log : Text := []

/-- A computation at a desk. -/
abbrev Errand := EStateM Error Desk

/-- Text on the output; nothing of one that it cannot write. -/
def printText (text : Text) : Errand Unit := do
  match (← get).obstacle? text with
  | some reason => throw (.unwritable reason)
  | none => modify fun d => { d with output := d.output ++ text }

/-- A line on the output. -/
def printLine (line : Text) : Errand Unit := printText (line ++ ['\n'])

/-- A line on the log, which can write every text. -/
def logLine (line : Text) : Errand Unit :=
  modify fun d => { d with log := d.log ++ line ++ ['\n'] }

/-- The value of a computation away from the desk. -/
def Errand.ofExcept {α : Type} : Except Error α → Errand α
  | .ok a => pure a
  | .error e => throw e

/-- How a page is asked for. -/
def pageRequest (url : Text) (timeout : Value) : Request :=
  { url, timeout, followsRedirects := true, userAgent := browserAgent }

/-- The markup of a page. -/
def fetchPage (url : Text) (timeout : Value) : Errand Text := do
  let desk ← get
  let request := pageRequest url timeout
  set { desk with requests := desk.requests.push request }
  match desk.web request with
  | .page text => pure text
  | .refused reason => throw (.unfetchable url reason)
  | .broken message => throw (.fetchBroken message)

/-- The markup in a file, bytes that write no text replaced. -/
def loadFile (path : Text) : Errand Text := do
  if path.elem (Char.ofNat 0) then throw .nullInPath
  match (← get).disk.readBytes path with
  | .ok bytes => pure (unifyBreaks (Utf8.decode bytes))
  | .error problem => throw (.unreadable path problem)

/-- The markup of a source: a page if it is an address of one, else a file. -/
def readSource (source : Text) (timeout : Value) : Errand Text := do
  let source := Text.trim isBlank source
  if ← Errand.ofExcept (isPageAddress source) then fetchPage source timeout
  else if (← get).disk.isFile source then loadFile source
  else throw (.unknownSource source)

/-- A name in a directory. -/
def joinPath (directory name : Text) : Text :=
  if directory.isEmpty || Text.endsWith '/' directory then directory ++ name
  else directory ++ '/' :: name

/-- Save Markdown under the name of its source in a directory, which is made if need be. The path of
the file is the result. -/
def saveMarkdown (text source directory : Text) : Errand Text := do
  if directory.elem (Char.ofNat 0) then throw .nullInPath
  match (← get).disk.makeDirectories directory with
  | .error (problem, path) => throw (.unsaved path problem)
  | .ok disk => modify fun d => { d with disk }
  let path := joinPath directory (← Errand.ofExcept (markdownFileName source))
  match (← get).disk.writeFile path (Utf8.encode (text ++ ['\n'])) with
  | .error problem => throw (.unsaved path problem)
  | .ok disk => modify fun d => { d with disk }
  return path

end HtmlMarkdown
