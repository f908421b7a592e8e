import HtmlMarkdown.Command.Arguments
import HtmlMarkdown.Command.Help
import HtmlMarkdown.Convert

/-!
# Running the command line

Sources are converted one after another. What cannot be converted is reported, and the next source
has its turn.

* `Event.logLine?`: an event as the log shows it;
* `convertSource`: the Markdown of one source; `runSource`: one source with all that is printed;
* `runArguments`, `runCommand`: a command line and the status it exits with.
-/

namespace HtmlMarkdown

/-- An event as the log shows it; calls are not shown. -/
def Event.logLine? : Event → Option Text
  | called .. => none
  | removedBlank count => some
      ("DEBUG tomarkdown.whitespace: Removed ".toList ++ Text.ofNat count ++ " blank nodes".toList)
  | converting elements rules => some
      ("DEBUG tomarkdown.core: Converting ".toList ++ Text.ofNat elements ++
        " elements with ".toList ++ Text.ofNat rules ++ " rules".toList)
  | keptContent tag => some
      ("DEBUG tomarkdown.core: No converter for <".toList ++ tag.toList ++
        ">, keeping its content".toList)

/-- The options of a conversion that arguments ask for. -/
def Arguments.options (a : Arguments) : Options :=
  { gfm := a.gfm, unmatched := if a.strict then .error else .passthrough }

/-- The log lines of events. -/
def logEvents (events : Array Event) : Errand Unit :=
  (events.toList.filterMap Event.logLine?).forM logLine

/-- The Markdown of markup, with its events on the log if that is wanted. -/
def convertMarkup (a : Arguments) (markup : Text) : Errand Text := do
  let (result, progress) := match (a.options.convert (.text markup)).run {} with
    | .ok text progress => (Except.ok text, progress)
    | .error e progress => (Except.error e, progress)
  if a.verbose then logEvents progress.events
  Errand.ofExcept result

/-- The Markdown of a source. -/
def convertSource (a : Arguments) (source : Text) : Errand Text := do
  convertMarkup a (← readSource source a.timeout)

/-- The kind of a source, as the log announces it. -/
def sourceTitle (isPage : Bool) : Text := if isPage then "URL".toList else "FILE".toList

/-- Markdown is printed, or saved if a directory is given. -/
def deliver (a : Arguments) (source text : Text) : Errand Unit := do
  match a.output with
  | some (c :: directory) =>
    let path ← saveMarkdown text source (c :: directory)
    logLine ("[SAVED] ".toList ++ path)
  | _ => printLine text

/-- One source: whether its Markdown was printed or saved. An error of its conversion is reported,
any other ends the run. -/
def runSource (a : Arguments) (source : Text) : Errand Bool := do
  let isPage ← Errand.ofExcept (isPageAddress source)
  logLine ('[' :: sourceTitle isPage ++ "] Converting: ".toList ++ source)
  let text? ← try
      let text ← convertSource a source
      pure (some text)
    catch e =>
      if e.isReported then
        logLine ("[ERROR] ".toList ++ source ++ ": ".toList ++ e.message.getD [])
        pure none
      else throw e
  match text? with
  | some text =>
    deliver a source text
    return true
  | none => return false

/-- The status a run exits with, and whether it ended the program by itself. -/
structure Exit where
  status : Nat
  isRaised : Bool := false
  deriving DecidableEq

/-- Do what arguments ask for. -/
def runArguments (a : Arguments) : Errand Exit := do
  if a.sources.isEmpty then
    printText helpText
    printLine noInputMessage
    return { status := 1 }
  else
    let results ← a.sources.mapM (runSource a)
    return { status := if results.all id then 0 else 1 }

/-- Run a command line. -/
def runCommand (argv : List Text) : Errand Exit := do
  match parseArguments argv with
  | .ok a => runArguments a
  | .error .help =>
    printText helpText
    return { status := 0, isRaised := true }
  | .error (.usage message) =>
    modify fun d => { d with
      log := d.log ++ usageText ++ programName.toList ++ ": error: ".toList ++ message ++ ['\n'] }
    return { status := 2, isRaised := true }
  | .error .noValue => throw .missingOptionValue

end HtmlMarkdown
