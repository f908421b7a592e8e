import Mathlib
import HtmlMarkdown.Command.Run
import HtmlMarkdown.Proofs.Parsed

/-!
# One source of a command line

What a source is converted to hangs on the disk and the web only, and as long as results are printed
both stay as they are. The web may answer a request with a page, refuse it, or break off; the output
may have texts that it cannot write.

* `Desk.Prints`: what is printed and logged from one stage of a desk to another;
* `Desk.markup`, `exists_run_readSource`: the markup of a source;
* `Arguments.textOf`, `exists_run_convertSource`: its Markdown; `Arguments.detailsFor`: what is logged
  while it is made;
* `Arguments.printedFor`, `Arguments.loggedFor`: what is printed and logged for it;
* `Error.isOfAddress`, `isOfAddress_of_read`: why an address cannot be read;
* `Desk.Refuses`, **`refuses_iff`**: the sources that have no Markdown and end the run;
* `Arguments.Ends`: those, and the sources whose Markdown the output cannot write;
* **`exists_run_runSource`**: the step of one source.
-/

namespace HtmlMarkdown

/-! ## Desks on which something is printed -/

/-- From the first stage of a desk to the second `output` is printed and `log` is logged; the disk, the
web and what the output can write are the same. -/
structure Desk.Prints (d d' : Desk) (output log : Text) : Prop where
  disk : d'.disk = d.disk
  web : d'.web = d.web
  obstacle? : d'.obstacle? = d.obstacle?
  output : d'.output = d.output ++ output
  log : d'.log = d.log ++ log

theorem Desk.Prints.refl (d : Desk) : d.Prints d [] [] :=
  ⟨rfl, rfl, rfl, (List.append_nil _).symm, (List.append_nil _).symm⟩

theorem Desk.Prints.trans {d d' d'' : Desk} {output output' log log' : Text}
    (h : d.Prints d' output log) (h' : d'.Prints d'' output' log') :
    d.Prints d'' (output ++ output') (log ++ log') :=
  ⟨h'.disk.trans h.disk, h'.web.trans h.web, h'.obstacle?.trans h.obstacle?,
    by rw [h'.output, h.output, List.append_assoc], by rw [h'.log, h.log, List.append_assoc]⟩

theorem Desk.Prints.of_request (d : Desk) (request : Request) :
    d.Prints { d with requests := d.requests.push request } [] [] :=
  ⟨rfl, rfl, rfl, (List.append_nil _).symm, (List.append_nil _).symm⟩

theorem exists_run_printLine {line : Text} {d : Desk} (h : d.obstacle? (line ++ ['\n']) = none) :
    ∃ d', (printLine line).run d = .ok () d' ∧ d.Prints d' (line ++ ['\n']) [] := by
  refine ⟨{ d with output := d.output ++ (line ++ ['\n']) }, ?_, rfl, rfl, rfl, rfl,
    (List.append_nil _).symm⟩
  rw [printLine, printText]
  simp only [EStateM.run_bind, EStateM.run_get, h]
  rfl

theorem run_printLine_of_obstacle {line reason : Text} {d : Desk}
    (h : d.obstacle? (line ++ ['\n']) = some reason) :
    (printLine line).run d = .error (.unwritable reason) d := by
  rw [printLine, printText]
  simp only [EStateM.run_bind, EStateM.run_get, h]
  rfl

theorem exists_run_logLine (line : Text) (d : Desk) :
    ∃ d', (logLine line).run d = .ok () d' ∧ d.Prints d' [] (line ++ ['\n']) :=
  ⟨_, rfl, rfl, rfl, rfl, (List.append_nil _).symm, List.append_assoc ..⟩

theorem Errand.run_ofExcept {α : Type} (x : Except Error α) (d : Desk) :
    (Errand.ofExcept x).run d = match x with
      | .ok a => .ok a d
      | .error err => .error err d := by
  cases x <;> rfl

/-! ## Markup of sources -/

namespace Desk

/-- The page at an address, if it is there in time. -/
def page (d : Desk) (timeout : Value) (url : Text) : Except Error Text :=
  match d.web (pageRequest url timeout) with
  | .page text => .ok text
  | .refused reason => .error (.unfetchable url reason)
  | .broken message => .error (.fetchBroken message)

/-- The text in a file. -/
def textAt (d : Desk) (path : Text) : Except Error Text :=
  if path.elem (Char.ofNat 0) then .error .nullInPath
  else
    match d.disk.readBytes path with
    | .ok bytes => .ok (unifyBreaks (Utf8.decode bytes))
    | .error problem => .error (.unreadable path problem)

/-- The markup that stands behind a source. -/
def markup (d : Desk) (timeout : Value) (source : Text) : Except Error Text := do
  let source := Text.trim isBlank source
  if ← isPageAddress source then d.page timeout source
  else if d.disk.isFile source then d.textAt source
  else .error (.unknownSource source)

theorem markup_congr {d d' : Desk} (hdisk : d'.disk = d.disk) (hweb : d'.web = d.web) :
    d'.markup = d.markup := by
  funext timeout source
  rw [markup, markup]
  simp only [page, textAt, hdisk, hweb]

end Desk

theorem exists_run_fetchPage (url : Text) (timeout : Value) (d : Desk) :
    ∃ d', d.Prints d' [] [] ∧ (fetchPage url timeout).run d = match d.page timeout url with
      | .ok page => .ok page d'
      | .error err => .error err d' := by
  refine ⟨_, .of_request d (pageRequest url timeout), ?_⟩
  rw [fetchPage, Desk.page]
  simp only [EStateM.run_bind, EStateM.run_get, EStateM.run_set]
  rcases d.web (pageRequest url timeout) with text | reason | message <;> rfl

theorem run_loadFile (path : Text) (d : Desk) :
    (loadFile path).run d = match d.textAt path with
      | .ok text => .ok text d
      | .error err => .error err d := by
  rw [loadFile, Desk.textAt]
  split
  · rfl
  · simp only [EStateM.run_bind, EStateM.run_get]
    rcases d.disk.readBytes path with problem | bytes <;> rfl

theorem exists_run_forM_logLine (lines : List Text) (d : Desk) :
    ∃ d', (lines.forM logLine).run d = .ok () d' ∧
      d.Prints d' [] (lines.flatMap fun line => line ++ ['\n']) := by
  induction lines generalizing d with
  | nil => exact ⟨d, rfl, .refl d⟩
  | cons line lines ih =>
    obtain ⟨d₁, hlog, hprints₁⟩ := exists_run_logLine line d
    obtain ⟨d₂, hlogs, hprints₂⟩ := ih d₁
    refine ⟨d₂, ?_, ?_⟩
    · rw [List.forM, EStateM.run_bind, hlog]
      exact hlogs
    · rw [List.flatMap_cons]
      exact hprints₁.trans hprints₂

/-- The log lines of events as one text. -/
def loggedEvents (events : Array Event) : Text :=
  (events.toList.filterMap Event.logLine?).flatMap fun line => line ++ ['\n']

theorem exists_run_logEvents (events : Array Event) (d : Desk) :
    ∃ d', (logEvents events).run d = .ok () d' ∧ d.Prints d' [] (loggedEvents events) :=
  exists_run_forM_logLine (events.toList.filterMap Event.logLine?) d

theorem run_readSource_of_error {source : Text} {err : Error}
    (h : isPageAddress (Text.trim isBlank source) = .error err) (timeout : Value) (d : Desk) :
    (readSource source timeout).run d = .error err d := by
  rw [readSource, h]
  rfl

theorem run_readSource_of_file {source : Text}
    (h : isPageAddress (Text.trim isBlank source) = .ok false) (timeout : Value) (d : Desk) :
    (readSource source timeout).run d =
      (if d.disk.isFile (Text.trim isBlank source) then loadFile (Text.trim isBlank source)
        else throw (.unknownSource (Text.trim isBlank source))).run d := by
  rw [readSource, h]
  rfl

theorem run_readSource_of_page {source : Text}
    (h : isPageAddress (Text.trim isBlank source) = .ok true) (timeout : Value) (d : Desk) :
    (readSource source timeout).run d = (fetchPage (Text.trim isBlank source) timeout).run d := by
  rw [readSource, h]
  rfl

/-- **Reading a source** gives its markup or fails, and prints nothing. -/
theorem exists_run_readSource (source : Text) (timeout : Value) (d : Desk) :
    ∃ d', d.Prints d' [] [] ∧ (readSource source timeout).run d = match d.markup timeout source with
      | .ok markup => .ok markup d'
      | .error err => .error err d' := by
  rcases haddress : isPageAddress (Text.trim isBlank source) with err | _ | _
  · refine ⟨d, .refl d, ?_⟩
    rw [run_readSource_of_error haddress, Desk.markup, haddress]
    rfl
  · have hmarkup : d.markup timeout source = if d.disk.isFile (Text.trim isBlank source) then
        d.textAt (Text.trim isBlank source) else .error (.unknownSource (Text.trim isBlank source)) := by
      rw [Desk.markup, haddress]
      rfl
    refine ⟨d, .refl d, ?_⟩
    rw [run_readSource_of_file haddress, hmarkup]
    split
    · exact run_loadFile _ d
    · rfl
  · have hmarkup : d.markup timeout source = d.page timeout (Text.trim isBlank source) := by
      rw [Desk.markup, haddress]
      rfl
    rw [run_readSource_of_page haddress, hmarkup]
    exact exists_run_fetchPage _ timeout d

/-! ## The Markdown of sources -/

/-- The progress that a computation ends with. -/
def Run.progress {α : Type} (x : Run α) (s : Progress) : Progress :=
  match x.run s with
  | .ok _ s' => s'
  | .error _ s' => s'

namespace Arguments

variable (a : Arguments)

/-- The Markdown of a source, or why there is none. -/
def textOf (d : Desk) (source : Text) : Except Error Text := do
  let _ ← isPageAddress source
  let markup ← d.markup a.timeout source
  (a.options.convert (.text markup)).outcome {}

theorem textOf_eq_of_markup {d d' : Desk} {source : Text}
    (h : d'.markup a.timeout source = d.markup a.timeout source) :
    a.textOf d' source = a.textOf d source := by
  rw [textOf, textOf, h]

theorem textOf_congr {d d' : Desk} (hdisk : d'.disk = d.disk) (hweb : d'.web = d.web) :
    a.textOf d' = a.textOf d :=
  funext fun source => a.textOf_eq_of_markup (congrFun₂ (Desk.markup_congr hdisk hweb) a.timeout source)

/-- What is logged while markup is converted, if that is wanted. -/
def detailsOf (markup : Text) : Text :=
  if a.verbose then loggedEvents ((a.options.convert (.text markup)).progress {}).events else []

/-- What is logged while a source is converted, if that is wanted. -/
def detailsFor (d : Desk) (source : Text) : Text :=
  match d.markup a.timeout source with
  | .ok markup => a.detailsOf markup
  | .error _ => []

theorem detailsFor_eq_of_markup {d d' : Desk} {source : Text}
    (h : d'.markup a.timeout source = d.markup a.timeout source) :
    a.detailsFor d' source = a.detailsFor d source := by
  rw [detailsFor, detailsFor, h]

variable {a}

theorem detailsFor_of_quiet (hquiet : a.verbose = false) (d : Desk) (source : Text) :
    a.detailsFor d source = [] := by
  rw [detailsFor]
  split
  · rw [detailsOf, hquiet, if_neg Bool.false_ne_true]
  · rfl

theorem exists_run_convertMarkup (markup : Text) (d : Desk) :
    ∃ d', d.Prints d' [] (a.detailsOf markup) ∧
      (convertMarkup a markup).run d =
        match (a.options.convert (.text markup)).outcome {} with
        | .ok text => .ok text d'
        | .error err => .error err d' := by
  rw [convertMarkup, Run.outcome, detailsOf, Run.progress]
  rcases hverbose : a.verbose with _ | _
  · refine ⟨d, .refl d, ?_⟩
    rcases (a.options.convert (.text markup)).run {} with ⟨text, s⟩ | ⟨err, s⟩ <;> rfl
  · rcases (a.options.convert (.text markup)).run {} with ⟨text, s⟩ | ⟨err, s⟩
    all_goals
      obtain ⟨d', hlog, hprints⟩ := exists_run_logEvents s.events d
      refine ⟨d', hprints, ?_⟩
      simp only [if_true, EStateM.run_bind, hlog]
      rfl

/-- **A source is converted** to its Markdown, and nothing is printed on the way. -/
theorem exists_run_convertSource {isPage : Bool} {source : Text}
    (haddress : isPageAddress source = .ok isPage) (d : Desk) :
    ∃ d', d.Prints d' [] (a.detailsFor d source) ∧
      (convertSource a source).run d = match a.textOf d source with
        | .ok text => .ok text d'
        | .error err => .error err d' := by
  obtain ⟨d₁, hprints₁, hread⟩ := exists_run_readSource source a.timeout d
  rw [convertSource, EStateM.run_bind, hread, textOf, haddress, detailsFor]
  rcases d.markup a.timeout source with err | markup
  · exact ⟨d₁, hprints₁, rfl⟩
  · obtain ⟨d₂, hprints₂, hconvert⟩ := exists_run_convertMarkup (a := a) markup d₁
    exact ⟨d₂, hprints₁.trans hprints₂, hconvert⟩

end Arguments

/-! ## Sources that end the run -/

/-- A source has no Markdown and ends the run with an error: its address cannot be read, as it is
announced or without the white space around it, fetching its page breaks off, or its markup cannot be
read. -/
inductive Desk.Refuses (d : Desk) (timeout : Value) (source : Text) : Error → Prop
  | address {err : Error} : isPageAddress source = .error err → d.Refuses timeout source err
  | trimmed {isPage : Bool} {err : Error} : isPageAddress source = .ok isPage →
      isPageAddress (Text.trim isBlank source) = .error err → d.Refuses timeout source err
  | fetch {isPage : Bool} {message : Text} : isPageAddress source = .ok isPage →
      isPageAddress (Text.trim isBlank source) = .ok true →
      d.web (pageRequest (Text.trim isBlank source) timeout) = .broken message →
      d.Refuses timeout source (.fetchBroken message)
  | markup {isPage : Bool} {markup : Text} {err : Error} : isPageAddress source = .ok isPage →
      d.markup timeout source = .ok markup → parseDocument (escapeListMarkers markup) = .error err →
      d.Refuses timeout source err

/-- The error of an address that cannot be read. -/
def Error.isOfAddress : Error → Bool
  | .invalidHost | .notNetworkAddress _ | .bracketedIPv4 | .invalidIPvFuture | .disguisedHost _ =>
    true
  | _ => false

/-- No error of an address is reported. -/
theorem Error.isReported_of_isOfAddress {err : Error} (h : err.isOfAddress = true) :
    err.isReported = false := by
  cases err <;> first | rfl | cases h

theorem isOfAddress_of_checkBracketed {inner : Text} {err : Error}
    (h : Host.checkBracketed inner = .error err) : err.isOfAddress = true := by
  rw [Host.checkBracketed] at h
  split at h
  · split at h
    · cases h
    · cases h
      rfl
  · split at h
    · cases h
      rfl
    · split at h
      · cases h
      · cases h
        rfl

theorem isOfAddress_of_check {host : Text} {err : Error} (h : Host.check host = .error err) :
    err.isOfAddress = true := by
  have hdisguise {err : Error} (h : (if host.any fun c => disguisedCodes.contains c.toNat then
      throw (.disguisedHost host) else pure () : Except Error Unit) = .error err) :
      err.isOfAddress = true := by
    split at h <;> cases h
    rfl
  rw [Host.check] at h
  split at h
  · cases h
    rfl
  · dsimp only at h
    split at h
    · split at h
      · cases h
        rfl
      · rcases bind_eq_error h with hbracketed | ⟨_, _, h⟩
        · exact isOfAddress_of_checkBracketed hbracketed
        · exact hdisguise h
    · exact hdisguise h

/-- An address is refused for its host only. -/
theorem isOfAddress_of_read {text : Text} {err : Error} (h : Address.read text = .error err) :
    err.isOfAddress = true := by
  rw [Address.read] at h
  dsimp only at h
  rcases bind_eq_error h with hcheck | ⟨_, _, hread⟩
  · exact isOfAddress_of_check hcheck
  · cases hread

theorem isPageAddress_eq_error_iff {text : Text} {err : Error} :
    isPageAddress text = .error err ↔ Address.read text = .error err := by
  rw [isPageAddress]
  rcases Address.read text with err' | address <;> simp [Except.map]

theorem isReported_of_isPageAddress {source : Text} {err : Error}
    (h : isPageAddress source = .error err) : err.isReported = false :=
  Error.isReported_of_isOfAddress (isOfAddress_of_read (isPageAddress_eq_error_iff.mp h))

/-- What cannot be found for a source is reported, unless its address cannot be read or fetching its
page breaks off. -/
theorem markup_eq_error {d : Desk} {timeout : Value} {source : Text} {err : Error}
    (h : d.markup timeout source = .error err) :
    isPageAddress (Text.trim isBlank source) = .error err ∨
      (∃ message, err = .fetchBroken message ∧
        isPageAddress (Text.trim isBlank source) = .ok true ∧
        d.web (pageRequest (Text.trim isBlank source) timeout) = .broken message) ∨
      err.isReported = true := by
  rw [Desk.markup] at h
  rcases bind_eq_error h with haddress | ⟨isPage, haddress, h⟩
  · exact Or.inl haddress
  · right
    split at h
    · next hpage =>
      rw [Desk.page] at h
      split at h
      · cases h
      · cases h
        exact Or.inr rfl
      · next message hbroken =>
        cases h
        exact Or.inl ⟨message, rfl, hpage ▸ haddress, hbroken⟩
    · right
      split at h
      · next hfile =>
        have hnull : (Text.trim isBlank source).elem (Char.ofNat 0) = false := by
          rw [Disk.isFile] at hfile
          split at hfile
          · simpa using hfile
          · cases hfile
        rw [Desk.textAt, hnull, if_neg Bool.false_ne_true] at h
        split at h
        · cases h
        · cases h
          rfl
      · cases h
        rfl

/-- **The sources without Markdown that end the run** are those whose error is not reported. -/
theorem refuses_iff {a : Arguments} {d : Desk} {source : Text} {err : Error} :
    d.Refuses a.timeout source err ↔ a.textOf d source = .error err ∧ err.isReported = false := by
  constructor
  · intro h
    cases h with
    | address haddress =>
      refine ⟨?_, isReported_of_isPageAddress haddress⟩
      rw [Arguments.textOf, haddress]
      rfl
    | trimmed haddress htrimmed =>
      refine ⟨?_, isReported_of_isPageAddress htrimmed⟩
      rw [Arguments.textOf, haddress, Desk.markup, htrimmed]
      rfl
    | @fetch isPage message haddress htrimmed hbroken =>
      have hpage : d.page a.timeout (Text.trim isBlank source) = .error (.fetchBroken message) := by
        rw [Desk.page, hbroken]
      have hmarkup : d.markup a.timeout source = .error (.fetchBroken message) := by
        rw [Desk.markup, htrimmed]
        exact hpage
      refine ⟨?_, rfl⟩
      rw [Arguments.textOf, haddress, hmarkup]
      rfl
    | @markup isPage markup _ haddress hmarkup hparse =>
      refine ⟨?_, Error.isReported_of_isOfMarkup (parseDocument_eq_error hparse)⟩
      rw [Arguments.textOf, haddress, hmarkup]
      exact outcome_convert_of_parse_eq_error hparse
  · rintro ⟨htext, hreported⟩
    rw [Arguments.textOf] at htext
    rcases bind_eq_error htext with haddress | ⟨isPage, haddress, htext⟩
    · exact .address haddress
    · rcases bind_eq_error htext with hmarkup | ⟨markup, hmarkup, htext⟩
      · rcases markup_eq_error hmarkup with htrimmed | ⟨message, rfl, htrimmed, hbroken⟩ | hreported'
        · exact .trimmed haddress htrimmed
        · exact .fetch haddress htrimmed hbroken
        · rw [hreported'] at hreported
          cases hreported
      · rcases outcome_convert_eq_error htext with ⟨hparse, _⟩ | ⟨_, tag, rfl⟩
        · exact .markup haddress hmarkup hparse
        · cases hreported

theorem exists_message_of_isReported {err : Error} (h : err.isReported = true) :
    ∃ message, err.message = some message := by
  cases err <;> first | exact ⟨_, rfl⟩ | cases h

/-! ## The step of one source -/

/-- The line that announces a source. -/
def announcement (source : Text) : Text :=
  '[' :: sourceTitle ((isPageAddress source).toOption.getD false) ++ "] Converting: ".toList ++
    source ++ ['\n']

/-- The line that reports an error of a source. -/
def errorReport (source : Text) (err : Error) : Text :=
  "[ERROR] ".toList ++ source ++ ": ".toList ++ err.message.getD [] ++ ['\n']

theorem run_tryCatch {α : Type} (x : Errand α) (handle : Error → Errand α) (d : Desk) :
    (tryCatch x handle).run d = match x.run d with
      | .ok a d' => .ok a d'
      | .error err d' => (handle err).run d' := by
  change EStateM.tryCatch x handle d = _
  rw [EStateM.tryCatch]
  rcases hx : x.run d with ⟨a, d'⟩ | ⟨err, d'⟩
  · rw [EStateM.run] at hx
    rw [hx]
  · rw [EStateM.run] at hx
    rw [hx]
    rfl

theorem announcement_eq {source : Text} {isPage : Bool}
    (h : isPageAddress source = .ok isPage) : announcement source =
      '[' :: sourceTitle isPage ++ "] Converting: ".toList ++ source ++ ['\n'] := by
  rw [announcement, h]
  rfl

namespace Arguments

variable (a : Arguments)

/-- What is printed for a source. -/
def printedFor (d : Desk) (source : Text) : Text :=
  match a.textOf d source with
  | .ok text => text ++ ['\n']
  | .error _ => []

/-- What is logged for a source. -/
def loggedFor (d : Desk) (source : Text) : Text :=
  match a.textOf d source with
  | .ok _ => announcement source
  | .error err => announcement source ++ errorReport source err

variable {a}

/-- The step of a source with an address that can be read: it is announced and converted, and then
its Markdown is delivered, or its error reported, or the run ends. -/
theorem exists_run_runSource_eq {source : Text} {isPage : Bool}
    (haddress : isPageAddress source = .ok isPage) (d : Desk) :
    ∃ d', d.Prints d' [] (announcement source ++ a.detailsFor d source) ∧
      (runSource a source).run d = match a.textOf d source with
        | .ok text => (do deliver a source text; return true : Errand Bool).run d'
        | .error err =>
          if err.isReported then
            (do
              logLine ("[ERROR] ".toList ++ source ++ ": ".toList ++ err.message.getD [])
              return false : Errand Bool).run d'
          else .error err d' := by
  obtain ⟨d₁, hlog, hprints₁⟩ := exists_run_logLine
    ('[' :: sourceTitle isPage ++ "] Converting: ".toList ++ source) d
  obtain ⟨d₂, hprints₂, hconvert⟩ := exists_run_convertSource (a := a) haddress d₁
  rw [a.textOf_congr hprints₁.disk hprints₁.web] at hconvert
  rw [a.detailsFor_eq_of_markup
    (congrFun₂ (Desk.markup_congr hprints₁.disk hprints₁.web) a.timeout source)]
    at hprints₂
  refine ⟨d₂, ?_, ?_⟩
  · rw [announcement_eq haddress]
    exact hprints₁.trans hprints₂
  · rw [runSource, haddress]
    simp only [EStateM.run_bind, Errand.run_ofExcept, hlog, run_tryCatch, hconvert]
    rcases a.textOf d source with err | text
    · rcases hreported : err.isReported with _ | _
      · simp only [hreported, Bool.false_eq_true, if_false]
        rfl
      · simp only [hreported, if_true, EStateM.run_bind]
        rcases (logLine _).run d₂ with ⟨_, d₃⟩ | ⟨err', d₃⟩ <;> rfl
    · rfl

variable (a) in
/-- A source ends a run whose results are printed with an error: it has no Markdown and ends the run,
or it has Markdown that the output cannot write. -/
inductive Ends (d : Desk) (source : Text) : Error → Prop
  | refused {err : Error} : d.Refuses a.timeout source err → Ends d source err
  | unwritable {text reason : Text} : a.textOf d source = .ok text →
      d.obstacle? (text ++ ['\n']) = some reason → Ends d source (.unwritable reason)

theorem Ends.eq {d : Desk} {source : Text} {err err' : Error} (h : a.Ends d source err)
    (h' : a.Ends d source err') : err = err' := by
  cases h with
  | refused h =>
    have htext := (refuses_iff.mp h).1
    cases h' with
    | refused h' => exact Except.error.inj (htext.symm.trans (refuses_iff.mp h').1)
    | unwritable h' => cases htext.symm.trans h'
  | unwritable h hobstacle =>
    cases h' with
    | refused h' => cases h.symm.trans (refuses_iff.mp h').1
    | unwritable h' hobstacle' =>
      cases h.symm.trans h'
      cases hobstacle.symm.trans hobstacle'
      rfl

/-- Markdown of a source that does not end the run can be written. -/
theorem obstacle?_of_not_ends {source text : Text} {d : Desk} (h : ∀ err, ¬ a.Ends d source err)
    (htext : a.textOf d source = .ok text) : d.obstacle? (text ++ ['\n']) = none := by
  rcases hobstacle : d.obstacle? (text ++ ['\n']) with _ | reason
  · rfl
  · exact absurd (.unwritable htext hobstacle) (h _)

/-- **The step of a source** that does not end the run: it is converted, or its error reported. -/
theorem exists_run_runSource (houtput : a.output = none) (hquiet : a.verbose = false)
    {source : Text} {d : Desk} (h : ∀ err, ¬ a.Ends d source err) :
    ∃ d', (runSource a source).run d = .ok (a.textOf d source).isOk d' ∧
      d.Prints d' (a.printedFor d source) (a.loggedFor d source) := by
  obtain ⟨isPage, haddress⟩ : ∃ isPage, isPageAddress source = .ok isPage := by
    rcases haddress : isPageAddress source with err | isPage
    · exact absurd (.refused (.address haddress)) (h err)
    · exact ⟨isPage, rfl⟩
  obtain ⟨d₁, hprints, hrun⟩ := exists_run_runSource_eq (a := a) haddress d
  rw [detailsFor_of_quiet hquiet, List.append_nil] at hprints
  rw [hrun, printedFor, loggedFor]
  rcases htext : a.textOf d source with err | text
  · obtain ⟨d₂, hreport, hprints'⟩ := exists_run_logLine
      ("[ERROR] ".toList ++ source ++ ": ".toList ++ err.message.getD []) d₁
    have hreported : err.isReported = true := by
      by_contra hsilent
      exact h err (.refused (refuses_iff.mpr ⟨htext, Bool.eq_false_iff.mpr hsilent⟩))
    refine ⟨d₂, ?_, hprints.trans hprints'⟩
    simp only [hreported, if_true, EStateM.run_bind, hreport]
    rfl
  · have hobstacle : d₁.obstacle? (text ++ ['\n']) = none := by
      rw [hprints.obstacle?]
      exact obstacle?_of_not_ends h htext
    obtain ⟨d₂, hprint, hprints'⟩ := exists_run_printLine hobstacle
    refine ⟨d₂, ?_, ?_⟩
    · simp only [deliver, houtput, EStateM.run_bind, hprint]
      rfl
    · rw [← List.append_nil (announcement source)]
      exact hprints.trans hprints'

/-- **The step of a source** that ends the run prints nothing. -/
theorem exists_run_runSource_error (houtput : a.output = none) {source : Text} {d : Desk}
    {err : Error} (h : a.Ends d source err) :
    ∃ d', (runSource a source).run d = .error err d' ∧ d'.output = d.output := by
  rcases haddress : isPageAddress source with err' | isPage
  · obtain rfl := h.eq (.refused (.address haddress))
    refine ⟨d, ?_, rfl⟩
    rw [runSource, haddress]
    rfl
  · obtain ⟨d', hprints, hrun⟩ := exists_run_runSource_eq (a := a) haddress d
    refine ⟨d', ?_, by rw [hprints.output, List.append_nil]⟩
    cases h with
    | refused h =>
      obtain ⟨htext, hreported⟩ := refuses_iff.mp h
      rw [hrun, htext]
      simp only [hreported, Bool.false_eq_true, if_false]
    | unwritable htext hobstacle =>
      rw [← hprints.obstacle?] at hobstacle
      rw [hrun, htext]
      simp only [deliver, houtput, EStateM.run_bind, run_printLine_of_obstacle hobstacle]

end Arguments

end HtmlMarkdown
