import Mathlib
import HtmlMarkdown.Proofs.Line
import HtmlMarkdown.Proofs.ListMarker
import HtmlMarkdown.Proofs.Source
import HtmlMarkdown.Proofs.Tight

/-!
# The sources of a command line

The sources are converted one after another, and what cannot be converted is reported. Some kinds of
source end the run though: those with an address that cannot be read, as it stands or without the
white space around it, those with a page that breaks off while it is fetched, those with markup that
cannot be read, and those with Markdown that the output cannot write.

* `exists_run_mapM_runSource`: the steps of sources none of which ends the run;
* `exists_run_mapM_runSource_error`: the steps of sources up to the first that does;
* `Arguments.alone`, `run_alone`: a command line with one source;
* `printed_iff_run_alone`, `ends_iff_run_alone`: what becomes of a source does not depend on others;
* **`run_sources`**: a command line with sources whose results are printed;
* **`run_brokenAddress`**: an address that cannot be read ends the run.
-/

namespace HtmlMarkdown

namespace Arguments

variable {a : Arguments} {d : Desk}

/-! ## One source after another -/

theorem printedFor_congr {d' : Desk} (h : a.textOf d' = a.textOf d) :
    a.printedFor d' = a.printedFor d := by
  funext source
  rw [printedFor, printedFor, h]

theorem loggedFor_congr {d' : Desk} (h : a.textOf d' = a.textOf d) :
    a.loggedFor d' = a.loggedFor d := by
  funext source
  rw [loggedFor, loggedFor, h]

theorem ends_congr {d' : Desk} (h : a.textOf d' = a.textOf d)
    (hobstacle : d'.obstacle? = d.obstacle?) (source : Text) (err : Error) :
    a.Ends d' source err ↔ a.Ends d source err := by
  have hrefuses : d'.Refuses a.timeout source err ↔ d.Refuses a.timeout source err := by
    rw [refuses_iff, refuses_iff, h]
  constructor
  · rintro (hr | ⟨htext, hreason⟩)
    · exact .refused (hrefuses.mp hr)
    · exact .unwritable (h ▸ htext) (hobstacle ▸ hreason)
  · rintro (hr | ⟨htext, hreason⟩)
    · exact .refused (hrefuses.mpr hr)
    · exact .unwritable (h ▸ htext) (hobstacle ▸ hreason)

/-- **The steps of sources** none of which ends the run: each has its part in what is printed and
logged. -/
theorem exists_run_mapM_runSource (houtput : a.output = none) (hquiet : a.verbose = false)
    {sources : List Text} (h : ∀ s ∈ sources, ∀ err, ¬ a.Ends d s err) :
    ∃ d', (sources.mapM (runSource a)).run d =
        .ok (sources.map fun s => (a.textOf d s).isOk) d' ∧
      d.Prints d' (sources.flatMap (a.printedFor d)) (sources.flatMap (a.loggedFor d)) := by
  induction sources generalizing d with
  | nil => exact ⟨d, rfl, .refl d⟩
  | cons source sources ih =>
    rw [List.forall_mem_cons] at h
    obtain ⟨d₁, hrun, hprints⟩ := exists_run_runSource houtput hquiet h.1
    -- the later sources find the same disk and web
    have hsame := a.textOf_congr hprints.disk hprints.web
    obtain ⟨d₂, hruns, hprints'⟩ := ih fun s hs err =>
      mt (ends_congr hsame hprints.obstacle? s err).mp (h.2 s hs err)
    rw [hsame] at hruns
    rw [printedFor_congr hsame, loggedFor_congr hsame] at hprints'
    refine ⟨d₂, ?_, ?_⟩
    · rw [List.mapM_cons, EStateM.run_bind, hrun]
      simp only [EStateM.run_bind, hruns]
      rfl
    · rw [List.flatMap_cons, List.flatMap_cons]
      exact hprints.trans hprints'

/-- **The steps of sources** up to the first that ends the run: what is printed for those before it
stays printed. -/
theorem exists_run_mapM_runSource_error (houtput : a.output = none) (hquiet : a.verbose = false)
    {earlier later : List Text} {source : Text} {err : Error}
    (hearlier : ∀ s ∈ earlier, ∀ err, ¬ a.Ends d s err) (h : a.Ends d source err) :
    ∃ d', ((earlier ++ source :: later).mapM (runSource a)).run d = .error err d' ∧
      d'.output = d.output ++ earlier.flatMap (a.printedFor d) := by
  obtain ⟨d₁, hruns, hprints⟩ := exists_run_mapM_runSource houtput hquiet hearlier
  have hsame := a.textOf_congr hprints.disk hprints.web
  obtain ⟨d₂, hrun, houtput'⟩ :=
    exists_run_runSource_error houtput ((ends_congr hsame hprints.obstacle? source err).mpr h)
  refine ⟨d₂, ?_, by rw [houtput', hprints.output]⟩
  rw [List.mapM_append, EStateM.run_bind, hruns, List.mapM_cons]
  simp only [EStateM.run_bind, hrun]

/-! ## Command lines -/

theorem run_runArguments (hsources : a.sources ≠ []) (d : Desk) :
    (runArguments a).run d = match (a.sources.mapM (runSource a)).run d with
      | .ok results d' => .ok { status := if results.all id then 0 else 1 } d'
      | .error err d' => .error err d' := by
  rw [runArguments, if_neg (by simpa using hsources), EStateM.run_bind]
  rcases (a.sources.mapM (runSource a)).run d with ⟨results, d'⟩ | ⟨err, d'⟩ <;> rfl

variable (a) in
/-- The same arguments for one source alone. -/
def alone (source : Text) : Arguments := { a with sources := [source] }

theorem ends_alone_iff (source t : Text) (err : Error) :
    (a.alone source).Ends d t err ↔ a.Ends d t err := by
  constructor
  · rintro (h | ⟨htext, hobstacle⟩)
    · exact .refused h
    · exact .unwritable htext hobstacle
  · rintro (h | ⟨htext, hobstacle⟩)
    · exact .refused h
    · exact .unwritable htext hobstacle

/-- **A command line with one source** prints its Markdown, or reports why there is none, or ends
with an error. -/
theorem run_alone (houtput : a.output = none) (hquiet : a.verbose = false) (source : Text)
    (d : Desk) :
    (∃ d', (runArguments (a.alone source)).run d =
          .ok { status := if (a.textOf d source).isOk then 0 else 1 } d' ∧
        d.Prints d' (a.printedFor d source) (a.loggedFor d source) ∧
        ∀ err, ¬ a.Ends d source err) ∨
      ∃ err d', (runArguments (a.alone source)).run d = .error err d' ∧ a.Ends d source err := by
  have halone : (a.alone source).sources ≠ [] := List.cons_ne_nil _ _
  by_cases h : ∃ err, a.Ends d source err
  · obtain ⟨err, hends⟩ := h
    have hruns : ∃ d', (([] ++ [source] : List Text).mapM (runSource (a.alone source))).run d =
        .error err d' ∧ d'.output = _ :=
      exists_run_mapM_runSource_error (a := a.alone source) houtput hquiet (List.forall_mem_nil _)
        ((ends_alone_iff source source err).mpr hends)
    obtain ⟨d', hrun, _⟩ := hruns
    refine Or.inr ⟨err, d', ?_, hends⟩
    rw [run_runArguments halone]
    exact hrun ▸ rfl
  · have hkept : ∀ err, ¬ a.Ends d source err := not_exists.mp h
    obtain ⟨d', hrun, hprints⟩ := exists_run_mapM_runSource (a := a.alone source) houtput hquiet
      (List.forall_mem_singleton.mpr fun err => mt (ends_alone_iff source source err).mp (hkept err))
    rw [List.flatMap_singleton, List.flatMap_singleton] at hprints
    have hruns : ((a.alone source).sources.mapM (runSource (a.alone source))).run d =
        .ok [(a.textOf d source).isOk] d' := hrun
    refine Or.inl ⟨d', ?_, hprints, hkept⟩
    rw [run_runArguments halone, hruns]
    simp only [List.all_cons, List.all_nil, Bool.and_true, id]

/-- A source has Markdown that the output can write if and only if a run with this source alone
prints it. -/
theorem printed_iff_run_alone (houtput : a.output = none) (hquiet : a.verbose = false)
    {source text : Text} :
    a.textOf d source = .ok text ∧ d.obstacle? (text ++ ['\n']) = none ↔ ∃ d',
      (runArguments (a.alone source)).run d = .ok { status := 0 } d' ∧
        d'.output = d.output ++ text ++ ['\n'] := by
  rcases run_alone houtput hquiet source d with ⟨d', hrun, hprints, hkept⟩ | ⟨err, d', hrun, hends⟩
  · rw [hrun]
    rcases htext : a.textOf d source with err | text'
    · constructor
      · rintro ⟨h, -⟩
        cases h
      · rintro ⟨d'', h, _⟩
        cases h
    · have hprinted : d'.output = d.output ++ text' ++ ['\n'] := by
        rw [hprints.output, printedFor, htext, List.append_assoc]
      constructor
      · rintro ⟨⟨rfl⟩, -⟩
        exact ⟨d', rfl, hprinted⟩
      · rintro ⟨d'', h, houtput'⟩
        cases h
        rw [hprinted, List.append_left_inj, List.append_right_inj] at houtput'
        exact ⟨congrArg _ houtput', houtput' ▸ obstacle?_of_not_ends hkept htext⟩
  · rw [hrun]
    constructor
    · rintro ⟨htext, hobstacle⟩
      cases hends with
      | refused h => cases htext.symm.trans (refuses_iff.mp h).1
      | unwritable htext' hobstacle' =>
        cases htext.symm.trans htext'
        cases hobstacle.symm.trans hobstacle'
    · rintro ⟨d'', h, _⟩
      cases h

/-- A source ends the run if and only if it does when given alone, and with the same error. -/
theorem ends_iff_run_alone (houtput : a.output = none) (hquiet : a.verbose = false)
    {source : Text} {err : Error} :
    a.Ends d source err ↔ ∃ d', (runArguments (a.alone source)).run d = .error err d' := by
  rcases run_alone houtput hquiet source d with ⟨d', hrun, _, hkept⟩ | ⟨err', d', hrun, hends⟩
  · rw [hrun]
    refine ⟨fun h => absurd h (hkept err), ?_⟩
    rintro ⟨d'', h⟩
    cases h
  · rw [hrun]
    constructor
    · intro h
      exact ⟨d', h.eq hends ▸ rfl⟩
    · rintro ⟨d'', h⟩
      cases h
      exact hends

/-- An error that does not end the run has words of its own. -/
theorem exists_message_of_not_ends {source : Text} {err : Error}
    (htext : a.textOf d source = .error err) (hkept : ¬ a.Ends d source err) :
    ∃ message, err.message = some message := by
  refine exists_message_of_isReported ?_
  by_contra hsilent
  exact hkept (.refused (refuses_iff.mpr ⟨htext, Bool.eq_false_iff.mpr hsilent⟩))

end Arguments

open Arguments

/-- **A command line with sources** whose results are printed, whatever the web answers and the output
can write. If none of them ends the run, then the Markdown of those that are converted is printed in
their order, each of the others is reported, and the status tells whether there is one of these. The
first source that ends the run does so with its error, and the sources before it stay printed. A
source alone prints the same Markdown, or ends the run with the same error, or is reported with words
of its error. -/
theorem run_sources {argv : List Text} {a : Arguments} (hargv : parseArguments argv = .ok a)
    (hsources : a.sources ≠ []) (houtput : a.output = none) (hquiet : a.verbose = false) (d : Desk) :
    ((∀ s ∈ a.sources, ∀ err, ¬ a.Ends d s err) → ∃ d',
      (runCommand argv).run d =
          .ok { status := if a.sources.all fun s => (a.textOf d s).isOk then 0 else 1 } d' ∧
        d'.output = d.output ++ a.sources.flatMap (a.printedFor d) ∧
        d'.log = d.log ++ a.sources.flatMap (a.loggedFor d)) ∧
    (∀ earlier s later err, a.sources = earlier ++ s :: later →
      (∀ t ∈ earlier, ∀ err', ¬ a.Ends d t err') → a.Ends d s err → ∃ d',
        (runCommand argv).run d = .error err d' ∧
          d'.output = d.output ++ earlier.flatMap (a.printedFor d)) ∧
    (∀ s text, a.textOf d s = .ok text ∧ d.obstacle? (text ++ ['\n']) = none ↔ ∃ d',
      (runArguments (a.alone s)).run d = .ok { status := 0 } d' ∧
        d'.output = d.output ++ text ++ ['\n']) ∧
    (∀ s err, a.Ends d s err ↔ ∃ d', (runArguments (a.alone s)).run d = .error err d') ∧
    ∀ s err, a.textOf d s = .error err → ¬ a.Ends d s err →
      ∃ message, err.message = some message := by
  have hcommand : runCommand argv = runArguments a := by
    rw [runCommand, hargv]
  refine ⟨fun h => ?_, fun earlier s later err hsplit hearlier hends => ?_,
    fun s text => printed_iff_run_alone houtput hquiet, fun s err => ends_iff_run_alone houtput hquiet,
    fun s err => exists_message_of_not_ends⟩
  · obtain ⟨d', hrun, hprints⟩ := exists_run_mapM_runSource houtput hquiet h
    refine ⟨d', ?_, hprints.output, hprints.log⟩
    rw [hcommand, run_runArguments hsources, hrun]
    simp only [List.all_map, Function.comp_def, id]
  · obtain ⟨d', hrun, hprinted⟩ := exists_run_mapM_runSource_error houtput hquiet hearlier hends
    refine ⟨d', ?_, hprinted⟩
    rw [hcommand, run_runArguments hsources, hsplit, hrun]

/-- The address of a page, one at which there is none, and one whose bracket has no partner. -/
def pageAddress : Text := "http://a".toList

@[inherit_doc pageAddress]
def lostAddress : Text := "http://b".toList

@[inherit_doc pageAddress]
def brokenAddress : Text := "http://[x".toList

/-- A desk with one page on the web. -/
def deskWithPage : Desk where
  web request := if request.url = pageAddress then .page ['x'] else .refused "no route".toList

theorem outcome_convert_letter : (({} : Options).convert (.text ['x'])).outcome {} = .ok ['x'] := by
  have hparse : parseDocument (escapeListMarkers ['x']) = .ok [.string .plain ['x']] := by
    rw [escapeListMarkers_of_not_mem (by decide)]
    rfl
  have hvoid : Everywhere Scan.VoidEndsLine (Place.root [.string .plain ['x']]).nodes := by decide
  have hnodes : (foldedRoot [.string .plain ['x']]).nodes = [.string .plain ['x']] := by
    rw [nodes_foldedRoot, collapseNodes_eq hvoid]
    rfl
  have hcontent : (Context.builtIn false .passthrough).contentBelow
      (foldedRoot [.string .plain ['x']]) = .ok ['x'] := by
    rw [Context.contentBelow, hnodes]
    rfl
  have htidy : normalize ['x'] = ['x'] := by
    rw [normalize_eq_closeBlankLines]
    exact closeBlankLines_of_not_mem (by decide)
  obtain ⟨s', hrun⟩ := Context.exists_run_convert_iff (s := {}).mpr ⟨_, hcontent, htidy.symm⟩
  have hconvert := Options.run_convert_text {} (List.cons_ne_nil 'x' []) hparse {}
  have hresult : (({} : Options).convert (.text ['x'])).run {} = .ok ['x'] s' :=
    hconvert.trans hrun
  rw [Run.outcome, hresult]

theorem textOf_pageAddress (sources : List Text) :
    ({ sources } : Arguments).textOf deskWithPage pageAddress = .ok ['x'] := by
  have haddress : isPageAddress pageAddress = .ok true := rfl
  have hmarkup : deskWithPage.markup defaultTimeout pageAddress = .ok ['x'] := rfl
  rw [Arguments.textOf, haddress, hmarkup]
  exact outcome_convert_letter

theorem textOf_lostAddress (sources : List Text) :
    ({ sources } : Arguments).textOf deskWithPage lostAddress =
      .error (.unfetchable lostAddress "no route".toList) := rfl

theorem not_ends {a : Arguments} {d : Desk} {source : Text}
    (h : ∀ err, a.textOf d source = .error err → err.isReported = true)
    (hobstacle : ∀ text, d.obstacle? text = none) (err : Error) : ¬ a.Ends d source err := by
  rintro (hrefuses | ⟨htext, hreason⟩)
  · obtain ⟨htext, hsilent⟩ := refuses_iff.mp hrefuses
    rw [h err htext] at hsilent
    cases hsilent
  · cases (hobstacle _).symm.trans hreason

theorem not_ends_pageAddress (sources : List Text) (err : Error) :
    ¬ ({ sources } : Arguments).Ends deskWithPage pageAddress err :=
  not_ends (fun _ h => nomatch (textOf_pageAddress sources).symm.trans h) (fun _ => rfl) err

theorem not_ends_lostAddress (sources : List Text) (err : Error) :
    ¬ ({ sources } : Arguments).Ends deskWithPage lostAddress err := by
  refine not_ends (fun _ h => ?_) (fun _ => rfl) err
  cases (textOf_lostAddress sources).symm.trans h
  rfl

theorem run_sources_lostAddress :
    parseArguments [lostAddress, pageAddress] = .ok { sources := [lostAddress, pageAddress] } ∧
    ∃ d', (runCommand [lostAddress, pageAddress]).run deskWithPage = .ok { status := 1 } d' ∧
      d'.output = ['x', '\n'] ∧
      d'.log = "[URL] Converting: http://b\n".toList ++
        "[ERROR] http://b: Cannot fetch http://b: no route\n".toList ++
        "[URL] Converting: http://a\n".toList := by
  have hargv : parseArguments [lostAddress, pageAddress] =
      .ok { sources := [lostAddress, pageAddress] } := rfl
  obtain ⟨hrun, _⟩ := run_sources hargv (List.cons_ne_nil _ _) rfl rfl deskWithPage
  have hkept : ∀ s ∈ [lostAddress, pageAddress], ∀ err,
      ¬ ({ sources := [lostAddress, pageAddress] } : Arguments).Ends deskWithPage s err :=
    List.forall_mem_cons.mpr ⟨not_ends_lostAddress _,
      List.forall_mem_singleton.mpr (not_ends_pageAddress _)⟩
  obtain ⟨d', hrun, houtput, hlog⟩ := hrun hkept
  refine ⟨hargv, d', ?_, ?_, ?_⟩
  · rw [hrun, List.all_cons, textOf_lostAddress]
    rfl
  · rw [houtput, List.flatMap_cons, List.flatMap_singleton, printedFor, printedFor,
      textOf_lostAddress, textOf_pageAddress]
    rfl
  · rw [hlog, List.flatMap_cons, List.flatMap_singleton, loggedFor, loggedFor, textOf_lostAddress,
      textOf_pageAddress]
    rfl

/-- **An address that cannot be read ends the run**: the page that comes after it is not printed,
although it is when it is given alone. -/
theorem run_brokenAddress :
    parseArguments [brokenAddress, pageAddress] =
      .ok { sources := [brokenAddress, pageAddress] } ∧
    (∃ d', (runCommand [brokenAddress, pageAddress]).run deskWithPage = .error .invalidHost d' ∧
      d'.output = []) ∧
    ∃ d', (runCommand [pageAddress]).run deskWithPage = .ok { status := 0 } d' ∧
      d'.output = ['x', '\n'] := by
  have hpage : runCommand [pageAddress] = runArguments (({} : Arguments).alone pageAddress) := rfl
  refine ⟨rfl, ⟨deskWithPage, rfl, rfl⟩, ?_⟩
  rcases run_alone (a := {}) rfl rfl pageAddress deskWithPage with
    ⟨d', hrun, hprints, _⟩ | ⟨err, _, _, hends⟩
  · refine ⟨d', ?_, ?_⟩
    · rw [hpage, hrun, textOf_pageAddress]
      rfl
    · rw [hprints.output, printedFor, textOf_pageAddress]
      rfl
  · exact absurd hends (not_ends_pageAddress [] err)

end HtmlMarkdown
