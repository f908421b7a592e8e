import Mathlib
import HtmlMarkdown.Proofs.CommandLine
import HtmlMarkdown.Proofs.Confined

/-!
# Saved sources

Results are saved in one directory, each under a name made from its source. Directories, extensions
and most punctuation of a source do not come into its name, so that several sources may share one;
then the last of them is found there.

* `savedName`, `savedPath`: where the Markdown of a source is saved;
* `Desk.CanSave`: a directory in which the results of sources can be saved;
* `exists_run_runSource_saved`, `exists_run_mapM_runSource_saved`: the step of a source whose
  Markdown is saved, and the steps of several;
* `Arguments.IsKept`: the file of a source holds its Markdown;
* **`run_saved`**: a command line with sources whose results are saved.
-/

namespace HtmlMarkdown

/-! ## Names of saved Markdown -/

/-- The name under which the Markdown of a source is saved, if it has one. -/
def savedName (source : Text) : Text := (markdownFileName source).toOption.getD []

/-- The path of the file in which the Markdown of a source is saved. -/
def savedPath (directory source : Text) : Text := joinPath directory (savedName source)

/-- A source whose address can be read has a name, and one that names a file. -/
theorem markdownFileName_eq {source : Text} {isPage : Bool}
    (h : isPageAddress (Text.trim isBlank source) = .ok isPage) :
    markdownFileName source = .ok (savedName source) ∧ IsFileName (savedName source) := by
  rcases hname : markdownFileName source with err | name
  · rw [isPageAddress_eq_error_iff.mpr (markdownFileName_eq_error_iff.mp hname)] at h
    cases h
  · have hsaved : savedName source = name := by
      rw [savedName, hname]
      rfl
    rw [hsaved]
    exact ⟨rfl, (isFileName_of_markdownFileName hname).1⟩

/-! ## Sources on a later disk -/

/-- Markup is the page at an address or the text in a file. -/
theorem markup_eq_ok_iff {d : Desk} {timeout : Value} {source markup : Text} :
    d.markup timeout source = .ok markup ↔
    isPageAddress (Text.trim isBlank source) = .ok true ∧
        d.page timeout (Text.trim isBlank source) = .ok markup ∨
      isPageAddress (Text.trim isBlank source) = .ok false ∧
        Char.ofNat 0 ∉ Text.trim isBlank source ∧
        ∃ bytes, d.disk.readBytes (Text.trim isBlank source) = .ok bytes ∧
          unifyBreaks (Utf8.decode bytes) = markup := by
  rw [Desk.markup]
  rcases isPageAddress (Text.trim isBlank source) with err | _ | _
  · simp [bind, Except.bind]
  · have hfile : (if d.disk.isFile (Text.trim isBlank source) then
          d.textAt (Text.trim isBlank source)
        else .error (.unknownSource (Text.trim isBlank source)) : Except Error Text) = .ok markup ↔
        Char.ofNat 0 ∉ Text.trim isBlank source ∧
        ∃ bytes, d.disk.readBytes (Text.trim isBlank source) = .ok bytes ∧
          unifyBreaks (Utf8.decode bytes) = markup := by
      split
      · next hfile =>
        obtain ⟨hnull, bytes, hread⟩ := Disk.isFile_iff.mp hfile
        rw [Desk.textAt, if_neg (by simpa using hnull), hread]
        simp [hnull]
      · next hfile =>
        constructor
        · intro h
          cases h
        · rintro ⟨hnull, bytes, hread, _⟩
          exact absurd (Disk.isFile_iff.mpr ⟨hnull, bytes, hread⟩) hfile
    simpa [bind, Except.bind] using hfile
  · simp [bind, Except.bind]

/-- The markup of a source stays the same as long as its file does. -/
theorem markup_of_keeps {d d' : Desk} {timeout : Value} {source markup : Text}
    {changed : Set Location} (h : d.markup timeout source = .ok markup) (hdisk : d.disk.Keeps d'.disk changed)
    (hweb : d'.web = d.web)
    (houtside : isPageAddress (Text.trim isBlank source) = .ok false → ∀ location,
      d.disk.locate (Text.trim isBlank source) = .ok location → location ∉ changed) :
    d'.markup timeout source = .ok markup := by
  rcases markup_eq_ok_iff.mp h with ⟨haddress, hpage⟩ | ⟨haddress, hnull, bytes, hread, hmarkup⟩
  · refine markup_eq_ok_iff.mpr (Or.inl ⟨haddress, ?_⟩)
    rw [← hpage, Desk.page, Desk.page, hweb]
  · obtain ⟨location, hlocate, hfind⟩ := Disk.readBytes_eq_ok_iff.mp hread
    have hfind' := hdisk.find _ _ hfind (Or.inr (houtside haddress _ hlocate))
    exact markup_eq_ok_iff.mpr (Or.inr ⟨haddress, hnull, bytes,
      Disk.readBytes_eq_ok_iff.mpr ⟨location, hdisk.locate hlocate, hfind'⟩, hmarkup⟩)

/-! ## Saving one result -/

/-- Results of sources can be saved in a directory, which is there or can be made: `made` is the
disk with it. Their names are short enough, no directory has one of them, and none of the sources is
a file with such a name in it. -/
structure Desk.CanSave (d : Desk) (sources : List Text) (directory : Text) (made : Disk)
    (location : Location) : Prop where
  make : d.disk.makeDirectories directory = .ok made
  isDirectory : made.isDirectory directory = true
  locate : made.locate directory = .ok location
  fits : ∀ s ∈ sources, isTooLong (savedName s) = false
  free : ∀ s ∈ sources, made.find? (savedName s :: location) ≠ some .directory
  outside : ∀ s ∈ sources, isPageAddress (Text.trim isBlank s) = .ok false →
    ∀ t ∈ sources, d.disk.locate (Text.trim isBlank s) ≠ .ok (savedName t :: location)

section Saving

variable {a : Arguments} {d : Desk} {directory source text : Text} {sources : List Text}
  {made : Disk} {location : Location}

theorem Desk.CanSave.leadsTo (h : d.CanSave sources directory made location) :
    Char.ofNat 0 ∉ directory ∧ made.LeadsTo directory location := by
  obtain ⟨hnull, location', hlocate, hfind⟩ := Disk.isDirectory_iff.mp h.isDirectory
  obtain rfl : location' = location := Except.ok.inj (hlocate.symm.trans h.locate)
  exact ⟨hnull, hlocate, hfind⟩

theorem Desk.CanSave.canHold (h : d.CanSave sources directory made location)
    (hmem : source ∈ sources) : d.disk.CanHold directory (savedName source) made location :=
  ⟨h.leadsTo.1, h.make, h.leadsTo.2, h.fits source hmem, h.free source hmem⟩

/-- The disk with the Markdown of a source saved. -/
def savedDisk (made : Disk) (location : Location) (source text : Text) : Disk :=
  made.put (savedName source :: location) (.file (Utf8.encode (text ++ ['\n'])))

theorem run_saveMarkdown (h : d.CanSave sources directory made location) (hmem : source ∈ sources)
    {isPage : Bool} (haddress : isPageAddress (Text.trim isBlank source) = .ok isPage)
    (text : Text) : (saveMarkdown text source directory).run d =
      .ok (savedPath directory source) { d with disk := savedDisk made location source text } :=
  run_saveMarkdown_eq_ok_iff.mpr ⟨savedName source, made, location,
    (markdownFileName_eq haddress).1, h.canHold hmem, rfl, rfl⟩

theorem textOf_eq_ok {source text : Text} (h : a.textOf d source = .ok text) :
    (∃ isPage, isPageAddress source = .ok isPage) ∧ 
      ∃ markup, d.markup a.timeout source = .ok markup := by
  rw [Arguments.textOf] at h
  rcases haddress : isPageAddress source with err | isPage
  · rw [haddress] at h
    cases h
  · rcases hmarkup : d.markup a.timeout source with err | markup
    · rw [haddress, hmarkup] at h
      cases h
    · exact ⟨⟨isPage, rfl⟩, markup, rfl⟩

theorem exists_isPageAddress_of_markup {timeout : Value} {markup : Text}
    (h : d.markup timeout source = .ok markup) :
    ∃ isPage, isPageAddress (Text.trim isBlank source) = .ok isPage := by
  rcases markup_eq_ok_iff.mp h with ⟨haddress, _⟩ | ⟨haddress, _⟩
  · exact ⟨true, haddress⟩
  · exact ⟨false, haddress⟩

theorem Desk.CanSave.congr {d' : Desk} (h : d.CanSave sources directory made location)
    (hdisk : d'.disk = d.disk) : d'.CanSave sources directory made location := by
  refine ⟨?_, h.isDirectory, h.locate, h.fits, h.free, ?_⟩
  · rw [hdisk]
    exact h.make
  · rw [hdisk]
    exact h.outside

theorem Desk.CanSave.mono {sources' : List Text} (h : d.CanSave sources directory made location)
    (hsub : sources' ⊆ sources) : d.CanSave sources' directory made location :=
  ⟨h.make, h.isDirectory, h.locate, fun s hs => h.fits s (hsub hs), fun s hs => h.free s (hsub hs),
    fun s hs haddress t ht => h.outside s (hsub hs) haddress t (hsub ht)⟩

theorem Desk.CanSave.keeps (h : d.CanSave (source :: sources) directory made location)
    (text : Text) :
    d.disk.Keeps (savedDisk made location source text) {savedName source :: location} :=
  (Disk.keeps_makeDirectories h.make).trans
    (Disk.keeps_put_file (h.free source List.mem_cons_self) (Set.mem_singleton _) _)

/-- The sources that come later have the same markup when the Markdown of one is saved. -/
theorem Desk.CanSave.markup_of_mem {d' : Desk} {timeout : Value} {markup s : Text}
    (h : d.CanSave (source :: sources) directory made location) (hs : s ∈ sources)
    (hmarkup : d.markup timeout s = .ok markup)
    (hdisk : d'.disk = savedDisk made location source text) (hweb : d'.web = d.web) :
    d'.markup timeout s = .ok markup := by
  refine markup_of_keeps hmarkup (hdisk ▸ h.keeps text) hweb fun haddress location' hlocate => ?_
  rintro rfl
  exact h.outside s (List.mem_cons_of_mem _ hs) haddress source List.mem_cons_self hlocate

/-- Results of the sources that come later can be saved when the Markdown of one is saved. -/
theorem Desk.CanSave.tail {d' : Desk} {timeout : Value}
    (h : d.CanSave (source :: sources) directory made location)
    (hmarkup : ∀ s ∈ sources, ∃ markup, d.markup timeout s = .ok markup)
    (hdisk : d'.disk = savedDisk made location source text) :
    d'.CanSave sources directory (savedDisk made location source text) location := by
  have hkeeps : made.Keeps (savedDisk made location source text) {savedName source :: location} :=
    Disk.keeps_put_file (h.free source List.mem_cons_self) (Set.mem_singleton _) _
  have hdirectory := hkeeps.isDirectory h.isDirectory
  refine ⟨?_, hdirectory, hkeeps.locate h.locate, fun s hs => h.fits s (List.mem_cons_of_mem _ hs),
    fun s hs => Disk.find?_put_file_ne_directory (h.free s (List.mem_cons_of_mem _ hs)) _ _,
    fun s hs haddress t ht hlocate => ?_⟩
  · rw [hdisk]
    exact Disk.makeDirectories_of_isDirectory hdirectory
  · obtain ⟨markup, hmarkup⟩ := hmarkup s hs
    rcases markup_eq_ok_iff.mp hmarkup with ⟨hpage, _⟩ | ⟨_, _, bytes, hread, _⟩
    · cases hpage.symm.trans haddress
    · -- the file is there already, so its path leads where it did before
      obtain ⟨location', hlocate', _⟩ := Disk.readBytes_eq_ok_iff.mp hread
      have hsame := (h.keeps text).locate hlocate'
      rw [hdisk, hsame] at hlocate
      cases hlocate
      exact h.outside s (List.mem_cons_of_mem _ hs) haddress t (List.mem_cons_of_mem _ ht) hlocate'

end Saving

/-! ## The steps of sources -/

namespace Arguments

variable (a : Arguments)

/-- What is logged for a source whose Markdown is saved. -/
def loggedSaving (d : Desk) (directory source : Text) : Text :=
  announcement source ++ a.detailsFor d source ++
    ("[SAVED] ".toList ++ savedPath directory source ++ ['\n'])

/-- The file in which the Markdown of a source is saved, by its location. -/
def savedFile (d : Desk) (location : Location) (source : Text) : Location × List UInt8 :=
  (savedName source :: location, Utf8.encode (a.printedFor d source))

theorem loggedSaving_eq_of_markup {d d' : Desk} (directory : Text) {source : Text}
    (h : d'.markup a.timeout source = d.markup a.timeout source) :
    a.loggedSaving d' directory source = a.loggedSaving d directory source := by
  rw [loggedSaving, loggedSaving, a.detailsFor_eq_of_markup h]

theorem savedFile_eq_of_markup {d d' : Desk} (location : Location) {source : Text}
    (h : d'.markup a.timeout source = d.markup a.timeout source) :
    a.savedFile d' location source = a.savedFile d location source := by
  rw [savedFile, savedFile, printedFor, printedFor, a.textOf_eq_of_markup h]

variable {a} {d : Desk} {directory source text : Text} {sources : List Text} {made : Disk}
  {location : Location}

theorem loggedSaving_of_quiet (hquiet : a.verbose = false) : a.loggedSaving d directory source =
    announcement source ++ ("[SAVED] ".toList ++ savedPath directory source ++ ['\n']) := by
  rw [loggedSaving, detailsFor_of_quiet hquiet, List.append_nil]

/-- **The step of a source** whose Markdown is saved. -/
theorem exists_run_runSource_saved (houtput : a.output = some directory)
    (htext : a.textOf d source = .ok text)
    (h : d.CanSave (source :: sources) directory made location) :
    ∃ d', (runSource a source).run d = .ok true d' ∧
      d'.disk = savedDisk made location source text ∧ d'.web = d.web ∧ d'.output = d.output ∧
      d'.log = d.log ++ a.loggedSaving d directory source := by
  obtain ⟨⟨isPage, haddress⟩, markup, hmarkup⟩ := textOf_eq_ok htext
  obtain ⟨_, htrimmed⟩ := exists_isPageAddress_of_markup hmarkup
  obtain ⟨d₁, hprints, hrun⟩ := exists_run_runSource_eq (a := a) haddress d
  have hsave := run_saveMarkdown (h.congr hprints.disk) List.mem_cons_self htrimmed text
  obtain ⟨d₂, hlog, hprints₂⟩ := exists_run_logLine
    ("[SAVED] ".toList ++ savedPath directory source)
    { d₁ with disk := savedDisk made location source text }
  obtain ⟨c, rest, rfl⟩ := List.exists_cons_of_ne_nil h.leadsTo.2.ne_nil
  refine ⟨d₂, ?_, hprints₂.disk, hprints₂.web.trans hprints.web, ?_, ?_⟩
  · rw [hrun, htext]
    simp only [deliver, houtput, EStateM.run_bind, hsave, hlog]
    rfl
  · rw [hprints₂.output, List.append_nil]
    exact hprints.output.trans (List.append_nil _)
  · rw [hprints₂.log, loggedSaving, ← List.append_assoc d.log, ← hprints.log]

/-- **The steps of sources** whose Markdown is saved: one file after another is put in the
directory. -/
theorem exists_run_mapM_runSource_saved (houtput : a.output = some directory)
    (htext : ∀ s ∈ sources, ∃ text, a.textOf d s = .ok text)
    (h : d.CanSave sources directory made location) :
    ∃ d', (sources.mapM (runSource a)).run d = .ok (sources.map fun _ => true) d' ∧
      d'.disk = (if sources.isEmpty then d.disk
        else made.putFiles (sources.map (a.savedFile d location))) ∧
      d'.output = d.output ∧
      d'.log = d.log ++ sources.flatMap (a.loggedSaving d directory) := by
  induction sources generalizing d made with
  | nil => exact ⟨d, rfl, rfl, rfl, (List.append_nil _).symm⟩
  | cons source sources ih =>
    rw [List.forall_mem_cons] at htext
    obtain ⟨⟨text, hsource⟩, hsources⟩ := htext
    obtain ⟨d₁, hrun, hdisk, hweb, hprinted, hlog⟩ :=
      exists_run_runSource_saved houtput hsource h
    -- the later sources find their markup unchanged, and the directory with one more file in it
    have hmarkup : ∀ s ∈ sources, ∃ markup, d.markup a.timeout s = .ok markup := fun s hs =>
      (hsources s hs).elim fun _ hs => (textOf_eq_ok hs).2
    have hsame : ∀ s ∈ sources, d₁.markup a.timeout s = d.markup a.timeout s := fun s hs =>
      (hmarkup s hs).elim fun _ hfound =>
        (h.markup_of_mem hs hfound hdisk hweb).trans hfound.symm
    obtain ⟨d₂, hruns, hdisk₂, hprinted₂, hlog₂⟩ := ih
      (fun s hs => by rw [a.textOf_eq_of_markup (hsame s hs)]; exact hsources s hs)
      (h.tail hmarkup hdisk)
    refine ⟨d₂, ?_, ?_, hprinted₂.trans hprinted, ?_⟩
    · rw [List.mapM_cons, EStateM.run_bind, hrun]
      simp only [EStateM.run_bind, hruns]
      rfl
    · have hfiles : sources.map (a.savedFile d₁ location) = sources.map (a.savedFile d location) :=
        List.map_congr_left fun s hs => a.savedFile_eq_of_markup location (hsame s hs)
      have hfirst : a.savedFile d location source =
          (savedName source :: location, Utf8.encode (text ++ ['\n'])) := by
        rw [savedFile, printedFor, hsource]
      rw [hdisk₂, hfiles, List.map_cons, hfirst, hdisk]
      cases sources <;> rfl
    · have hlogged : sources.flatMap (a.loggedSaving d₁ directory) =
          sources.flatMap (a.loggedSaving d directory) :=
        List.flatMap_congr fun s hs => a.loggedSaving_eq_of_markup directory (hsame s hs)
      rw [hlog₂, hlog, hlogged, List.flatMap_cons, List.append_assoc]

/-! ## What is found afterwards -/

/-- On a later stage of a desk the file in which a source is saved holds its Markdown, with a line
feed behind it. -/
def IsKept (a : Arguments) (d d' : Desk) (directory source : Text) : Prop :=
  ∃ text, a.textOf d source = .ok text ∧
    d'.disk.readBytes (savedPath directory source) = .ok (Utf8.encode (text ++ ['\n']))

/-- The last source with a name is kept. -/
theorem isKept_of_last {d' : Desk} {earlier later : List Text}
    (htext : ∀ s ∈ sources, ∃ text, a.textOf d s = .ok text)
    (h : d.CanSave sources directory made location)
    (hdisk : d'.disk = made.putFiles (sources.map (a.savedFile d location)))
    (hsplit : sources = earlier ++ source :: later)
    (hlast : ∀ s ∈ later, savedName s ≠ savedName source) : a.IsKept d d' directory source := by
  have hmem : source ∈ sources := hsplit ▸ List.mem_append_right _ List.mem_cons_self
  obtain ⟨text, hsource⟩ := htext source hmem
  obtain ⟨_, markup, hmarkup⟩ := textOf_eq_ok hsource
  obtain ⟨_, haddress⟩ := exists_isPageAddress_of_markup hmarkup
  have hkeeps : made.Keeps d'.disk Set.univ := hdisk ▸ Disk.keeps_putFiles
    (List.forall_mem_map.mpr h.free) fun _ _ => Set.mem_univ _
  have hleads : d'.disk.LeadsTo directory location :=
    ⟨hkeeps.locate h.locate, hkeeps.find _ _ h.leadsTo.2.find (Or.inl rfl)⟩
  refine ⟨text, hsource, Disk.readBytes_eq_ok_iff.mpr ⟨_, hleads.locate_joinPath
    (markdownFileName_eq haddress).2 (h.fits source hmem), ?_⟩⟩
  have hfile : a.savedFile d location source =
      (savedName source :: location, Utf8.encode (text ++ ['\n'])) := by
    rw [savedFile, printedFor, hsource]
  rw [hdisk, hsplit, List.map_append, List.map_cons, hfile]
  refine Disk.find?_putFiles_of_last (List.forall_mem_map.mpr fun s hs heq => ?_) _ _
  exact hlast s hs (List.cons.inj heq).1

theorem exists_last_of_mem {α β : Type} (f : α → β) {l : List α} {x : α} (h : x ∈ l) :
    ∃ earlier y later, l = earlier ++ y :: later ∧ f y = f x ∧ ∀ z ∈ later, f z ≠ f y := by
  induction l generalizing x with
  | nil => cases h
  | cons head l ih =>
    by_cases hlater : ∃ y ∈ l, f y = f x
    · obtain ⟨y, hy, heq⟩ := hlater
      obtain ⟨earlier, z, later, rfl, hz, hlast⟩ := ih hy
      exact ⟨head :: earlier, z, later, rfl, hz.trans heq, hlast⟩
    · push Not at hlater
      rcases List.mem_cons.mp h with rfl | hx
      · exact ⟨[], x, l, rfl, rfl, hlater⟩
      · exact absurd rfl (hlater x hx)

/-- All sources are kept if and only if those with one name have one text. -/
theorem forall_isKept_iff {d' : Desk} (hlast : ∀ earlier s later, sources = earlier ++ s :: later →
      (∀ t ∈ later, savedName t ≠ savedName s) → a.IsKept d d' directory s) :
    (∀ s ∈ sources, a.IsKept d d' directory s) ↔
      ∀ s ∈ sources, ∀ t ∈ sources, savedName s = savedName t → a.textOf d s = a.textOf d t := by
  constructor
  · intro h s hs t ht hname
    obtain ⟨text, hstext, hsbytes⟩ := h s hs
    obtain ⟨text', httext, htbytes⟩ := h t ht
    rw [savedPath, hname] at hsbytes
    have hbytes := Utf8.encode_injective (Except.ok.inj (hsbytes.symm.trans htbytes))
    rw [hstext, httext, List.append_cancel_right hbytes]
  · intro h s hs
    obtain ⟨earlier, t, later, hsplit, hname, hnone⟩ := exists_last_of_mem savedName hs
    have ht : t ∈ sources := hsplit ▸ List.mem_append_right _ List.mem_cons_self
    obtain ⟨text, httext, hbytes⟩ := hlast earlier t later hsplit hnone
    refine ⟨text, (h t ht s hs hname).symm.trans httext, ?_⟩
    rw [savedPath, ← hname]
    exact hbytes

/-- Sources whose results are saved: the status tells of no error, and the files are put in the
directory one after another. -/
theorem exists_run_runArguments_saved (hsources : a.sources ≠ [])
    (houtput : a.output = some directory)
    (htext : ∀ s ∈ a.sources, ∃ text, a.textOf d s = .ok text)
    (h : d.CanSave a.sources directory made location) :
    ∃ d', (runArguments a).run d = .ok { status := 0 } d' ∧
      d'.disk = made.putFiles (a.sources.map (a.savedFile d location)) ∧
      d'.output = d.output ∧ d'.log = d.log ++ a.sources.flatMap (a.loggedSaving d directory) := by
  obtain ⟨d', hrun, hdisk, hprinted⟩ := exists_run_mapM_runSource_saved houtput htext h
  refine ⟨d', ?_, ?_, hprinted⟩
  · rw [run_runArguments hsources, hrun]
    simp
  · rw [hdisk, if_neg (by simpa using hsources)]

end Arguments

open Arguments

/-- **A command line with sources whose results are saved.** If all of them are converted and the
directory can be used, then the status tells of no error, and for each source the log names the path
of its file. A file holds the Markdown of the last source with its name. So the files hold the
Markdown of all sources if and only if sources that share a name share their Markdown too. -/
theorem run_saved {argv : List Text} {a : Arguments} {directory : Text} {made : Disk}
    {location : Location} {d : Desk} (hargv : parseArguments argv = .ok a)
    (hsources : a.sources ≠ []) (houtput : a.output = some directory)
    (htext : ∀ s ∈ a.sources, ∃ text, a.textOf d s = .ok text)
    (h : d.CanSave a.sources directory made location) :
    ∃ d', (runCommand argv).run d = .ok { status := 0 } d' ∧ d'.output = d.output ∧
      d'.log = d.log ++ a.sources.flatMap (a.loggedSaving d directory) ∧
      (∀ earlier s later, a.sources = earlier ++ s :: later →
        (∀ t ∈ later, savedName t ≠ savedName s) → a.IsKept d d' directory s) ∧
      ((∀ s ∈ a.sources, a.IsKept d d' directory s) ↔ ∀ s ∈ a.sources, ∀ t ∈ a.sources,
        savedName s = savedName t → a.textOf d s = a.textOf d t) := by
  obtain ⟨d', hrun, hdisk, hprinted, hlog⟩ :=
    exists_run_runArguments_saved hsources houtput htext h
  have hcommand : runCommand argv = runArguments a := by
    rw [runCommand, hargv]
  have hlast : ∀ earlier s later, a.sources = earlier ++ s :: later →
      (∀ t ∈ later, savedName t ≠ savedName s) → a.IsKept d d' directory s :=
    fun _ _ _ hsplit hnone => isKept_of_last htext h hdisk hsplit hnone
  exact ⟨d', hcommand ▸ hrun, hprinted, hlog, hlast, forall_isKept_iff hlast⟩

/-! ## Two files with one name -/

/-- Two files whose names differ in their extensions only. -/
def longNamed : Text := "x.html".toList

@[inherit_doc longNamed]
def shortNamed : Text := "x.htm".toList

/-- The name of a directory for results. -/
def resultsName : Text := "o".toList

/-- A desk with the two files, the second one empty, and a page. -/
def deskWithFiles : Desk :=
  { deskWithPage with
    disk := { entries := [([longNamed, []], .file [120]), ([shortNamed, []], .file [])] } }

/-- The disk of this desk with the directory. -/
def resultsDisk : Disk := deskWithFiles.disk.put [resultsName, []] .directory

/-- A command line that saves results of sources in the directory. -/
def savingArguments (sources : List Text) : Arguments := { sources, output := some resultsName }

theorem locate_deskWithFiles {name : Text} (hname : IsFileName name)
    (hshort : isTooLong name = false) : deskWithFiles.disk.locate name = .ok [name, []] :=
  Disk.locate_of_isFileName (by decide) hname hshort

theorem locate_longNamed : deskWithFiles.disk.locate longNamed = .ok [longNamed, []] :=
  locate_deskWithFiles ⟨by decide, by decide, by decide, by decide⟩
    (isTooLong_eq_false_iff.mpr (by decide))

theorem locate_shortNamed : deskWithFiles.disk.locate shortNamed = .ok [shortNamed, []] :=
  locate_deskWithFiles ⟨by decide, by decide, by decide, by decide⟩
    (isTooLong_eq_false_iff.mpr (by decide))

theorem textOf_longNamed (sources : List Text) :
    (savingArguments sources).textOf deskWithFiles longNamed = .ok ['x'] := by
  have hmarkup : deskWithFiles.markup (savingArguments sources).timeout longNamed = .ok ['x'] :=
    markup_eq_ok_iff.mpr (Or.inr ⟨rfl, by decide, [120],
      Disk.readBytes_eq_ok_iff.mpr ⟨_, locate_longNamed, by decide⟩, by decide⟩)
  have haddress : isPageAddress longNamed = .ok false := rfl
  rw [Arguments.textOf, haddress, hmarkup]
  exact outcome_convert_letter

theorem textOf_shortNamed (sources : List Text) :
    (savingArguments sources).textOf deskWithFiles shortNamed = .ok [] := by
  have hmarkup : deskWithFiles.markup (savingArguments sources).timeout shortNamed = .ok [] :=
    markup_eq_ok_iff.mpr (Or.inr ⟨rfl, by decide, [],
      Disk.readBytes_eq_ok_iff.mpr ⟨_, locate_shortNamed, by decide⟩, by decide⟩)
  have haddress : isPageAddress shortNamed = .ok false := rfl
  rw [Arguments.textOf, haddress, hmarkup]
  rfl

theorem textOf_page (sources : List Text) :
    (savingArguments sources).textOf deskWithFiles pageAddress = .ok ['x'] :=
  textOf_pageAddress sources

theorem canSave_deskWithFiles :
    deskWithFiles.CanSave [longNamed, shortNamed, pageAddress] resultsName resultsDisk
      [resultsName, []] := by
  have hname : IsFileName resultsName := ⟨by decide, by decide, by decide, by decide⟩
  have hshort : isTooLong resultsName = false := isTooLong_eq_false_iff.mpr (by decide)
  have hmake := Disk.makeDirectories_of_isFileName (d := deskWithFiles.disk) (by decide) hname
    hshort (by decide)
  have hlocate : resultsDisk.locate resultsName = .ok [resultsName, []] :=
    Disk.locate_of_isFileName (by decide) hname hshort
  refine ⟨hmake, Disk.isDirectory_iff.mpr ⟨by decide, _, hlocate, by decide⟩, hlocate, ?_,
    by decide, ?_⟩
  · simp only [isTooLong_eq_false_iff]
    decide
  · intro s hs haddress t _ hlocate
    -- files where relative paths begin are not in the directory
    have hapart {name : Text} (hfile : deskWithFiles.disk.locate name = .ok [name, []]) :
        deskWithFiles.disk.locate name ≠ .ok (savedName t :: [resultsName, []]) := by
      rw [hfile]
      intro heq
      have hlength := congrArg List.length (Except.ok.inj heq)
      cases hlength
    simp only [List.mem_cons, List.not_mem_nil, or_false] at hs
    rcases hs with rfl | rfl | rfl
    · exact hapart locate_longNamed hlocate
    · exact hapart locate_shortNamed hlocate
    · have hpage : isPageAddress (Text.trim isBlank pageAddress) = .ok true := rfl
      cases hpage.symm.trans haddress

/-- A file and a page are saved in two files. -/
theorem run_saved_fileAndPage :
    parseArguments [longNamed, pageAddress, "-o".toList, resultsName] =
        .ok (savingArguments [longNamed, pageAddress]) ∧
      ∃ d', (runCommand [longNamed, pageAddress, "-o".toList, resultsName]).run deskWithFiles =
          .ok { status := 0 } d' ∧
        d'.output = [] ∧
        d'.log = "[FILE] Converting: x.html\n[SAVED] o/x.md\n".toList ++
          "[URL] Converting: http://a\n[SAVED] o/a_index.md\n".toList ∧
        d'.disk.readBytes "o/x.md".toList = .ok (Utf8.encode ['x', '\n']) ∧
        d'.disk.readBytes "o/a_index.md".toList = .ok (Utf8.encode ['x', '\n']) := by
  have hargv : parseArguments [longNamed, pageAddress, "-o".toList, resultsName] =
      .ok (savingArguments [longNamed, pageAddress]) := rfl
  have htext : ∀ s ∈ [longNamed, pageAddress],
      (savingArguments [longNamed, pageAddress]).textOf deskWithFiles s = .ok ['x'] :=
    List.forall_mem_cons.mpr ⟨textOf_longNamed _, List.forall_mem_singleton.mpr (textOf_page _)⟩
  obtain ⟨d', hrun, houtput, hlog, _, hkept⟩ := run_saved hargv (List.cons_ne_nil _ _) rfl
    (fun s hs => ⟨_, htext s hs⟩) (canSave_deskWithFiles.mono (by decide))
  have hread : ∀ s ∈ [longNamed, pageAddress],
      d'.disk.readBytes (savedPath resultsName s) = .ok (Utf8.encode ['x', '\n']) := by
    intro s hs
    -- both have the same Markdown, so whatever their names are each file holds its own
    obtain ⟨text, hfound, hread⟩ :=
      hkept.mpr (fun s hs t ht _ => (htext s hs).trans (htext t ht).symm) s hs
    cases (htext s hs).symm.trans hfound
    exact hread
  refine ⟨hargv, d', hrun, houtput, ?_, hread longNamed (by decide), hread pageAddress (by decide)⟩
  rw [hlog, savingArguments, List.flatMap_cons, List.flatMap_singleton, loggedSaving_of_quiet rfl,
    loggedSaving_of_quiet rfl]
  rfl

/-- **Files of one name** are put in one place: both of them are converted and reported as saved
there, and the Markdown of the first is gone. -/
theorem exists_not_isKept :
    parseArguments [longNamed, shortNamed, "-o".toList, resultsName] =
        .ok (savingArguments [longNamed, shortNamed]) ∧
      [longNamed, shortNamed].Nodup ∧
      (savingArguments [longNamed, shortNamed]).textOf deskWithFiles longNamed = .ok ['x'] ∧
      (savingArguments [longNamed, shortNamed]).textOf deskWithFiles shortNamed = .ok [] ∧
      deskWithFiles.CanSave [longNamed, shortNamed] resultsName resultsDisk [resultsName, []] ∧
      ∃ d', (runCommand [longNamed, shortNamed, "-o".toList, resultsName]).run deskWithFiles =
          .ok { status := 0 } d' ∧
        d'.log = "[FILE] Converting: x.html\n[SAVED] o/x.md\n".toList ++
          "[FILE] Converting: x.htm\n[SAVED] o/x.md\n".toList ∧
        d'.disk.readBytes "o/x.md".toList = .ok (Utf8.encode ['\n']) ∧
        ¬ (savingArguments [longNamed, shortNamed]).IsKept deskWithFiles d' resultsName
          longNamed := by
  have hargv : parseArguments [longNamed, shortNamed, "-o".toList, resultsName] =
      .ok (savingArguments [longNamed, shortNamed]) := rfl
  have hcommand : runCommand [longNamed, shortNamed, "-o".toList, resultsName] =
      runArguments (savingArguments [longNamed, shortNamed]) := rfl
  have htext : ∀ s ∈ [longNamed, shortNamed], ∃ text,
      (savingArguments [longNamed, shortNamed]).textOf deskWithFiles s = .ok text :=
    List.forall_mem_cons.mpr ⟨⟨_, textOf_longNamed _⟩,
      List.forall_mem_singleton.mpr ⟨_, textOf_shortNamed _⟩⟩
  have hsave : deskWithFiles.CanSave [longNamed, shortNamed] resultsName resultsDisk
      [resultsName, []] := canSave_deskWithFiles.mono (by decide)
  obtain ⟨d', hrun, hdisk, _, hlog⟩ := exists_run_runArguments_saved
    (a := savingArguments [longNamed, shortNamed]) (List.cons_ne_nil _ _) rfl htext hsave
  have hread : d'.disk.readBytes "o/x.md".toList = .ok (Utf8.encode ['\n']) := by
    have hsplit : [longNamed, shortNamed] = [longNamed] ++ shortNamed :: [] := rfl
    obtain ⟨text, hshort, hread⟩ :=
      isKept_of_last htext hsave hdisk hsplit (List.forall_mem_nil _)
    cases (textOf_shortNamed _).symm.trans hshort
    exact hread
  refine ⟨hargv, by decide, textOf_longNamed _, textOf_shortNamed _, hsave, d', hcommand ▸ hrun, ?_,
    hread, ?_⟩
  · rw [hlog, savingArguments, List.flatMap_cons, List.flatMap_singleton, loggedSaving_of_quiet rfl,
      loggedSaving_of_quiet rfl]
    rfl
  · rintro ⟨text, hlong, hkept⟩
    cases (textOf_longNamed _).symm.trans hlong
    have hbytes := Utf8.encode_injective (Except.ok.inj (hread.symm.trans hkept))
    exact absurd hbytes (by decide)

end HtmlMarkdown
