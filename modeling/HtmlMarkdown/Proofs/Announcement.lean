import Mathlib
import HtmlMarkdown.Proofs.AddressMargin
import HtmlMarkdown.Proofs.CommandLine
import HtmlMarkdown.Proofs.Confined

/-!
# How a source is announced

Three times it is judged whether a source is a page: when it is announced, when it is read, and when
its Markdown is given a name. The last two agree, and the first agrees with them unless the white
space around the source makes a difference.

* `Errand.deskAfter`: the desk at the end of an errand;
* `Errand.KeepsLog`: nothing is taken from the log; `keepsLog_deliver`, `keepsLog_runSource`,
  `keepsLog_mapM`: so it is for each source and for a run of several;
* `Desk.AnnouncesPage`, `announcesPage_iff`: the sources that are announced as pages;
* `Desk.AsksForPage`, `requests_readSource`: the sources that are read from the web;
* `NameOrigin`, `nameOrigin`: what a name is made of; `NamesPage`: the sources with the name of a
  page;
* **`announcesPage_iff_asksForPage_iff`**: the pages announced are those read, unless one is
  misjudged.
-/

namespace HtmlMarkdown

/-! ## Desks at the end of errands -/

namespace Errand

variable {α β : Type} {x : Errand α} {f : α → Errand β} {d d' : Desk}

/-- The desk at the end of an errand, whether it fails or not. -/
def deskAfter (x : Errand α) (d : Desk) : Desk :=
  match x.run d with
  | .ok _ d' => d'
  | .error _ d' => d'

theorem deskAfter_congr {y : Errand α} (h : x.run d = y.run d') :
    x.deskAfter d = y.deskAfter d' := by
  rw [deskAfter, deskAfter, h]

theorem deskAfter_of_run_eq_ok {a : α} (h : x.run d = .ok a d') : x.deskAfter d = d' := by
  rw [deskAfter, h]

theorem deskAfter_of_run_eq_error {err : Error} (h : x.run d = .error err d') :
    x.deskAfter d = d' := by
  rw [deskAfter, h]

theorem deskAfter_bind_of_ok {a : α} (h : x.run d = .ok a d') :
    (x >>= f).deskAfter d = (f a).deskAfter d' :=
  deskAfter_congr (by rw [EStateM.run_bind, h])

theorem deskAfter_bind_pure (x : Errand α) (g : α → β) (d : Desk) :
    (x >>= fun a => pure (g a)).deskAfter d = x.deskAfter d := by
  rw [deskAfter, deskAfter, EStateM.run_bind]
  rcases x.run d with ⟨a, d'⟩ | ⟨err, d'⟩ <;> rfl

theorem deskAfter_bind_of_error {err : Error} (h : x.run d = .error err d') :
    (x >>= f).deskAfter d = d' := by
  rw [deskAfter, EStateM.run_bind, h]

/-- After the first of several errands the others begin where it has left the desk. -/
theorem deskAfter_mapM_append {xs : List α} {ys : List β} (h : (xs.mapM f).run d = .ok ys d')
    (xs' : List α) : ((xs ++ xs').mapM f).deskAfter d = (xs'.mapM f).deskAfter d' := by
  rw [List.mapM_append, deskAfter_bind_of_ok h, deskAfter_bind_pure]

/-! ## The log -/

/-- Nothing is taken from the log. -/
def KeepsLog (x : Errand α) : Prop := ∀ d : Desk, d.log <+: (x.deskAfter d).log

theorem keepsLog_pure (a : α) : KeepsLog (pure a) := fun _ => List.prefix_rfl

/-- What is logged by the first of two errands stays on the log. -/
theorem log_prefix_bind (x : Errand α) (hf : ∀ a, (f a).KeepsLog) (d : Desk) :
    (x.deskAfter d).log <+: ((x >>= f).deskAfter d).log := by
  rcases hrun : x.run d with ⟨a, d'⟩ | ⟨err, d'⟩
  · rw [deskAfter_of_run_eq_ok hrun, deskAfter_bind_of_ok hrun]
    exact hf a d'
  · rw [deskAfter_of_run_eq_error hrun, deskAfter_bind_of_error hrun]

theorem KeepsLog.bind (hx : x.KeepsLog) (hf : ∀ a, (f a).KeepsLog) : (x >>= f).KeepsLog :=
  fun d => (hx d).trans (log_prefix_bind x hf d)

theorem keepsLog_mapM {f : α → Errand β} (hf : ∀ a, (f a).KeepsLog) (xs : List α) :
    (xs.mapM f).KeepsLog := by
  induction xs with
  | nil => exact keepsLog_pure []
  | cons a xs ih =>
    rw [List.mapM_cons]
    exact (hf a).bind fun b => ih.bind fun bs => keepsLog_pure (b :: bs)

end Errand

open Errand

theorem keepsLog_logLine (line : Text) : (logLine line).KeepsLog := fun d =>
  (List.prefix_append d.log line).trans (List.prefix_append _ ['\n'])

theorem keepsLog_printLine (line : Text) : (printLine line).KeepsLog := by
  intro d
  rcases hobstacle : d.obstacle? (line ++ ['\n']) with _ | reason
  · obtain ⟨d', hrun, hprints⟩ := exists_run_printLine hobstacle
    rw [deskAfter_of_run_eq_ok hrun, hprints.log]
    exact List.prefix_append _ _
  · rw [deskAfter_of_run_eq_error (run_printLine_of_obstacle hobstacle)]

theorem keepsLog_saveMarkdown (text source directory : Text) :
    (saveMarkdown text source directory).KeepsLog := by
  intro d
  rcases hrun : (saveMarkdown text source directory).run d with ⟨path, d'⟩ | ⟨err, d'⟩
  · obtain ⟨name, made, location, -, -, -, rfl⟩ := run_saveMarkdown_eq_ok_iff.mp hrun
    rw [deskAfter_of_run_eq_ok hrun]
  · obtain ⟨-, hdesk⟩ := file?_of_run_saveMarkdown_eq_error hrun
    rw [deskAfter_of_run_eq_error hrun, hdesk]

theorem keepsLog_deliver (a : Arguments) (source text : Text) :
    (deliver a source text).KeepsLog := by
  rw [deliver.eq_def]
  split
  · exact (keepsLog_saveMarkdown _ _ _).bind fun _ => keepsLog_logLine _
  · exact keepsLog_printLine text

section Announcing

variable {a : Arguments} {source : Text}

/-- The step of a source with an address that can be read begins with its announcement. -/
theorem announcement_prefix_runSource {isPage : Bool} (haddress : isPageAddress source = .ok isPage)
    (d : Desk) : d.log ++ announcement source <+: ((runSource a source).deskAfter d).log := by
  obtain ⟨d₁, hprints, hrun⟩ := Arguments.exists_run_runSource_eq (a := a) haddress d
  have hbegun : d.log ++ announcement source <+: d₁.log := by
    rw [hprints.log, ← List.append_assoc]
    exact List.prefix_append _ _
  refine hbegun.trans ?_
  split at hrun
  · next text htext =>
    rw [deskAfter_congr hrun]
    exact ((keepsLog_deliver a source text).bind fun _ => keepsLog_pure true) d₁
  · next err htext =>
    split at hrun
    · rw [deskAfter_congr hrun]
      exact ((keepsLog_logLine _).bind fun _ => keepsLog_pure false) d₁
    · rw [deskAfter_of_run_eq_error hrun]

/-- The step of a source with an address that cannot be read ends with it. -/
theorem run_runSource_of_error {err : Error} (haddress : isPageAddress source = .error err)
    (d : Desk) : (runSource a source).run d = .error err d := by
  rw [runSource, haddress]
  rfl

theorem keepsLog_runSource (a : Arguments) (source : Text) : (runSource a source).KeepsLog := by
  intro d
  rcases haddress : isPageAddress source with err | isPage
  · rw [deskAfter_of_run_eq_error (run_runSource_of_error haddress d)]
  · exact (List.prefix_append _ _).trans (announcement_prefix_runSource haddress d)

end Announcing

/-- A command line with sources ends where the last of its steps ends. -/
theorem deskAfter_runArguments {a : Arguments} (hsources : a.sources ≠ []) (d : Desk) :
    (runArguments a).deskAfter d = (a.sources.mapM (runSource a)).deskAfter d := by
  rw [deskAfter, Arguments.run_runArguments hsources, deskAfter]
  rcases (a.sources.mapM (runSource a)).run d with ⟨results, d'⟩ | ⟨err, d'⟩ <;> rfl

/-! ## Announced as a page -/

/-- From the first stage of a desk to the second, the first thing that is logged announces a source
as a page. -/
def Desk.AnnouncesPage (d d' : Desk) (source : Text) : Prop :=
  d.log ++ "[URL] Converting: ".toList ++ source ++ ['\n'] <+: d'.log

theorem announcement_of_page {source : Text} (h : isPageAddress source = .ok true) :
    announcement source = "[URL] Converting: ".toList ++ source ++ ['\n'] :=
  announcement_eq h

theorem announcement_of_file {source : Text} (h : isPageAddress source = .ok false) :
    announcement source = "[FILE] Converting: ".toList ++ source ++ ['\n'] :=
  announcement_eq h

/-- **The sources that are announced as pages** are those that are addresses of pages as they stand.
-/
theorem announcesPage_iff (a : Arguments) (source : Text) (later : List Text) (d : Desk) :
    d.AnnouncesPage (((source :: later).mapM (runSource a)).deskAfter d) source ↔
      isPageAddress source = .ok true := by
  have hlater : ((runSource a source).deskAfter d).log <+:
      (((source :: later).mapM (runSource a)).deskAfter d).log := by
    rw [List.mapM_cons]
    exact log_prefix_bind _ (fun b => (keepsLog_mapM (keepsLog_runSource a) later).bind
      fun bs => keepsLog_pure (b :: bs)) d
  constructor
  · intro h
    rcases haddress : isPageAddress source with err | _ | _
    · -- nothing is logged for the source, and then the run ends
      have hnone : ((source :: later).mapM (runSource a)).deskAfter d = d := by
        rw [List.mapM_cons, deskAfter_bind_of_error (run_runSource_of_error haddress d)]
      rw [Desk.AnnouncesPage, hnone] at h
      have hlength := h.length_le
      simp only [List.length_append, List.length_singleton] at hlength
      omega
    · have hfile := (announcement_prefix_runSource haddress d).trans hlater
      have hlength : (d.log ++ "[URL] Converting: ".toList ++ source ++ ['\n']).length ≤
          (d.log ++ announcement source).length := by
        rw [announcement_of_file haddress]
        simp
      have hboth := List.prefix_of_prefix_length_le h hfile hlength
      rw [announcement_of_file haddress, List.append_assoc, List.append_assoc,
        List.prefix_append_right_inj] at hboth
      exact absurd hboth (by simp)
    · rfl
  · intro haddress
    have hpage := (announcement_prefix_runSource haddress d).trans hlater
    rwa [announcement_of_page haddress, ← List.append_assoc, ← List.append_assoc] at hpage

/-! ## Read from the web -/

/-- Something is asked of the web when a source is read. -/
def Desk.AsksForPage (d : Desk) (source : Text) (timeout : Value) : Prop :=
  d.requests.size < ((readSource source timeout).deskAfter d).requests.size

/-- **Reading a source** asks for one page if the source without the white space around it is its
address, and for nothing if it is not. -/
theorem requests_readSource (source : Text) (timeout : Value) (d : Desk) :
    ((readSource source timeout).deskAfter d).requests =
      match isPageAddress (Text.trim isBlank source) with
      | .ok true => d.requests.push {
          url := Text.trim isBlank source
          timeout
          followsRedirects := true
          userAgent := browserAgent }
      | _ => d.requests := by
  rcases haddress : isPageAddress (Text.trim isBlank source) with err | _ | _
  · rw [deskAfter_of_run_eq_error (run_readSource_of_error haddress timeout d)]
  · rw [deskAfter_congr (run_readSource_of_file haddress timeout d)]
    split_ifs
    · rw [deskAfter, run_loadFile]
      rcases d.textAt (Text.trim isBlank source) with err | text <;> rfl
    · rfl
  · rw [deskAfter_congr (run_readSource_of_page haddress timeout d), deskAfter, fetchPage]
    simp only [EStateM.run_bind, EStateM.run_get, EStateM.run_set]
    rcases d.web (pageRequest (Text.trim isBlank source) timeout) with text | reason | message <;> rfl

theorem asksForPage_iff {d : Desk} {source : Text} {timeout : Value} :
    d.AsksForPage source timeout ↔ isPageAddress (Text.trim isBlank source) = .ok true := by
  rw [Desk.AsksForPage, requests_readSource]
  rcases isPageAddress (Text.trim isBlank source) with err | _ | _ <;> simp

/-! ## Named as a page -/

/-- What a name is made of: the address of a page, or the path of a file. -/
inductive NameOrigin
  | page (address : Address)
  | file (path : Text)

/-- The name that is made. -/
def NameOrigin.name : NameOrigin → Text
  | page address => safeName ['-', '_'] (pageName address) ++ ".md".toList
  | file path => safeName ['-', '_', ' '] (stem (baseName path)) ++ ".md".toList

/-- What the name of a source is made of, if its address can be read. -/
def nameOrigin (source : Text) : Except Error NameOrigin :=
  (Address.read (Text.trim isBlank source)).map fun address =>
    if address.isPage then .page address else .file (Text.trim isBlank source)

theorem markdownFileName_eq_map_nameOrigin (source : Text) :
    markdownFileName source = (nameOrigin source).map NameOrigin.name := by
  rw [markdownFileName, nameOrigin]
  rcases Address.read (Text.trim isBlank source) with err | address
  · rfl
  · rcases hpage : address.isPage with _ | _
    · simp [Except.map, bind, Except.bind, pure, Except.pure, hpage, NameOrigin.name]
    · simp [Except.map, bind, Except.bind, pure, Except.pure, hpage, NameOrigin.name]

/-- The name of a source is made of the address of a page. -/
def NamesPage (source : Text) : Prop := ∃ address, nameOrigin source = .ok (.page address)

theorem namesPage_iff {source : Text} :
    NamesPage source ↔ isPageAddress (Text.trim isBlank source) = .ok true := by
  rw [NamesPage, nameOrigin, isPageAddress]
  rcases Address.read (Text.trim isBlank source) with err | address
  · simp [Except.map]
  · rcases hpage : address.isPage with _ | _ <;> simp [Except.map, hpage]

/-! ## Announced, read and named -/

/-- **The sources announced as pages are those read as pages**, unless one is misjudged for the
white space around it. Each source that a command line comes to is announced as a page if and only if
a page is asked for when it is read, exactly if it is not misjudged. It has the name of a page if and
only if a page is asked for. -/
theorem announcesPage_iff_asksForPage_iff {argv : List Text} {a : Arguments}
    (hargv : parseArguments argv = .ok a) (d : Desk) :
    (∀ earlier source later results d', a.sources = earlier ++ source :: later →
      (earlier.mapM (runSource a)).run d = .ok results d' →
        ((d'.AnnouncesPage ((runCommand argv).deskAfter d) source ↔
          d'.AsksForPage source a.timeout) ↔ ¬ IsMisjudged source)) ∧
    ∀ source, markdownFileName source = (nameOrigin source).map NameOrigin.name ∧
      ∀ (d : Desk) timeout, NamesPage source ↔ d.AsksForPage source timeout := by
  refine ⟨fun earlier source later results d' hsources hrun => ?_, fun source =>
    ⟨markdownFileName_eq_map_nameOrigin source, fun d timeout =>
      namesPage_iff.trans asksForPage_iff.symm⟩⟩
  have hsome : a.sources ≠ [] := by
    rw [hsources]
    exact List.append_ne_nil_of_right_ne_nil _ (List.cons_ne_nil _ _)
  have hend : (runCommand argv).deskAfter d =
      ((source :: later).mapM (runSource a)).deskAfter d' := by
    rw [runCommand, hargv, deskAfter_runArguments hsome, hsources, deskAfter_mapM_append hrun]
  rw [hend, announcesPage_iff, asksForPage_iff]
  exact isPageAddress_iff_trim_iff source

theorem announcesPage_iff_asksForPage_iff_secondSource :
    parseArguments [lostAddress, pageAddress] = .ok { sources := [lostAddress, pageAddress] } ∧
    ∃ results d',
      ([lostAddress].mapM (runSource { sources := [lostAddress, pageAddress] })).run deskWithPage =
        .ok results d' ∧
      d'.AnnouncesPage ((runCommand [lostAddress, pageAddress]).deskAfter deskWithPage)
        pageAddress ∧
      d'.AsksForPage pageAddress defaultTimeout := by
  have hargv : parseArguments [lostAddress, pageAddress] =
      .ok { sources := [lostAddress, pageAddress] } := rfl
  obtain ⟨d', hrun, -⟩ := Arguments.exists_run_mapM_runSource
    (a := { sources := [lostAddress, pageAddress] }) rfl rfl
    (List.forall_mem_singleton.mpr (not_ends_lostAddress _))
  have hpage : isPageAddress pageAddress = .ok true := rfl
  have htrim : Text.trim isBlank pageAddress = pageAddress := rfl
  have hjudged : ¬ IsMisjudged pageAddress :=
    (isPageAddress_iff_trim_iff pageAddress).mp (by rw [htrim])
  have hasks : d'.AsksForPage pageAddress defaultTimeout := asksForPage_iff.mpr (htrim ▸ hpage)
  have hboth := (announcesPage_iff_asksForPage_iff hargv deskWithPage).1 [lostAddress] pageAddress
    [] _ d' rfl hrun
  exact ⟨hargv, _, d', hrun, (hboth.mpr hjudged).mpr hasks, hasks⟩

/-- An address with a space before it that is no margin. -/
def spacedAddress : Text := Char.ofNat 0xA0 :: pageAddress

/-- **A page announced as a file**: the space before its address is taken for a part of it only when
it is announced. -/
theorem not_announcesPage_spacedAddress :
    parseArguments [spacedAddress] = .ok { sources := [spacedAddress] } ∧
    ([].mapM (runSource { sources := [spacedAddress] })).run deskWithPage = .ok [] deskWithPage ∧
    ¬ deskWithPage.AnnouncesPage ((runCommand [spacedAddress]).deskAfter deskWithPage)
      spacedAddress ∧
    deskWithPage.AsksForPage spacedAddress defaultTimeout ∧ NamesPage spacedAddress := by
  have hfile : isPageAddress spacedAddress = .ok false := rfl
  have hpage : isPageAddress (Text.trim isBlank spacedAddress) = .ok true := rfl
  have hend : (runCommand [spacedAddress]).deskAfter deskWithPage =
      ([spacedAddress].mapM (runSource { sources := [spacedAddress] })).deskAfter deskWithPage :=
    deskAfter_runArguments (a := { sources := [spacedAddress] }) (List.cons_ne_nil _ _) deskWithPage
  refine ⟨rfl, rfl, ?_, asksForPage_iff.mpr hpage, namesPage_iff.mpr hpage⟩
  rw [hend, announcesPage_iff, hfile]
  exact nofun

end HtmlMarkdown
