import Mathlib
import HtmlMarkdown.Proofs.Disk
import HtmlMarkdown.Proofs.Source

/-!
# Saving in a directory

The name under which Markdown is saved leads to no other directory, whatever its source is: letters,
digits, hyphens and underscores are left of the source, and spaces unless it is a page. One file is
written, or none.

* `markdownFileName_eq_ok`: what a name consists of; `markdownFileName_eq_error_iff`: the sources
  without a name;
* `Disk.file?`: the files alone; `file?_makeDirectories`: none is touched when directories are made;
* `Disk.CanHold`: a directory in which a name can be given to a file;
* **`run_saveMarkdown_eq_ok_iff`**: when Markdown is saved, and what the disk is then;
* **`saveMarkdown_confined`**: it is saved in its directory and changes nothing else.
-/

namespace HtmlMarkdown

/-! ## Names -/

theorem of_mem_safeName {safe name : Text} {c : Char} (h : c ∈ safeName safe name) :
    isAlphanumeric c = true ∨ c ∈ safe ∨ c = '_' := by
  obtain ⟨d, _, rfl⟩ := List.mem_map.mp h
  split
  · next hsafe =>
    rw [Bool.or_eq_true, List.elem_iff] at hsafe
    exact hsafe.imp_right Or.inl
  · exact Or.inr (Or.inr rfl)

/-- The sources without a name are those whose address cannot be read. -/
theorem markdownFileName_eq_error_iff {source : Text} {err : Error} :
    markdownFileName source = .error err ↔
      Address.read (Text.trim isBlank source) = .error err := by
  rw [markdownFileName]
  rcases Address.read (Text.trim isBlank source) with err' | address
  · simp [bind, Except.bind]
  · simp [bind, Except.bind, pure, Except.pure]

/-- **A name** is an extension behind letters, digits, hyphens and underscores, and spaces unless it
is the name of a page. -/
theorem markdownFileName_eq_ok {source name : Text} (h : markdownFileName source = .ok name) :
    ∃ isPage stem, isPageAddress (Text.trim isBlank source) = .ok isPage ∧
      name = stem ++ ".md".toList ∧ ∀ c ∈ stem,
        isAlphanumeric c = true ∨ c = '-' ∨ c = '_' ∨ c = ' ' ∧ isPage = false := by
  rw [markdownFileName] at h
  rw [isPageAddress]
  rcases hread : Address.read (Text.trim isBlank source) with err | address
  · rw [hread] at h
    cases h
  · rw [hread] at h
    cases h
    refine ⟨address.isPage, _, rfl, rfl, fun c hc => ?_⟩
    split at hc
    · have hsafe := of_mem_safeName hc
      grind
    · have hsafe := of_mem_safeName hc
      grind

example : markdownFileName "http://u@a.b:8/../c".toList = .ok "u_a_b_8____c.md".toList := by rfl

/-- A name leads to no other directory, and its only period is that of the extension. -/
theorem isFileName_of_markdownFileName {source name : Text}
    (h : markdownFileName source = .ok name) : IsFileName name ∧ name.count '.' = 1 := by
  obtain ⟨isPage, stem, -, rfl, hstem⟩ := markdownFileName_eq_ok h
  have hnot {c : Char} (hletter : isAlphanumeric c = false) (hother : c ∉ "-_ ".toList) :
      c ∉ stem := by
    intro hmem
    rcases hstem c hmem with hc | rfl | rfl | ⟨rfl, -⟩
    · rw [hletter] at hc
      cases hc
    all_goals exact absurd hother (by decide)
  have hslash : '/' ∉ stem := hnot (by decide) (by decide)
  have hperiod : '.' ∉ stem := hnot (by decide) (by decide)
  have hlength : 3 ≤ (stem ++ ".md".toList).length := by
    rw [List.length_append]
    exact Nat.le_add_left 3 _
  refine ⟨⟨?_, ?_, ?_, ?_⟩, ?_⟩
  · rw [List.mem_append]
    exact not_or.mpr ⟨hslash, by decide⟩
  · exact fun heq => absurd (heq ▸ hlength) (by decide)
  · exact fun heq => absurd (heq ▸ hlength) (by decide)
  · exact fun heq => absurd (heq ▸ hlength) (by decide)
  · rw [List.count_append, List.count_eq_zero.mpr hperiod]
    rfl

/-! ## Files -/

namespace Disk

variable {d d' : Disk} {path : Text} {location : Location}

/-- The bytes of the file at a location, if one is there. -/
def file? (d : Disk) (location : Location) : Option (List UInt8) :=
  match d.find? location with
  | some (.file bytes) => some bytes
  | _ => none

theorem file?_put_file (d : Disk) (location : Location) (bytes : List UInt8) :
    (d.put location (.file bytes)).file? =
      fun location' => if location' = location then some bytes else d.file? location' := by
  funext location'
  rw [file?, find?_put]
  split_ifs
  · rfl
  · rfl

theorem file?_makeDirectory (h : d.makeDirectory path = .ok d') : d'.file? = d.file? := by
  obtain ⟨location, hfind, rfl⟩ := makeDirectory_eq_ok h
  funext location'
  rw [file?, find?_put]
  split_ifs with heq
  · rw [heq, file?, hfind]
  · rfl

/-- **Making directories** touches no file. -/
theorem file?_makeDirectories (h : d.makeDirectories path = .ok d') : d'.file? = d.file? :=
  makeDirectoriesWith_induction (P := fun made => made.file? = d.file?)
    (fun hfiles hmade => (file?_makeDirectory hmade).trans hfiles) rfl h

/-- A file can have a name in a directory, which is there or can be made: `made` is the disk with it.
The name is short enough, and no directory has it. -/
structure CanHold (d : Disk) (directory name : Text) (made : Disk) (location : Location) : Prop where
  noNull : Char.ofNat 0 ∉ directory
  make : d.makeDirectories directory = .ok made
  leadsTo : made.LeadsTo directory location
  fits : isTooLong name = false
  free : made.find? (name :: location) ≠ some .directory

theorem ne_nil_of_makeDirectories (h : d.makeDirectories path = .ok d') : path ≠ [] := by
  rintro rfl
  cases h

end Disk

/-! ## Saving -/

section Saving

variable {text source directory path : Text} {d d' : Desk}

/-- What saving does, one step after another. -/
theorem run_saveMarkdown_eq (text source directory : Text) (d : Desk) :
    (saveMarkdown text source directory).run d =
      if directory.elem (Char.ofNat 0) then .error .nullInPath d
      else match d.disk.makeDirectories directory with
        | .error (problem, path) => .error (.unsaved path problem) d
        | .ok made => match markdownFileName source with
          | .error err => .error err { d with disk := made }
          | .ok name => match made.writeFile (joinPath directory name)
              (Utf8.encode (text ++ ['\n'])) with
            | .error problem =>
              .error (.unsaved (joinPath directory name) problem) { d with disk := made }
            | .ok disk => .ok (joinPath directory name) { d with disk } := by
  rw [saveMarkdown]
  split
  · rfl
  · simp only [EStateM.run_bind, EStateM.run_get]
    rcases d.disk.makeDirectories directory with ⟨problem, path⟩ | made
    · rfl
    · rcases markdownFileName source with err | name
      · rfl
      · simp only [EStateM.run_bind, EStateM.run_modify, EStateM.run_get, Errand.run_ofExcept]
        rcases made.writeFile (joinPath directory name) (Utf8.encode (text ++ ['\n'])) with
          problem | disk
        · rfl
        · rfl

/-- **When Markdown is saved**: its source has a name, and the directory can hold a file of that name.
-/
theorem run_saveMarkdown_eq_ok_iff : (saveMarkdown text source directory).run d = .ok path d' ↔
    ∃ name made location, markdownFileName source = .ok name ∧
      d.disk.CanHold directory name made location ∧ path = joinPath directory name ∧
      d' = { d with
        disk := made.put (name :: location) (.file (Utf8.encode (text ++ ['\n']))) } := by
  rw [run_saveMarkdown_eq]
  constructor
  · intro h
    split at h
    · cases h
    · next hnull =>
      split at h
      · cases h
      · next made hmake =>
        split at h
        · cases h
        · next name hname =>
          split at h
          · cases h
          · next disk hwrite =>
            cases h
            obtain ⟨_, hlocate, hfree, rfl⟩ := Disk.writeFile_eq_ok hwrite
            obtain ⟨location, hleads, hshort, rfl⟩ := (Disk.locate_joinPath_eq_ok_iff
              (Disk.ne_nil_of_makeDirectories hmake) (isFileName_of_markdownFileName hname).1).mp
                hlocate
            exact ⟨name, made, location, hname,
              ⟨by simpa using hnull, hmake, hleads, hshort, hfree⟩, rfl, rfl⟩
  · rintro ⟨name, made, location, hname, hhold, rfl, rfl⟩
    have hwrite := Disk.writeFile_of_locate
      (hhold.leadsTo.locate_joinPath (isFileName_of_markdownFileName hname).1 hhold.fits) rfl
      hhold.leadsTo.find hhold.free (Utf8.encode (text ++ ['\n']))
    rw [if_neg (by simpa using hhold.noNull), hhold.make, hname]
    simp only [hwrite]

/-- No file is touched if Markdown is not saved, and nothing but directories is made. -/
theorem file?_of_run_saveMarkdown_eq_error {err : Error}
    (h : (saveMarkdown text source directory).run d = .error err d') :
    d'.disk.file? = d.disk.file? ∧ d' = { d with disk := d'.disk } := by
  rw [run_saveMarkdown_eq] at h
  split at h
  · cases h
    exact ⟨rfl, rfl⟩
  · split at h
    · cases h
      exact ⟨rfl, rfl⟩
    · next made hmake =>
      split at h
      · cases h
        exact ⟨Disk.file?_makeDirectories hmake, rfl⟩
      · split at h
        · cases h
          exact ⟨Disk.file?_makeDirectories hmake, rfl⟩
        · cases h

/-- **Saving is confined to its directory.** A source without a name has an address that cannot be
read. The name of any other leads to no other directory. If the directory can hold it, the file there
has the Markdown and every other file is as it was; if not, no file has changed. -/
theorem saveMarkdown_confined (text source directory : Text) (d : Desk) :
    match markdownFileName source with
    | .error err => Address.read (Text.trim isBlank source) = .error err ∧ err.isOfAddress = true
    | .ok name =>
      (∃ isPage stem, isPageAddress (Text.trim isBlank source) = .ok isPage ∧
        name = stem ++ ".md".toList ∧ ∀ c ∈ stem,
          isAlphanumeric c = true ∨ c = '-' ∨ c = '_' ∨ c = ' ' ∧ isPage = false) ∧
      '/' ∉ name ∧ name.count '.' = 1 ∧ name ≠ ['.'] ∧ name ≠ ['.', '.'] ∧
      ((∃ made location, d.disk.CanHold directory name made location) →
        ∃ disk location,
          (saveMarkdown text source directory).run d =
            .ok (joinPath directory name) { d with disk } ∧
          disk.LeadsTo directory location ∧
          disk.locate (joinPath directory name) = .ok (name :: location) ∧
          ∀ location', disk.file? location' =
            if location' = name :: location then some (Utf8.encode (text ++ ['\n']))
            else d.disk.file? location') ∧
      ((¬ ∃ made location, d.disk.CanHold directory name made location) →
        ∃ err disk, (saveMarkdown text source directory).run d = .error err { d with disk } ∧
          disk.file? = d.disk.file?) := by
  split
  · next err hname =>
    have hread := markdownFileName_eq_error_iff.mp hname
    exact ⟨hread, isOfAddress_of_read hread⟩
  · next name hname =>
    obtain ⟨hfile, hperiod⟩ := isFileName_of_markdownFileName hname
    refine ⟨markdownFileName_eq_ok hname, hfile.noSlash, hperiod, hfile.ne_here, hfile.ne_up, ?_, ?_⟩
    · rintro ⟨made, location, hhold⟩
      have hkeeps : made.Keeps (made.put (name :: location) (.file (Utf8.encode (text ++ ['\n']))))
          {name :: location} := Disk.keeps_put_file hhold.free (Set.mem_singleton _) _
      have hleads := hhold.leadsTo
      refine ⟨_, location,
        run_saveMarkdown_eq_ok_iff.mpr ⟨name, made, location, hname, hhold, rfl, rfl⟩,
        ⟨hkeeps.locate hleads.locate, hkeeps.find _ _ hleads.find (Or.inl rfl)⟩,
        hkeeps.locate (hleads.locate_joinPath hfile hhold.fits), fun location' => ?_⟩
      rw [Disk.file?_put_file, Disk.file?_makeDirectories hhold.make]
    · intro hnone
      rcases hrun : (saveMarkdown text source directory).run d with ⟨path, d'⟩ | ⟨err, d'⟩
      · obtain ⟨name', made, location, hname', hhold, -, -⟩ := run_saveMarkdown_eq_ok_iff.mp hrun
        cases hname.symm.trans hname'
        exact absurd ⟨made, location, hhold⟩ hnone
      · obtain ⟨hfiles, hdesk⟩ := file?_of_run_saveMarkdown_eq_error hrun
        exact ⟨err, d'.disk, by rw [← hdesk], hfiles⟩

end Saving

end HtmlMarkdown
