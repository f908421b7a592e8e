import Mathlib
import HtmlMarkdown.Proofs.Reading
import HtmlMarkdown.Proofs.Sides
import HtmlMarkdown.Source.Desk

/-!
# Files and directories by path

What a path leads to stays where it is as long as directories are made and files are put elsewhere.
Of several files that are put at one location the last one is found there.

* `Utf8.encode_eq_flatMap`, `Utf8.encode_injective`: the bytes of a text;
* `Disk.find?_put`, `Disk.putFiles`, **`find?_putFiles_of_last`**: files put one after another;
* `Disk.LeadsTo`: a path leads to a directory; `locate_append_slash`, `locate_joinPath_eq_ok_iff`:
  paths that go on from there;
* `makeDirectoriesWith_induction`; `Disk.Keeps`, **`keeps_makeDirectories`**: what stays when
  directories are made;
* **`makeDirectories_of_isDirectory`**: a directory that is there is not made again.
-/

namespace HtmlMarkdown

/-! ## The bytes of a text -/

theorem byteArray_toList_loop (bytes : ByteArray) (i : Nat) (before : List UInt8) :
    ByteArray.toList.loop bytes i before = before.reverse ++ bytes.data.toList.drop i := by
  fun_induction ByteArray.toList.loop bytes i before with
  | case1 i before hlt ih =>
    have hlength : i < bytes.data.toList.length := by simpa using hlt
    have hget : bytes.get! i = bytes.data.toList[i] := by
      rw [Array.getElem_toList, ← getElem!_pos bytes.data i hlt]
      cases bytes
      rfl
    rw [ih, List.drop_eq_getElem_cons hlength, hget, List.reverse_cons, List.append_assoc]
    rfl
  | case2 i before hle =>
    rw [List.drop_eq_nil_of_le (by simpa using hle), List.append_nil]

theorem byteArray_toList (bytes : ByteArray) : bytes.toList = bytes.data.toList := by
  rw [ByteArray.toList, byteArray_toList_loop, List.reverse_nil, List.nil_append, List.drop_zero]

namespace Utf8

theorem encode_eq_flatMap (s : Text) : encode s = s.flatMap String.utf8EncodeChar := by
  rw [encode, byteArray_toList, String.toUTF8, String.toByteArray_ofList, List.utf8Encode,
    List.data_toByteArray]

theorem encode_injective : Function.Injective encode := by
  intro s t h
  rw [encode, encode, byteArray_toList, byteArray_toList, Array.toList_inj] at h
  exact String.ofList_inj.mp (String.toByteArray_inj.mp (ByteArray.ext h))

end Utf8

theorem isTooLong_eq_false_iff {name : Text} : isTooLong name = false ↔
    (name.flatMap String.utf8EncodeChar).length ≤ longestName := by
  rw [isTooLong, Utf8.encode_eq_flatMap, decide_eq_false_iff_not, not_lt]

namespace Disk

/-! ## Entries by location -/

theorem lookup_filter_ne {location location' : Location} (h : location' ≠ location)
    (entries : List (Location × DiskEntry)) :
    (entries.filter fun e => e.1 != location).lookup location' = entries.lookup location' := by
  induction entries with
  | nil => rfl
  | cons e entries ih =>
    obtain ⟨at', entry⟩ := e
    by_cases heq : at' = location
    · rw [List.filter_cons_of_neg (by simpa using heq), ih, List.lookup_cons,
        beq_eq_false_iff_ne.mpr (heq ▸ h)]
    · rw [List.filter_cons_of_pos (by simpa using heq), List.lookup_cons, List.lookup_cons, ih]

theorem find?_put_of_ne (d : Disk) {location location' : Location} (h : location' ≠ location)
    (entry : DiskEntry) : (d.put location entry).find? location' = d.find? location' := by
  have hlookup : (d.put location entry).entries.lookup location' = d.entries.lookup location' := by
    rw [put, List.lookup_cons, beq_eq_false_iff_ne.mpr h]
    exact lookup_filter_ne h d.entries
  rw [find?, find?, hlookup]
  rfl

theorem find?_put (d : Disk) (location location' : Location) (entry : DiskEntry) :
    (d.put location entry).find? location' =
      if location' = location then some entry else d.find? location' := by
  split
  · next h => rw [h, find?_put_self]
  · next h => exact find?_put_of_ne d h entry

/-! ## Files put one after another -/

/-- The disk with files put at locations, one after another. -/
def putFiles (d : Disk) (files : List (Location × List UInt8)) : Disk :=
  files.foldl (fun d file => d.put file.1 (.file file.2)) d

theorem find?_putFiles_of_forall_ne {location : Location} {files : List (Location × List UInt8)}
    (h : ∀ file ∈ files, file.1 ≠ location) (d : Disk) :
    (d.putFiles files).find? location = d.find? location := by
  induction files generalizing d with
  | nil => rfl
  | cons file files ih =>
    rw [List.forall_mem_cons] at h
    rw [putFiles, List.foldl_cons]
    exact (ih h.2 _).trans (find?_put_of_ne d h.1.symm _)

/-- **Of the files that are put at a location** the last one is found there. -/
theorem find?_putFiles_of_last {location : Location} {earlier later : List (Location × List UInt8)}
    (h : ∀ file ∈ later, file.1 ≠ location) (bytes : List UInt8) (d : Disk) :
    (d.putFiles (earlier ++ (location, bytes) :: later)).find? location = some (.file bytes) := by
  rw [putFiles, List.foldl_append, List.foldl_cons]
  exact (find?_putFiles_of_forall_ne h _).trans (find?_put_self _ _ _)

end Disk

/-! ## Paths -/

/-- A name of something in a directory, as paths spell it. -/
structure IsFileName (name : Text) : Prop where
  noSlash : '/' ∉ name
  ne_nil : name ≠ []
  ne_here : name ≠ ['.']
  ne_up : name ≠ ['.', '.']

namespace Disk

variable {d : Disk} {path p : Text} {location location' : Location}

theorem follow_append (d : Disk) (location : Location) (names names' : List Text) :
    d.follow location (names ++ names') = (do d.follow (← d.follow location names) names') := by
  induction names generalizing location with
  | nil => rfl
  | cons name names ih =>
    rw [List.cons_append, follow, follow]
    rcases d.find? location with _ | _ | _
    · rfl
    · rfl
    · simp only [ih]
      split_ifs <;> rfl

theorem find?_of_follow {name : Text} {names : List Text}
    (h : d.follow location (name :: names) = .ok location') :
    d.find? location = some .directory := by
  rw [follow] at h
  rcases hfind : d.find? location with _ | _ | _
  · rw [hfind] at h
    cases h
  · rw [hfind] at h
    cases h
  · rfl

/-- The location that what stands before a slash leads to. -/
def beforeSlash (d : Disk) (p : Text) : Except FileProblem Location :=
  if p.isEmpty then .ok [] else d.locate p

theorem locate_cons {c : Char} (hc : c ≠ '/') (d : Disk) (p : Text) :
    d.locate (c :: p) = d.follow d.start (Text.split (· == '/') (c :: p)) := by
  unfold locate
  split
  · next h => cases h
  · next h => exact absurd (List.cons.inj h).1 hc
  · rfl

/-- A path that goes on behind a slash. -/
theorem locate_append_slash (d : Disk) (p q : Text) : d.locate (p ++ '/' :: q) =
    (do d.follow (← d.beforeSlash p) (Text.split (· == '/') q)) := by
  have hsplit (s : Text) : Text.split (· == '/') (s ++ '/' :: q) =
      Text.split (· == '/') s ++ Text.split (· == '/') q :=
    Text.split_append_cons (p := (· == '/')) (beq_self_eq_true '/') s q
  cases p with
  | nil => rfl
  | cons c p =>
    rw [beforeSlash, List.isEmpty_cons, if_neg Bool.false_ne_true]
    by_cases hc : c = '/'
    · rw [hc, List.cons_append, locate, locate, hsplit, follow_append]
    · rw [List.cons_append, locate_cons hc, locate_cons hc, ← List.cons_append, hsplit,
        follow_append]

theorem locate_append_slash_eq_ok_iff {q : Text} : d.locate (p ++ '/' :: q) = .ok location ↔
    ∃ outer, d.beforeSlash p = .ok outer ∧
      d.follow outer (Text.split (· == '/') q) = .ok location := by
  rw [locate_append_slash]
  rcases d.beforeSlash p with problem | outer
  · simp [bind, Except.bind]
  · simp [bind, Except.bind]

/-! ## Paths to directories -/

/-- The path leads to the directory at a location. -/
structure LeadsTo (d : Disk) (path : Text) (location : Location) : Prop where
  locate : d.locate path = .ok location
  find : d.find? location = some .directory

theorem entry_eq_ok_iff {entry : DiskEntry} : d.entry path = .ok entry ↔
    ∃ location, d.locate path = .ok location ∧ d.find? location = some entry := by
  rw [Disk.entry]
  rcases d.locate path with problem | location
  · simp [bind, Except.bind]
  · rcases hfind : d.find? location with _ | found
    · simp [bind, Except.bind, hfind]
    · simp [bind, Except.bind, hfind]

theorem isDirectory_iff : d.isDirectory path = true ↔
    Char.ofNat 0 ∉ path ∧ ∃ location, d.LeadsTo path location := by
  have hentry : d.isDirectory path = true ↔
      Char.ofNat 0 ∉ path ∧ d.entry path = .ok .directory := by
    rw [isDirectory]
    rcases d.entry path with problem | _ | _ <;> simp
  rw [hentry, entry_eq_ok_iff]
  refine and_congr_right fun _ => exists_congr fun location => ?_
  exact ⟨fun h => ⟨h.1, h.2⟩, fun h => ⟨h.locate, h.find⟩⟩

theorem readBytes_eq_ok_iff {bytes : List UInt8} : d.readBytes path = .ok bytes ↔
    ∃ location, d.locate path = .ok location ∧ d.find? location = some (.file bytes) := by
  rw [← entry_eq_ok_iff, readBytes]
  rcases d.entry path with problem | _ | _ <;> simp [bind, Except.bind]

theorem isFile_iff : d.isFile path = true ↔
    Char.ofNat 0 ∉ path ∧ ∃ bytes, d.readBytes path = .ok bytes := by
  rw [isFile, readBytes]
  rcases d.entry path with problem | _ | _ <;> simp [bind, Except.bind]

theorem follow_of_directory (h : d.find? location = some .directory) (name : Text)
    (names : List Text) : d.follow location (name :: names) =
      if isTooLong name then .error .nameTooLong
      else if name.isEmpty || name = ['.'] then d.follow location names
      else if name = ['.', '.'] then d.follow (location.drop 1) names
      else d.follow (name :: location) names := by
  rw [follow, h]

/-- A path that ends with a slash leads where the path before it does. -/
theorem leadsTo_concat_slash_iff : d.LeadsTo (p ++ ['/']) location ↔
    d.beforeSlash p = .ok location ∧ d.find? location = some .directory := by
  have hstay {outer : Location} (h : d.find? outer = some .directory) :
      d.follow outer [[]] = .ok outer := by
    rw [follow_of_directory h, isTooLong_eq_false_iff.mpr (Nat.zero_le _)]
    rfl
  constructor
  · rintro ⟨hlocate, hfind⟩
    obtain ⟨outer, hp, hfollow⟩ := locate_append_slash_eq_ok_iff.mp hlocate
    have hsame := (hstay (find?_of_follow hfollow)).symm.trans hfollow
    cases hsame
    exact ⟨hp, hfind⟩
  · rintro ⟨hp, hfind⟩
    exact ⟨locate_append_slash_eq_ok_iff.mpr ⟨_, hp, hstay hfind⟩, hfind⟩

/-- What a path that goes on behind a slash leads to is found from the directory before. -/
theorem exists_leadsTo_slash {q : Text} (h : d.locate (p ++ '/' :: q) = .ok location) :
    ∃ outer, d.LeadsTo (p ++ ['/']) outer := by
  obtain ⟨outer, hp, hfollow⟩ := locate_append_slash_eq_ok_iff.mp h
  obtain ⟨name, names, hnames⟩ := List.exists_cons_of_ne_nil (Text.split_ne_nil (· == '/') q)
  rw [hnames] at hfollow
  exact ⟨outer, leadsTo_concat_slash_iff.mpr ⟨hp, find?_of_follow hfollow⟩⟩

theorem LeadsTo.ne_nil (h : d.LeadsTo path location) : path ≠ [] := by
  rintro rfl
  cases h.locate

theorem LeadsTo.concat_slash (h : d.LeadsTo path location) :
    d.LeadsTo (path ++ ['/']) location := by
  refine leadsTo_concat_slash_iff.mpr ⟨?_, h.find⟩
  rw [beforeSlash, if_neg (by simpa using h.ne_nil), h.locate]

theorem LeadsTo.of_concat_slash (hp : p ≠ []) (h : d.LeadsTo (p ++ ['/']) location) :
    d.LeadsTo p location := by
  obtain ⟨hbefore, hfind⟩ := leadsTo_concat_slash_iff.mp h
  rw [beforeSlash, if_neg (by simpa using hp)] at hbefore
  exact ⟨hbefore, hfind⟩

theorem dropSlashes_concat_slash (p : Text) : dropSlashes (p ++ ['/']) = dropSlashes p := by
  simp [dropSlashes, Text.trimEnd]

theorem dropSlashes_concat {c : Char} (hc : c ≠ '/') (p : Text) :
    dropSlashes (p ++ [c]) = p ++ [c] := by
  simp [dropSlashes, Text.trimEnd, hc]

/-- A path to a directory leads there without the slashes at its end too. -/
theorem LeadsTo.dropSlashes (h : d.LeadsTo path location) (hpath : dropSlashes path ≠ []) :
    d.LeadsTo (dropSlashes path) location := by
  induction path using List.reverseRecOn with
  | nil => exact absurd rfl hpath
  | append_singleton p c ih =>
    by_cases hc : c = '/'
    · subst hc
      rw [dropSlashes_concat_slash] at hpath ⊢
      refine ih (h.of_concat_slash ?_) hpath
      rintro rfl
      exact hpath rfl
    · rw [dropSlashes_concat hc]
      exact h

theorem LeadsTo.ite_dropSlashes (h : d.LeadsTo path location) :
    d.LeadsTo (if (Disk.dropSlashes path).isEmpty then path else Disk.dropSlashes path)
      location := by
  split
  · exact h
  · next hpath => exact h.dropSlashes (by simpa using hpath)

/-! ## Names in a directory -/

theorem follow_split_eq_ok_iff {name : Text} (hname : IsFileName name) :
    d.follow location (Text.split (· == '/') name) = .ok location' ↔
      d.find? location = some .directory ∧ isTooLong name = false ∧ location' = name :: location := by
  have hsplit : Text.split (· == '/') name = [name] := Text.split_of_forall fun c hc =>
    beq_eq_false_iff_ne.mpr fun heq => hname.noSlash (heq ▸ hc)
  have hgo : ¬ (name.isEmpty || decide (name = ['.'])) = true := by
    simpa using ⟨hname.ne_nil, hname.ne_here⟩
  have hstep (h : d.find? location = some .directory) :
      d.follow location [name] = .ok location' ↔
        isTooLong name = false ∧ location' = name :: location := by
    rw [follow_of_directory h, if_neg hgo, if_neg hname.ne_up, follow]
    split_ifs with hlong
    · simp [hlong]
    · simp [hlong, eq_comm]
  rw [hsplit]
  constructor
  · intro h
    exact ⟨find?_of_follow h, (hstep (find?_of_follow h)).mp h⟩
  · rintro ⟨hfind, hrest⟩
    exact (hstep hfind).mpr hrest

/-- A name alone leads to what is in the directory that relative paths begin at. -/
theorem locate_of_isFileName (h : d.find? d.start = some .directory) {name : Text}
    (hname : IsFileName name) (hshort : isTooLong name = false) :
    d.locate name = .ok (name :: d.start) := by
  obtain ⟨c, rest, rfl⟩ := List.exists_cons_of_ne_nil hname.ne_nil
  have hc : c ≠ '/' := fun heq => hname.noSlash (heq ▸ List.mem_cons_self)
  rw [locate_cons hc]
  exact (follow_split_eq_ok_iff hname).mpr ⟨h, hshort, rfl⟩

theorem locate_append_name_eq_ok_iff {name : Text} (hname : IsFileName name) :
    d.locate (p ++ '/' :: name) = .ok location' ↔ ∃ location,
      d.LeadsTo (p ++ ['/']) location ∧ isTooLong name = false ∧ location' = name :: location := by
  simp only [locate_append_slash_eq_ok_iff, follow_split_eq_ok_iff hname, leadsTo_concat_slash_iff,
    and_assoc]

/-- A name in a directory leads to what is in it under this name, and nowhere else. -/
theorem locate_joinPath_eq_ok_iff {directory name : Text} (hdirectory : directory ≠ [])
    (hname : IsFileName name) : d.locate (joinPath directory name) = .ok location' ↔ ∃ location,
      d.LeadsTo directory location ∧ isTooLong name = false ∧ location' = name :: location := by
  rw [joinPath]
  split
  · next hslash =>
    have hlast : directory.getLast? = some '/' := by
      simpa [hdirectory, Text.endsWith] using hslash
    obtain ⟨p, rfl⟩ := List.getLast?_eq_some_iff.mp hlast
    rw [List.append_assoc, List.singleton_append]
    exact locate_append_name_eq_ok_iff hname
  · rw [locate_append_name_eq_ok_iff hname]
    refine exists_congr fun location => and_congr_left fun _ => ?_
    exact ⟨LeadsTo.of_concat_slash hdirectory, LeadsTo.concat_slash⟩

theorem LeadsTo.locate_joinPath {directory name : Text} (h : d.LeadsTo directory location)
    (hname : IsFileName name) (hshort : isTooLong name = false) :
    d.locate (joinPath directory name) = .ok (name :: location) :=
  (locate_joinPath_eq_ok_iff h.ne_nil hname).mpr ⟨location, h, hshort, rfl⟩

/-! ## Directories around a path -/

theorem splitPath_append_slash (p : Text) {q : Text} (hq : '/' ∉ q) :
    splitPath (p ++ '/' :: q) =
      (if (dropSlashes (p ++ ['/'])).isEmpty then p ++ ['/'] else dropSlashes (p ++ ['/']), q) := by
  have hspan : (p ++ '/' :: q).reverse.span (· != '/') = (q.reverse, '/' :: p.reverse) :=
    Text.span_eq_iff.mpr ⟨by simp,
      fun c hc => by simpa using ne_of_mem_of_not_mem (List.mem_reverse.mp hc) hq, by simp⟩
  rw [splitPath, hspan]
  simp

theorem splitPath_of_not_mem (hpath : '/' ∉ path) : splitPath path = ([], path) := by
  have hspan : path.reverse.span (· != '/') = (path.reverse, []) :=
    Text.span_eq_iff.mpr ⟨by simp,
      fun c hc => by simpa using ne_of_mem_of_not_mem (List.mem_reverse.mp hc) hpath, by simp⟩
  rw [splitPath, hspan]
  simp [dropSlashes, Text.trimEnd]

/-- A path is one without slashes, or has a last slash. -/
theorem exists_last_slash (path : Text) :
    '/' ∉ path ∨ ∃ p q, path = p ++ '/' :: q ∧ '/' ∉ q := by
  by_cases hpath : '/' ∈ path
  · obtain ⟨q, p, hsplit, hq⟩ := List.eq_append_cons_of_mem (List.mem_reverse.mpr hpath)
    refine Or.inr ⟨p.reverse, q.reverse, ?_, fun hmem => hq (List.mem_reverse.mp hmem)⟩
    rw [← List.reverse_reverse path, hsplit, List.reverse_append, List.reverse_cons,
      List.append_assoc, List.singleton_append]
  · exact Or.inl hpath

/-- What comes before the last slash of a path to a directory leads to a directory. -/
theorem isDirectory_splitPath (h : d.isDirectory path = true) (hhead : (splitPath path).1 ≠ []) :
    d.isDirectory (splitPath path).1 = true := by
  obtain ⟨hnull, location, hleads⟩ := isDirectory_iff.mp h
  rcases exists_last_slash path with hpath | ⟨p, q, rfl, hq⟩
  · rw [splitPath_of_not_mem hpath] at hhead
    exact absurd rfl hhead
  · obtain ⟨outer, houter⟩ := exists_leadsTo_slash hleads.locate
    rw [splitPath_append_slash p hq]
    refine isDirectory_iff.mpr ⟨fun hmem => hnull ?_, outer, houter.ite_dropSlashes⟩
    have hmem' : Char.ofNat 0 ∈ p ++ ['/'] := by
      dsimp only at hmem
      split at hmem
      · exact hmem
      · exact (Place.trimEnd_prefix _ _).subset hmem
    rw [← List.singleton_append, ← List.append_assoc]
    exact List.mem_append_left q hmem'

theorem isDirectory_parent (h : d.isDirectory path = true) (hhead : (parentAndName path).1 ≠ []) :
    d.isDirectory (parentAndName path).1 = true := by
  unfold parentAndName at hhead ⊢
  split at hhead
  · next head hsplit =>
    have hmiddle : head ≠ [] := by
      rintro rfl
      exact hhead rfl
    have hsome := isDirectory_splitPath h (by rwa [hsplit])
    rw [hsplit] at hsome
    exact isDirectory_splitPath hsome hhead
  · exact isDirectory_splitPath h hhead

/-! ## Making directories -/

theorem makeDirectory_of_isDirectory (h : d.isDirectory path = true) :
    d.makeDirectory path = .error .exists := by
  obtain ⟨_, location, hleads⟩ := isDirectory_iff.mp h
  have hbare := hleads.ite_dropSlashes
  rw [makeDirectory, hbare.locate]
  simp only [bind, Except.bind, hbare.find]

/-- **A directory that is there** is not made again. -/
theorem makeDirectories_of_isDirectory (h : d.isDirectory path = true) :
    d.makeDirectories path = .ok d := by
  have hparent : (!(parentAndName path).1.isEmpty && !(parentAndName path).2.isEmpty &&
      !d.isThere (parentAndName path).1) = false := by
    by_cases hhead : (parentAndName path).1 = []
    · rw [hhead]
      rfl
    · rw [isThere, isDirectory_parent h hhead]
      simp
  rw [makeDirectories, makeDirectoriesWith]
  dsimp only
  rw [hparent, if_neg Bool.false_ne_true, makeDirectory_of_isDirectory h]
  simp only [h, if_true]

theorem dropSlashes_of_isFileName {name : Text} (hname : IsFileName name) :
    dropSlashes name = name := by
  obtain ⟨p, c, rfl⟩ := (List.eq_nil_or_concat' name).resolve_left hname.ne_nil
  refine dropSlashes_concat (fun hc => hname.noSlash ?_) p
  rw [hc]
  exact List.mem_append_right p List.mem_cons_self

/-- A directory is made under a name that nothing has. -/
theorem makeDirectories_of_isFileName (h : d.find? d.start = some .directory) {name : Text}
    (hname : IsFileName name) (hshort : isTooLong name = false)
    (hfree : d.find? (name :: d.start) = none) :
    d.makeDirectories name = .ok (d.put (name :: d.start) .directory) := by
  have hparent : parentAndName name = ([], name) := by
    rw [parentAndName, splitPath_of_not_mem hname.noSlash]
    split
    · next heq => exact absurd (congrArg Prod.snd heq) hname.ne_nil
    · rfl
  have hmake : d.makeDirectory name = .ok (d.put (name :: d.start) .directory) := by
    rw [makeDirectory, dropSlashes_of_isFileName hname, ite_self,
      locate_of_isFileName h hname hshort]
    simp only [bind, Except.bind, hfree, List.drop_one, List.tail_cons, h]
  rw [makeDirectories, makeDirectoriesWith, hparent]
  dsimp only
  rw [List.isEmpty_nil, Bool.not_true, Bool.false_and, Bool.false_and, if_neg Bool.false_ne_true,
    hmake]

/-! ## What stays on a disk -/

/-- What is on a disk is on a later one too, but for the files at changed locations. -/
structure Keeps (d d' : Disk) (changed : Set Location) : Prop where
  start : d'.start = d.start
  find : ∀ location entry, d.find? location = some entry →
    (entry = .directory ∨ location ∉ changed) → d'.find? location = some entry

variable {d' d'' : Disk} {changed : Set Location}

theorem Keeps.refl (d : Disk) (changed : Set Location) : d.Keeps d changed :=
  ⟨rfl, fun _ _ h _ => h⟩

theorem Keeps.trans (h : d.Keeps d' changed) (h' : d'.Keeps d'' changed) : d.Keeps d'' changed :=
  ⟨h'.start.trans h.start, fun location entry hfind hkept =>
    h'.find location entry (h.find location entry hfind hkept) hkept⟩

theorem keeps_put_of_none (h : d.find? location = none) (entry : DiskEntry) :
    d.Keeps (d.put location entry) changed := by
  refine ⟨rfl, fun location' entry' hfind _ => ?_⟩
  rw [find?_put_of_ne, hfind]
  rintro rfl
  rw [h] at hfind
  cases hfind

theorem keeps_put_file (h : d.find? location ≠ some .directory) (hchanged : location ∈ changed)
    (bytes : List UInt8) : d.Keeps (d.put location (.file bytes)) changed := by
  refine ⟨rfl, fun location' entry hfind hkept => ?_⟩
  rw [find?_put_of_ne, hfind]
  rintro rfl
  rcases hkept with rfl | hkept
  · exact h hfind
  · exact hkept hchanged

theorem find?_put_file_ne_directory (h : d.find? location ≠ some .directory)
    (location' : Location) (bytes : List UInt8) :
    (d.put location' (.file bytes)).find? location ≠ some .directory := by
  rw [find?_put]
  split
  · exact nofun
  · exact h

theorem keeps_putFiles {files : List (Location × List UInt8)}
    (hfree : ∀ file ∈ files, d.find? file.1 ≠ some .directory)
    (hchanged : ∀ file ∈ files, file.1 ∈ changed) : d.Keeps (d.putFiles files) changed := by
  induction files generalizing d with
  | nil => exact .refl d changed
  | cons file files ih =>
    rw [List.forall_mem_cons] at hfree hchanged
    refine (keeps_put_file hfree.1 hchanged.1 file.2).trans (ih (fun f hf => ?_) hchanged.2)
    exact find?_put_file_ne_directory (hfree.2 f hf) file.1 file.2

theorem makeDirectory_eq_ok (h : d.makeDirectory path = .ok d') :
    ∃ location, d.find? location = none ∧ d' = d.put location .directory := by
  rw [makeDirectory] at h
  rcases hlocate : d.locate (if (dropSlashes path).isEmpty then path else dropSlashes path) with
    problem | location
  · rw [hlocate] at h
    cases h
  · rw [hlocate] at h
    simp only [bind, Except.bind] at h
    exact ⟨location, by grind⟩

theorem keeps_makeDirectory (h : d.makeDirectory path = .ok d') : d.Keeps d' changed := by
  obtain ⟨location, hfind, rfl⟩ := makeDirectory_eq_ok h
  exact keeps_put_of_none hfind .directory

/-- What making directories does: the one around the path is made first, if at all, and then the
path is made, if at all. -/
theorem makeDirectoriesWith_eq_ok {fuel : Nat}
    (h : d.makeDirectoriesWith (fuel + 1) path = .ok d') :
    ∃ d₁, (d₁ = d ∨ d.makeDirectoriesWith fuel (parentAndName path).1 = .ok d₁) ∧
      (d' = d₁ ∨ d₁.makeDirectory path = .ok d') := by
  rw [makeDirectoriesWith] at h
  dsimp only at h
  split at h
  · split at h
    · next d₁ hmade => exact ⟨d₁, Or.inr hmade, by grind⟩
    · exact ⟨d, Or.inl rfl, by grind⟩
    · cases h
  · exact ⟨d, Or.inl rfl, by grind⟩

/-- What holds of a disk holds when directories are made, if making one keeps it. -/
theorem makeDirectoriesWith_induction {P : Disk → Prop}
    (hstep : ∀ {d d' : Disk} {path : Text}, P d → d.makeDirectory path = .ok d' → P d')
    {fuel : Nat} (hd : P d) (h : d.makeDirectoriesWith fuel path = .ok d') : P d' := by
  induction fuel generalizing d' path with
  | zero =>
    cases h
    exact hd
  | succ fuel ih =>
    obtain ⟨d₁, hparent, hmade⟩ := makeDirectoriesWith_eq_ok h
    have hd₁ : P d₁ := by
      rcases hparent with rfl | hparent
      · exact hd
      · exact ih hparent
    rcases hmade with rfl | hmade
    · exact hd₁
    · exact hstep hd₁ hmade

/-- **Making directories** leaves all that is on the disk where it is. -/
theorem keeps_makeDirectories (h : d.makeDirectories path = .ok d') : d.Keeps d' changed :=
  makeDirectoriesWith_induction (P := fun made => d.Keeps made changed)
    (fun hkept hmade => hkept.trans (keeps_makeDirectory hmade)) (.refl d changed) h

theorem Keeps.follow (h : d.Keeps d' changed) {names : List Text}
    (hfollow : d.follow location names = .ok location') :
    d'.follow location names = .ok location' := by
  induction names generalizing location with
  | nil => exact hfollow
  | cons name names ih =>
    have hfind := find?_of_follow hfollow
    rw [follow_of_directory hfind] at hfollow
    rw [follow_of_directory (h.find _ _ hfind (Or.inl rfl))]
    split_ifs at hfollow ⊢
    · exact ih hfollow
    · exact ih hfollow
    · exact ih hfollow

/-- A path leads where it did. -/
theorem Keeps.locate (h : d.Keeps d' changed) (hlocate : d.locate path = .ok location) :
    d'.locate path = .ok location := by
  unfold Disk.locate at hlocate ⊢
  split at hlocate
  · cases hlocate
  · exact h.follow hlocate
  · rw [h.start]
    exact h.follow hlocate

theorem Keeps.isDirectory (h : d.Keeps d' changed) (hpath : d.isDirectory path = true) :
    d'.isDirectory path = true := by
  obtain ⟨hnull, location, hlocate, hfind⟩ := isDirectory_iff.mp hpath
  exact isDirectory_iff.mpr ⟨hnull, location, h.locate hlocate, h.find _ _ hfind (Or.inl rfl)⟩

/-- A file is written where its path leads, unless a directory is there. -/
theorem writeFile_eq_ok {bytes : List UInt8} (h : d.writeFile path bytes = .ok d') :
    ∃ location, d.locate path = .ok location ∧ d.find? location ≠ some .directory ∧
      d' = d.put location (.file bytes) := by
  rw [writeFile] at h
  rcases hlocate : d.locate path with problem | location
  · rw [hlocate] at h
    cases h
  · rw [hlocate] at h
    simp only [bind, Except.bind] at h
    exact ⟨location, rfl, by grind⟩

theorem writeFile_of_locate (h : d.locate path = .ok location) {outer : Location} {name : Text}
    (hlocation : location = name :: outer) (houter : d.find? outer = some .directory)
    (hfree : d.find? location ≠ some .directory) (bytes : List UInt8) :
    d.writeFile path bytes = .ok (d.put location (.file bytes)) := by
  subst hlocation
  rw [writeFile, h]
  simp only [bind, Except.bind, List.drop_one, List.tail_cons, houter]
  rcases hfind : d.find? (name :: outer) with _ | _ | _
  · rfl
  · rfl
  · exact absurd hfind hfree

end Disk

end HtmlMarkdown
