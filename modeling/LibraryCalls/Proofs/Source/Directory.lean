import LibraryCalls.Proofs.Assoc
import LibraryCalls.Proofs.Files.Selection
import LibraryCalls.Proofs.Files.Stem
import LibraryCalls.Proofs.Source.Containment
import LibraryCalls.Source.Fetch

/-!
# All descriptors of a directory, and one of them

A directory is loaded by the stems of its files, and a single descriptor is fetched from the file
whose name is the library's with the extension behind it.  The two agree for the files whose stem
leads back to their name.

The loader makes an entry for each file and puts later entries in the place of earlier ones with the
same stem.  For the entry that stays, the question is whether fetching the text by its name finds
the same file; it does if the stem with the extension behind it is the name of the file again.  The
one other case is a file whose name is nothing but the extension, which is found by the name of the
file in which it is written twice.

So the two ways of reading a directory agree on all files but these, and an entry always stems from
one of the files with its stem.

* `Loads`: what the file at a path holds; `Descriptor.parse_name`: the name does not matter;
* `outcome_loadFiles_cons`, `exists_pairs_of_loadFiles`, `get?_loadFiles_of_mem`: the entries that
  are made;
* `DirectoryLoaded`, `directoryLoaded`: the entries of a directory, and the texts that are fetched.
-/

namespace LibraryCalls

open Text FileTree

variable {settings : Settings} {files : FileTree} {directory path : Path} {paths : List Path}
  {loaded made : Assoc String Descriptor} {library name : String} {d : Descriptor}

/-! ### Files -/

theorem exists_ok_of_map_toOption {ε α β : Type} {x : Except ε α} {f : α → β} {b : β}
    (h : x.toOption.map f = some b) : ∃ a, x = .ok a ∧ f a = b := by
  cases x with
  | error e => cases h
  | ok a => exact ⟨a, rfl, Option.some.inj h⟩

def Loads (files : FileTree) (path : Path) (d : Descriptor) : Prop :=
  ∃ text, files.readText path = .ok text ∧ ∀ name, Descriptor.parse name text = .ok d

/-- The name of a library is of no account for what its text says. -/
theorem Descriptor.parse_name {label label' : Option String} {text : String}
    (h : Descriptor.parse label text = .ok d) : Descriptor.parse label' text = .ok d := by
  rw [Descriptor.parse] at h ⊢
  split at h
  · cases h
  · cases h
  · next members hjson =>
    rw [mapError_eq_ok_iff, Descriptor.ofJson, mapError_eq_ok_iff] at h ⊢
    exact h
  · cases h

theorem Loads.unique {d' : Descriptor} (h : Loads files path d) (h' : Loads files path d') :
    d = d' := by
  obtain ⟨text, htext, hparse⟩ := h
  obtain ⟨text', htext', hparse'⟩ := h'
  obtain rfl := Except.ok.inj (htext.symm.trans htext')
  exact Except.ok.inj ((hparse none).symm.trans (hparse' none))

/-- **Loading files one after another** makes one entry for each, by its stem. -/
theorem outcome_loadFiles_cons :
    (loadFiles files made (path :: paths)).outcome = .ok loaded ↔
      ∃ d, Loads files path d ∧
        (loadFiles files (made.set (Path.stem path.name) d) paths).outcome = .ok loaded := by
  have hparse : ∀ text d, Descriptor.parse (some (Path.stem path.name)) text = .ok d ↔
      ∀ label, Descriptor.parse label text = .ok d :=
    fun text d => ⟨fun h _ => Descriptor.parse_name h, fun h => h _⟩
  rw [loadFiles, Traced.outcome_bind_ok rfl]
  simp only [Traced.outcome_bind_eq_ok_iff, Traced.ofExcept, mapError_eq_ok_iff, hparse, Loads]
  constructor
  · rintro ⟨text, htext, d, hd, hrest⟩
    exact ⟨d, ⟨text, htext, hd⟩, hrest⟩
  · rintro ⟨d, ⟨text, htext, hd⟩, hrest⟩
    exact ⟨text, htext, d, hd, hrest⟩

def stems (paths : List Path) : List String :=
  paths.map fun path => Path.stem path.name

theorem exists_pairs_of_loadFiles (h : (loadFiles files made paths).outcome = .ok loaded) :
    ∃ pairs : Assoc String Descriptor, pairs.keys = stems paths ∧ loaded = made.setAll pairs := by
  induction paths generalizing made with
  | nil => exact ⟨[], rfl, (Except.ok.inj h).symm⟩
  | cons path rest ih =>
    obtain ⟨d, -, hrest⟩ := outcome_loadFiles_cons.1 h
    obtain ⟨pairs, hkeys, hloaded⟩ := ih hrest
    refine ⟨(Path.stem path.name, d) :: pairs, ?_, hloaded⟩
    rw [Assoc.keys_cons, hkeys]
    rfl

theorem nodup_keys_loadFiles (hmade : made.keys.Nodup)
    (h : (loadFiles files made paths).outcome = .ok loaded) : loaded.keys.Nodup := by
  obtain ⟨pairs, -, rfl⟩ := exists_pairs_of_loadFiles h
  exact Assoc.nodup_keys_setAll hmade

theorem mem_keys_loadFiles (h : (loadFiles files made paths).outcome = .ok loaded) :
    name ∈ loaded.keys ↔ name ∈ made.keys ∨ ∃ path ∈ paths, Path.stem path.name = name := by
  obtain ⟨pairs, hkeys, rfl⟩ := exists_pairs_of_loadFiles h
  rw [Assoc.mem_keys_setAll, hkeys, stems, List.mem_map]

/-- An entry stays as long as the files of the same stem hold the same descriptor. -/
theorem get?_loadFiles_of_get? (hmade : made.get? name = some d)
    (hsame : ∀ path ∈ paths, Path.stem path.name = name → Loads files path d)
    (h : (loadFiles files made paths).outcome = .ok loaded) : loaded.get? name = some d := by
  induction paths generalizing made with
  | nil => exact Except.ok.inj h ▸ hmade
  | cons path rest ih =>
    obtain ⟨d', hd', hrest⟩ := outcome_loadFiles_cons.1 h
    refine ih ?_ (fun q hq => hsame q (List.mem_cons_of_mem path hq)) hrest
    by_cases hname : Path.stem path.name = name
    · rw [← hname, Assoc.get?_set_self, hd'.unique (hsame path List.mem_cons_self hname)]
    · rw [Assoc.get?_set_of_ne made d' (Ne.symm hname)]
      exact hmade

/-- **The entry of a file** that is the last one of its stem. -/
theorem get?_loadFiles_of_mem {R : Path → Path → Prop} (hsorted : paths.Pairwise R)
    (hmem : path ∈ paths)
    (hlast : ∀ q ∈ paths, R path q → Path.stem q.name = Path.stem path.name → q = path)
    (h : (loadFiles files made paths).outcome = .ok loaded) :
    ∃ d, Loads files path d ∧ loaded.get? (Path.stem path.name) = some d := by
  induction paths generalizing made with
  | nil => exact absurd hmem List.not_mem_nil
  | cons p rest ih =>
    obtain ⟨d, hd, hrest⟩ := outcome_loadFiles_cons.1 h
    obtain ⟨hfirst, hsorted⟩ := List.pairwise_cons.1 hsorted
    rcases List.mem_cons.1 hmem with rfl | hmem
    · refine ⟨d, hd, get?_loadFiles_of_get? (Assoc.get?_set_self made _ d) ?_ hrest⟩
      intro q hq hstem
      rw [hlast q (List.mem_cons_of_mem path hq) (hfirst q hq) hstem]
      exact hd
    · exact ih hsorted hmem (fun q hq => hlast q (List.mem_cons_of_mem p hq)) hrest

theorem outcome_loadDirectory_eq_ok_iff :
    (loadDirectory settings files directory).outcome = .ok loaded ↔
      ∃ paths, files.select directory ("*." ++ settings.extension) = .ok paths ∧
        (loadFiles files [] paths).outcome = .ok loaded := by
  rw [loadDirectory, Traced.outcome_bind_eq_ok_iff]
  simp only [Traced.ofExcept, mapError_eq_ok_iff, descriptorPaths]

/-! ### A directory -/

/-- What the entries of a loaded directory have to do with its files and with the texts that are
fetched by their names. -/
structure DirectoryLoaded (settings : Settings) (files : FileTree) (directory : Path)
    (loaded : Assoc String Descriptor) : Prop where
  /-- No name stands twice. -/
  nodup : loaded.keys.Nodup
  /-- The names are the stems of the files with the extension. -/
  names : ∀ name, name ∈ loaded.keys ↔
    ∃ file ∈ files.namesWith directory settings.extension, Path.stem file = name
  /-- Only the bare extension and the extension written twice share an entry. -/
  shared : ∀ file ∈ files.namesWith directory settings.extension,
    ∀ file' ∈ files.namesWith directory settings.extension,
    Path.stem file = Path.stem file' → file = file' ∨ '.' ∉ settings.extension.toList ∧
      (file = settings.fileName "" ∧ file' = settings.fileName (settings.fileName "") ∨
        file' = settings.fileName "" ∧ file = settings.fileName (settings.fileName ""))
  /-- Every entry comes from its file; one that is shared, from the extension written twice. -/
  entry : ∀ file ∈ files.namesWith directory settings.extension,
    (file = settings.fileName "" → '.' ∈ settings.extension.toList ∨
      settings.fileName (settings.fileName "") ∉ files.namesWith directory settings.extension) →
    ∃ d, Loads files (below directory file) d ∧ loaded.get? (Path.stem file) = some d
  /-- A single descriptor is looked for in the file of its entry exactly if its stem leads back. -/
  path : ∀ file ∈ files.namesWith directory settings.extension,
    descriptorPath settings directory (Path.stem file) = below directory file ↔
      '.' ∉ settings.extension.toList ∧ file ≠ settings.fileName ""
  /-- In that case the text that is fetched says what the entry says. -/
  fetched : '.' ∉ settings.extension.toList →
    ∀ file ∈ files.namesWith directory settings.extension, file ≠ settings.fileName "" →
    ∃ text d, (∀ follow web, (fetchText settings files follow web (Path.stem file)
        (.directory directory)).outcome = .ok text) ∧
      (∀ label, Descriptor.parse label text = .ok d) ∧ loaded.get? (Path.stem file) = some d

theorem Path.name_below (directory : Path) (file : String) :
    (below directory file).name = file := by
  simp [below, Path.name]

theorem below_inj {file file' : String} (h : below directory file = below directory file') :
    file = file' := by
  rw [← Path.name_below directory file, h, Path.name_below]

/-- The path of a descriptor whose file name holds no slash. -/
theorem descriptorPath_of_not_mem (hne : settings.extension ≠ "")
    (hslash : '/' ∉ (settings.fileName library).toList) (directory : Path) :
    descriptorPath settings directory library = below directory (settings.fileName library) := by
  have hlong : ∀ text : String, text.toList.length < 2 → settings.fileName library ≠ text := by
    rintro text hlen rfl
    have hext := List.length_pos_iff.2 (mt String.toList_eq_nil_iff.1 hne)
    simp only [Settings.toList_fileName, List.length_append, List.length_cons] at hlen
    omega
  rw [descriptorPath,
    Path.ofString_of_not_mem hslash (hlong "" (by decide)) (hlong "." (by decide))]
  simp [Path.join, Path.isAbsolute, below]

/-- Where a single descriptor is looked for by the stem of a file. -/
theorem descriptorPath_stem_eq_iff (hne : settings.extension ≠ "")
    (hslash : '/' ∉ (settings.fileName library).toList) (directory : Path) :
    descriptorPath settings directory (Path.stem (settings.fileName library))
        = below directory (settings.fileName library) ↔
      '.' ∉ settings.extension.toList ∧ library ≠ "" := by
  have hstem : '/' ∉ (settings.fileName (Path.stem (settings.fileName library))).toList := by
    intro hmem
    rcases Settings.mem_fileName.1 hmem with hmem | hmem
    · exact hslash (Path.mem_of_mem_stem hmem)
    · exact hslash (Settings.mem_fileName.2 (.inr hmem))
  rw [descriptorPath_of_not_mem hne hstem, ← Settings.fileName_stem_eq_iff hne]
  exact ⟨below_inj, congrArg _⟩

/-- Two files with the same stem are the same, or one of the two with the bare extension. -/
theorem eq_or_eq_of_stem_eq {file file' : String} (hne : settings.extension ≠ "")
    (hfile : file ∈ files.namesWith directory settings.extension)
    (hfile' : file' ∈ files.namesWith directory settings.extension)
    (h : Path.stem file = Path.stem file') :
    file = file' ∨ '.' ∉ settings.extension.toList ∧
      (file = settings.fileName "" ∧ file' = settings.fileName (settings.fileName "") ∨
        file' = settings.fileName "" ∧ file = settings.fileName (settings.fileName "")) := by
  obtain ⟨library, rfl⟩ := Settings.exists_fileName_of_suffix (mem_namesWith.1 hfile).2
  obtain ⟨library', rfl⟩ := Settings.exists_fileName_of_suffix (mem_namesWith.1 hfile').2
  rcases (Settings.stem_eq_stem_iff hne library library').1 h with
    rfl | ⟨hdot, ⟨rfl, rfl⟩ | ⟨rfl, rfl⟩⟩
  · exact .inl rfl
  · exact .inr ⟨hdot, .inl ⟨rfl, rfl⟩⟩
  · exact .inr ⟨hdot, .inr ⟨rfl, rfl⟩⟩

/-- The entry of a file comes from it, unless a file that comes later has the same stem. -/
theorem exists_entry_of_mem (hne : settings.extension ≠ "")
    (hplain : IsPlain settings.extension.toList)
    (h : (loadDirectory settings files directory).outcome = .ok loaded) {file : String}
    (hfile : file ∈ files.namesWith directory settings.extension)
    (hbare : file = settings.fileName "" → '.' ∈ settings.extension.toList ∨
      settings.fileName (settings.fileName "") ∉ files.namesWith directory settings.extension) :
    ∃ d, Loads files (below directory file) d ∧ loaded.get? (Path.stem file) = some d := by
  obtain ⟨paths, hselect, hloaded⟩ := outcome_loadDirectory_eq_ok_iff.1 h
  obtain ⟨hmem, hsorted⟩ := select_star hplain hselect
  have hlast : ∀ q ∈ paths, comesBefore (below directory file).names q.names = true →
      Path.stem q.name = Path.stem (below directory file).name → q = below directory file := by
    intro q hq hbefore hstem
    obtain ⟨file', hfile', rfl⟩ := (hmem q).1 hq
    rw [Path.name_below, Path.name_below] at hstem
    rcases eq_or_eq_of_stem_eq hne hfile hfile' hstem.symm with
      rfl | ⟨hdot, ⟨hone, htwo⟩ | ⟨hone, htwo⟩⟩
    · rfl
    · rcases hbare hone with hdot' | hno
      · exact absurd hdot' hdot
      · exact absurd (htwo ▸ hfile') hno
    · -- the bare extension would come after the extension written twice
      have hle : file ≤ file' := comesBefore_snoc.1 hbefore
      rw [hone, htwo] at hle
      exact absurd (Settings.fileName_lt_fileName settings) (not_lt_of_ge hle)
  obtain ⟨d, hd, hget⟩ :=
    get?_loadFiles_of_mem hsorted ((hmem _).2 ⟨file, hfile, rfl⟩) hlast hloaded
  rw [Path.name_below] at hget
  exact ⟨d, hd, hget⟩

/-- **All descriptors of a directory, and one of them.**  For an extension that is not empty and
holds neither a slash nor a character with a meaning in patterns, the entries of a directory are
those of its files, and the texts that are fetched by their names are the ones that the entries were
read from. -/
theorem directoryLoaded (hne : settings.extension ≠ "") (hplain : IsPlain settings.extension.toList)
    (hnames : ∀ name ∈ files.children directory, '/' ∉ name.toList)
    (h : (loadDirectory settings files directory).outcome = .ok loaded) :
    DirectoryLoaded settings files directory loaded := by
  obtain ⟨paths, hselect, hloaded⟩ := outcome_loadDirectory_eq_ok_iff.1 h
  obtain ⟨hmem, -⟩ := select_star hplain hselect
  have hpath : ∀ file ∈ files.namesWith directory settings.extension,
      descriptorPath settings directory (Path.stem file) = below directory file ↔
        '.' ∉ settings.extension.toList ∧ file ≠ settings.fileName "" := by
    intro file hfile
    obtain ⟨hchild, hsuffix⟩ := mem_namesWith.1 hfile
    obtain ⟨library, rfl⟩ := Settings.exists_fileName_of_suffix hsuffix
    rw [descriptorPath_stem_eq_iff hne (hnames _ hchild)]
    exact and_congr_right fun _ => ⟨mt Settings.fileName_inj, mt fun hlib => hlib ▸ rfl⟩
  have hempty : Assoc.keys ([] : Assoc String Descriptor) = [] := rfl
  refine ⟨nodup_keys_loadFiles (hempty ▸ List.nodup_nil) hloaded, ?_, ?_, ?_, hpath, ?_⟩
  · intro name
    rw [mem_keys_loadFiles hloaded]
    constructor
    · rintro (hnil | ⟨path, hp, hstem⟩)
      · exact absurd hnil List.not_mem_nil
      · obtain ⟨file, hfile, rfl⟩ := (hmem path).1 hp
        exact ⟨file, hfile, by rwa [Path.name_below] at hstem⟩
    · rintro ⟨file, hfile, hstem⟩
      exact .inr ⟨_, (hmem _).2 ⟨file, hfile, rfl⟩, by rwa [Path.name_below]⟩
  · exact fun file hfile file' hfile' => eq_or_eq_of_stem_eq hne hfile hfile'
  · exact fun file hfile => exists_entry_of_mem hne hplain h hfile
  · intro hdot file hfile hbare
    obtain ⟨d, ⟨text, htext, hparse⟩, hget⟩ :=
      exists_entry_of_mem hne hplain h hfile fun heq => absurd heq hbare
    refine ⟨text, d, fun follow web => ?_, hparse, hget⟩
    rw [outcome_fetchText_directory, (hpath file hfile).2 ⟨hdot, hbare⟩]
    exact htext

/-- A directory with one descriptor. -/
theorem directoryLoaded_single :
    let files := FileTree.ofEntries [] [(["libs", "a.json"], .file (encode "\x7b\x7d"))]
    ∃ loaded, (loadDirectory .standard files (Path.ofString "libs")).outcome = .ok loaded ∧
      "a" ∈ loaded.keys ∧ DirectoryLoaded .standard files (Path.ofString "libs") loaded := by
  intro files
  have hkeys : (loadDirectory .standard files (Path.ofString "libs")).outcome.toOption.map
      Assoc.keys = some ["a"] := by decide +kernel
  obtain ⟨loaded, hloaded, hnames⟩ := exists_ok_of_map_toOption hkeys
  have hplain : IsPlain Settings.standard.extension.toList := by
    simp [IsPlain, Settings.standard]
  exact ⟨loaded, hloaded, by simp [hnames],
    directoryLoaded (by decide) hplain (by decide +kernel) hloaded⟩

/-- Loading and fetching do not always agree: the bare extension is loaded under its own name, an
extension is cut at its dot, and the extension written twice takes the entry of the bare one. -/
theorem loadDirectory_disagrees :
    let settings : Settings := { Settings.standard with extension := "lib.json" }
    let libs := Path.ofString "libs"
    let text : Entry := .file (encode "\x7b\x7d")
    let bare := FileTree.ofEntries [] [(["libs", ".json"], text)]
    let dotted := FileTree.ofEntries [] [(["libs", "a.lib.json"], text)]
    let both := FileTree.ofEntries [] [(["libs", ".json"], text), (["libs", ".json.json"], text)]
    (∃ loaded, (loadDirectory .standard bare libs).outcome = .ok loaded ∧
        loaded.keys = [".json"] ∧
        (fetchText .standard bare false { answers := [] } ".json" (.directory libs)).outcome
          = .error (.unknownLibrary ".json")) ∧
      (∃ loaded, (loadDirectory settings dotted libs).outcome = .ok loaded ∧
        loaded.keys = ["a.lib"] ∧
        (fetchText settings dotted false { answers := [] } "a.lib" (.directory libs)).outcome
          = .error (.unknownLibrary "a.lib")) ∧
      ∃ loaded, (loadDirectory .standard both libs).outcome = .ok loaded ∧
        loaded.keys = [".json"] ∧ both.namesWith libs "json" = [".json", ".json.json"] := by
  intro settings libs text bare dotted both
  refine ⟨?_, ?_, ?_⟩
  · have hkeys : (loadDirectory .standard bare libs).outcome.toOption.map Assoc.keys
        = some [".json"] := by decide +kernel
    obtain ⟨loaded, hloaded, hnames⟩ := exists_ok_of_map_toOption hkeys
    exact ⟨loaded, hloaded, hnames, by decide +kernel⟩
  · have hkeys : (loadDirectory settings dotted libs).outcome.toOption.map Assoc.keys
        = some ["a.lib"] := by decide +kernel
    obtain ⟨loaded, hloaded, hnames⟩ := exists_ok_of_map_toOption hkeys
    exact ⟨loaded, hloaded, hnames, by decide +kernel⟩
  · have hselect : both.select libs ("*." ++ Settings.standard.extension)
        = .ok [below libs ".json", below libs ".json.json"] := by
      have hsteps : Selection.ofText ("*." ++ Settings.standard.extension)
          = .ok ⟨[.matching (Pattern.ofText "*.json".toList)], false⟩ := by decide +kernel
      have hthere : both.leadsToDirectory libs = .ok true := by decide +kernel
      have hfound : both.selectFrom false [.matching (Pattern.ofText "*.json".toList)] libs
          = .ok [below libs ".json", below libs ".json.json"] := by decide +kernel
      simp only [select, hsteps, hthere, hfound, bind, Except.bind, Except.mapError, Bool.not_true,
        Bool.false_eq_true, if_false, Except.ok.injEq]
      exact List.mergeSort_of_pairwise (List.pairwise_pair.2 (by decide +kernel))
    have hkeys : (loadFiles both []
        [below libs ".json", below libs ".json.json"]).outcome.toOption.map Assoc.keys
          = some [".json"] := by decide +kernel
    obtain ⟨loaded, hloaded, hnames⟩ := exists_ok_of_map_toOption hkeys
    exact ⟨loaded, outcome_loadDirectory_eq_ok_iff.2 ⟨_, hselect, hloaded⟩, hnames,
      by decide +kernel⟩

end LibraryCalls
