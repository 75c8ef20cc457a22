import LibraryCalls.Proofs.Assoc
import LibraryCalls.Proofs.Files.Selection
import LibraryCalls.Proofs.Files.Stem
import LibraryCalls.Proofs.Placeholder.Names
import LibraryCalls.Proofs.Source.Directory
import LibraryCalls.Source.Fetch
import Mathlib.Data.List.Lex
import Mathlib.Data.List.Nodup
import Mathlib.Data.String.Basic

/-!
# The order of the descriptors of a directory

The files of a directory are put in order by their names, and their descriptors are listed under the
stems of these names.  A stem is shorter than its name, so the stems need not be in order: the dot
behind a stem is compared with whatever stands there in a longer name.

Files are compared by their whole names, names without the extension are shorter, and so the
comparison may be decided by the dot.  If neither stem begins the other one, the first character in
which they differ decides both comparisons; if one does, the character behind it in the longer name
is compared with the dot.  A hyphen, a plus sign or a blank comes before it.

The condition for ascending names is given file by file and can be checked against the directory.
Events and descriptors are in the order of the files in any case.

* `stem_lt_or_exists`: the stems of two files in order;
* `steps_loadFiles`, `keys_loadFiles`: what is announced and what is listed;
* `pairwise_stems_iff`: when the stems of files in order ascend;
* `ListedByPath`, `loadDirectory_listed`: the order of the files, of the announcements and of the
  names, and when the names ascend;
* `loadDirectory_not_ascending`: names that do not ascend.
-/

namespace LibraryCalls

open Text FileTree

/-! ### The order of stems -/

section

variable {cs ds : List Char}

/-- A text before another one that does not continue it is before it whatever follows the two. -/
theorem append_lt_append_of_not_isPrefix (h : cs < ds) (hbegins : ¬ cs <+: ds) (xs ys : List Char) :
    cs ++ xs < ds ++ ys := by
  induction cs generalizing ds with
  | nil => exact absurd List.nil_prefix hbegins
  | cons c cs ih =>
    cases ds with
    | nil => exact absurd h (List.not_lt_nil _)
    | cons d ds =>
      rw [List.cons_append, List.cons_append, List.cons_lt_cons_iff]
      rcases List.cons_lt_cons_iff.1 h with hcd | ⟨rfl, hrest⟩
      · exact .inl hcd
      · exact .inr ⟨rfl, ih hrest fun hp => hbegins (List.cons_prefix_cons.2 ⟨rfl, hp⟩)⟩

theorem lt_of_append_lt_append {xs ys : List Char} (h : cs ++ xs < cs ++ ys) : xs < ys := by
  induction cs with
  | nil => exact h
  | cons c cs ih => exact ih (List.cons_lt_cons_self.1 h)

end

namespace Path

/-- **The stems of two files in order** are in order too, unless the first one continues the second
one with a character up to the dot, or is the same. -/
theorem stem_lt_or_exists {file file' : String} (h : file < file') :
    stem file < stem file' ∨ ∃ rest, (stem file).toList = (stem file').toList ++ rest ∧
      ∀ c ∈ rest.head?, c ≤ '.' := by
  obtain ⟨ending, hfile, -⟩ := exists_ending file
  obtain ⟨ending', hfile', hdot⟩ := exists_ending file'
  rw [String.lt_iff_toList_lt, hfile, hfile'] at h
  by_cases hbegins : (stem file').toList <+: (stem file).toList
  · obtain ⟨rest, hrest⟩ := hbegins
    refine .inr ⟨rest, hrest.symm, fun c hc => ?_⟩
    obtain ⟨rest, rfl⟩ := List.head?_eq_some_iff.1 hc
    -- behind the shorter stem, `c` is compared with the dot before the extension
    rw [← hrest, List.append_assoc] at h
    have hbehind := lt_of_append_lt_append h
    cases ending' with
    | nil => exact absurd hbehind (List.not_lt_nil _)
    | cons d ending' =>
      obtain rfl : d = '.' := hdot d rfl
      rcases List.cons_lt_cons_iff.1 hbehind with hlt | ⟨heq, -⟩
      · exact le_of_lt hlt
      · exact le_of_eq heq
  · refine .inl (lt_of_not_ge fun hle => ?_)
    have hne : stem file' ≠ stem file := fun heq => hbegins (heq ▸ List.prefix_rfl)
    have hlt := String.lt_iff_toList_lt.1 (lt_of_le_of_ne hle hne)
    exact lt_asymm h (append_lt_append_of_not_isPrefix hlt hbegins ending' ending)

theorem le_of_isPrefix {name name' : String} (h : name.toList <+: name'.toList) : name ≤ name' := by
  obtain ⟨rest, hrest⟩ := h
  refine not_lt.1 fun hlt => ?_
  rw [String.lt_iff_toList_lt, ← hrest] at hlt
  exact List.le_append_left hlt

end Path

/-! ### What is announced and listed -/

variable {settings : Settings} {files : FileTree} {directory : Path} {paths : List Path}
  {loaded made : Assoc String Descriptor}

def announcement (path : Path) : Event :=
  .descriptorParse (Path.stem path.name) (some path.toString)

theorem steps_loadFiles (h : (loadFiles files made paths).outcome = .ok loaded) :
    (loadFiles files made paths).steps = paths.map announcement := by
  induction paths generalizing made with
  | nil => rfl
  | cons path rest ih =>
    rw [loadFiles, Traced.outcome_bind_ok rfl, Traced.outcome_bind_eq_ok_iff] at h
    obtain ⟨text, htext, h⟩ := h
    obtain ⟨d, hd, h⟩ := Traced.outcome_bind_eq_ok_iff.1 h
    rw [loadFiles, Traced.steps_bind_ok rfl, Traced.steps_bind_ok htext, Traced.steps_bind_ok hd,
      ih h]
    rfl

theorem keys_loadFiles (h : (loadFiles files [] paths).outcome = .ok loaded) :
    loaded.keys = (stems paths).eraseDups := by
  obtain ⟨pairs, hkeys, rfl⟩ := exists_pairs_of_loadFiles h
  rw [← hkeys]
  exact Assoc.keys_ofPairs pairs

/-! ### The files in order -/

theorem nodup_eraseDups {α : Type} [DecidableEq α] (l : List α) : l.eraseDups.Nodup :=
  Placeholder.firstOccurrences_eq_eraseDups l ▸ Placeholder.nodup_firstOccurrences l

theorem eraseDups_of_nodup {α : Type} [DecidableEq α] {l : List α} (h : l.Nodup) :
    l.eraseDups = l :=
  Placeholder.firstOccurrences_eq_eraseDups l ▸ Placeholder.firstOccurrences_of_nodup h

theorem nodup_selectFrom {t : FileTree} {directoriesOnly : Bool} {steps : List SelectionStep}
    {path : Path} (h : t.selectFrom directoriesOnly steps path = .ok paths) : paths.Nodup := by
  cases steps with
  | nil =>
    rw [selectFrom, Except.ok.injEq] at h
    exact h ▸ List.pairwise_singleton _ path
  | cons step rest =>
    -- whatever the first step has found, the paths that it leads to are listed once
    have hends : ∀ found : Except FileError (List Path),
        (do
          let ends ← (← found).mapM (t.selectFrom directoriesOnly rest)
          .ok ends.flatten.eraseDups) = .ok paths → paths.Nodup := by
      intro found h
      cases found with
      | error e => cases h
      | ok found =>
        simp only [bind, Except.bind] at h
        split at h
        · cases h
        · exact Except.ok.inj h ▸ nodup_eraseDups _
    unfold selectFrom at h
    cases step with
    | matching pattern =>
      simp only at h
      split at h
      · exact hends _ h
      · exact hends (.ok _) h
    | named name =>
      simp only at h
      split at h
      · cases hthere : t.leadsToDirectory (below path name) with
        | error e =>
          rw [hthere] at h
          cases h
        | ok isThere =>
          rw [hthere] at h
          exact hends (.ok _) h
      · cases hthere : (t.look (below path name)).map (·.isSome) with
        | error e =>
          rw [hthere] at h
          cases h
        | ok isThere =>
          rw [hthere] at h
          exact hends (.ok _) h
    | anywhere => exact hends (.ok _) h

theorem nodup_select {text : String} (h : files.select directory text = .ok paths) :
    paths.Nodup := by
  rcases select_cases h with ⟨-, rfl⟩ | ⟨selection, found, -, hfound, rfl⟩
  · exact List.nodup_nil
  · exact (List.mergeSort_perm _ _).nodup_iff.2 (nodup_selectFrom hfound)

/-- An extension without slashes selects files of the directory, in the order of their names. -/
theorem pairwise_name_of_select (hslash : '/' ∉ settings.extension.toList)
    (h : files.select directory ("*." ++ settings.extension) = .ok paths) :
    paths.Pairwise fun p q => p.name < q.name := by
  have hbelow := select_below hslash h
  refine ((nodup_select h).and (select_pairwise h)).imp_of_mem ?_
  rintro p q hp hq ⟨hne, hbefore⟩
  obtain ⟨file, rfl⟩ := hbelow p hp
  obtain ⟨file', rfl⟩ := hbelow q hq
  rw [Path.name_below, Path.name_below]
  exact lt_of_le_of_ne (comesBefore_snoc.1 hbefore) fun heq => hne (heq ▸ rfl)

/-- Files whose names are in order already are selected as they stand. -/
theorem select_namesWith {names : List String} (hplain : IsPlain settings.extension.toList)
    (hthere : files.leadsToDirectory directory = .ok true)
    (hnames : files.namesWith directory settings.extension = names)
    (hsorted : names.Pairwise (· < ·)) :
    files.select directory ("*." ++ settings.extension) = .ok (names.map (below directory)) := by
  have hnodup : (names.map (below directory)).Nodup :=
    List.Nodup.map (fun _ _ => below_inj) (hsorted.imp ne_of_lt)
  refine select_eq_ok (Selection.ofText_star hplain) hthere ?_ ?_
  · rw [selectFrom_matching, filter_fits_star hplain, hnames, eraseDups_of_nodup hnodup]
  · exact List.pairwise_map.2 (hsorted.imp fun hlt => comesBefore_snoc.2 (le_of_lt hlt))

/-- A directory is loaded if its files are. -/
theorem exists_loaded_of_namesWith {names keys : List String}
    (hplain : IsPlain settings.extension.toList)
    (hthere : files.leadsToDirectory directory = .ok true)
    (hnames : files.namesWith directory settings.extension = names)
    (hsorted : names.Pairwise (· < ·))
    (hkeys : (loadFiles files [] (names.map (below directory))).outcome.toOption.map Assoc.keys
      = some keys) :
    ∃ loaded, (loadDirectory settings files directory).outcome = .ok loaded ∧
      loaded.keys = keys := by
  obtain ⟨loaded, hloaded, hlisted⟩ := exists_ok_of_map_toOption hkeys
  have hselect := select_namesWith hplain hthere hnames hsorted
  exact ⟨loaded, outcome_loadDirectory_eq_ok_iff.2 ⟨_, hselect, hloaded⟩, hlisted⟩

/-- **Stems ascend** exactly if a file comes first whose stem begins that of another one. -/
theorem pairwise_stems_iff (hnames : paths.Pairwise fun p q => p.name < q.name) :
    (stems paths).Pairwise (· < ·) ↔
      ∀ p ∈ paths, ∀ q ∈ paths,
        (Path.stem p.name).toList <+: (Path.stem q.name).toList → p.name ≤ q.name := by
  rw [stems, List.pairwise_map]
  constructor
  · intro hstems
    -- of two files in order with their stems in order, the second stem does not begin the first
    refine List.Pairwise.forall_of_forall_of_flip (fun p _ _ => le_rfl) ?_ ?_
    · refine hnames.imp fun hlt => ?_
      exact fun _ => le_of_lt hlt
    · refine hstems.imp fun hlt => ?_
      exact fun hbegins => absurd hlt (not_lt_of_ge (Path.le_of_isPrefix hbegins))
  · intro hfirst
    refine hnames.imp_of_mem fun {p q} hp hq hlt => ?_
    rcases Path.stem_lt_or_exists hlt with hstem | ⟨rest, hrest, -⟩
    · exact hstem
    · exact absurd hlt (not_lt_of_ge (hfirst q hq p hp ⟨rest, hrest.symm⟩))

/-! ### The order of a directory -/

/-- The order of the files of a directory, of their announcements, and of the names under which
their descriptors are listed. -/
structure ListedByPath (settings : Settings) (paths : List Path) (events : List Event)
    (loaded : Assoc String Descriptor) : Prop where
  /-- The files are in order, each one once. -/
  ascending : paths.Pairwise fun p q => p ≠ q ∧ comesBefore p.names q.names = true
  /-- They are announced in this order. -/
  announced : events = paths.map announcement
  /-- The names are listed in the order in which they are first announced. -/
  listed : loaded.keys = (stems paths).eraseDups
  /-- Names that do not ascend are the same, or the first one continues the second one with a
  character up to the dot. -/
  continued : '/' ∉ settings.extension.toList → paths.Pairwise fun p q =>
    Path.stem p.name < Path.stem q.name ∨
      ∃ rest, (Path.stem p.name).toList = (Path.stem q.name).toList ++ rest ∧
        ∀ c ∈ rest.head?, c ≤ '.'
  /-- The names ascend, and are announced in the order in which they are listed, exactly if a file
  whose stem begins that of another one comes first. -/
  ascend_iff : '/' ∉ settings.extension.toList →
    ((loaded.keys.Pairwise (· < ·) ∧ stems paths = loaded.keys) ↔
      ∀ p ∈ paths, ∀ q ∈ paths,
        (Path.stem p.name).toList <+: (Path.stem q.name).toList → p.name ≤ q.name)

/-- **The descriptors of a directory are listed in the order of their files.**  With an extension
that holds no slash, their names ascend exactly if every file whose stem begins that of another one
comes before it. -/
theorem loadDirectory_listed (h : (loadDirectory settings files directory).outcome = .ok loaded) :
    ∃ paths, descriptorPaths settings files directory = .ok paths ∧
      ListedByPath settings paths (loadDirectory settings files directory).steps loaded := by
  obtain ⟨paths, hselect, hloaded⟩ := outcome_loadDirectory_eq_ok_iff.1 h
  have hpaths : (Traced.ofExcept ((descriptorPaths settings files directory).mapError
      LoadError.selection) : Traced Event LoadError (List Path)).outcome = .ok paths :=
    mapError_eq_ok_iff.2 hselect
  have hkeys := keys_loadFiles hloaded
  refine ⟨paths, hselect, (nodup_select hselect).and (select_pairwise hselect), ?_, hkeys, ?_, ?_⟩
  · rw [loadDirectory, Traced.steps_bind_ok hpaths, steps_loadFiles hloaded]
    rfl
  · exact fun hslash => (pairwise_name_of_select hslash hselect).imp Path.stem_lt_or_exists
  · intro hslash
    rw [← pairwise_stems_iff (pairwise_name_of_select hslash hselect), hkeys]
    constructor
    · rintro ⟨hascend, heq⟩
      exact heq ▸ hascend
    · intro hascend
      rw [eraseDups_of_nodup (hascend.imp ne_of_lt)]
      exact ⟨hascend, rfl⟩

theorem Settings.isPlain_standard : IsPlain Settings.standard.extension.toList := by
  simp [IsPlain, Settings.standard]

/-- Three descriptors, one of which is listed before the one whose name it continues. -/
theorem loadDirectory_listed_three :
    let libs := Path.ofString "libs"
    let text : Entry := .file (encode "\x7b\x7d")
    let files := FileTree.ofEntries []
      [(["libs", "a-b.json"], text), (["libs", "a.json"], text), (["libs", "a_b.json"], text)]
    ∃ loaded paths, (loadDirectory .standard files libs).outcome = .ok loaded ∧
      loaded.keys = ["a-b", "a", "a_b"] ∧
      descriptorPaths .standard files libs = .ok paths ∧
      ListedByPath .standard paths (loadDirectory .standard files libs).steps loaded := by
  intro libs text files
  have hnames : files.namesWith libs Settings.standard.extension
      = ["a-b.json", "a.json", "a_b.json"] := by decide +kernel
  have hlisted : (loadFiles files [] (["a-b.json", "a.json", "a_b.json"].map
      (below libs))).outcome.toOption.map Assoc.keys = some ["a-b", "a", "a_b"] := by decide +kernel
  obtain ⟨loaded, hloaded, hkeys⟩ := exists_loaded_of_namesWith Settings.isPlain_standard
    (by decide +kernel) hnames (by decide) hlisted
  obtain ⟨paths, hpaths, horder⟩ := loadDirectory_listed hloaded
  exact ⟨loaded, paths, hloaded, hkeys, hpaths, horder⟩

/-- The names need not ascend: a hyphen comes before the dot. -/
theorem loadDirectory_not_ascending :
    let libs := Path.ofString "libs"
    let text : Entry := .file (encode "\x7b\x7d")
    let files := FileTree.ofEntries [] [(["libs", "a-b.json"], text), (["libs", "a.json"], text)]
    ∃ loaded, (loadDirectory .standard files libs).outcome = .ok loaded ∧
      loaded.keys = ["a-b", "a"] ∧ ¬ loaded.keys.Pairwise (· < ·) := by
  intro libs text files
  have hnames : files.namesWith libs Settings.standard.extension = ["a-b.json", "a.json"] := by
    decide +kernel
  have hlisted : (loadFiles files [] (["a-b.json", "a.json"].map
      (below libs))).outcome.toOption.map Assoc.keys = some ["a-b", "a"] := by decide +kernel
  obtain ⟨loaded, hloaded, hkeys⟩ := exists_loaded_of_namesWith Settings.isPlain_standard
    (by decide +kernel) hnames (by decide) hlisted
  exact ⟨loaded, hloaded, hkeys, hkeys ▸ (by decide)⟩

end LibraryCalls
