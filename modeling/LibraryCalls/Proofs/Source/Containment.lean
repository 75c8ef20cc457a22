import LibraryCalls.Proofs.Files.Route
import LibraryCalls.Proofs.Web.Below
import LibraryCalls.Proofs.Web.Exchange
import LibraryCalls.Source.Fetch

/-!
# Where descriptors are fetched from

The name of a library is part of a path, and part of a URL.  In a path it is taken apart at its
slashes, so that it is a row of names like the path itself: it may lead down from the directory, up
and out of it, or, if it begins with a slash, away from it altogether.  Where it leads can be told
from the name alone, and it is a child of every directory for a single name only.

In a URL the name is one segment whatever it holds, as its slashes are escaped.  The reference keeps
its slashes and is several segments, which may step up.  The request goes to the place that is
configured in any case, and its path follows from the configured one and the segments that are
added; it is below the configured one unless the reference or the directory of the descriptors steps
up.

* `fileRoute`, `filePlace`: where the name of a library's file leads from a directory;
* `fetchText_directory`: the file that is read; `filePlace_child_iff`: the names that stay;
* `referenceSegments`, `addedSegments`: the segments that a descriptor's URL adds to the configured
  one; `stays_addedSegments`: a name alone does not step up;
* `fetchText_git`: the URL that is requested;
* `fetchText_reaches`: both sources; `fetchText_escapes`: a name and a reference that leave theirs.
-/

namespace LibraryCalls

open Text Web Url

variable {settings : Settings} {library ref : String} {files : FileTree} {follow : Bool} {web : Web}

/-! ### Directories -/

/-- The text that is fetched from a directory is that of the library's file. -/
theorem outcome_fetchText_directory {directory : Path} {text : String} :
    (fetchText settings files follow web library (.directory directory)).outcome = .ok text ↔
      files.readText (descriptorPath settings directory library) = .ok text := by
  rw [fetchText.eq_def]
  dsimp only
  generalize files.readText (descriptorPath settings directory library) = found
  cases found with
  | ok found => simp
  | error e => cases e <;> simp [Traced.fail]

def filePath (settings : Settings) (library : String) : Path :=
  Path.ofString (settings.fileName library)

def fileRoute (settings : Settings) (library : String) : Route :=
  Route.ofNames (filePath settings library).names

/-- The place to which the name of a library's file leads from a directory.  A name that begins with
a slash leads there from anywhere. -/
def filePlace (settings : Settings) (library : String) (here : Place) : Place :=
  (fileRoute settings library).place (if (filePath settings library).isAbsolute then [] else here)

/-- **The file that is read for a library** is the one to which its name leads from the directory.
-/
theorem fetchText_directory {directory : Path} {text : String}
    (h : (fetchText settings files follow web library (.directory directory)).outcome = .ok text) :
    ∃ here content,
      ((filePath settings library).isAbsolute = false → files.walk directory = .ok here) ∧
      files.get? (filePlace settings library here) = some (.file content) ∧
      decodeFile content = .ok text := by
  obtain ⟨place, content, hwalk, hfile, htext⟩ :=
    FileTree.readText_eq_ok_iff.1 (outcome_fetchText_directory.1 h)
  cases habsolute : (filePath settings library).isAbsolute with
  | true =>
    have hpath : descriptorPath settings directory library = filePath settings library :=
      if_pos habsolute
    have hnames := (FileTree.walk_eq_ok_iff.1 hwalk).2.2
    rw [hpath, FileTree.start, if_pos habsolute] at hnames
    obtain rfl := FileTree.eq_place_of_walkFrom hnames
    refine ⟨[], content, fun hrelative => absurd hrelative (by decide), ?_, htext⟩
    rw [filePlace, if_pos habsolute]
    exact hfile
  | false =>
    have hrelative : ¬ (filePath settings library).isAbsolute = true := by simp [habsolute]
    have hpath : descriptorPath settings directory library
        = ⟨directory.anchor, directory.names ++ (filePath settings library).names⟩ :=
      if_neg hrelative
    rw [hpath] at hwalk
    obtain ⟨here, hhere, hnames⟩ := FileTree.walk_append hwalk
    obtain rfl := FileTree.eq_place_of_walkFrom hnames
    refine ⟨here, content, fun _ => hhere, ?_, htext⟩
    rw [filePlace, if_neg hrelative]
    exact hfile

/-- **A name stays in every directory** if it is a single name: a relative one that is one step
down. -/
theorem filePlace_child_iff :
    (∀ here, ∃ child, filePlace settings library here = here ++ [child]) ↔
      (filePath settings library).isAbsolute = false ∧
        ∃ child, fileRoute settings library = ⟨0, [child]⟩ := by
  cases habsolute : (filePath settings library).isAbsolute with
  | true =>
    refine iff_of_false (fun h => ?_) (fun h => absurd h.1 (by decide))
    -- the one place to which the name leads is too short for a child of a long one
    obtain ⟨child, hchild⟩ := h ("" :: (fileRoute settings library).down)
    have hlength := congrArg List.length hchild
    rw [filePlace, if_pos habsolute, Route.place] at hlength
    simp only [List.length_append, List.length_take, List.length_cons, List.length_nil] at hlength
    omega
  | false =>
    have hplace : ∀ here, filePlace settings library here
        = (fileRoute settings library).place here := by
      intro here
      rw [filePlace, if_neg (by simpa using habsolute)]
    simp only [hplace, true_and, Route.place_child_iff]

/-! ### URLs -/

/-- The characters that stand for themselves in the reference of a URL. -/
def isRefSafe (c : Char) : Bool :=
  Percent.isUnreserved c || c = '/'

/-- The segments of a descriptor's URL that a reference and the configured directory add to the
configured URL, as they are requested.  What follows a question mark or a number sign in the
configured directory is no part of the path. -/
def referenceSegments (settings : Settings) (ref : String) : List (List Char) :=
  (splitOn '/' ref.toList).map (Percent.encode isRefSafe)
    ++ (splitOn '/' (Written.pathText settings.librariesDir.toList)).map
      (Percent.encode isPathSafe)

/-- The segment of a descriptor's URL that a library adds, if the path goes on so far. -/
def librarySegments (settings : Settings) (library : String) : List (List Char) :=
  if Written.pathText settings.librariesDir.toList = settings.librariesDir.toList then
    [Percent.encode Percent.isUnreserved (settings.fileName library).toList]
  else []

/-- The segments that the URL of a descriptor adds to the configured one.  There are none if the
configured one goes on to a query or a fragment already. -/
def addedSegments (settings : Settings) (ref library : String) : List (List Char) :=
  if Written.pathText settings.rawUrl.toList = settings.rawUrl.toList then
    referenceSegments settings ref ++ librarySegments settings library
  else []

/-- The text that the URL of a descriptor adds to the configured one, after a slash. -/
def addedText (settings : Settings) (ref library : String) : List Char :=
  Percent.encode isRefSafe ref.toList ++ '/' :: (settings.librariesDir.toList
    ++ '/' :: Percent.encode Percent.isUnreserved (settings.fileName library).toList)

theorem toList_descriptorUrl (settings : Settings) (ref library : String) :
    (descriptorUrl settings ref library).toList
      = settings.rawUrl.toList ++ '/' :: addedText settings ref library := by
  simp only [descriptorUrl, addedText, String.toList_append, String.toList_ofList,
    List.append_assoc]
  rfl

theorem isPathSafe_of_isUnreserved {c : Char} (h : Percent.isUnreserved c = true) :
    isPathSafe c = true :=
  Percent.isUnreserved_imp (by decide +kernel) h

theorem isPathSafe_of_isRefSafe {c : Char} (h : isRefSafe c = true) : isPathSafe c = true := by
  rcases Bool.or_eq_true_iff.1 h with h | h
  · exact isPathSafe_of_isUnreserved h
  · rw [of_decide_eq_true h]
    decide

/-- What is encoded for a path may stand there as it is. -/
theorem isPathSafe_of_mem_encode {safe : Char → Bool}
    (hsafe : ∀ c, safe c = true → isPathSafe c = true) {cs : List Char} {c : Char}
    (hc : c ∈ Percent.encode safe cs) : isPathSafe c = true := by
  rcases Percent.of_mem_encode hc with h | rfl | h
  · exact hsafe c h
  · decide
  · exact isPathSafe_of_isUnreserved h

theorem encode_isPathSafe_encode {safe : Char → Bool}
    (hsafe : ∀ c, safe c = true → isPathSafe c = true) (cs : List Char) :
    Percent.encode isPathSafe (Percent.encode safe cs) = Percent.encode safe cs :=
  Percent.encode_of_safe fun _ hc => isPathSafe_of_mem_encode hsafe hc

/-- An encoded reference holds neither a query nor a fragment. -/
theorem pathText_encode {safe : Char → Bool} (hquery : safe '?' = false)
    (hfragment : safe '#' = false) (cs : List Char) :
    Written.pathText (Percent.encode safe cs) = Percent.encode safe cs :=
  Written.pathText_eq_self_iff.2
    ⟨Percent.not_mem_encode hquery (by decide) (by decide) cs,
      Percent.not_mem_encode hfragment (by decide) (by decide) cs⟩

/-- The segments in the path of the added text, as they are requested. -/
theorem map_encode_addedText (settings : Settings) (ref library : String) :
    (splitOn '/' (Written.pathText (addedText settings ref library))).map
        (Percent.encode isPathSafe)
      = referenceSegments settings ref ++ librarySegments settings library := by
  have hslash : ∀ cs : List Char, Written.pathText ('/' :: cs) = '/' :: Written.pathText cs :=
    fun _ => rfl
  have hfile : splitOn '/' (Percent.encode Percent.isUnreserved (settings.fileName library).toList)
      = [Percent.encode Percent.isUnreserved (settings.fileName library).toList] :=
    splitOn_of_not_mem (Percent.not_mem_encode (by decide) (by decide) (by decide) _)
  have href : ((splitOn '/' ref.toList).map (Percent.encode isRefSafe)).map
        (Percent.encode isPathSafe) = (splitOn '/' ref.toList).map (Percent.encode isRefSafe) := by
    rw [List.map_map]
    exact List.map_congr_left fun segment _ =>
      encode_isPathSafe_encode (fun _ => isPathSafe_of_isRefSafe) segment
  rw [addedText, referenceSegments, librarySegments,
    Written.pathText_append (pathText_encode rfl rfl _), hslash, splitOn_append_cons,
    Percent.splitOn_encode rfl, List.map_append, href, List.append_assoc]
  refine congrArg _ ?_
  by_cases hwhole : Written.pathText settings.librariesDir.toList = settings.librariesDir.toList
  · rw [Written.pathText_append hwhole, hslash, pathText_encode rfl rfl, splitOn_append_cons,
      List.map_append, hfile, if_pos hwhole, hwhole, List.map_singleton,
      encode_isPathSafe_encode (fun _ => isPathSafe_of_isUnreserved)]
  · rw [Written.pathText_append_of_ne hwhole, if_neg hwhole, List.append_nil]

/-- One more segment that is no step up changes nothing. -/
theorem stays_append_singleton {segments : List (List Char)} {segment : List Char} {depth : Nat}
    (h : stays depth segments = true) (hup : segment ≠ ['.', '.']) :
    stays depth (segments ++ [segment]) = true := by
  induction segments generalizing depth with
  | nil =>
    rw [List.nil_append, stays, if_neg hup]
    split <;> rfl
  | cons first rest ih =>
    rw [List.cons_append, stays] at *
    split at h
    · next hdot => rw [if_pos hdot]; exact ih h
    · next hdot =>
      rw [if_neg hdot]
      split at h
      · next hfirst =>
        obtain ⟨hdepth, hrest⟩ := Bool.and_eq_true_iff.1 h
        rw [if_pos hfirst, hdepth, ih hrest]
        rfl
      · next hfirst => rw [if_neg hfirst]; exact ih h

/-- **A name alone does not step up**, since it is one segment: only the reference and the
configured directory can. -/
theorem stays_addedSegments (hname : settings.fileName library ≠ "..")
    (h : stays 0 (referenceSegments settings ref) = true) :
    stays 0 (addedSegments settings ref library) = true := by
  rw [addedSegments, librarySegments]
  split
  · split
    · refine stays_append_singleton h fun hup => hname ?_
      have hdots : (settings.fileName library).toList = ['.', '.'] :=
        (Percent.encode_eq_iff_of_dots (by decide) (by simp)).1 hup
      exact String.toList_inj.1 hdots
    · rw [List.append_nil]
      exact h
  · rfl

/-- **The request for a descriptor** goes to the configured place, and to the path to which the
added segments lead from the configured one.  It is the only one unless redirects are followed. -/
theorem fetchText_git {base : Url} (hbase : Url.parse? settings.rawUrl.toList = some base)
    (habs : base.isAbsolute = true) (files : FileTree) (follow : Bool) (web : Web)
    (timestamp : Option String) :
    (fetchText settings files follow web library (.git ref timestamp)).steps = [] ∨
      ∃ (u : Web.Url) (more : List Web.Step),
        (fetchText settings files follow web library (.git ref timestamp)).steps
            = u.request :: more ∧
          (follow = false → more = []) ∧ u.Reached base (addedSegments settings ref library) := by
  have hsteps : (fetchText settings files follow web library (.git ref timestamp)).steps
      = (Web.get follow (descriptorUrl settings ref library) [] web).steps :=
    Web.steps_getText follow _ web
  have hhead := head?_steps_get follow (descriptorUrl settings ref library) [] web
  rw [hsteps]
  cases hurl : requested? (descriptorUrl settings ref library) [] with
  | none =>
    rw [hurl] at hhead
    exact .inl (List.head?_eq_none_iff.1 hhead)
  | some u =>
    rw [hurl] at hhead
    obtain ⟨more, hmore⟩ := List.head?_eq_some_iff.1 hhead
    refine .inr ⟨u, more, hmore, ?_, ?_⟩
    · rintro rfl
      rw [steps_get_false, hurl] at hmore
      exact (List.cons.inj hmore).2.symm
    · have hreached :=
        reached_of_requested? hbase habs (toList_descriptorUrl settings ref library) hurl
      rw [map_encode_addedText] at hreached
      exact hreached

/-! ### Both sources -/

/-- **What a name and a reference can reach.**  From a directory, the file that is read is the one
to which the name leads, and it is a child of every directory for a single name only.  From a
reference, the request goes to the configured place, with the path to which the added segments lead;
it is below the configured URL exactly if they leave its path untouched, as they do if they never
step up too often, which is up to the reference and not to the name. -/
theorem fetchText_reaches (settings : Settings) (library : String) :
    (∀ (files : FileTree) (follow : Bool) (web : Web) (directory : Path) (text : String),
      (fetchText settings files follow web library (.directory directory)).outcome = .ok text →
      ∃ here content,
        ((filePath settings library).isAbsolute = false → files.walk directory = .ok here) ∧
        files.get? (filePlace settings library here) = some (.file content) ∧
        decodeFile content = .ok text) ∧
    ((∀ here, ∃ child, filePlace settings library here = here ++ [child]) ↔
      (filePath settings library).isAbsolute = false ∧
        ∃ child, fileRoute settings library = ⟨0, [child]⟩) ∧
    ∀ (ref : String) (base : Web.Url), Url.parse? settings.rawUrl.toList = some base →
      base.isAbsolute = true →
      (settings.fileName library ≠ ".." → stays 0 (referenceSegments settings ref) = true →
        stays 0 (addedSegments settings ref library) = true) ∧
      ∀ (files : FileTree) (follow : Bool) (web : Web) (timestamp : Option String),
        (fetchText settings files follow web library (.git ref timestamp)).steps = [] ∨
          ∃ (u : Web.Url) (more : List Web.Step),
            (fetchText settings files follow web library (.git ref timestamp)).steps
                = u.request :: more ∧
              (follow = false → more = []) ∧
              u.Reached base (addedSegments settings ref library) ∧
              (u.Below base ↔ splitOn '/' base.path <+:
                resolveAfter (splitOn '/' base.path) (addedSegments settings ref library)) ∧
              (stays 0 (addedSegments settings ref library) = true → u.Below base) := by
  refine ⟨fun _ _ _ _ _ h => fetchText_directory h, filePlace_child_iff, ?_⟩
  intro ref base hbase habs
  refine ⟨stays_addedSegments, ?_⟩
  intro files follow web timestamp
  rcases fetchText_git hbase habs files follow web timestamp with
    hnone | ⟨u, more, hsteps, halone, hreached⟩
  · exact .inl hnone
  · exact .inr ⟨u, more, hsteps, halone, hreached, hreached.below_iff, hreached.below⟩

/-- A library whose name leads out of the directory, and a reference with a step up and down. -/
theorem fetchText_reaches_secret :
    let files := FileTree.ofEntries []
      [(["libs"], .directory), (["secret.json"], .file (encode "{}"))]
    (∃ here content,
      ((filePath .standard "../secret").isAbsolute = false →
        files.walk (Path.ofString "libs") = .ok here) ∧
      files.get? (filePlace .standard "../secret" here) = some (.file content) ∧
      decodeFile content = .ok "{}") ∧
    filePlace .standard "../secret" ["libs"] = ["secret.json"] ∧
    ∃ base, Url.parse? Settings.standard.rawUrl.toList = some base ∧
      ((fetchText .standard files false { answers := [] } "../secret" (.git "v1/../v2" none)).steps
          = [] ∨
        ∃ (u : Web.Url) (more : List Web.Step),
          (fetchText .standard files false { answers := [] } "../secret"
              (.git "v1/../v2" none)).steps = u.request :: more ∧ u.Below base) := by
  intro files
  obtain ⟨hdirectory, -, hgit⟩ := fetchText_reaches .standard "../secret"
  refine ⟨?_, by decide, ?_⟩
  · exact hdirectory files false { answers := [] } (Path.ofString "libs") "{}"
      (outcome_fetchText_directory.2 (by decide +kernel))
  · have hparse : (Url.parse? Settings.standard.rawUrl.toList).any Url.isAbsolute = true := by
      decide +kernel
    obtain ⟨base, hbase, habs⟩ := (Option.any_eq_true _ _).1 hparse
    obtain ⟨hstays, hrequest⟩ := hgit "v1/../v2" base hbase habs
    refine ⟨base, hbase, (hrequest files false { answers := [] } none).imp_right ?_⟩
    rintro ⟨u, more, hsteps, -, -, -, hbelow⟩
    exact ⟨u, more, hsteps, hbelow (hstays (by decide) (by decide))⟩

/-- A name with steps up is read from outside of the directory, which is empty here, and a reference
with steps up leads to a request beside the configured URL. -/
theorem fetchText_escapes :
    let files := FileTree.ofEntries []
      [(["libs"], .directory), (["secret.json"], .file (encode "{}"))]
    let settings : Settings :=
      { Settings.standard with rawUrl := "https://raw.example.test/org/kernel" }
    ((fetchText settings files false { answers := [] } "../secret"
        (.directory (Path.ofString "libs"))).outcome = .ok "{}" ∧
      files.children (Path.ofString "libs") = []) ∧
    (fetchText settings files false { answers := [] } "lib" (.git "../../up" none)).steps
      = [.request "https://raw.example.test/up/libraries/lib.json"] ∧
    (Url.parse? settings.rawUrl.toList).map (·.path) = some "/org/kernel".toList ∧
    (requested? (descriptorUrl settings "../../up" "lib") []).map (·.path)
      = some "/up/libraries/lib.json".toList := by
  refine ⟨⟨outcome_fetchText_directory.2 (by decide +kernel), by decide +kernel⟩, ?_, ?_, ?_⟩
  · decide +kernel
  · decide +kernel
  · decide +kernel

end LibraryCalls
