import LibraryCalls.Proofs.Files.Stem
import LibraryCalls.Proofs.Source.Containment
import LibraryCalls.Proofs.Web.Behind
import LibraryCalls.Proofs.Web.Decoding

/-!
# What the URL of a descriptor says

Behind a plain URL the path that is requested for a descriptor can be read back: its segments, with
their escapes undone, are those of the reference, then the directory, then the name of the file.  So
no two descriptors are requested under one URL.

The configured URL is taken to be a plain one, which has no query and no fragment and is requested
as it stands; that is how the settings are meant.  The directory is a single segment of unreserved
characters that is kept, that is, neither a dot nor two of them, and so are the segments of the
reference.  Under these conditions nothing is resolved away, and the three parts can be told from
each other by counting from both ends.

Without the condition on the directory two references can lead to one URL, as an example shows.

* `writtenSegments`: the segments of a descriptor's URL as they are given;
* `map_decode_addedText`: they can be read back from the text that is added to the configured URL;
* `requested?_descriptorUrl`, `head?_steps_fetchText`: the request that is made;
* `fetchText_segments`: a descriptor's URL says which descriptor it is.
-/

namespace LibraryCalls

open Text Web Url

variable {settings : Settings} {ref library : String}

/-- The segments of a descriptor's URL behind the configured one: those of the reference, the
directory, and the name of the file, which is one segment whatever it holds. -/
def writtenSegments (settings : Settings) (ref library : String) : List (List Char) :=
  splitOn '/' ref.toList ++ [settings.librariesDir.toList, (settings.fileName library).toList]

/-- The segments of a descriptor's URL that a reference and a library contribute are kept. -/
structure KeptSegments (settings : Settings) (ref library : String) : Prop where
  ref : ∀ segment ∈ splitOn '/' ref.toList, Kept segment
  file : Kept (settings.fileName library).toList

/-- A directory of descriptors that is one segment of a URL, and one that is kept. -/
structure PlainDirectory (settings : Settings) : Prop where
  unreserved : ∀ c ∈ settings.librariesDir.toList, Percent.isUnreserved c = true
  kept : Kept settings.librariesDir.toList

/-! ### Segments -/

theorem kept_encode {safe : Char → Bool} {segment : List Char} (h : Kept segment) :
    Kept (Percent.encode safe segment) := by
  obtain ⟨hdot, hup⟩ := h
  exact ⟨fun heq => hdot (Percent.eq_of_encode_eq heq (by decide)),
    fun heq => hup (Percent.eq_of_encode_eq heq (by decide))⟩

/-- The segments of the added text: those of the reference and the file name, encoded, and the
directory as it is. -/
theorem splitOn_addedText (hdir : PlainDirectory settings) (ref library : String) :
    splitOn '/' (addedText settings ref library)
      = (splitOn '/' ref.toList).map (Percent.encode isRefSafe)
        ++ [settings.librariesDir.toList,
          Percent.encode Percent.isUnreserved (settings.fileName library).toList] := by
  have hslash : '/' ∉ settings.librariesDir.toList := fun h =>
    absurd (hdir.unreserved '/' h) (by decide)
  have hfile : '/' ∉ Percent.encode Percent.isUnreserved (settings.fileName library).toList :=
    Percent.not_mem_encode (by decide) (by decide) (by decide) _
  rw [addedText, splitOn_append_cons, splitOn_append_cons, splitOn_of_not_mem hslash,
    splitOn_of_not_mem hfile, Percent.splitOn_encode rfl]
  rfl

/-- **The segments can be read back** from the added text. -/
theorem map_decode_addedText (hdir : PlainDirectory settings) (ref library : String) :
    (splitOn '/' (addedText settings ref library)).map Percent.decode
      = writtenSegments settings ref library := by
  have hsegment : ∀ segment, Percent.decode (Percent.encode isRefSafe segment) = segment :=
    Percent.decode_encode (by decide)
  have hfile : ∀ cs, Percent.decode (Percent.encode Percent.isUnreserved cs) = cs :=
    Percent.decode_encode (by decide)
  have hdirectory : Percent.decode settings.librariesDir.toList = settings.librariesDir.toList := by
    have hdecode := hfile settings.librariesDir.toList
    rwa [Percent.encode_of_safe hdir.unreserved] at hdecode
  rw [splitOn_addedText hdir, List.map_append, List.map_map, writtenSegments]
  simp only [List.map_cons, List.map_nil, hdirectory, hfile, Function.comp_def, hsegment,
    List.map_id']

theorem kept_addedText (hdir : PlainDirectory settings)
    (hkept : KeptSegments settings ref library) :
    ∀ segment ∈ splitOn '/' (addedText settings ref library), Kept segment := by
  intro segment hsegment
  rw [splitOn_addedText hdir] at hsegment
  rcases List.mem_append.1 hsegment with href | hrest
  · obtain ⟨s, hs, rfl⟩ := List.mem_map.1 href
    exact kept_encode (hkept.ref s hs)
  · rcases List.mem_cons.1 hrest with rfl | hfile
    · exact hdir.kept
    · rw [List.mem_singleton.1 hfile]
      exact kept_encode hkept.file

theorem isPathSafe_addedText (hdir : PlainDirectory settings) (ref library : String) :
    ∀ c ∈ addedText settings ref library, isPathSafe c = true := by
  intro c hc
  rw [addedText, List.mem_append, List.mem_cons, List.mem_append, List.mem_cons] at hc
  rcases hc with href | rfl | hdirectory | rfl | hfile
  · exact isPathSafe_of_mem_encode (fun _ => isPathSafe_of_isRefSafe) href
  · decide
  · exact isPathSafe_of_isUnreserved (hdir.unreserved c hdirectory)
  · decide
  · exact isPathSafe_of_mem_encode (fun _ => isPathSafe_of_isUnreserved) hfile

/-- The segments of a descriptor's URL say which descriptor it is. -/
theorem writtenSegments_inj {ref' library' : String}
    (h : writtenSegments settings ref library = writtenSegments settings ref' library') :
    ref = ref' ∧ library = library' := by
  obtain ⟨href, hrest⟩ := List.append_inj' h rfl
  have hfile : (settings.fileName library).toList = (settings.fileName library').toList := by
    simpa using hrest
  refine ⟨String.toList_inj.1 ?_, Settings.fileName_inj (String.toList_inj.1 hfile)⟩
  rw [← joinWith_splitOn '/' ref.toList, href, joinWith_splitOn]

/-! ### Requests -/

def descriptorTarget (base : Web.Url) (settings : Settings) (ref library : String) : Web.Url :=
  { base with path := base.path ++ '/' :: addedText settings ref library }

/-- **The request for a descriptor**, if its URL is not too long. -/
theorem requested?_descriptorUrl {base : Web.Url} (hplain : Plain settings.rawUrl.toList base)
    (hdir : PlainDirectory settings) (hkept : KeptSegments settings ref library) :
    requested? (descriptorUrl settings ref library) [] =
      if (descriptorUrl settings ref library).length ≤ maxLength then
        some (descriptorTarget base settings ref library)
      else none := by
  rw [requested?_behind hplain (toList_descriptorUrl settings ref library)
    (isPathSafe_addedText hdir ref library) (kept_addedText hdir hkept), String.length_toList]
  rfl

/-- No other descriptor is requested under the URL of a descriptor. -/
theorem request_descriptorTarget_inj {base : Web.Url} (hplain : Plain settings.rawUrl.toList base)
    (hdir : PlainDirectory settings) {ref' library' : String}
    (h : (descriptorTarget base settings ref library).request
      = (descriptorTarget base settings ref' library').request) :
    ref = ref' ∧ library = library' := by
  have hrender : base.render ++ '/' :: addedText settings ref library
      = base.render ++ '/' :: addedText settings ref' library' := by
    rw [← hplain.render_behind, ← hplain.render_behind]
    exact String.ofList_inj.1 (Web.Step.request.inj h)
  have hadded : addedText settings ref library = addedText settings ref' library' :=
    (List.cons.inj (List.append_cancel_left hrender)).2
  have hsegments : writtenSegments settings ref library
      = writtenSegments settings ref' library' := by
    rw [← map_decode_addedText hdir, ← map_decode_addedText hdir, hadded]
  exact writtenSegments_inj hsegments

theorem head?_steps_fetchText (settings : Settings) (files : FileTree) (follow : Bool) (web : Web)
    (library ref : String) (timestamp : Option String) :
    (fetchText settings files follow web library (.git ref timestamp)).steps.head?
      = (requested? (descriptorUrl settings ref library) []).map Url.request :=
  (congrArg List.head? (steps_getText follow _ web)).trans (head?_steps_get follow _ [] web)

/-- **A descriptor's URL says which descriptor it is.**  It has neither query nor fragment, its path
can be read back behind the configured one, and no other descriptor is requested under it.  A URL
that is too long is not requested. -/
theorem fetchText_segments (settings : Settings) (base : Web.Url)
    (hplain : Plain settings.rawUrl.toList base) (hdir : PlainDirectory settings) :
    (∀ ref library : String, KeptSegments settings ref library →
      ∀ (files : FileTree) (follow : Bool) (web : Web) (timestamp : Option String),
        let steps := (fetchText settings files follow web library (.git ref timestamp)).steps
        if (descriptorUrl settings ref library).length ≤ maxLength then
          ∃ (u : Web.Url) (added : List Char) (more : List Web.Step),
            steps = u.request :: more ∧ (follow = false → more = []) ∧
              u.query = none ∧ u.fragment = none ∧
              u = { base with path := base.path ++ '/' :: added } ∧
              (splitOn '/' added).map Percent.decode
                = splitOn '/' ref.toList
                  ++ [settings.librariesDir.toList, (settings.fileName library).toList]
        else steps = []) ∧
    ∀ ref library ref' library' : String, KeptSegments settings ref library →
      KeptSegments settings ref' library' →
      ∀ (files files' : FileTree) (follow follow' : Bool) (web web' : Web)
        (timestamp timestamp' : Option String) (step : Web.Step),
        (fetchText settings files follow web library (.git ref timestamp)).steps.head? = some step →
        (fetchText settings files' follow' web' library' (.git ref' timestamp')).steps.head?
            = some step →
        ref = ref' ∧ library = library' := by
  have hhead : ∀ (ref library : String), KeptSegments settings ref library →
      ∀ (files : FileTree) (follow : Bool) (web : Web) (timestamp : Option String),
        (fetchText settings files follow web library (.git ref timestamp)).steps.head?
          = if (descriptorUrl settings ref library).length ≤ maxLength then
              some (descriptorTarget base settings ref library).request
            else none := by
    intro ref library hkept files follow web timestamp
    rw [head?_steps_fetchText, requested?_descriptorUrl hplain hdir hkept]
    split <;> rfl
  refine ⟨?_, ?_⟩
  · intro ref library hkept files follow web timestamp steps
    have hfirst := hhead ref library hkept files follow web timestamp
    split
    · next hle =>
      rw [if_pos hle] at hfirst
      obtain ⟨more, hmore⟩ := List.head?_eq_some_iff.1 hfirst
      refine ⟨_, addedText settings ref library, more, hmore, ?_, hplain.query, hplain.fragment,
        rfl, map_decode_addedText hdir ref library⟩
      rintro rfl
      have hsteps : steps = (requested? (descriptorUrl settings ref library) []).toList.map
          Url.request := (steps_getText false _ web).trans (steps_get_false _ [] web)
      rw [requested?_descriptorUrl hplain hdir hkept, if_pos hle] at hsteps
      exact (List.cons.inj (hmore.symm.trans hsteps)).2
    · next hlong =>
      rw [if_neg hlong] at hfirst
      exact List.head?_eq_none_iff.1 hfirst
  · intro ref library ref' library' hkept hkept' files files' follow follow' web web' timestamp
      timestamp' step hstep hstep'
    rw [hhead ref library hkept] at hstep
    rw [hhead ref' library' hkept'] at hstep'
    have hrequest := (Option.ite_none_right_eq_some.1 hstep).2
    have hrequest' := (Option.ite_none_right_eq_some.1 hstep').2
    exact request_descriptorTarget_inj hplain hdir
      (Option.some.inj (hrequest.trans hrequest'.symm))

/-- A reference with a blank and a slash, and a name with a slash and a letter outside of ASCII. -/
theorem fetchText_segments_escaped :
    let run (library ref : String) :=
      fetchText .standard (FileTree.ofEntries [] []) false { answers := [] } library (.git ref none)
    ∃ base, Plain Settings.standard.rawUrl.toList base ∧ PlainDirectory .standard ∧
      (∃ (u : Web.Url) (added : List Char) (more : List Web.Step),
        (run "a/ü?" "v1/b c").steps = u.request :: more ∧ (false = false → more = []) ∧
          u.query = none ∧ u.fragment = none ∧
          u = { base with path := base.path ++ '/' :: added } ∧
          (splitOn '/' added).map Percent.decode
            = splitOn '/' "v1/b c".toList ++ ["libraries".toList, "a/ü?.json".toList]) ∧
      ∀ step, (run "a/ü?" "v1/b c").steps.head? = some step →
        (run "a" "v1").steps.head? ≠ some step := by
  have hdir : PlainDirectory .standard := ⟨List.all_eq_true.1 (by decide), by decide⟩
  have hkept : KeptSegments .standard "v1/b c" "a/ü?" := ⟨by decide, by decide⟩
  have hkept' : KeptSegments .standard "v1" "a" := ⟨by decide, by decide⟩
  obtain ⟨base, hplain⟩ : ∃ base, Plain Settings.standard.rawUrl.toList base :=
    exists_plain_of_any (by decide +kernel)
  refine ⟨base, hplain, hdir, ?_, ?_⟩
  · have hfirst := (fetchText_segments .standard base hplain hdir).1 "v1/b c" "a/ü?" hkept
      (FileTree.ofEntries [] []) false { answers := [] } none
    exact (if_pos (by decide +kernel)).mp hfirst
  · intro step hstep hstep'
    exact absurd ((fetchText_segments .standard base hplain hdir).2 "v1/b c" "a/ü?" "v1" "a" hkept
      hkept' _ _ _ _ _ _ _ _ step hstep hstep').1 (by decide)

/-- With `..` for a directory, which consists of unreserved characters, the last segment of the
reference is lost, and two references lead to one URL. -/
theorem fetchText_segments_lost :
    let settings : Settings :=
      { Settings.standard with
        rawUrl := "https://raw.example.test/org/kernel", librariesDir := ".." }
    let run (library ref : String) :=
      fetchText settings (FileTree.ofEntries [] []) false { answers := [] } library (.git ref none)
    (∃ base, Plain settings.rawUrl.toList base) ∧
      (∀ c ∈ settings.librariesDir.toList, Percent.isUnreserved c = true) ∧
      KeptSegments settings "a" "lib" ∧ KeptSegments settings "b" "lib" ∧
      (run "lib" "a").steps = [.request "https://raw.example.test/org/kernel/lib.json"] ∧
      (run "lib" "b").steps = [.request "https://raw.example.test/org/kernel/lib.json"] :=
  ⟨exists_plain_of_any (by decide +kernel), List.all_eq_true.1 (by decide),
    ⟨by decide, by decide⟩, ⟨by decide, by decide⟩, by decide +kernel, by decide +kernel⟩

end LibraryCalls
