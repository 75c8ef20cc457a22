import LibraryCalls.Proofs.Web.Below

/-!
# Texts behind plain URLs

Behind the text of a URL without query and fragment, a slash and a path that needs no escapes and
holds no `.` or `..` segment stand in the requested URL as they are written.

This is the case of a configured address that is used as it is meant: scheme and host are there, the
path needs no change, and what is put behind it is made of safe characters in segments that are
kept.  Then the normal form of the longer text is the shorter one with the added path, and the
request can be written down.

The general case, in which the added segments may step up or the address may be cut short by a
query, is in `LibraryCalls.Proofs.Web.Below`.

* `Url.Plain`: a text that is a URL without query and fragment, which a client can request;
* `Written.ofText_behind`, `Url.normalPath_behind`: the parts of the longer text, and its path;
* `requested?_behind`: the URL that is requested for it, unless it is too long;
* `Url.Plain.render_behind`: the text of that URL.
-/

namespace LibraryCalls.Web

open Text Url

variable {base : Url} {w : Written} {c : Char} {cs added : List Char}

/-- A text that is a URL without query and fragment, which a client requests as it is. -/
structure Url.Plain (cs : List Char) (base : Url) : Prop where
  parsed : Url.parse? cs = some base
  absolute : base.isAbsolute = true
  ascii : Domain.Label.isAscii base.host = true
  query : base.query = none
  fragment : base.fragment = none

/-- Whether a text is a plain URL can be tested. -/
theorem exists_plain_of_any {cs : List Char}
    (h : (Url.parse? cs).any (fun u => u.isAbsolute && Domain.Label.isAscii u.host
      && u.query.isNone && u.fragment.isNone) = true) : ∃ base, Plain cs base := by
  obtain ⟨base, hbase, hfits⟩ := (Option.any_eq_true _ _).1 h
  simp only [Bool.and_eq_true, Option.isNone_iff_eq_none] at hfits
  obtain ⟨⟨⟨habs, hascii⟩, hquery⟩, hfragment⟩ := hfits
  exact ⟨base, hbase, habs, hascii, hquery, hfragment⟩

/-! ### Parts -/

theorem Written.snd_cutAfter_eq_none_iff : (Written.cutAfter c cs).2 = none ↔ c ∉ cs := by
  rw [Written.cutAfter, ← cutFirst_eq_none_iff]
  cases cutFirst c cs <;> simp

/-- A text has neither query nor fragment if it holds neither of the characters before them. -/
theorem Written.no_query_iff :
    ((Written.ofText cs).query = none ∧ (Written.ofText cs).fragment = none) ↔
      '?' ∉ cs ∧ '#' ∉ cs := by
  have hquery : (Written.ofText cs).query
      = (Written.cutAfter '?' (Written.cutAfter '#' cs).1).2 := rfl
  have hfragment : (Written.ofText cs).fragment = (Written.cutAfter '#' cs).2 := rfl
  rw [hquery, hfragment, snd_cutAfter_eq_none_iff, snd_cutAfter_eq_none_iff]
  refine and_congr_left fun hmark => ?_
  rw [Written.cutAfter, cutFirst_eq_none_iff.2 hmark]

/-- **The parts of the longer text** are those of the first text, with a path that goes on. -/
theorem Written.ofText_behind (hcs : '?' ∉ cs ∧ '#' ∉ cs) (hadded : '?' ∉ added ∧ '#' ∉ added)
    (hscheme : (Written.ofText cs).scheme ≠ [])
    (hauthority : (Written.ofText cs).authority ≠ Authority.ofText []) :
    Written.ofText (cs ++ '/' :: added)
      = { Written.ofText cs with path := (Written.ofText cs).path ++ '/' :: added } := by
  have hall : '?' ∉ cs ++ '/' :: added ∧ '#' ∉ cs ++ '/' :: added := by
    simp [hcs.1, hcs.2, hadded.1, hadded.2]
  obtain ⟨hs, ha, hp⟩ := ofText_parts cs
  obtain ⟨hs', ha', hp'⟩ := ofText_parts (cs ++ '/' :: added)
  obtain ⟨hquery, hfragment⟩ := no_query_iff.2 hcs
  obtain ⟨hquery', hfragment'⟩ := no_query_iff.2 hall
  rw [pathText_eq_self_iff.2 hcs] at hs ha hp
  rw [hs] at hscheme
  have hplace : (cutAuthority (cutScheme cs).2).1 ≠ [] := by
    intro hnil
    rw [ha, hnil] at hauthority
    exact hauthority rfl
  have hlong : cutAuthority (cutScheme (cs ++ '/' :: added)).2
      = ((cutAuthority (cutScheme cs).2).1, (cutAuthority (cutScheme cs).2).2 ++ '/' :: added) := by
    rw [cutScheme_append hscheme]
    exact cutAuthority_append hplace added
  rw [pathText_eq_self_iff.2 hall] at hs' ha' hp'
  rw [cutScheme_append hscheme] at hs'
  rw [hlong] at ha' hp'
  have hparts : ∀ v : Written, v = ⟨v.scheme, v.authority, v.path, v.query, v.fragment⟩ :=
    fun _ => rfl
  rw [hparts (ofText (cs ++ '/' :: added)), hs', ha', hp', hquery', hfragment']
  simp only [hs, ha, hp, hquery, hfragment]

/-! ### Paths -/

/-- A segment that a path keeps: neither `.` nor `..`. -/
def Url.Kept (segment : List Char) : Prop :=
  segment ≠ ['.'] ∧ segment ≠ ['.', '.']

instance (segment : List Char) : Decidable (Kept segment) :=
  inferInstanceAs (Decidable (_ ∧ _))

theorem Url.foldl_resolveDot_of_kept {segments : List (List Char)}
    (h : ∀ segment ∈ segments, Kept segment) (before : List (List Char)) :
    segments.foldl resolveDot before = segments.reverse ++ before := by
  induction segments generalizing before with
  | nil => rfl
  | cons segment rest ih =>
    obtain ⟨hdot, hup⟩ := h segment List.mem_cons_self
    have hrest := ih (fun s hs => h s (List.mem_cons_of_mem segment hs)) (segment :: before)
    rw [List.foldl_cons, resolveDot, if_neg hdot, if_neg hup, hrest, List.reverse_cons,
      List.append_assoc]
    rfl

/-- **A path that goes on with segments that are kept** goes on with them in normal form. -/
theorem Url.normalPath_behind {path : List Char} (hpath : path = [] ∨ path.head? = some '/')
    (h : ∀ segment ∈ splitOn '/' added, Kept segment) :
    normalPath (path ++ '/' :: added) = normalPath path ++ '/' :: added := by
  obtain ⟨segments, hsegments⟩ := splitOn_of_rooted hpath
  obtain ⟨top, htop⟩ := foldl_resolveDot_root segments []
  have hbefore : (splitOn '/' path).foldl resolveDot [] = top ++ [[]] := by
    rw [hsegments]
    exact htop
  rw [normalPath, normalPath, splitOn_append_cons, List.foldl_append, hbefore,
    foldl_resolveDot_of_kept h, List.reverse_append, List.reverse_reverse,
    joinWith_append (by simp) (splitOn_ne_nil '/' added), joinWith_splitOn]

/-! ### Requests -/

theorem Url.ne_of_isPathSafe (h : isPathSafe c = true) : c ≠ '?' ∧ c ≠ '#' := by
  refine ⟨?_, ?_⟩
  all_goals
    rintro rfl
    exact absurd h (by decide)

theorem Url.isControl_of_isQuerySafe (h : isQuerySafe c = true) : isControl c = false := by
  simp only [isQuerySafe, isAsciiPrintable, Bool.and_eq_true, decide_eq_true_eq] at h
  simp only [isControl, Bool.or_eq_false_iff, decide_eq_false_iff_not]
  omega

theorem Url.isControl_of_isPathSafe (h : isPathSafe c = true) : isControl c = false :=
  isControl_of_isQuerySafe (Bool.and_eq_true_iff.1 h).1

theorem Url.not_any_isControl_of_parse? (h : Url.parse? cs = some base) :
    cs.any isControl = false := by
  rw [Url.parse?] at h
  split at h
  · next hsound =>
    obtain ⟨-, hcontrol⟩ := Bool.and_eq_true_iff.1 hsound
    simpa using hcontrol
  · cases h

/-- The normal form of written parts with a path that goes on. -/
theorem Url.normal?_behind (hbase : w.normal? = some base) (habs : base.isAbsolute = true)
    (hsafe : ∀ c ∈ added, isPathSafe c = true)
    (hkept : ∀ segment ∈ splitOn '/' added, Kept segment) :
    ({ w with path := w.path ++ '/' :: added } : Written).normal?
      = some { base with path := base.path ++ '/' :: added } := by
  obtain ⟨⟨hscheme, huser, hhost, hport⟩, hfits, hpath, hquery, hfragment⟩ :=
    Written.normal?_eq_some hbase
  obtain ⟨hscheme_ne, hhost_ne⟩ := isAbsolute_iff.1 habs
  have hroot : w.path = [] ∨ w.path.head? = some '/' := by
    simpa [pathFits, Url.hasAuthority, hhost_ne] using hfits
  have hadded : Percent.encode isPathSafe ('/' :: added) = '/' :: added :=
    Percent.encode_of_safe fun c hc => by
      rcases List.mem_cons.1 hc with rfl | hc
      · decide
      · exact hsafe c hc
  have hpath' : Percent.encodeKeeping isPathSafe (normalPath (w.path ++ '/' :: added))
      = base.path ++ '/' :: added := by
    rw [hpath, if_pos (.inl hscheme_ne), normalPath_behind hroot hkept, encodeKeeping_isPathSafe,
      encodeKeeping_isPathSafe, Percent.encode_append, hadded]
  have hfits' : pathFits true true (w.path ++ '/' :: added) = true := by
    rcases hroot with hnil | hhead
    · simp [pathFits, hnil]
    · obtain ⟨tail, htail⟩ := List.head?_eq_some_iff.1 hhead
      simp [pathFits, htail]
  simp only [Written.normal?, ← hscheme, ← huser, hhost, hport, ← hquery, ← hfragment, bind,
    Option.bind_some, decide_eq_true hscheme_ne, decide_eq_true hhost_ne, Bool.true_or,
    Bool.or_true, hfits', if_true, hpath']

/-- **The URL that is requested** for a plain URL, a slash and a path that may stand behind it. -/
theorem requested?_behind (hplain : Plain cs base) {text : String}
    (htext : text.toList = cs ++ '/' :: added) (hsafe : ∀ c ∈ added, isPathSafe c = true)
    (hkept : ∀ segment ∈ splitOn '/' added, Kept segment) :
    requested? text [] =
      if text.toList.length ≤ maxLength then some { base with path := base.path ++ '/' :: added }
      else none := by
  have hw := normal?_of_parse? hplain.parsed
  obtain ⟨⟨hs, -, hh, -⟩, -, -, hquery, hfragment⟩ := Written.normal?_eq_some hw
  obtain ⟨hscheme_ne, hhost_ne⟩ := isAbsolute_iff.1 hplain.absolute
  have hscheme : (Written.ofText cs).scheme ≠ [] := by
    intro hnil
    rw [hs, hnil] at hscheme_ne
    exact hscheme_ne rfl
  have hauthority : (Written.ofText cs).authority ≠ Authority.ofText [] := by
    intro hnil
    rw [hnil] at hh
    exact hhost_ne (Option.some.inj hh).symm
  have hcs : '?' ∉ cs ∧ '#' ∉ cs := by
    rw [← Written.no_query_iff]
    rw [hplain.query] at hquery
    rw [hplain.fragment] at hfragment
    exact ⟨Option.map_eq_none_iff.1 hquery.symm, Option.map_eq_none_iff.1 hfragment.symm⟩
  have hadded : '?' ∉ added ∧ '#' ∉ added :=
    ⟨fun h => (ne_of_isPathSafe (hsafe _ h)).1 rfl, fun h => (ne_of_isPathSafe (hsafe _ h)).2 rfl⟩
  have hnormal : (Written.ofText text.toList).normal?
      = some { base with path := base.path ++ '/' :: added } := by
    rw [htext, Written.ofText_behind hcs hadded hscheme hauthority]
    exact normal?_behind hw hplain.absolute hsafe hkept
  have hsound : isSound text.toList = decide (text.toList.length ≤ maxLength) := by
    have hcontrol : text.toList.any isControl = false := by
      have hall : ∀ c ∈ added, isControl c = false :=
        fun c hc => isControl_of_isPathSafe (hsafe c hc)
      have hslash : isControl '/' = false := by decide
      have hhead : cs.any isControl = false := not_any_isControl_of_parse? hplain.parsed
      rw [htext, List.any_append, List.any_cons, hhead, hslash, List.any_eq_false.2]
      · rfl
      · intro c hc
        rw [hall c hc]
        exact Bool.false_ne_true
    rw [isSound, hcontrol]
    exact Bool.and_true _
  have habs : ({ base with path := base.path ++ '/' :: added } : Url).isAbsolute = true :=
    hplain.absolute
  rw [requested?, target?, Url.parse?, hsound, hnormal]
  split
  · next hle =>
    rw [if_pos (of_decide_eq_true hle)]
    simp only [bind, Option.bind_some, Url.requested?, habs, if_true]
    exact Option.filter_some_pos hplain.ascii
  · next hlong =>
    rw [if_neg fun hle => hlong (decide_eq_true hle)]
    rfl

theorem Url.Plain.render_behind (hplain : Plain cs base) (added : List Char) :
    ({ base with path := base.path ++ '/' :: added } : Url).render
      = base.render ++ '/' :: added := by
  simp only [Url.render, Url.written, Written.render, hplain.query, hplain.fragment,
    List.append_nil, List.append_assoc]

end LibraryCalls.Web
