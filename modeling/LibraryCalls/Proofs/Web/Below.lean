import LibraryCalls.Proofs.Text.Parts
import LibraryCalls.Proofs.Web.Request
import Mathlib.Data.List.TakeDrop
import Mathlib.Data.List.TakeWhile

/-!
# URLs below other URLs

A text put behind the text of an absolute URL, with a slash between them, changes nothing but the
path of that URL.  The path goes on with the segments of the added text, and the dots among these
are resolved as the segments are put down one by one: a single dot counts for nothing, and two dots
take away the segment before them, be it an added one or one that was there.

So the requested URL has the scheme and the place of the first one whatever is added, and its path
can be computed from that path and the added segments.  It is below the first URL if these never
step up more often than down; otherwise it can be anywhere in the same place.

* `Written.pathText`: the text before the query and the fragment;
* `Url.resolveAfter`: segments behind others; `splitOn_normalPath_append`: those of a longer path;
* `Url.stays`: segments that never step up too often, and leave what was there;
* `Url.Below`, `Url.Reached`: a URL whose path goes on, and one whose path is led to by segments;
* `Url.Reached.below_iff`, `Url.Reached.below`: when a URL that is reached is below;
* `reached_of_requested?`: the URL that is requested for the longer text.
-/

namespace LibraryCalls.Web

open Text Url

variable {base u v : Url} {w w' : Written} {cs head more : List Char}

/-! ### The text before the query -/

def Written.pathText (cs : List Char) : List Char :=
  cs.takeWhile fun c => c ≠ '?' ∧ c ≠ '#'

theorem Written.fst_cutAfter (c : Char) (cs : List Char) :
    (Written.cutAfter c cs).1 = cs.takeWhile (· ≠ c) := by
  rw [Written.cutAfter]
  cases h : cutFirst c cs with
  | none =>
    have hc := cutFirst_eq_none_iff.1 h
    have hall : ∀ d ∈ cs, decide (d ≠ c) = true :=
      fun d hd => decide_eq_true fun heq => hc (heq ▸ hd)
    exact (List.takeWhile_eq_self_iff.2 hall).symm
  | some p =>
    obtain ⟨hcs, hc⟩ := cutFirst_eq_some_iff.1 (show _ = some (p.1, p.2) from h)
    have hbefore : ∀ d ∈ p.1, decide (d ≠ c) = true :=
      fun d hd => decide_eq_true fun heq => hc (heq ▸ hd)
    rw [hcs, List.takeWhile_append_of_pos hbefore]
    simp

theorem Written.fst_cutAfter_cutAfter (cs : List Char) :
    (Written.cutAfter '?' (Written.cutAfter '#' cs).1).1 = Written.pathText cs := by
  simp only [fst_cutAfter, List.takeWhile_takeWhile, decide_eq_true_eq, pathText]

theorem Written.pathText_eq_self_iff : Written.pathText cs = cs ↔ '?' ∉ cs ∧ '#' ∉ cs := by
  simp only [pathText, List.takeWhile_eq_self_iff, decide_eq_true_eq]
  exact ⟨fun h => ⟨fun hmem => (h _ hmem).1 rfl, fun hmem => (h _ hmem).2 rfl⟩,
    fun h c hc => ⟨fun heq => h.1 (heq ▸ hc), fun heq => h.2 (heq ▸ hc)⟩⟩

/-- A text with a query or a fragment has the same text before them, whatever is put behind it. -/
theorem Written.pathText_append_of_ne (h : Written.pathText head ≠ head) (rest : List Char) :
    Written.pathText (head ++ rest) = Written.pathText head := by
  rw [pathText, List.takeWhile_append, if_neg]
  · rfl
  · exact fun hlen => h ((List.takeWhile_prefix _).eq_of_length hlen)

theorem Written.pathText_append (h : Written.pathText head = head) (rest : List Char) :
    Written.pathText (head ++ rest) = head ++ Written.pathText rest :=
  List.takeWhile_append_of_pos (List.takeWhile_eq_self_iff.1 h)

/-! ### Places -/

/-- The scheme, the place and the path in the text before the query. -/
theorem Written.ofText_parts (cs : List Char) :
    (Written.ofText cs).scheme = (Written.cutScheme (Written.pathText cs)).1 ∧
      (Written.ofText cs).authority
        = Authority.ofText
            (Written.cutAuthority (Written.cutScheme (Written.pathText cs)).2).1 ∧
      (Written.ofText cs).path
        = (Written.cutAuthority (Written.cutScheme (Written.pathText cs)).2).2 := by
  rw [← fst_cutAfter_cutAfter]
  exact ⟨rfl, rfl, rfl⟩

/-- A text behind a scheme leaves the scheme alone. -/
theorem Written.cutScheme_append (h : (Written.cutScheme cs).1 ≠ []) (rest : List Char) :
    Written.cutScheme (cs ++ rest)
      = ((Written.cutScheme cs).1, (Written.cutScheme cs).2 ++ rest) := by
  simp only [cutScheme] at h ⊢
  cases hcut : cutFirst ':' cs with
  | none => simp [hcut] at h
  | some p =>
    have hlong : cutFirst ':' (cs ++ rest) = some (p.1, p.2 ++ rest) := by
      obtain ⟨hcs, hc⟩ := cutFirst_eq_some_iff.1 (show _ = some (p.1, p.2) from hcut)
      exact cutFirst_eq_some_iff.2 ⟨by rw [hcs]; simp, hc⟩
    simp only [hcut, hlong] at h ⊢
    split at h
    · next hscheme => rw [if_pos hscheme, if_pos hscheme]
    · exact absurd rfl h

/-- A text is cut at the first slash, whatever follows a slash behind it. -/
theorem Written.span_append_cons (xs rest : List Char) :
    (xs ++ '/' :: rest).span (· ≠ '/')
      = ((xs.span (· ≠ '/')).1, (xs.span (· ≠ '/')).2 ++ '/' :: rest) := by
  simp only [List.span_eq_takeWhile_dropWhile]
  induction xs with
  | nil => simp
  | cons x xs ih =>
    obtain ⟨htake, hdrop⟩ := Prod.mk.inj ih
    by_cases hx : x = '/'
    · simp [hx]
    · simp only [List.cons_append, List.takeWhile_cons, List.dropWhile_cons, ne_eq, hx,
        not_false_eq_true, decide_true, if_true]
      rw [htake, hdrop]

/-- A text from a slash on behind a place only adds to the path. -/
theorem Written.cutAuthority_append (h : (Written.cutAuthority cs).1 ≠ []) (rest : List Char) :
    Written.cutAuthority (cs ++ '/' :: rest)
      = ((Written.cutAuthority cs).1, (Written.cutAuthority cs).2 ++ '/' :: rest) := by
  revert h
  rw [cutAuthority.eq_def cs]
  split
  · intro _
    exact span_append_cons _ rest
  · exact fun h => absurd rfl h

/-- **The parts of a longer text**, behind one with a scheme and a place: the path goes on, unless
the first text goes on to a query or a fragment already. -/
theorem Written.ofText_append (hscheme : (Written.ofText cs).scheme ≠ [])
    (hauthority : (Written.ofText cs).authority ≠ Authority.ofText []) (rest : List Char) :
    (Written.ofText (cs ++ '/' :: rest)).scheme = (Written.ofText cs).scheme ∧
      (Written.ofText (cs ++ '/' :: rest)).authority = (Written.ofText cs).authority ∧
      (Written.ofText (cs ++ '/' :: rest)).path = (Written.ofText cs).path
        ++ if Written.pathText cs = cs then '/' :: Written.pathText rest else [] := by
  obtain ⟨hs, ha, hp⟩ := ofText_parts cs
  obtain ⟨hs', ha', hp'⟩ := ofText_parts (cs ++ '/' :: rest)
  rw [hs] at hscheme
  have hplace : (cutAuthority (cutScheme (pathText cs)).2).1 ≠ [] := by
    intro hnil
    rw [ha, hnil] at hauthority
    exact hauthority rfl
  rw [hs', ha', hp', hs, ha, hp]
  by_cases hself : pathText cs = cs
  · have htext : pathText (cs ++ '/' :: rest) = pathText cs ++ '/' :: pathText rest := by
      rw [pathText_append hself, hself]
      rfl
    rw [htext, cutScheme_append hscheme, cutAuthority_append hplace, if_pos hself]
    exact ⟨rfl, rfl, rfl⟩
  · rw [pathText_append_of_ne hself, if_neg hself]
    exact ⟨rfl, rfl, (List.append_nil _).symm⟩

/-! ### Segments -/

/-- Whether segments never step up more often than down, from so many steps down on. -/
def Url.stays : Nat → List (List Char) → Bool
  | _, [] => true
  | depth, segment :: rest =>
    if segment = ['.'] then stays depth rest
    else if segment = ['.', '.'] then depth ≠ 0 && stays (depth - 1) rest
    else stays (depth + 1) rest

/-- **Segments that never step up too often** leave what was there before them. -/
theorem Url.foldl_resolveDot_of_stays {before : List (List Char)} (hne : before ≠ [])
    {segments : List (List Char)} (new : List (List Char))
    (h : stays new.length segments = true) :
    ∃ new', segments.foldl resolveDot (new ++ before) = new' ++ before := by
  induction segments generalizing new with
  | nil => exact ⟨new, rfl⟩
  | cons segment rest ih =>
    rw [stays] at h
    rw [List.foldl_cons, resolveDot]
    split at h
    · next hdot =>
      rw [if_pos hdot]
      exact ih new h
    · next hdot =>
      rw [if_neg hdot]
      split at h
      · next hup =>
        -- the segment that is taken away is one of those added
        cases new with
        | nil => simp at h
        | cons top new =>
          have hlong : top :: new ++ before ≠ [[]] := by
            cases new <;> simp [hne]
          rw [if_pos hup, if_neg hlong]
          exact ih new (by simpa using h)
      · next hup =>
        rw [if_neg hup]
        exact ih (segment :: new) h

/-- The empty segment before the first slash is never taken away. -/
theorem Url.foldl_resolveDot_root (segments new : List (List Char)) :
    ∃ new', segments.foldl resolveDot (new ++ [[]]) = new' ++ [[]] := by
  induction segments generalizing new with
  | nil => exact ⟨new, rfl⟩
  | cons segment rest ih =>
    rw [List.foldl_cons, resolveDot]
    split
    · exact ih new
    · split
      · split
        · exact ih new
        · next hlong =>
          cases new with
          | nil => simp at hlong
          | cons top new => exact ih new
      · exact ih (segment :: new)

theorem Url.splitOn_of_rooted {path : List Char} (h : path = [] ∨ path.head? = some '/') :
    ∃ rest, splitOn '/' path = [] :: rest := by
  rcases h with rfl | h
  · exact ⟨[], rfl⟩
  · obtain ⟨tail, rfl⟩ := List.head?_eq_some_iff.1 h
    exact ⟨splitOn '/' tail, by simp [splitOn]⟩

/-- Segments behind others, with the dots among them resolved. -/
def Url.resolveAfter (before added : List (List Char)) : List (List Char) :=
  (added.foldl resolveDot before.reverse).reverse

theorem Url.mem_of_mem_foldl_resolveDot {segment : List Char} {segments before : List (List Char)}
    (h : segment ∈ segments.foldl resolveDot before) : segment ∈ before ∨ segment ∈ segments := by
  induction segments generalizing before with
  | nil => exact .inl h
  | cons next rest ih =>
    have hnext : segment ∈ resolveDot before next → segment ∈ before ∨ segment = next := by
      rw [resolveDot]
      split
      · exact .inl
      · split
        · split
          · exact .inl
          · exact fun hmem => .inl (List.mem_of_mem_tail hmem)
        · exact fun hmem => (List.mem_cons.1 hmem).symm
    rcases ih h with hmem | hmem
    · rcases hnext hmem with hmem | rfl
      · exact .inl hmem
      · exact .inr List.mem_cons_self
    · exact .inr (List.mem_cons_of_mem next hmem)

/-- **The segments of a path in normal form** are those of the path with the dots resolved. -/
theorem Url.splitOn_normalPath {path : List Char} (hpath : path = [] ∨ path.head? = some '/') :
    splitOn '/' (normalPath path) = ((splitOn '/' path).foldl resolveDot []).reverse := by
  obtain ⟨segments, hsegments⟩ := splitOn_of_rooted hpath
  obtain ⟨top, htop⟩ := foldl_resolveDot_root segments []
  have hne : ((splitOn '/' path).foldl resolveDot []).reverse ≠ [] := by
    rw [hsegments, List.foldl_cons, ne_eq, List.reverse_eq_nil_iff]
    exact fun hnil => List.append_ne_nil_of_right_ne_nil top (List.cons_ne_nil [] [])
      (htop.symm.trans hnil)
  refine splitOn_joinWith hne fun part hpart => ?_
  rcases mem_of_mem_foldl_resolveDot (List.mem_reverse.1 hpart) with hmem | hmem
  · exact absurd hmem List.not_mem_nil
  · exact not_mem_of_mem_splitOn hmem

/-- **The segments of a longer path** follow on those of the first one. -/
theorem Url.splitOn_normalPath_append {path : List Char}
    (hpath : path = [] ∨ path.head? = some '/') (added : List Char) :
    splitOn '/' (normalPath (path ++ '/' :: added))
      = resolveAfter (splitOn '/' (normalPath path)) (splitOn '/' added) := by
  have hlong : path ++ '/' :: added = [] ∨ (path ++ '/' :: added).head? = some '/' := by
    rcases hpath with rfl | hpath
    · exact .inr rfl
    · exact .inr (by rw [List.head?_append, hpath]; rfl)
  rw [splitOn_normalPath hlong, splitOn_normalPath hpath, splitOn_append_cons, List.foldl_append,
    resolveAfter, List.reverse_reverse]

/-- Encoded segments are resolved like the segments themselves. -/
theorem Url.map_encode_resolveAfter {safe : Char → Bool} (hdot : safe '.' = true)
    (before added : List (List Char)) :
    (resolveAfter before added).map (Percent.encode safe)
      = resolveAfter (before.map (Percent.encode safe)) (added.map (Percent.encode safe)) := by
  have hstep : ∀ (output : List (List Char)) (segment : List Char),
      (resolveDot output segment).map (Percent.encode safe)
        = resolveDot (output.map (Percent.encode safe)) (Percent.encode safe segment) := by
    intro output segment
    have hroot : output.map (Percent.encode safe) = [[]] ↔ output = [[]] := by
      constructor
      · intro h
        obtain ⟨first, hfirst, hnil⟩ := List.map_eq_singleton_iff.1 h
        rw [hfirst, Percent.eq_of_encode_eq hnil List.not_mem_nil]
      · rintro rfl
        rfl
    have hdots : ∀ dots : List Char, (∀ c ∈ dots, c = '.') →
        (Percent.encode safe segment = dots ↔ segment = dots) :=
      fun dots hall => Percent.encode_eq_iff_of_dots hdot hall
    simp only [resolveDot, hdots ['.'] (by simp), hdots ['.', '.'] (by simp), hroot]
    split
    · rfl
    · split
      · split
        · rfl
        · exact List.map_tail
      · rfl
  have hall : ∀ output : List (List Char),
      (added.foldl resolveDot output).map (Percent.encode safe)
        = (added.map (Percent.encode safe)).foldl resolveDot
            (output.map (Percent.encode safe)) := by
    intro output
    induction added generalizing output with
    | nil => rfl
    | cons segment rest ih => rw [List.foldl_cons, ih, hstep, List.map_cons, List.foldl_cons]
  rw [resolveAfter, resolveAfter, List.map_reverse, hall, List.map_reverse]

/-- A path without its dots ends with the dots resolved, for segments that never step up too often:
nothing of what was there before is taken away. -/
theorem Url.prefix_resolveAfter_of_stays {before added : List (List Char)} (hne : before ≠ [])
    (h : stays 0 added = true) : before <+: resolveAfter before added := by
  obtain ⟨new, hnew⟩ := foldl_resolveDot_of_stays (by simpa using hne : before.reverse ≠ []) [] h
  rw [List.nil_append] at hnew
  rw [resolveAfter, hnew, List.reverse_append, List.reverse_reverse]
  exact List.prefix_append before new.reverse

/-! ### URLs -/

/-- A text that is empty or goes on with a slash. -/
def Url.GoesOn (more : List Char) : Prop :=
  more = [] ∨ more.head? = some '/'

/-- A URL in the same place as another one, whose path goes on from the path of that one. -/
structure Url.Below (u base : Url) : Prop where
  scheme : u.scheme = base.scheme
  userinfo : u.userinfo = base.userinfo
  host : u.host = base.host
  port : u.port = base.port
  path : ∃ more, u.path = base.path ++ more ∧ GoesOn more

/-- A URL in the same place as another one, with the path to which segments lead from there. -/
structure Url.Reached (u base : Url) (segments : List (List Char)) : Prop where
  scheme : u.scheme = base.scheme
  userinfo : u.userinfo = base.userinfo
  host : u.host = base.host
  port : u.port = base.port
  path : splitOn '/' u.path = resolveAfter (splitOn '/' base.path) segments

/-- **When a URL that is reached is below**: the segments have left those of the path untouched. -/
theorem Url.Reached.below_iff {segments : List (List Char)} (h : u.Reached base segments) :
    u.Below base ↔
      splitOn '/' base.path <+: resolveAfter (splitOn '/' base.path) segments := by
  rw [← h.path]
  constructor
  · rintro ⟨-, -, -, -, more, hmore, rfl | hslash⟩
    · have hsame : base.path = u.path := (hmore.trans (List.append_nil _)).symm
      exact hsame ▸ List.prefix_rfl
    · obtain ⟨tail, rfl⟩ := List.head?_eq_some_iff.1 hslash
      rw [hmore, splitOn_append_cons]
      exact List.prefix_append _ _
  · rintro ⟨more, hmore⟩
    refine ⟨h.scheme, h.userinfo, h.host, h.port, ?_⟩
    rw [← joinWith_splitOn '/' u.path, ← hmore]
    by_cases hnil : more = []
    · exact ⟨[], by rw [hnil, List.append_nil, List.append_nil, joinWith_splitOn], .inl rfl⟩
    · exact ⟨'/' :: joinWith '/' more,
        by rw [joinWith_append (splitOn_ne_nil '/' base.path) hnil, joinWith_splitOn], .inr rfl⟩

/-- **Segments that never step up too often** reach a URL below. -/
theorem Url.Reached.below {segments : List (List Char)} (h : u.Reached base segments)
    (hstays : stays 0 segments = true) : u.Below base :=
  h.below_iff.2 (prefix_resolveAfter_of_stays (splitOn_ne_nil '/' base.path) hstays)

/-- Written parts in the same place, with a path that goes on, are those of a URL that is reached.
-/
theorem Url.reached_of_normal? {goesOn : Prop} [Decidable goesOn] {added : List Char}
    (hbase : w.normal? = some base) (habs : base.isAbsolute = true)
    (hscheme : w'.scheme = w.scheme) (hauthority : w'.authority = w.authority)
    (hpath : w'.path = w.path ++ if goesOn then '/' :: added else [])
    (h : w'.normal? = some u) :
    u.Reached base
      (if goesOn then (splitOn '/' added).map (Percent.encode isPathSafe) else []) := by
  obtain ⟨⟨hbs, hbu, hbh, hbp⟩, hfits, hbpath, -⟩ := Written.normal?_eq_some hbase
  obtain ⟨⟨hs, hu, hh, hp⟩, -, hupath, -⟩ := Written.normal?_eq_some h
  rw [hscheme, hauthority] at *
  have hhost : u.host = base.host := Option.some.inj (hh.symm.trans hbh)
  have hport : u.port = base.port := Option.some.inj (hp.symm.trans hbp)
  have hschemes : u.scheme = base.scheme := hs.trans hbs.symm
  rw [isAbsolute_iff] at habs
  have hroot : w.path = [] ∨ w.path.head? = some '/' := by
    simpa [pathFits, Url.hasAuthority, habs.2] using hfits
  refine ⟨hschemes, hu.trans hbu.symm, hhost, hport, ?_⟩
  rw [hupath, hbpath, if_pos (.inl (hschemes ▸ habs.1)), if_pos (.inl habs.1),
    encodeKeeping_isPathSafe, encodeKeeping_isPathSafe, Percent.splitOn_encode (by decide),
    Percent.splitOn_encode (by decide), hpath]
  split
  · rw [splitOn_normalPath_append hroot, map_encode_resolveAfter (by decide)]
  · rw [List.append_nil, resolveAfter, List.foldl_nil, List.reverse_reverse]

theorem requested?_of_absolute {text : String} (h : requested? text [] = some u) :
    ∃ v, Url.parse? text.toList = some v ∧ (v.isAbsolute = true → u = v) := by
  have htarget := (Option.filter_eq_some_iff.1 h).1
  simp only [target?, bind, Option.bind_eq_some_iff] at htarget
  obtain ⟨v, hv, asked, hasked, hu⟩ := htarget
  refine ⟨v, hv, fun habs => ?_⟩
  rw [Url.requested?, if_pos habs] at hasked
  exact (Option.some.inj hu).symm.trans (Option.some.inj hasked).symm

/-- **The URL that is requested for a text behind that of an absolute URL** is the one to which the
segments of the added path lead, unless the first text goes on to a query or a fragment already. -/
theorem reached_of_requested? {text : String} {prefixText added : List Char}
    (hbase : Url.parse? prefixText = some base) (habs : base.isAbsolute = true)
    (htext : text.toList = prefixText ++ '/' :: added) (h : requested? text [] = some u) :
    u.Reached base (if Written.pathText prefixText = prefixText
      then (splitOn '/' (Written.pathText added)).map (Percent.encode isPathSafe) else []) := by
  obtain ⟨v, hv, hsame⟩ := requested?_of_absolute h
  have hw := normal?_of_parse? hbase
  have hw' := normal?_of_parse? (htext ▸ hv)
  obtain ⟨⟨hs, -, hh, -⟩, -⟩ := Written.normal?_eq_some hw
  have hparts := isAbsolute_iff.1 habs
  have hscheme : (Written.ofText prefixText).scheme ≠ [] := by
    intro hnil
    rw [hs, hnil] at hparts
    exact hparts.1 rfl
  have hauthority : (Written.ofText prefixText).authority ≠ Authority.ofText [] := by
    intro hnil
    rw [hnil] at hh
    exact hparts.2 (Option.some.inj hh).symm
  obtain ⟨hsch, haut, hpath⟩ := Written.ofText_append hscheme hauthority added
  have hreached := reached_of_normal? hw habs hsch haut hpath hw'
  have habs' : v.isAbsolute = true := by
    rw [Url.isAbsolute, hreached.scheme, hreached.host]
    exact habs
  exact hsame habs' ▸ hreached

end LibraryCalls.Web
