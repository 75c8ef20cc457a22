import LibraryCalls.Proofs.Web.Behind
import LibraryCalls.Proofs.Web.Form
import LibraryCalls.Proofs.Web.Host

/-!
# The text of a request read back

The client turns a URL into a text, and a server finds the query in it again: before the query there
is neither a question mark nor a number sign, and in the query there is no number sign.  So the
parameters of a request are read back as they were given, and all else in the request comes from the
text of its URL.

Reading the text of a URL back is shown for the parts that matter, from the right to the left: the
fragment begins at the first number sign, the query at the first question mark before that, and
neither sign occurs earlier because host, user and path are free of them.  The URL that is requested
is in normal form, from which this follows.

A client without a place of its own may be given a text that is no absolute URL.  Then the request
is cut down to a path with its query, and the same is true of it.

* `Written.query_ofText_render`: the query and the fragment in the text of a requested URL;
* `fieldsOf`, `fieldsOf_of_requested?`: the parameters that a server finds in it;
* `resource?`, `requested?_eq`: what is asked, whatever the parameters are, and what is requested.
-/

namespace LibraryCalls.Web

open Text Url

variable {url : String} {params : List (String × String)} {u : Url} {w : Written}
  {c : Char} {cs xs text : List Char}

/-! ### Texts of URLs -/

/-- A part of a URL behind the character that stands before it, if there is such a part. -/
def Written.behind (c : Char) : Option (List Char) → List Char
  | none => []
  | some part => c :: part

def Written.head (w : Written) : List Char :=
  (if w.scheme = [] then [] else w.scheme ++ [':'])
    ++ (if w.authority.render = [] then [] else '/' :: '/' :: w.authority.render)
    ++ w.path

theorem Written.render_eq (w : Written) :
    w.render = w.head ++ behind '?' w.query ++ behind '#' w.fragment := by
  rw [render]
  cases w.query <;> cases w.fragment <;> rfl

theorem Written.cutAfter_behind (hc : c ∉ xs) (part : Option (List Char)) :
    cutAfter c (xs ++ behind c part) = (xs, part) := by
  cases part with
  | none => rw [behind, List.append_nil, cutAfter, cutFirst_eq_none_iff.2 hc]
  | some part => rw [behind, cutAfter, cutFirst_eq_some_iff.2 ⟨rfl, hc⟩]

/-- A URL whose text can be read back: no part holds a character that stands before a later one. -/
structure Url.Readable (u : Url) : Prop where
  scheme : Unmarked u.scheme
  userinfo : Unmarked u.userinfo
  host : Unmarked u.host
  path : Unmarked u.path
  query : ∀ q, u.query = some q → '#' ∉ q

theorem unmarked_toString (n : Int) : Unmarked (toString n).toList := by
  have hdigits : ∀ m : Nat, Unmarked m.repr.toList := by
    intro m c hc
    rw [Nat.repr_eq_ofList_toDigits, String.toList_ofList] at hc
    have hdigit : c.isDigit = true := Nat.isDigit_of_mem_toDigits (by decide) (by decide) hc
    exact isPartMark_eq_false (by decide) (by decide) hdigit
  rw [Int.toString_eq_repr, Int.repr_eq_if]
  split
  · exact hdigits _
  · rw [String.toList_append]
    exact Unmarked.append (.cons (by decide) .nil) (hdigits _)

theorem Url.unmarked_writtenHost (h : Unmarked cs) : Unmarked (writtenHost cs) := by
  rw [writtenHost]
  split
  · exact (h.cons (by decide)).append (.cons (by decide) .nil)
  · exact h

theorem Url.Readable.unmarked_authority (hu : u.Readable) :
    Unmarked u.written.authority.render := by
  have hport : Unmarked u.written.authority.port := by
    rw [Url.written]
    dsimp only
    split
    · exact .nil
    · exact unmarked_toString _
  have huser : Unmarked u.written.authority.userinfo := hu.userinfo
  have hhost : Unmarked u.written.authority.host := unmarked_writtenHost hu.host
  rw [Authority.render]
  refine (Unmarked.append ?_ hhost).append ?_
  · split
    · exact .nil
    · exact huser.append (.cons (by decide) .nil)
  · split
    · exact .nil
    · exact hport.cons (by decide)

theorem Url.Readable.unmarked_head (hu : u.Readable) : Unmarked u.written.head := by
  rw [Written.head]
  refine Unmarked.append (Unmarked.append ?_ ?_) hu.path
  · split
    · exact .nil
    · exact Unmarked.append hu.scheme (.cons (by decide) .nil)
  · split
    · exact .nil
    · exact (hu.unmarked_authority.cons (by decide)).cons (by decide)

/-- **The query and the fragment** in the text of a URL are those of the URL. -/
theorem Written.query_ofText_render (hu : u.Readable) :
    (Written.ofText u.render).query = u.query ∧
      (Written.ofText u.render).fragment = u.fragment := by
  have hhead := hu.unmarked_head.not_mem
  have hmark : '#' ∉ u.written.head ++ behind '?' u.query := by
    intro hmem
    rcases List.mem_append.1 hmem with hmem | hmem
    · exact hhead.2 hmem
    · cases hq : u.query with
      | none =>
        rw [hq] at hmem
        cases hmem
      | some q =>
        rw [hq] at hmem
        rcases List.mem_cons.1 hmem with hmem | hmem
        · exact absurd hmem (by decide)
        · exact hu.query q hq hmem
  have hfragment : cutAfter '#' u.render
      = (u.written.head ++ behind '?' u.query, u.fragment) := by
    rw [Url.render, render_eq]
    exact cutAfter_behind hmark u.fragment
  show (cutAfter '?' (cutAfter '#' u.render).1).2 = u.query ∧ (cutAfter '#' u.render).2 = u.fragment
  rw [hfragment, cutAfter_behind hhead.1]
  exact ⟨rfl, rfl⟩

/-! ### Parts of requested URLs -/

theorem Written.unmarked_pathText (text : List Char) : Unmarked (pathText text) := by
  intro c hc
  have hne := List.mem_takeWhile_imp hc
  simp only [decide_eq_true_eq] at hne
  simp [isPartMark, hne]

theorem Written.unmarked_cutScheme (h : Unmarked cs) : Unmarked (cutScheme cs).2 := by
  rw [cutScheme]
  split
  · next scheme rest hcut =>
    split
    · obtain ⟨rfl, -⟩ := cutFirst_eq_some_iff.1 hcut
      exact h.subset fun c hc => List.mem_append_right _ (List.mem_cons_of_mem _ hc)
    · exact h
  · exact h

theorem Written.unmarked_cutAuthority (h : Unmarked cs) : Unmarked (cutAuthority cs).1 := by
  rw [cutAuthority.eq_def]
  split
  · next rest =>
    rw [List.span_eq_takeWhile_dropWhile]
    apply h.subset
    intro c hc
    exact List.mem_cons_of_mem _ (List.mem_cons_of_mem _ ((List.takeWhile_sublist _).subset hc))
  · exact .nil

theorem Written.unmarked_host_ofText (text : List Char) :
    Unmarked (Written.ofText text).authority.host := by
  obtain ⟨-, hauthority, -⟩ := Written.ofText_parts text
  rw [hauthority]
  apply Authority.unmarked_host
  exact unmarked_cutAuthority (unmarked_cutScheme (unmarked_pathText text))

/-- Written parts that are taken from a text: the host holds no marks, and there is no fragment
without a number sign in the text. -/
structure Written.TakenFrom (text : List Char) (w : Written) : Prop where
  host : Unmarked w.authority.host
  fragment : '#' ∉ text → w.fragment = none

theorem Url.takenFrom_written (hw : w.TakenFrom text) (h : w.normal? = some u)
    (query : Option (List Char)) : ({ u.written with query } : Written).TakenFrom text := by
  obtain ⟨⟨-, -, hhost, -⟩, -, -, -, hfragment⟩ := Written.normal?_eq_some h
  refine ⟨unmarked_writtenHost (unmarked_normalHost? hw.host hhost), fun hmark => ?_⟩
  show u.fragment = none
  rw [hfragment, hw.fragment hmark]
  rfl

/-- The URL that is requested without parameters is the normal form of parts taken from the text. -/
theorem exists_takenFrom {parsed asked : Url} (hparsed : Url.parse? text = some parsed)
    (hasked : parsed.requested? = some asked) :
    ∃ w : Written, w.TakenFrom text ∧ w.normal? = some asked := by
  have hw : (Written.ofText text).TakenFrom text :=
    ⟨Written.unmarked_host_ofText text, Written.snd_cutAfter_eq_none_iff.2⟩
  rw [Url.requested?] at hasked
  split at hasked
  · exact ⟨_, hw, Option.some.inj hasked ▸ normal?_of_parse? hparsed⟩
  · exact ⟨_, ⟨.nil, fun _ => rfl⟩, Written.url?_eq_some hasked⟩

/-- **The requested URL** can be read back, and has no fragment without a number sign in the
text. -/
theorem readable_of_target? (h : target? url params = some u) :
    u.Readable ∧ ('#' ∉ url.toList → u.fragment = none) := by
  have hscheme : u.SchemeFits := by
    rcases target?_cases h with ⟨-, hfits⟩ | hrooted
    · exact hfits
    · intro c hc
      rw [hrooted.scheme] at hc
      cases hc
  obtain ⟨w, hw, hnormal⟩ : ∃ w : Written, w.TakenFrom url.toList ∧ w.normal? = some u := by
    simp only [target?, bind, Option.bind_eq_some_iff] at h
    obtain ⟨parsed, hparsed, asked, hasked, h⟩ := h
    obtain ⟨w, hw, hnormal⟩ := exists_takenFrom hparsed hasked
    cases params with
    | nil => exact ⟨w, hw, Option.some.inj h ▸ hnormal⟩
    | cons p params => exact ⟨_, takenFrom_written hw hnormal _, Written.url?_eq_some h⟩
  obtain ⟨⟨-, huser, hhost, -⟩, -, hpath, hquery, hfragment⟩ := Written.normal?_eq_some hnormal
  refine ⟨⟨?_, ?_, unmarked_normalHost? hw.host hhost, ?_, ?_⟩, fun hmark => ?_⟩
  · exact fun c hc => isPartMark_eq_false (by decide) (by decide) (hscheme c hc)
  · rw [huser]
    exact unmarked_encodeKeeping (by decide) isUserSafe_of_isHexDigit (by decide) (by decide) _
  · rw [hpath]
    exact unmarked_encodeKeeping (by decide) isPathSafe_of_isHexDigit (by decide) (by decide) _
  · intro q hq hmem
    rw [hquery] at hq
    obtain ⟨written, -, rfl⟩ := Option.map_eq_some_iff.1 hq
    rw [encodeKeeping_isQuerySafe] at hmem
    exact Percent.not_mem_encode (by decide) (by decide) (by decide) written hmem
  · rw [hfragment, hw.fragment hmark]
    rfl

/-! ### Parameters -/

/-- The parameters that a server finds in the text of a request. -/
def fieldsOf (request : String) : List (List String) :=
  Url.fields ((Written.ofText request.toList).query.getD [])

/-- **The parameters of a request are read back** as they were given. -/
theorem fieldsOf_of_requested? (hne : params ≠ []) (h : requested? url params = some u) :
    fieldsOf (String.ofList u.render) = params.map fun p => [p.1, p.2] := by
  have htarget := (Option.filter_eq_some_iff.1 h).1
  have hread := Written.query_ofText_render (readable_of_target? htarget).1
  rw [fieldsOf, String.toList_ofList, hread.1, query_of_target? hne htarget, Option.getD_some,
    fields_queryOf hne]

/-- Separators, a plus sign and a letter beyond ASCII come back from their escapes. -/
example : fieldsOf "https://h/c?path=a%26b%3Dc&sha=x+y%2B%23%C3%A9" =
    [["path", "a&b=c"], ["sha", "x y+#é"]] := by decide +kernel

/-! ### What is asked -/

/-- What is asked of whom, whatever the parameters are. -/
def resource? (url : String) : Option Url := do
  let u ← Url.parse? url.toList
  let u ← u.requested?
  ({ u.written with query := none } : Written).url?.filter fun u => Domain.Label.isAscii u.host

/-- Another query changes nothing else in a normal form. -/
theorem Written.normal?_query (w : Written) (query : Option (List Char)) :
    ({ w with query } : Written).normal?
      = ({ w with query := none } : Written).normal?.map fun u =>
          { u with query := query.map (Percent.encodeKeeping isQuerySafe) } := by
  simp only [Written.normal?, bind]
  cases normalHost? w.authority.host with
  | none => rfl
  | some host =>
    cases normalPort? w.scheme w.authority.port with
    | none => rfl
    | some port =>
      simp only [Option.bind_some]
      split
      · rfl
      · rfl

theorem Url.isSound_queryOf (params : List (String × String)) :
    isSound (queryOf params) = decide ((queryOf params).length ≤ maxLength) := by
  have hcontrol : (queryOf params).any isControl = false := by
    apply List.any_eq_false.2
    intro c hc
    rw [isControl_of_isQuerySafe (isQuerySafe_of_mem_queryOf hc)]
    exact Bool.false_ne_true
  rw [isSound, hcontrol]
  exact Bool.and_true _

theorem Written.url?_query (w : Written) (params : List (String × String)) :
    ({ w with query := some (queryOf params) } : Written).url?
      = if (queryOf params).length ≤ maxLength then
          ({ w with query := none } : Written).url?.map fun u =>
            { u with query := some (queryOf params) }
        else none := by
  have hsound : ({ w with query := some (queryOf params) } : Written).texts.all isSound
      = (decide ((queryOf params).length ≤ maxLength)
          && ({ w with query := none } : Written).texts.all isSound) := by
    simp only [Written.texts, Option.toList, List.all_append, List.all_cons, List.all_nil,
      isSound_queryOf, Bool.and_true]
    ac_rfl
  rw [Written.url?, hsound, Written.normal?_query, Option.map_some, encodeKeeping_queryOf]
  by_cases hlong : (queryOf params).length ≤ maxLength
  · rw [if_pos hlong, decide_eq_true hlong, Bool.true_and, Written.url?]
    split
    · rfl
    · rfl
  · rw [if_neg hlong, decide_eq_false hlong, Bool.false_and]
    rfl

/-- **What is requested** with parameters: what is asked, with the parameters for a query, unless
they are too long. -/
theorem requested?_eq (hne : params ≠ []) :
    requested? url params =
      if (queryOf params).length ≤ maxLength then
        (resource? url).map fun u => { u with query := some (queryOf params) }
      else none := by
  have htarget : target? url params = (Url.parse? url.toList).bind fun parsed =>
      parsed.requested?.bind fun asked => asked.withQuery? (queryOf params) := by
    cases params with
    | nil => exact absurd rfl hne
    | cons p params => rfl
  rw [requested?, htarget, resource?]
  cases Url.parse? url.toList with
  | none => exact (ite_self _).symm
  | some parsed =>
    simp only [bind, Option.bind_some]
    cases parsed.requested? with
    | none => exact (ite_self _).symm
    | some asked =>
      simp only [Option.bind_some, withQuery?, Written.url?_query]
      split
      · exact Option.filter_map
      · rfl

end LibraryCalls.Web
