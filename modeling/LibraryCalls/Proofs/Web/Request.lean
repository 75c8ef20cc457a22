import LibraryCalls.Proofs.Text.Parts
import LibraryCalls.Proofs.Web.Normal
import LibraryCalls.Web.Client

/-!
# The URL of a request

The client requests the URL of a text, with parameters in place of its query, unless the text is no
URL or its host is not in ASCII.

Parameters replace the query of the text, they are not added to it, and so what a server finds is
what was given and nothing that stood in the text.  Names and values are encoded so that none of
their characters separates parameters, whatever the two texts are.

The request may still fail before it is made, for its length or for its host, and its reply may be
of no use because there is no scheme to record it by; both are told by conditions on the URL.

* `requested?`: the URL that is requested, if any;
* `parameterNames_of_requested?`: its query holds the given parameters and no others;
* `checkType_eq_ok_iff`: the reply to a request is recorded exactly when its URL has a scheme.
-/

namespace LibraryCalls.Web

open Text Url

variable {url : String} {params : List (String × String)} {u : Url}

/-- The URL that is requested for a text and parameters, if there is a request. -/
def requested? (url : String) (params : List (String × String)) : Option Url :=
  (target? url params).filter fun u => Domain.Label.isAscii u.host

/-- The names of the parameters in the query of a URL. -/
def Url.parameterNames (u : Url) : List (List Char) :=
  (splitOn '&' (u.query.getD [])).map fun part => part.takeWhile (· ≠ '=')

/-! ### Parameters -/

def Url.parameterText (p : String × String) : List Char :=
  Percent.encodeForm p.1.toList ++ '=' :: Percent.encodeForm p.2.toList

theorem Url.queryOf_eq_joinWith (params : List (String × String)) :
    queryOf params = joinWith '&' (params.map parameterText) := rfl

theorem Percent.not_mem_encodeForm (cs : List Char) :
    '&' ∉ encodeForm cs ∧ '=' ∉ encodeForm cs := by
  constructor
  all_goals
    intro h
    rcases of_mem_encodeForm h with h | h | h
    · exact absurd h (by decide)
    · exact absurd h (by decide)
    · exact absurd h (by decide)

theorem Percent.isQuerySafe_of_mem_encodeForm {c : Char} {cs : List Char}
    (h : c ∈ encodeForm cs) : isQuerySafe c = true := by
  rcases of_mem_encodeForm h with rfl | rfl | h
  · decide
  · decide
  · exact isQuerySafe_of_isUnreserved c h

theorem Url.isQuerySafe_of_mem_queryOf {c : Char} (h : c ∈ queryOf params) :
    isQuerySafe c = true := by
  rw [queryOf_eq_joinWith] at h
  rcases mem_joinWith h with rfl | ⟨part, hpart, hc⟩
  · decide
  · obtain ⟨p, -, rfl⟩ := List.mem_map.1 hpart
    rcases List.mem_append.1 hc with hc | hc
    · exact Percent.isQuerySafe_of_mem_encodeForm hc
    · rcases List.mem_cons.1 hc with rfl | hc
      · decide
      · exact Percent.isQuerySafe_of_mem_encodeForm hc

theorem Url.encodeKeeping_queryOf (params : List (String × String)) :
    Percent.encodeKeeping isQuerySafe (queryOf params) = queryOf params := by
  rw [encodeKeeping_isQuerySafe]
  exact Percent.encode_of_safe fun c hc => isQuerySafe_of_mem_queryOf hc

theorem Url.splitOn_queryOf (hne : params ≠ []) :
    splitOn '&' (queryOf params) = params.map parameterText := by
  rw [queryOf_eq_joinWith]
  apply splitOn_joinWith (by simpa using hne)
  intro part hpart hmem
  obtain ⟨p, -, rfl⟩ := List.mem_map.1 hpart
  rcases List.mem_append.1 hmem with h | h
  · exact (Percent.not_mem_encodeForm _).1 h
  · rcases List.mem_cons.1 h with h | h
    · exact absurd h (by decide)
    · exact (Percent.not_mem_encodeForm _).1 h

theorem Url.parameterNames_of_query (hne : params ≠ []) (hu : u.query = some (queryOf params)) :
    u.parameterNames = params.map fun p => Percent.encodeForm p.1.toList := by
  rw [parameterNames, hu, Option.getD_some, splitOn_queryOf hne, List.map_map]
  refine List.map_congr_left fun p _ => ?_
  have hname : ∀ c ∈ Percent.encodeForm p.1.toList, decide (c ≠ '=') = true :=
    fun c hc => decide_eq_true fun heq => (Percent.not_mem_encodeForm _).2 (heq ▸ hc)
  rw [Function.comp_apply, parameterText, List.takeWhile_append_of_pos hname]
  simp

/-! ### The requested URL -/

theorem target?_cases (h : target? url params = some u) :
    (u.scheme ≠ [] ∧ u.SchemeFits) ∨ u.Rooted := by
  simp only [target?, bind, Option.bind_eq_some_iff] at h
  obtain ⟨parsed, hparsed, asked, hasked, h⟩ := h
  have hcases : (asked.scheme ≠ [] ∧ asked.SchemeFits) ∨ asked.Rooted := by
    rcases requested?_cases hasked with ⟨rfl, hscheme, -⟩ | hrooted
    · exact .inl ⟨hscheme, schemeFits_of_parse? hparsed⟩
    · exact .inr hrooted
  cases params with
  | nil => exact Option.some.inj h ▸ hcases
  | cons p params =>
    rcases hcases with ⟨hscheme, hfits⟩ | hrooted
    · refine .inl ⟨?_, hfits.withQuery? h⟩
      simpa [(withQuery?_eq_some h).1, lowerAscii] using hscheme
    · exact .inr (hrooted.withQuery? h)

/-- With parameters, the query of the requested URL is made of them, whatever stood in the text. -/
theorem query_of_target? (hne : params ≠ []) (h : target? url params = some u) :
    u.query = some (queryOf params) := by
  simp only [target?, bind, Option.bind_eq_some_iff] at h
  obtain ⟨parsed, -, asked, -, h⟩ := h
  cases params with
  | nil => exact absurd rfl hne
  | cons p params => rw [(withQuery?_eq_some h).2, encodeKeeping_queryOf]

/-- **The parameters of a request** are the given ones, whatever stood in the text. -/
theorem parameterNames_of_requested? (hne : params ≠ []) (h : requested? url params = some u) :
    u.parameterNames = params.map fun p => Percent.encodeForm p.1.toList :=
  parameterNames_of_query hne (query_of_target? hne (Option.filter_eq_some_iff.1 h).1)

/-! ### The type of a URL -/

theorem ne_of_isSchemeChar {c : Char} (h : Written.isSchemeChar c = true) :
    c ≠ '/' ∧ c ≠ ':' ∧ c ≠ '#' := by
  refine ⟨?_, ?_, ?_⟩
  all_goals
    rintro rfl
    exact absurd h (by decide)

theorem namesType_of_scheme (hu : u.SchemeFits) (hne : u.scheme ≠ []) (rest : List Char) :
    namesType (u.scheme ++ ':' :: rest) = true := by
  have hpass : ∀ c ∈ u.scheme, (decide (c ≠ '/') && decide (c ≠ ':')) = true := by
    intro c hc
    obtain ⟨hslash, hcolon, -⟩ := ne_of_isSchemeChar (hu c hc)
    simp [hslash, hcolon]
  have hhead : (u.scheme ++ ':' :: rest).head? ≠ some ':' := by
    obtain ⟨c, cs, hcs⟩ := List.exists_cons_of_ne_nil hne
    have hc : c ≠ ':' := (ne_of_isSchemeChar (hu c (by simp [hcs]))).2.1
    simp [hcs, hc]
  have hdrop : (u.scheme ++ ':' :: rest).dropWhile (fun c => c ≠ '/' && c ≠ ':') = ':' :: rest := by
    rw [List.dropWhile_append_of_pos hpass]
    simp
  simp only [namesType, hdrop, decide_eq_true hhead]
  rfl

/-- **The reply to a request** is recorded exactly when the URL of the request has a scheme. -/
theorem checkType_eq_ok_iff (h : target? url params = some u) :
    checkType u = .ok () ↔ u.scheme ≠ [] := by
  rcases target?_cases h with ⟨hne, hfits⟩ | hrooted
  · obtain ⟨rest, hrest⟩ := Written.render_of_scheme (w := u.written) hne
    have hrest : u.render = (u.scheme ++ [':']) ++ rest := by
      rw [Url.render, hrest, List.append_assoc]
      rfl
    have hmark : '#' ∉ u.scheme ++ [':'] := by
      intro hmem
      rcases List.mem_append.1 hmem with hmem | hmem
      · exact (ne_of_isSchemeChar (hfits _ hmem)).2.2 rfl
      · exact absurd hmem (by decide)
    obtain ⟨more, hmore⟩ := getD_cutLast_append hmark rest
    rw [← hrest] at hmore
    have htype : namesType (u.scheme ++ [':'] ++ more) = true := by
      rw [List.append_assoc]
      exact namesType_of_scheme hfits hne more
    simp only [checkType, hmore, htype]
    simp [hne]
  · obtain ⟨rest, hpath⟩ := List.head?_eq_some_iff.1 hrooted.path
    obtain ⟨tail, htail⟩ :=
      Written.render_of_path (w := u.written) hrooted.scheme hrooted.written_authority
    have hrest : u.render = ['/'] ++ (rest ++ tail) := by
      rw [Url.render, htail, show u.written.path = '/' :: rest from hpath]
      rfl
    have hmark : '#' ∉ ['/'] := by decide
    obtain ⟨more, hmore⟩ := getD_cutLast_append hmark (rest ++ tail)
    rw [← hrest] at hmore
    have htype : namesType (['/'] ++ more) = false := rfl
    simp only [checkType, hmore, htype]
    simp [hrooted.scheme]

end LibraryCalls.Web
