import LibraryCalls.Proofs.Web.Percent

/-!
# URLs in normal form

What the parts of a URL in normal form are made of.  A URL begins with a scheme, or the client makes
it one without scheme and place, whose path starts at the root.

A normal form has the shape of its definition and little else is needed of it: the scheme is made of
characters of schemes, path and query are made of safe characters and escapes, and an authority is
either there or the path starts at the root.  These facts are collected here so that the definition
of the normal form need not be opened again.

Setting another query goes through the normal form a second time and changes nothing but the query.

* `Written.normal?_eq_some`: the parts of a normal form;
* `Url.Rooted`: a URL that is a path from the root on;
* `Url.requested?_cases`, `Url.withQuery?_eq_some`: the URL that is requested.
-/

namespace LibraryCalls.Web

open Text Url

variable {w : Written} {u v : Url}

/-! ### Parts -/

def Url.hasAuthority (u : Url) : Bool :=
  u.userinfo ≠ [] || u.host ≠ [] || u.port.isSome

/-- **The parts of a normal form.** -/
theorem Written.normal?_eq_some (h : w.normal? = some u) :
    (u.scheme = lowerAscii w.scheme ∧
        u.userinfo = Percent.encodeKeeping isUserSafe w.authority.userinfo ∧
        normalHost? w.authority.host = some u.host ∧
        normalPort? w.scheme w.authority.port = some u.port) ∧
      pathFits (u.scheme ≠ []) u.hasAuthority w.path = true ∧
      u.path = Percent.encodeKeeping isPathSafe
        (if u.scheme ≠ [] ∨ u.hasAuthority = true then normalPath w.path else w.path) ∧
      u.query = w.query.map (Percent.encodeKeeping isQuerySafe) ∧
      u.fragment = w.fragment.map (Percent.encodeKeeping isFragmentSafe) := by
  simp only [Written.normal?, bind, Option.bind_eq_some_iff] at h
  obtain ⟨host, hhost, port, hport, h⟩ := h
  split at h
  · next hfits =>
    obtain rfl := Option.some.inj h
    refine ⟨⟨rfl, rfl, hhost, hport⟩, hfits, ?_, rfl, rfl⟩
    simp only [Url.hasAuthority, Bool.or_eq_true, decide_eq_true_eq]
  · simp at h

/-! ### Safe characters -/

theorem Url.isPathSafe_of_isHexDigit (c : Char) (h : Percent.isHexDigit c = true) :
    isPathSafe c = true :=
  Percent.isUnreserved_imp (by decide +kernel) (Percent.isUnreserved_of_isHexDigit h)

/-- Escapes in a path need no special care. -/
theorem Url.encodeKeeping_isPathSafe (cs : List Char) :
    Percent.encodeKeeping isPathSafe cs = Percent.encode isPathSafe cs :=
  Percent.encodeKeeping_eq_encode (by decide) isPathSafe_of_isHexDigit cs

theorem Url.isQuerySafe_of_isUnreserved (c : Char) (h : Percent.isUnreserved c = true) :
    isQuerySafe c = true :=
  Percent.isUnreserved_imp (by decide +kernel) h

/-- Neither do escapes in a query. -/
theorem Url.encodeKeeping_isQuerySafe (cs : List Char) :
    Percent.encodeKeeping isQuerySafe cs = Percent.encode isQuerySafe cs := by
  apply Percent.encodeKeeping_eq_encode (by decide)
  intro c hc
  exact isQuerySafe_of_isUnreserved c (Percent.isUnreserved_of_isHexDigit hc)

/-! ### Schemes -/

theorem Written.cutScheme_cases (cs : List Char) :
    (Written.cutScheme cs).1 = [] ∨ Written.isScheme (Written.cutScheme cs).1 = true := by
  rw [Written.cutScheme]
  split
  · split
    · next h => simpa using h
    · exact .inl rfl
  · exact .inl rfl

theorem Written.isSchemeChar_of_isScheme {scheme : List Char} (h : Written.isScheme scheme = true) :
    ∀ c ∈ scheme, Written.isSchemeChar c = true := by
  cases scheme with
  | nil => simp
  | cons c rest =>
    obtain ⟨hc, hrest⟩ := Bool.and_eq_true_iff.1 h
    intro d hd
    rcases List.mem_cons.1 hd with rfl | hd
    · simp [Written.isSchemeChar, Char.isAlphanum, hc]
    · exact List.all_eq_true.1 hrest d hd

theorem Written.toNat_lt_of_isSchemeChar {c : Char} (h : Written.isSchemeChar c = true) :
    c.toNat < 128 := by
  have hrange : ∀ high : UInt32, c.val ≤ high → high < 128 → c.toNat < 128 := fun high hle hlt =>
    Nat.lt_of_le_of_lt (UInt32.le_iff_toNat_le.1 hle) (UInt32.lt_iff_toNat_lt.1 hlt)
  simp only [isSchemeChar, Bool.or_eq_true, decide_eq_true_eq] at h
  rcases h with ((halphanum | rfl) | rfl) | rfl
  · rcases Bool.or_eq_true_iff.1 halphanum with halpha | hdigit
    · rcases Bool.or_eq_true_iff.1 halpha with hupper | hlower
      · have hbounds : c.val ≥ 'A'.val ∧ c.val ≤ 'Z'.val := of_decide_eq_true hupper
        exact hrange _ hbounds.2 (by decide)
      · exact hrange _ (of_decide_eq_true (Bool.and_eq_true_iff.1 hlower).2) (by decide)
    · exact hrange _ (of_decide_eq_true (Bool.and_eq_true_iff.1 hdigit).2) (by decide)
  all_goals decide

theorem Written.isSchemeChar_toLower {c : Char} (h : Written.isSchemeChar c = true) :
    Written.isSchemeChar c.toLower = true := by
  have hall : ∀ n < 128, isSchemeChar (Char.ofNat n) = true →
      isSchemeChar (Char.ofNat n).toLower = true := by decide +kernel
  have hc := hall c.toNat (toNat_lt_of_isSchemeChar h)
  rw [Char.ofNat_toNat] at hc
  exact hc h

/-- The scheme of a URL consists of the characters of schemes. -/
def Url.SchemeFits (u : Url) : Prop :=
  ∀ c ∈ u.scheme, Written.isSchemeChar c = true

theorem Url.schemeFits_of_normal? (hw : ∀ c ∈ w.scheme, Written.isSchemeChar c = true)
    (h : w.normal? = some u) : u.SchemeFits := by
  obtain ⟨⟨hscheme, -⟩, -⟩ := Written.normal?_eq_some h
  intro c hc
  rw [hscheme, lowerAscii] at hc
  obtain ⟨d, hd, rfl⟩ := List.mem_map.1 hc
  exact Written.isSchemeChar_toLower (hw d hd)

theorem Url.normal?_of_parse? {text : List Char} (h : Url.parse? text = some u) :
    (Written.ofText text).normal? = some u := by
  rw [Url.parse?] at h
  split at h
  · exact h
  · simp at h

theorem Url.schemeFits_of_parse? {text : List Char} (h : Url.parse? text = some u) :
    u.SchemeFits := by
  refine schemeFits_of_normal? ?_ (normal?_of_parse? h)
  -- the scheme of a written text is what is cut off before its first colon
  have hscheme : ∃ cs, (Written.ofText text).scheme = (Written.cutScheme cs).1 := ⟨_, rfl⟩
  obtain ⟨cs, hcs⟩ := hscheme
  rw [hcs]
  rcases Written.cutScheme_cases cs with hnil | hfits
  · simp [hnil]
  · exact Written.isSchemeChar_of_isScheme hfits

/-! ### Texts -/

theorem Written.render_of_scheme (h : w.scheme ≠ []) :
    ∃ rest, w.render = w.scheme ++ ':' :: rest := by
  simp only [Written.render, if_neg h, List.append_assoc]
  exact ⟨_, rfl⟩

theorem Written.render_of_path (hscheme : w.scheme = []) (hauthority : w.authority = ⟨[], [], []⟩) :
    ∃ rest, w.render = w.path ++ rest := by
  simp only [Written.render, if_pos hscheme, hauthority, List.append_assoc]
  exact ⟨_, rfl⟩

/-! ### Requested URLs -/

/-- A URL that is nothing but a path from the root on, with its query. -/
structure Url.Rooted (u : Url) : Prop where
  scheme : u.scheme = []
  authority : u.hasAuthority = false
  path : u.path.head? = some '/'

theorem Written.url?_eq_some (h : w.url? = some u) : w.normal? = some u := by
  rw [Written.url?] at h
  split at h
  · exact h
  · simp at h

/-- Written parts without scheme and place, with a path from the root on, are those of a rooted
URL. -/
theorem Url.rooted_of_normal? (hscheme : w.scheme = []) (hauthority : w.authority = ⟨[], [], []⟩)
    (hpath : w.path.head? = some '/') (h : w.normal? = some u) : u.Rooted := by
  obtain ⟨⟨hs, huser, hhost, hport⟩, -, hp, -⟩ := Written.normal?_eq_some h
  have hscheme' : u.scheme = [] := by rw [hs, hscheme]; rfl
  have hauthority' : u.hasAuthority = false := by
    rw [hauthority] at huser hhost hport
    have huser' : u.userinfo = [] := huser
    have hhost' : u.host = [] := (Option.some.inj hhost).symm
    have hport' : u.port = none := (Option.some.inj hport).symm
    simp [Url.hasAuthority, huser', hhost', hport']
  refine ⟨hscheme', hauthority', ?_⟩
  rw [hp, if_neg (by simp [hscheme', hauthority'])]
  obtain ⟨rest, hrest⟩ := List.head?_eq_some_iff.1 hpath
  rw [hrest, encodeKeeping_isPathSafe, Percent.encode_cons, Percent.encodeChar_of_safe (by decide)]
  rfl

theorem Url.isAbsolute_iff : u.isAbsolute = true ↔ u.scheme ≠ [] ∧ u.host ≠ [] := by
  rw [Url.isAbsolute, Bool.and_eq_true, decide_eq_true_eq, decide_eq_true_eq]

/-- **The URL that is requested** is the URL itself, if it says by itself what is asked of whom, or
else a path from the root on. -/
theorem Url.requested?_cases (h : u.requested? = some v) :
    (v = u ∧ u.scheme ≠ [] ∧ u.host ≠ []) ∨ v.Rooted := by
  rw [Url.requested?] at h
  split at h
  · next habs => exact .inl ⟨(Option.some.inj h).symm, isAbsolute_iff.1 habs⟩
  · exact .inr (rooted_of_normal? rfl rfl rfl (Written.url?_eq_some h))

/-- Another query leaves the scheme as it is, but for capital letters, and is written as it may
stand in a URL. -/
theorem Url.withQuery?_eq_some {query : List Char} (h : u.withQuery? query = some v) :
    v.scheme = lowerAscii u.scheme ∧ v.query = some (Percent.encodeKeeping isQuerySafe query) := by
  obtain ⟨⟨hscheme, -⟩, -, -, hquery, -⟩ := Written.normal?_eq_some (Written.url?_eq_some h)
  exact ⟨hscheme, hquery⟩

theorem Url.SchemeFits.withQuery? {query : List Char} (hu : u.SchemeFits)
    (h : u.withQuery? query = some v) : v.SchemeFits :=
  schemeFits_of_normal? (w := { u.written with query := some query }) hu (Written.url?_eq_some h)

theorem Url.Rooted.written_authority (hu : u.Rooted) : u.written.authority = ⟨[], [], []⟩ := by
  have hnone := hu.authority
  simp only [Url.hasAuthority, Bool.or_eq_false_iff, decide_eq_false_iff_not, ne_eq,
    Decidable.not_not, Option.isSome_eq_false_iff, Option.isNone_iff_eq_none] at hnone
  obtain ⟨⟨huser, hhost⟩, hport⟩ := hnone
  simp [Url.written, huser, hhost, hport, writtenHost]

theorem Url.Rooted.withQuery? {query : List Char} (hu : u.Rooted)
    (h : u.withQuery? query = some v) : v.Rooted :=
  rooted_of_normal? (w := { u.written with query := some query }) hu.scheme hu.written_authority
    hu.path (Written.url?_eq_some h)

end LibraryCalls.Web
