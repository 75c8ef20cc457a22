import LibraryCalls.Proofs.Web.Normal
import Mathlib.Data.List.TakeDrop
import Mathlib.Data.List.TakeWhile

/-!
# The characters of a host

A host in normal form holds neither of the characters that stand before a query and a fragment: it
is copied from the text, whose parts do not hold them, or written anew in small letters, in escapes
or in ASCII letters for others.

The two marks are the question mark and the number sign.  A host that held one of them would end
early when the URL is read back from its text, so their absence is what the read-back of requests
rests on.  Letters in small form are treated by the table of letters, names in ASCII letters by the
digits they are made of, and everything else by escapes.

A host can have come from the text of the URL or from a location, and both pass through the same
normal form.

* `isPartMark`, `Unmarked`: the two characters, and the texts without them;
* `unmarked_lower`, `Punycode.unmarked_encode`, `Domain.unmarked_toAscii`: names of hosts;
* `Url.unmarked_normalHost?`: hosts in normal form;
* `Authority.unmarked_host`: the host in a text.
-/

namespace LibraryCalls.Web

open Text

variable {c : Char} {cs ds : List Char}

/-- The characters that stand before a query and a fragment. -/
def isPartMark (c : Char) : Bool :=
  c = '?' || c = '#'

def Unmarked (cs : List Char) : Prop :=
  ∀ c ∈ cs, isPartMark c = false

theorem isPartMark_eq_false {p : Char → Bool} (hquery : p '?' = false) (hfragment : p '#' = false)
    (hc : p c = true) : isPartMark c = false := by
  have hne : ∀ d, p d = false → c ≠ d := by
    rintro d hd rfl
    exact absurd (hc.symm.trans hd) (by decide)
  simp [isPartMark, hne _ hquery, hne _ hfragment]

theorem isPartMark_ofNat {n : Nat} (h : 64 ≤ n) : isPartMark (Char.ofNat n) = false := by
  by_cases hvalid : n.isValidChar
  · have hn : (Char.ofNat n).toNat = n := by
      rw [Char.ofNat, dif_pos hvalid]
      rfl
    have hne : ∀ d : Char, d.toNat < 64 → Char.ofNat n ≠ d := by
      rintro d hlt rfl
      omega
    simp [isPartMark, hne '?' (by decide), hne '#' (by decide)]
  · rw [Char.ofNat, dif_neg hvalid]
    decide

namespace Unmarked

theorem nil : Unmarked [] := fun _ h => absurd h List.not_mem_nil

theorem append (h : Unmarked cs) (h' : Unmarked ds) : Unmarked (cs ++ ds) := by
  intro c hc
  rcases List.mem_append.1 hc with hc | hc
  · exact h c hc
  · exact h' c hc

theorem cons (hc : isPartMark c = false) (h : Unmarked cs) : Unmarked (c :: cs) := by
  intro d hd
  rcases List.mem_cons.1 hd with rfl | hd
  · exact hc
  · exact h d hd

theorem subset (h : Unmarked ds) (hsub : ∀ c ∈ cs, c ∈ ds) : Unmarked cs :=
  fun c hc => h c (hsub c hc)

theorem joinWith {parts : List (List Char)} (hc : isPartMark c = false)
    (h : ∀ part ∈ parts, Unmarked part) : Unmarked (joinWith c parts) := by
  intro d hd
  rcases mem_joinWith hd with rfl | ⟨part, hpart, hd⟩
  · exact hc
  · exact h part hpart d hd

theorem not_mem (h : Unmarked cs) : '?' ∉ cs ∧ '#' ∉ cs :=
  ⟨fun hc => absurd (h _ hc) (by decide), fun hc => absurd (h _ hc) (by decide)⟩

end Unmarked

/-! ### Small letters -/

theorem isPartMark_lowerChar (h : isPartMark c = false) : isPartMark (lowerChar c) = false := by
  have hrows : ∀ r ∈ largeLetters, 64 ≤ r.2.2.2 := by decide +kernel
  rw [lowerChar]
  split
  · next r hr =>
    apply isPartMark_ofNat
    have hsmall := hrows r (List.mem_of_find?_eq_some hr)
    omega
  · exact h

theorem unmarked_lowerFrom (h : Unmarked cs) (cased : Bool) : Unmarked (lowerFrom cased cs) := by
  induction cs generalizing cased with
  | nil => exact Unmarked.nil
  | cons c cs ih =>
    have hc := h c List.mem_cons_self
    rw [lowerFrom]
    refine Unmarked.append ?_ (ih (h.subset fun d hd => List.mem_cons_of_mem c hd) _)
    split
    · apply Unmarked.cons _ Unmarked.nil
      split <;> decide
    · split
      · exact .cons (by decide) (.cons (by decide) .nil)
      · exact .cons (isPartMark_lowerChar hc) .nil

theorem unmarked_lower (h : Unmarked cs) : Unmarked (lower cs) :=
  unmarked_lowerFrom h false

/-! ### Names in ASCII letters -/

namespace Punycode

theorem isPartMark_digitChar {d : Nat} (h : d < base) : isPartMark (digitChar d) = false := by
  revert d
  decide

theorem unmarked_encodeNumber (bias place n : Nat) : Unmarked (encodeNumber bias place n) := by
  fun_induction encodeNumber bias place n with
  | case1 place n t hlt =>
    have ht : t ≤ 26 := threshold_le place bias
    have hd : n < base := by
      rw [base]
      omega
    exact .cons (isPartMark_digitChar hd) .nil
  | case2 place n t hge ih =>
    have ht : t ≤ 26 := threshold_le place bias
    have hmod : (n - t) % (base - t) < base - t := Nat.mod_lt _ (by rw [base]; omega)
    exact .cons (isPartMark_digitChar (by omega)) ih

theorem unmarked_visit {p : Progress} (h : Unmarked p.output) (basic n : Nat) (c : Char) :
    Unmarked (visit basic n p c).output := by
  rw [visit]
  split
  · exact h
  · split
    · exact h.append (unmarked_encodeNumber _ _ _)
    · exact h

theorem unmarked_encodeFrom (label : List Char) (basic n : Nat) (points : List Nat)
    {p : Progress} (h : Unmarked p.output) :
    Unmarked (encodeFrom label basic n points p).output := by
  have hpass : ∀ (cs : List Char) (m : Nat) {p : Progress}, Unmarked p.output →
      Unmarked (cs.foldl (visit basic m) p).output := by
    intro cs m
    induction cs with
    | nil => exact fun h => h
    | cons c cs ih => exact fun h => ih (unmarked_visit h basic m c)
  induction points generalizing n p with
  | nil => exact h
  | cons m points ih => exact ih _ (hpass label m h)

/-- **A name in ASCII letters** holds the ASCII characters of the label and digits. -/
theorem unmarked_encode {label : List Char} (h : Unmarked label) : Unmarked (encode label) := by
  rw [encode]
  refine Unmarked.append ?_ (unmarked_encodeFrom _ _ _ _ Unmarked.nil)
  split
  · exact .nil
  · exact (h.subset fun c hc => (List.mem_filter.1 hc).1).append (.cons (by decide) .nil)

end Punycode

namespace Domain

theorem Label.unmarked_asciiMark : Unmarked asciiMark := by
  have hall : asciiMark.all (fun c => !isPartMark c) = true := by decide
  intro c hc
  simpa using List.all_eq_true.1 hall c hc

theorem Label.unmarked_toAscii {label written : List Char} (h : Unmarked label)
    (hwritten : Label.toAscii label = .ok written) : Unmarked written := by
  rw [Label.toAscii] at hwritten
  split at hwritten
  · cases hof : Label.ofAscii label with
    | error e => simp [hof, bind, Except.bind] at hwritten
    | ok _ =>
      simp only [hof, bind, Except.bind] at hwritten
      split at hwritten
      · exact Except.ok.inj hwritten ▸ h
      · cases hwritten
  · cases hcheck : Label.check label with
    | error e => simp [hcheck, bind, Except.bind] at hwritten
    | ok _ =>
      simp only [hcheck, bind, Except.bind] at hwritten
      split at hwritten
      · cases hwritten
      · split at hwritten
        · exact Except.ok.inj hwritten ▸ unmarked_asciiMark.append (Punycode.unmarked_encode h)
        · cases hwritten

theorem exists_of_mem_mapM {f : List Char → Except Fault (List Char)} {xs ys : List (List Char)}
    (h : xs.mapM f = .ok ys) {y : List Char} (hy : y ∈ ys) : ∃ x ∈ xs, f x = .ok y := by
  induction xs generalizing ys with
  | nil =>
    obtain rfl := Except.ok.inj h
    exact absurd hy List.not_mem_nil
  | cons x xs ih =>
    rw [List.mapM_cons] at h
    cases hx : f x with
    | error e => simp [hx, bind, Except.bind] at h
    | ok first =>
      cases hrest : xs.mapM f with
      | error e => simp [hx, hrest, bind, Except.bind] at h
      | ok rest =>
        simp only [hx, hrest, bind, Except.bind] at h
        obtain rfl := Except.ok.inj h
        rcases List.mem_cons.1 hy with rfl | hy
        · exact ⟨x, List.mem_cons_self, hx⟩
        · obtain ⟨x', hx', hf⟩ := ih hrest hy
          exact ⟨x', List.mem_cons_of_mem x hx', hf⟩

theorem unmarked_of_mem_labels {name label : List Char} (h : Unmarked name)
    (hlabel : label ∈ (labels name).1) : Unmarked label := by
  have hdots : Unmarked (name.map fun c => if isDot c then '.' else c) := by
    intro c hc
    obtain ⟨d, hd, rfl⟩ := List.mem_map.1 hc
    split
    · decide
    · exact h d hd
  refine hdots.subset fun c hc => mem_of_mem_splitOn (c := '.') ?_ hc
  rw [labels] at hlabel
  split at hlabel
  · exact (List.dropLast_sublist _).subset hlabel
  · exact hlabel

theorem unmarked_mapLabels {f : List Char → Except Fault (List Char)} {name written : List Char}
    (hf : ∀ label written, Unmarked label → f label = .ok written → Unmarked written)
    (h : Unmarked name) (hwritten : mapLabels f name = .ok written) : Unmarked written := by
  simp only [mapLabels] at hwritten
  cases hparts : (labels name).1.mapM f with
  | error e => simp [hparts, bind, Except.bind] at hwritten
  | ok parts =>
    simp only [hparts, bind, Except.bind] at hwritten
    obtain rfl := Except.ok.inj hwritten
    have hall : ∀ part ∈ parts, Unmarked part := by
      intro part hpart
      obtain ⟨label, hlabel, hascii⟩ := exists_of_mem_mapM hparts hpart
      exact hf label part (unmarked_of_mem_labels h hlabel) hascii
    apply Unmarked.joinWith (by decide)
    intro part hpart
    split at hpart
    · rcases List.mem_append.1 hpart with hpart | hpart
      · exact hall part hpart
      · rw [List.mem_singleton.1 hpart]
        exact .nil
    · exact hall part hpart

/-- **A host name in ASCII letters** holds no marks unless it did before. -/
theorem unmarked_toAscii {name written : List Char} (h : Unmarked name)
    (hwritten : toAscii name = .ok written) : Unmarked written := by
  rw [toAscii] at hwritten
  cases hnew : mapLabels Label.toAscii name with
  | error e => simp [hnew, bind, Except.bind] at hwritten
  | ok new =>
    have hunmarked : Unmarked new :=
      unmarked_mapLabels (fun _ _ => Label.unmarked_toAscii) h hnew
    simp only [hnew, bind, Except.bind] at hwritten
    generalize (if (labels name).2 = true then maxLength + 1 else maxLength) = allowed at hwritten
    split at hwritten
    · exact Except.ok.inj hwritten ▸ hunmarked
    · cases hwritten

end Domain

/-! ### Hosts -/

/-- A part whose escapes are left alone holds safe characters and escapes. -/
theorem unmarked_encodeKeeping {safe : Char → Bool} (hpercent : safe '%' = true)
    (hdigit : ∀ c, Percent.isHexDigit c = true → safe c = true) (hquery : safe '?' = false)
    (hfragment : safe '#' = false) (cs : List Char) :
    Unmarked (Percent.encodeKeeping safe cs) := by
  rw [Percent.encodeKeeping_eq_encode hpercent hdigit]
  intro c hc
  rcases Percent.of_mem_encode hc with hsafe | rfl | hunreserved
  · exact isPartMark_eq_false hquery hfragment hsafe
  · decide
  · exact isPartMark_eq_false (by decide) (by decide) hunreserved

theorem Url.isHostSafe_of_isHexDigit (c : Char) (h : Percent.isHexDigit c = true) :
    isHostSafe c = true := by
  simp [isHostSafe, Percent.isUnreserved_of_isHexDigit h]

theorem Url.isUserSafe_of_isHexDigit (c : Char) (h : Percent.isHexDigit c = true) :
    isUserSafe c = true :=
  Percent.isUnreserved_imp (by decide +kernel) (Percent.isUnreserved_of_isHexDigit h)

/-- **A host in normal form** holds no marks unless it did before. -/
theorem Url.unmarked_normalHost? {host normal : List Char} (h : Unmarked host)
    (hnormal : normalHost? host = some normal) : Unmarked normal := by
  rw [normalHost?] at hnormal
  split at hnormal
  · obtain rfl := Option.some.inj hnormal
    exact .nil
  · split at hnormal
    · split at hnormal
      · exact Option.some.inj hnormal ▸ h
      · cases hnormal
    · split at hnormal
      · simp only at hnormal
        split at hnormal
        · obtain rfl := Option.some.inj hnormal
          exact h.subset fun c hc => List.mem_of_mem_drop ((List.dropLast_sublist _).subset hc)
        · cases hnormal
      · split at hnormal
        · obtain rfl := Option.some.inj hnormal
          apply unmarked_encodeKeeping (by decide) isHostSafe_of_isHexDigit
          · decide
          · decide
        · cases hascii : Domain.toAscii (lower host) with
          | error e => simp [hascii, Except.toOption] at hnormal
          | ok written =>
            rw [hascii] at hnormal
            exact Option.some.inj hnormal ▸ Domain.unmarked_toAscii (unmarked_lower h) hascii

/-! ### The host in a text -/

theorem Authority.unmarked_cutHost (h : Unmarked cs) : Unmarked (Authority.cutHost cs).1 := by
  have hspan : Unmarked (cs.span (· ≠ ':')).1 := by
    rw [List.span_eq_takeWhile_dropWhile]
    exact h.subset fun c hc => (List.takeWhile_sublist _).subset hc
  unfold cutHost
  split
  next host rest hhost =>
    have hunmarked : Unmarked host := by
      split at hhost
      · next inner =>
        split at hhost
        · next inside after hinner =>
          obtain ⟨rfl, -⟩ := Prod.mk.inj hhost
          obtain ⟨rfl, -⟩ := cutLast_eq_some_iff.1 hinner
          have hinside : Unmarked ('[' :: inside) := h.subset fun c hc => by
            rcases List.mem_cons.1 hc with rfl | hc
            · exact List.mem_cons_self
            · exact List.mem_cons_of_mem _ (List.mem_append_left _ hc)
          exact hinside.append (.cons (by decide) .nil)
        · rw [hhost] at hspan
          exact hspan
      · rw [hhost] at hspan
        exact hspan
    split
    · exact hunmarked
    · exact hunmarked

theorem Authority.unmarked_host (h : Unmarked cs) : Unmarked (Authority.ofText cs).host := by
  rw [ofText]
  split
  · next userinfo place hcut =>
    obtain ⟨rfl, -⟩ := cutLast_eq_some_iff.1 hcut
    apply unmarked_cutHost
    exact h.subset fun c hc => List.mem_append_right _ (List.mem_cons_of_mem _ hc)
  · exact unmarked_cutHost h

end LibraryCalls.Web
