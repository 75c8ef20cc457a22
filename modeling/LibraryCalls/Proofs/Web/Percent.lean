import LibraryCalls.Proofs.Text.Parts
import LibraryCalls.Web.Url.Normal

/-!
# What percent encoding writes

An escape is a percent sign and two hexadecimal digits, so that encoding brings in no character that
separates the parts of a URL.

The characters that stand for themselves everywhere are a finite set, and what is to be shown of all
of them is shown by going through them.  An encoded text consists of safe characters, of percent
signs and of hexadecimal digits, and all that is said of encoded texts follows from this and from
the way in which encoding goes through a text.

Slashes are safe in a path and not in a segment; both cases are instances of one statement about the
safe set.

* `isUnreserved_imp`: what holds of the unreserved characters, by going through them;
* `of_mem_encode`, `of_mem_encodeForm`: the characters of an encoded text;
* `encodeKeeping_eq_encode`: where percent signs and digits are safe, escapes need no special care;
* `encode_of_safe`: a safe text stays as it is; `eq_of_encode_eq`: the only way to get it;
* `splitOn_encode`: the segments of an encoded text.
-/

namespace LibraryCalls.Web.Percent

variable {safe : Char → Bool} {c d : Char} {cs : List Char}

/-! ### Unreserved characters -/

theorem toNat_lt_of_isUnreserved (h : isUnreserved c = true) : c.toNat < 128 := by
  have hle : ∀ a b : Char, a ≤ b ↔ a.toNat ≤ b.toNat := fun _ _ => UInt32.le_iff_toNat_le
  simp only [isUnreserved, Bool.or_eq_true, Bool.and_eq_true, decide_eq_true_eq, hle,
    Char.reduceToNat] at h
  rcases h with (((((h | h) | h) | rfl) | rfl) | rfl) | rfl
  · omega
  · omega
  · omega
  all_goals decide

/-- What holds of the unreserved characters of ASCII holds of all of them. -/
theorem isUnreserved_imp {p : Char → Bool}
    (h : ∀ n < 128, isUnreserved (Char.ofNat n) = true → p (Char.ofNat n) = true)
    (hc : isUnreserved c = true) : p c = true := by
  have hn := h c.toNat (toNat_lt_of_isUnreserved hc)
  rw [Char.ofNat_toNat] at hn
  exact hn hc

theorem isUnreserved_of_isHexDigit (h : isHexDigit c = true) : isUnreserved c = true := by
  have hle : ∀ a b : Char, a ≤ b ↔ a.toNat ≤ b.toNat := fun _ _ => UInt32.le_iff_toNat_le
  simp only [isHexDigit, isUnreserved, Bool.or_eq_true, Bool.and_eq_true, decide_eq_true_eq, hle,
    Char.reduceToNat] at h ⊢
  omega

/-! ### The characters of escapes -/

theorem isUnreserved_hexDigit {n : Nat} (h : n < 16) : isUnreserved (hexDigit n) = true := by
  revert n
  decide

theorem of_mem_escape {b : UInt8} (h : d ∈ escape b) : d = '%' ∨ isUnreserved d = true := by
  have hb : b.toNat < 256 := b.toNat_lt
  rcases List.mem_cons.1 h with rfl | h
  · exact .inl rfl
  · rcases List.mem_cons.1 h with rfl | h
    · exact .inr (isUnreserved_hexDigit (by omega))
    · rw [List.mem_singleton.1 h]
      exact .inr (isUnreserved_hexDigit (by omega))

/-- **An encoded character** is itself, if it is safe, or else consists of percent signs and
unreserved characters. -/
theorem of_mem_encodeChar (h : d ∈ encodeChar safe c) :
    (d = c ∧ safe c = true) ∨ d = '%' ∨ isUnreserved d = true := by
  rw [encodeChar] at h
  split at h
  · next hsafe => exact .inl ⟨List.mem_singleton.1 h, hsafe⟩
  · obtain ⟨b, -, hb⟩ := List.mem_flatMap.1 h
    exact .inr (of_mem_escape hb)

/-- The characters of an encoded text are safe ones, percent signs and unreserved ones. -/
theorem of_mem_encode (h : d ∈ encode safe cs) :
    safe d = true ∨ d = '%' ∨ isUnreserved d = true := by
  obtain ⟨c, -, hc⟩ := List.mem_flatMap.1 h
  rcases of_mem_encodeChar hc with ⟨rfl, hsafe⟩ | h
  · exact .inl hsafe
  · exact .inr h

theorem of_mem_encodeForm (h : d ∈ encodeForm cs) :
    d = '+' ∨ d = '%' ∨ isUnreserved d = true := by
  obtain ⟨c, -, hc⟩ := List.mem_flatMap.1 h
  split at hc
  · exact .inl (List.mem_singleton.1 hc)
  · rcases of_mem_encodeChar hc with ⟨rfl, hsafe⟩ | h
    · exact .inr (.inr hsafe)
    · exact .inr h

/-! ### Texts that stay as they are -/

theorem encodeChar_of_safe (h : safe c = true) : encodeChar safe c = [c] :=
  if_pos h

theorem encode_cons (c : Char) (cs : List Char) :
    encode safe (c :: cs) = encodeChar safe c ++ encode safe cs :=
  List.flatMap_cons

theorem encode_append (as bs : List Char) :
    encode safe (as ++ bs) = encode safe as ++ encode safe bs :=
  List.flatMap_append

/-- **A safe text stays as it is.** -/
theorem encode_of_safe (h : ∀ c ∈ cs, safe c = true) : encode safe cs = cs := by
  induction cs with
  | nil => rfl
  | cons c cs ih =>
    rw [encode_cons, encodeChar_of_safe (h c List.mem_cons_self),
      ih fun d hd => h d (List.mem_cons_of_mem c hd)]
    rfl

theorem eq_of_encode_eq {bs : List Char} (h : encode safe cs = bs) (hbs : '%' ∉ bs) : cs = bs := by
  have hsafe : ∀ c ∈ cs, safe c = true := by
    intro c hc
    refine Decidable.byContradiction fun hunsafe => ?_
    have hmem : '%' ∈ encodeChar safe c := by
      rw [encodeChar, if_neg hunsafe]
      obtain ⟨b, hb⟩ := List.exists_mem_of_ne_nil _ (String.utf8EncodeChar_ne_nil (c := c))
      exact List.mem_flatMap.2 ⟨b, hb, List.mem_cons_self⟩
    exact hbs (h ▸ List.mem_flatMap.2 ⟨c, hc, hmem⟩)
  rw [← h, encode_of_safe hsafe]

theorem encode_eq_iff_of_dots {dots : List Char} (hdot : safe '.' = true)
    (hdots : ∀ c ∈ dots, c = '.') : encode safe cs = dots ↔ cs = dots := by
  have hsafe : encode safe dots = dots := encode_of_safe fun c hc => hdots c hc ▸ hdot
  have hpercent : '%' ∉ dots := fun h => absurd (hdots _ h) (by decide)
  exact ⟨fun h => eq_of_encode_eq h hpercent, fun h => h ▸ hsafe⟩

theorem not_mem_encode (hsafe : safe d = false) (hpercent : d ≠ '%')
    (hunreserved : isUnreserved d = false) (cs : List Char) : d ∉ encode safe cs := by
  intro h
  rcases of_mem_encode h with h | h | h
  · exact absurd (h.symm.trans hsafe) (by decide)
  · exact hpercent h
  · exact absurd (h.symm.trans hunreserved) (by decide)

theorem slash_not_mem_encode (h : '/' ∉ cs) : '/' ∉ encode safe cs := by
  intro hmem
  obtain ⟨c, hc, hd⟩ := List.mem_flatMap.1 hmem
  rcases of_mem_encodeChar hd with ⟨rfl, -⟩ | h' | h'
  · exact h hc
  · exact absurd h' (by decide)
  · exact absurd h' (by decide)

/-- Where the slash is safe, the segments of an encoded text are those of the text, encoded. -/
theorem splitOn_encode (hslash : safe '/' = true) (cs : List Char) :
    Text.splitOn '/' (encode safe cs) = (Text.splitOn '/' cs).map (encode safe) := by
  have hjoin : ∀ parts : List (List Char),
      encode safe (Text.joinWith '/' parts) = Text.joinWith '/' (parts.map (encode safe)) := by
    intro parts
    fun_induction Text.joinWith '/' parts with
    | case1 => rfl
    | case2 part => rfl
    | case3 part next rest ih =>
      rw [encode_append, encode_cons, encodeChar_of_safe hslash, ih]
      rfl
  have hparts : ∀ part ∈ (Text.splitOn '/' cs).map (encode safe), '/' ∉ part := by
    intro part hpart
    obtain ⟨segment, hsegment, rfl⟩ := List.mem_map.1 hpart
    exact slash_not_mem_encode (Text.not_mem_of_mem_splitOn hsegment)
  calc Text.splitOn '/' (encode safe cs)
      = Text.splitOn '/' (Text.joinWith '/' ((Text.splitOn '/' cs).map (encode safe))) := by
        rw [← hjoin, Text.joinWith_splitOn]
    _ = (Text.splitOn '/' cs).map (encode safe) :=
        Text.splitOn_joinWith (by simpa using Text.splitOn_ne_nil '/' cs) hparts

/-- **Where percent signs and hexadecimal digits are safe**, an escape that is left alone is an
escape whose characters are. -/
theorem encodeKeeping_eq_encode (hpercent : safe '%' = true)
    (hdigit : ∀ c, isHexDigit c = true → safe c = true) (cs : List Char) :
    encodeKeeping safe cs = encode safe cs := by
  fun_induction encodeKeeping safe cs with
  | case1 a b rest hdigits ih =>
    obtain ⟨ha, hb⟩ := Bool.and_eq_true_iff.1 hdigits
    rw [ih, encode_cons, encode_cons, encode_cons, encodeChar_of_safe hpercent,
      encodeChar_of_safe (hdigit a ha), encodeChar_of_safe (hdigit b hb)]
    rfl
  | case2 a b rest hdigits ih =>
    rw [ih]
    exact (encode_cons '%' (a :: b :: rest)).symm
  | case3 c rest _ ih => rw [ih, encode_cons]
  | case4 => rfl

end LibraryCalls.Web.Percent
