import LibraryCalls.Text.Utf8

/-!
# Reading the octets of a text

The octets of a text are read back as its characters, with no flaw among them.

A character is written in one to four octets, and for each of the four lengths there is a lemma
about the lead octet, which says what is owed and within which bounds.  An octet that carries six
bits is always within the bounds of what came before if it is the octet of a character; the bounds
are narrower than usual only behind four particular lead octets, and these are the cases in which
overlong forms and surrogates would begin.

Only the lenient reader is treated, since it is the one that bodies of replies and escapes in URLs
go through.

* `readings_lead_two`, `readings_lead_three`, `readings_lead_four`: what the lead octet of a longer
  character starts;
* `readings_pending`, `readings_last`: the octets that carry six bits each;
* `readings_encodeChar`, `decodeLossy_flatMap`: the octets of a character and of a text.
-/

namespace LibraryCalls.Text

variable {n v low high value width owed : Nat}

theorem toNat_ofNat_of_lt (h : n < 256) : (UInt8.ofNat n).toNat = n := by
  rw [UInt8.toNat_ofNat', Nat.mod_eq_of_lt h]

/-! ### Lead octets -/

theorem readings_lead_one (h : n ≤ 0x7F) (bs : Octets) :
    readingsFrom none (UInt8.ofNat n :: bs) = .char (Char.ofNat n) 1 :: readingsFrom none bs := by
  rw [readingsFrom, toNat_ofNat_of_lt (by omega), startOctet, if_pos h]

theorem readings_lead {p : Pending} (hlt : n < 256) (h : startOctet n = .inr p) (bs : Octets) :
    readingsFrom none (UInt8.ofNat n :: bs) = readingsFrom (some p) bs := by
  rw [readingsFrom, toNat_ofNat_of_lt hlt, h]

/-- The lead octet of a character of two. -/
theorem readings_lead_two (hlow : 0xC2 ≤ n) (hhigh : n ≤ 0xDF) (bs : Octets) :
    readingsFrom none (UInt8.ofNat n :: bs)
      = readingsFrom (some ⟨1, 0x80, 0xBF, n - 0xC0, 1⟩) bs := by
  refine readings_lead (by omega) ?_ bs
  rw [startOctet, if_neg (by omega), if_pos ⟨hlow, hhigh⟩]

/-- The lead octet of a character of three.  The first one and the one of the surrogates narrow the
bounds of the octet behind them. -/
theorem readings_lead_three (hlow : 0xE0 ≤ n) (hhigh : n ≤ 0xEF) (bs : Octets) :
    readingsFrom none (UInt8.ofNat n :: bs)
      = readingsFrom (some ⟨2, if n = 0xE0 then 0xA0 else 0x80, if n = 0xED then 0x9F else 0xBF,
          n - 0xE0, 1⟩) bs := by
  refine readings_lead (by omega) ?_ bs
  rw [startOctet, if_neg (by omega), if_neg (by omega)]
  by_cases hfirst : n = 0xE0
  · subst hfirst
    rfl
  · by_cases hsurrogate : n = 0xED
    · subst hsurrogate
      rfl
    · rw [if_neg hfirst, if_neg hsurrogate, if_pos (by omega), if_neg hfirst, if_neg hsurrogate]

/-- The lead octet of a character of four.  The first one and the last one narrow the bounds of the
octet behind them. -/
theorem readings_lead_four (hlow : 0xF0 ≤ n) (hhigh : n ≤ 0xF4) (bs : Octets) :
    readingsFrom none (UInt8.ofNat n :: bs)
      = readingsFrom (some ⟨3, if n = 0xF0 then 0x90 else 0x80, if n = 0xF4 then 0x8F else 0xBF,
          n - 0xF0, 1⟩) bs := by
  refine readings_lead (by omega) ?_ bs
  rw [startOctet, if_neg (by omega), if_neg (by omega), if_neg (by omega), if_neg (by omega),
    if_neg (by omega)]
  by_cases hfirst : n = 0xF0
  · subst hfirst
    rfl
  · by_cases hlast : n = 0xF4
    · subst hlast
      rfl
    · rw [if_neg hfirst, if_pos (by omega), if_neg hfirst, if_neg hlast]

/-! ### The octets behind them -/

theorem takeOctet (hlow : low ≤ n % 64 + 128) (hhigh : n % 64 + 128 ≤ high) :
    Pending.take? ⟨owed, low, high, value, width⟩ (UInt8.ofNat (n % 64 + 128)).toNat
      = if owed ≤ 1 then some (.inl (.char (Char.ofNat (value * 64 + n % 64)) (width + 1)))
        else some (.inr ⟨owed - 1, 0x80, 0xBF, value * 64 + n % 64, width + 1⟩) := by
  rw [toNat_ofNat_of_lt (by omega), Pending.take?, if_pos ⟨hlow, hhigh⟩]
  have hbits : n % 64 + 128 - 0x80 = n % 64 := Nat.add_sub_cancel ..
  simp only [hbits]

/-- An octet within the bounds of a character that owes more than one. -/
theorem readings_pending (hlow : low ≤ n % 64 + 128) (hhigh : n % 64 + 128 ≤ high)
    (bs : Octets) :
    readingsFrom (some ⟨owed + 2, low, high, value, width⟩) (UInt8.ofNat (n % 64 + 128) :: bs)
      = readingsFrom (some ⟨owed + 1, 0x80, 0xBF, value * 64 + n % 64, width + 1⟩) bs := by
  rw [readingsFrom, takeOctet hlow hhigh, if_neg (by omega)]
  rfl

/-- The last octet of a character. -/
theorem readings_last (n : Nat) (bs : Octets) :
    readingsFrom (some ⟨1, 0x80, 0xBF, value, width⟩) (UInt8.ofNat (n % 64 + 128) :: bs)
      = .char (Char.ofNat (value * 64 + n % 64)) (width + 1) :: readingsFrom none bs := by
  rw [readingsFrom, takeOctet (by omega) (by omega), if_pos (Nat.le_refl 1)]

/-! ### Characters -/

/-- **The octets of a character** are read as the character. -/
theorem readings_encodeChar (c : Char) (bs : Octets) :
    ∃ width, readingsFrom none (String.utf8EncodeChar c ++ bs)
      = .char c width :: readingsFrom none bs := by
  have hvalid : c.toNat < 0xD800 ∨ 0xDFFF < c.toNat ∧ c.toNat < 0x110000 := c.valid
  have hchar : ∀ n, n = c.toNat → Char.ofNat n = c := fun n hn => hn ▸ Char.ofNat_toNat c
  have hval : c.val.toNat = c.toNat := rfl
  rw [String.utf8EncodeChar, hval]
  generalize c.toNat = v at hvalid hchar
  by_cases hone : v ≤ 0x7F
  · refine ⟨1, ?_⟩
    rw [if_pos hone]
    exact (readings_lead_one hone bs).trans (by rw [hchar v rfl])
  by_cases htwo : v ≤ 0x7FF
  · refine ⟨2, ?_⟩
    rw [if_neg hone, if_pos htwo]
    have hread := readings_lead_two (n := v / 64 % 32 + 192) (by omega) (by omega)
      (UInt8.ofNat (v % 64 + 128) :: bs)
    rw [readings_last, hchar _ (by omega)] at hread
    exact hread
  by_cases hthree : v ≤ 0xFFFF
  · refine ⟨3, ?_⟩
    rw [if_neg hone, if_neg htwo, if_pos hthree]
    have hread := readings_lead_three (n := v / 4096 % 16 + 224) (by omega) (by omega)
      (UInt8.ofNat (v / 64 % 64 + 128) :: UInt8.ofNat (v % 64 + 128) :: bs)
    rw [readings_pending (by split <;> omega) (by split <;> omega), readings_last,
      hchar _ (by omega)] at hread
    exact hread
  · refine ⟨4, ?_⟩
    rw [if_neg hone, if_neg htwo, if_neg hthree]
    have hread := readings_lead_four (n := v / 262144 % 8 + 240) (by omega) (by omega)
      (UInt8.ofNat (v / 4096 % 64 + 128) :: UInt8.ofNat (v / 64 % 64 + 128)
        :: UInt8.ofNat (v % 64 + 128) :: bs)
    rw [readings_pending (by split <;> omega) (by split <;> omega),
      readings_pending (by omega) (by omega), readings_last, hchar _ (by omega)] at hread
    exact hread

/-! ### Texts -/

/-- **The octets of a text** are read as its characters. -/
theorem decodeLossy_flatMap (cs : List Char) :
    decodeLossy (cs.flatMap String.utf8EncodeChar) = String.ofList cs := by
  rw [decodeLossy, readings]
  refine congrArg String.ofList ?_
  induction cs with
  | nil => rfl
  | cons c cs ih =>
    obtain ⟨width, hread⟩ := readings_encodeChar c (cs.flatMap String.utf8EncodeChar)
    rw [List.flatMap_cons, hread, List.map_cons, ih]

end LibraryCalls.Text
