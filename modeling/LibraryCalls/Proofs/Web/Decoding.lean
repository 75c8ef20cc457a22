import LibraryCalls.Proofs.Text.Utf8
import LibraryCalls.Web.Percent

/-!
# The text behind escapes

Percent encoding can be undone: whatever characters stand for themselves, as long as the percent
sign is none of them.

Encoding goes character by character and decoding octet by octet, so the two are compared at the
octets: those behind an encoded text are the octets of the text, whichever characters were safe.
From there the reader of UTF-8 gives the text back, as no flaw can come up.

The percent sign must not be safe, since a percent sign of the text would otherwise begin an escape.
Texts that keep escapes of their own are not covered by this.

* `octets_escape`, `octets_encode`: the octets behind an escape and behind an encoded text;
* `decode_encode`: the text behind an encoded text.
-/

namespace LibraryCalls.Web.Percent

variable {safe : Char → Bool} {c : Char}

theorem isHexDigit_hexDigit {n : Nat} (h : n < 16) : isHexDigit (hexDigit n) = true := by
  revert n
  decide

theorem hexValue_hexDigit {n : Nat} (h : n < 16) : hexValue (hexDigit n) = n := by
  revert n
  decide

theorem octets_escape (b : UInt8) (rest : List Char) :
    octets (escape b ++ rest) = b :: octets rest := by
  have hb : b.toNat < 256 := b.toNat_lt
  have hhigh : b.toNat / 16 < 16 := by omega
  have hlow : b.toNat % 16 < 16 := by omega
  have hvalue : 16 * (b.toNat / 16) + b.toNat % 16 = b.toNat := Nat.div_add_mod _ 16
  simp only [escape, List.cons_append, List.nil_append, octets, isHexDigit_hexDigit hhigh,
    isHexDigit_hexDigit hlow, Bool.and_self, if_true, hexValue_hexDigit hhigh,
    hexValue_hexDigit hlow, hvalue, UInt8.ofNat_toNat]

theorem octets_escapes (bs : Text.Octets) (rest : List Char) :
    octets (bs.flatMap escape ++ rest) = bs ++ octets rest := by
  induction bs with
  | nil => rfl
  | cons b bs ih =>
    rw [List.flatMap_cons, List.append_assoc, octets_escape, ih, List.cons_append]

theorem octets_cons (h : c ≠ '%') (rest : List Char) :
    octets (c :: rest) = String.utf8EncodeChar c ++ octets rest := by
  rw [octets.eq_def]
  split
  · next heq => exact absurd (List.cons.inj heq).1 h
  · next heq =>
    obtain ⟨rfl, rfl⟩ := List.cons.inj heq
    rfl
  · next heq => cases heq

/-- **The octets behind an encoded text** are those of the text. -/
theorem octets_encode (h : safe '%' = false) (cs : List Char) :
    octets (encode safe cs) = cs.flatMap String.utf8EncodeChar := by
  induction cs with
  | nil => rfl
  | cons c cs ih =>
    rw [List.flatMap_cons, ← ih, encode, List.flatMap_cons, encodeChar]
    split
    · next hsafe =>
      have hc : c ≠ '%' := by
        rintro rfl
        rw [h] at hsafe
        exact Bool.noConfusion hsafe
      exact octets_cons hc _
    · exact octets_escapes _ _

/-- **The text behind an encoded text** is the text. -/
theorem decode_encode (h : safe '%' = false) (cs : List Char) : decode (encode safe cs) = cs := by
  rw [decode, octets_encode h, Text.decodeLossy_flatMap, String.toList_ofList]

end LibraryCalls.Web.Percent
