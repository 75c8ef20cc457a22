import LibraryCalls.Text.CodePoint
import LibraryCalls.Text.Utf8

/-!
# JSON texts as octets

A JSON text may come in UTF-8, UTF-16 or UTF-32, with or without a byte order mark.  Its first
character is an ASCII one, so that the zeros among the first octets tell which.  Halves of surrogate
pairs that stand alone are let through in each encoding, also in UTF-8, where no character is
written like that.

The mark decides if there is one.  In UTF-16 two units that form a surrogate pair are one character,
and a unit that is half of a pair without the other stands for itself; in UTF-32 each group of four
octets is a code point, a half among them if it is one.  In UTF-8 a half takes three octets whose
bounds no character uses, so it is found before the octets around it are read.

Octets that are no text in their encoding have no code points at all: nothing is replaced, since
what is read is meant for a parser and not for display.

* `Encoding.detect`: the encoding of a text, and its octets after the mark;
* `decodeOctets?`: the code points of the text;
* `ofRelaxedUtf8?`, `ofUnits`, `ofHalves?`: the three encodings.
-/

namespace LibraryCalls.Json

open Text

/-- How a text is written in octets. -/
inductive Encoding where
  | utf8
  | utf16 (bigEndian : Bool)
  | utf32 (bigEndian : Bool)
  deriving DecidableEq, Repr

/-- The encoding of octets that start with a mark, and the octets after the mark. -/
def Encoding.marked? : Octets → Option (Encoding × Octets)
  | 0x00 :: 0x00 :: 0xFE :: 0xFF :: rest => some (.utf32 true, rest)
  | 0xFF :: 0xFE :: 0x00 :: 0x00 :: rest => some (.utf32 false, rest)
  | 0xFE :: 0xFF :: rest => some (.utf16 true, rest)
  | 0xFF :: 0xFE :: rest => some (.utf16 false, rest)
  | 0xEF :: 0xBB :: 0xBF :: rest => some (.utf8, rest)
  | _ => none

def Encoding.unmarked : Octets → Encoding
  | [a, b] => if a = 0 then .utf16 true else if b = 0 then .utf16 false else .utf8
  | a :: b :: c :: d :: _ =>
    if a = 0 then (if b = 0 then .utf32 true else .utf16 true)
    else if b = 0 then (if c = 0 ∧ d = 0 then .utf32 false else .utf16 false)
    else .utf8
  | _ => .utf8

/-- The encoding of a text, and its octets after the mark. -/
def Encoding.detect (octets : Octets) : Encoding × Octets :=
  (marked? octets).getD (unmarked octets, octets)

/-- The half of a surrogate pair that three octets write in UTF-8. -/
def halfOf? (a b c : UInt8) : Option CodePoint :=
  if a = 0xED ∧ 0xA0 ≤ b ∧ b ≤ 0xBF ∧ 0x80 ≤ c ∧ c ≤ 0xBF then
    some (.ofNat (0xD000 + (b.toNat - 0x80) * 0x40 + (c.toNat - 0x80)))
  else none

/-- The code points of strict UTF-8. -/
def ofUtf8? (octets : Octets) : Option CodePoints :=
  (Text.decode octets).toOption.map fun text => points text.toList

/-- The code points of UTF-8 with halves of surrogate pairs in it.  The octets since the last half
are collected in front, the last one first. -/
def ofRelaxedUtf8? (collected : Octets) : Octets → Option CodePoints
  | a :: b :: c :: rest =>
    match halfOf? a b c with
    | some half => do
      let before ← ofUtf8? collected.reverse
      let after ← ofRelaxedUtf8? [] rest
      pure (before ++ half :: after)
    | none => ofRelaxedUtf8? (a :: collected) (b :: c :: rest)
  | octets => ofUtf8? (collected.reverse ++ octets)

def pairOf (bigEndian : Bool) (a b : UInt8) : Nat :=
  if bigEndian then a.toNat * 256 + b.toNat else b.toNat * 256 + a.toNat

/-- Octets as numbers of two octets, unless one is left over. -/
def pairs? (bigEndian : Bool) : Octets → Option (List Nat)
  | [] => some []
  | [_] => none
  | a :: b :: rest => (pairs? bigEndian rest).map (pairOf bigEndian a b :: ·)

def ofUnits : List Nat → CodePoints
  | high :: low :: rest =>
    if 0xD800 ≤ high ∧ high ≤ 0xDBFF ∧ 0xDC00 ≤ low ∧ low ≤ 0xDFFF then
      .ofNat (0x10000 + (high - 0xD800) * 0x400 + (low - 0xDC00)) :: ofUnits rest
    else .ofNat high :: ofUnits (low :: rest)
  | [n] => [.ofNat n]
  | [] => []

/-- The code points of units of thirty-two bits, each given by its two halves. -/
def ofHalves? (bigEndian : Bool) : List Nat → Option CodePoints
  | [] => some []
  | [_] => none
  | a :: b :: rest =>
    let n := if bigEndian then a * 0x10000 + b else b * 0x10000 + a
    if 0x10FFFF < n then none else (ofHalves? bigEndian rest).map (.ofNat n :: ·)

/-- The text of octets, in whichever encoding they are. -/
def decodeOctets? (octets : Octets) : Option CodePoints :=
  match Encoding.detect octets with
  | (.utf8, rest) => ofRelaxedUtf8? [] rest
  | (.utf16 bigEndian, rest) => (pairs? bigEndian rest).map ofUnits
  | (.utf32 bigEndian, rest) => (pairs? bigEndian rest).bind (ofHalves? bigEndian)

end LibraryCalls.Json
