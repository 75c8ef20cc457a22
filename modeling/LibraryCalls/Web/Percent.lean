import LibraryCalls.Text.Utf8

/-!
# Percent encoding

Characters that may not stand in a part of a URL are written as the octets of their UTF-8 form, each
a percent sign and two upper-case hexadecimal digits.

Octets and not characters are escaped, so that a character beyond ASCII takes several escapes.
Which characters are safe depends on the part of the URL and is a parameter; the unreserved ones are
safe in all of them.  An escape that is written by somebody else may have small letters for its
digits, and it is read all the same.

When a text may hold escapes already, a percent sign with two hexadecimal digits behind it is taken
for one and left alone; any other percent sign is escaped.

* `encode`: every character outside a safe set is encoded;
* `encodeForm`: the same for the values of a query, with a plus sign for a space;
* `encodeKeeping`: escapes that are there already are left alone;
* `decode`: the text behind the escapes;
* `isUnreserved`: the characters that stand for themselves everywhere;
* `octets`: what an encoded text stands for.
-/

namespace LibraryCalls.Web.Percent

/-- The characters that stand for themselves everywhere. -/
def isUnreserved (c : Char) : Bool :=
  ('A' ≤ c && c ≤ 'Z') || ('a' ≤ c && c ≤ 'z') || ('0' ≤ c && c ≤ '9')
    || c = '-' || c = '.' || c = '_' || c = '~'

def hexDigit (n : Nat) : Char :=
  if n < 10 then Char.ofNat (48 + n) else Char.ofNat (55 + n)

def escape (b : UInt8) : List Char :=
  ['%', hexDigit (b.toNat / 16), hexDigit (b.toNat % 16)]

/-- A character that stands for itself if it is safe and is escaped otherwise. -/
def encodeChar (safe : Char → Bool) (c : Char) : List Char :=
  if safe c then [c] else (String.utf8EncodeChar c).flatMap escape

/-- A text with every character outside the safe set escaped. -/
def encode (safe : Char → Bool) (cs : List Char) : List Char :=
  cs.flatMap (encodeChar safe)

def encodeForm (cs : List Char) : List Char :=
  cs.flatMap fun c => if c = ' ' then ['+'] else encodeChar isUnreserved c

def isHexDigit (c : Char) : Bool :=
  ('0' ≤ c && c ≤ '9') || ('a' ≤ c && c ≤ 'f') || ('A' ≤ c && c ≤ 'F')

/-- A text with every character outside the safe set escaped, except that a percent sign followed by
two hexadecimal digits is left as it is. -/
def encodeKeeping (safe : Char → Bool) : List Char → List Char
  | '%' :: a :: b :: rest =>
    if isHexDigit a && isHexDigit b then '%' :: a :: b :: encodeKeeping safe rest
    else encodeChar safe '%' ++ encodeKeeping safe (a :: b :: rest)
  | c :: rest => encodeChar safe c ++ encodeKeeping safe rest
  | [] => []

def hexValue (c : Char) : Nat :=
  if c ≤ '9' then c.toNat - 48 else if c ≤ 'F' then c.toNat - 55 else c.toNat - 87

/-- The octets that a text with escapes stands for. -/
def octets : List Char → Text.Octets
  | '%' :: a :: b :: rest =>
    if isHexDigit a && isHexDigit b then
      UInt8.ofNat (16 * hexValue a + hexValue b) :: octets rest
    else String.utf8EncodeChar '%' ++ octets (a :: b :: rest)
  | c :: rest => String.utf8EncodeChar c ++ octets rest
  | [] => []

/-- The text behind the escapes of a text; what is no text in UTF-8 becomes U+FFFD. -/
def decode (cs : List Char) : List Char :=
  (Text.decodeLossy (octets cs)).toList

end LibraryCalls.Web.Percent
