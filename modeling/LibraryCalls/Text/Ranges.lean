/-!
# Ranges of characters

A set of characters as the ranges of its code points, in ascending order.

Tables of characters are given in this form throughout, since most scripts occupy whole stretches of
code points.  Membership looks for the first range that does not end before the character and asks
whether it begins at or before it; the ranges that follow need not be looked at, because they begin
later still.  A table whose ranges are not in order would be read wrongly, and so all of them are
written in order.

Membership is computed, so that whether a character is in a set can be decided by evaluation.

* `inRanges`: membership in the set.
-/

namespace LibraryCalls.Text

/-- Whether a character lies in one of the ranges, each given by its first and last code point.  The
ranges are in order, so the first one that ends at or after the character decides. -/
def inRanges (ranges : List (Nat × Nat)) (c : Char) : Bool :=
  match ranges.find? fun r => c.toNat ≤ r.2 with
  | some r => r.1 ≤ c.toNat
  | none => false

end LibraryCalls.Text
